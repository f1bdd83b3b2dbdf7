import Mathlib.Data.Nat.Prime.Basic
import SqlWorkbench.Number.Notation
import SqlWorkbench.Proofs.Number.WholeDoubles

/-!
# The digits of whole doubles

The digits of a double are searched on grids of powers of ten, the coarsest first. For a whole
double the search ends on a grid of whole numbers, and what is written is a whole number that is
rounded to the double.

Main statement: of all whole numbers that are rounded to the double, it is the one that ends in
the most zeros and, among those, lies nearest.
-/

namespace SqlWorkbench

namespace RoundingInterval

variable {r : RoundingInterval} {d g k m n o p : Nat}

lemma holds_one_iff (hden : r.den = 1) : r.holds n 1 = true ↔
    r.low ≤ n ∧ n ≤ r.high ∧ (r.closed = false → r.low < n ∧ n < r.high) := by
  rw [holds, hden, Nat.mul_one, Nat.mul_one, Nat.mul_one]
  cases r.closed with
  | false =>
    simp only [Bool.false_eq_true, if_false, Bool.and_eq_true, decide_eq_true_eq, forall_const]
    omega
  | true => simp

lemma value_lt_mul (r : RoundingInterval) (hp : 0 < p) : r.value < (r.value / p + 1) * p :=
  (Nat.div_lt_iff_lt_mul hp).mp (Nat.lt_succ_self _)

/-- The interval of a whole double: narrow against its value, but wide enough for a number of
seventeen digits, and without a tie between two of them. -/
structure IsWhole (r : RoundingInterval) : Prop where
  den_eq : r.den = 1
  low_lt : r.low < r.value
  lt_high : r.value < r.high
  large : 10 ^ 16 ≤ r.value
  narrow : 10 * (r.high - r.low) ≤ r.value
  wide : r.value < 10 ^ 16 * (r.high - r.low)
  no_tie : ∀ k g, r.holds (k * 10 ^ g) 1 = true → r.holds ((k + 1) * 10 ^ g) 1 = true →
    2 * r.value ≠ k * 10 ^ g + (k + 1) * 10 ^ g

/-- Of the multiples of a step in the interval, this one alone lies nearest to the value. -/
def IsNearestHit (r : RoundingInterval) (p d : Nat) : Prop :=
  r.holds (d * p) 1 = true ∧ ∀ k, r.holds (k * p) 1 = true → k ≠ d →
    ((d * p : Int) - r.value).natAbs < ((k * p : Int) - r.value).natAbs

namespace IsWhole

variable (hr : r.IsWhole)

include hr

lemma holds_of_lt (hlow : r.low < n) (hhigh : n < r.high) : r.holds n 1 = true :=
  (holds_one_iff hr.den_eq).mpr ⟨hlow.le, hhigh.le, fun _ => ⟨hlow, hhigh⟩⟩

lemma holds_of_le_of_le (hk : r.holds k 1 = true) (hm : r.holds m 1 = true) (hkn : k ≤ n)
    (hnm : n ≤ m) : r.holds n 1 = true := by
  rw [holds_one_iff hr.den_eq] at hk hm ⊢
  exact ⟨hk.1.trans hkn, hnm.trans hm.2.1, fun hopen =>
    ⟨(hk.2.2 hopen).1.trans_le hkn, hnm.trans_lt (hm.2.2 hopen).2⟩⟩

lemma holds_value : r.holds r.value 1 = true :=
  hr.holds_of_lt hr.low_lt hr.lt_high

lemma pos_of_holds (hn : r.holds n 1 = true) : 0 < n := by
  have hlow := ((holds_one_iff hr.den_eq).mp hn).1
  have := hr.narrow
  have := hr.low_lt
  have := hr.lt_high
  omega

/-! ### One grid -/

lemma onGrid?_natCast (g : Nat) : r.onGrid? g =
    let below := r.value / 10 ^ g
    let above := below + 1
    if r.holds (below * 10 ^ g) 1 && r.holds (above * 10 ^ g) 1 then
      some (if 2 * r.value < below * 10 ^ g + above * 10 ^ g ||
        (2 * r.value == below * 10 ^ g + above * 10 ^ g && below % 2 == 0) then below else above)
    else if r.holds (below * 10 ^ g) 1 then some below
    else if r.holds (above * 10 ^ g) 1 then some above
    else none := by
  have hg : ¬ (g : Int) < 0 := by omega
  simp only [onGrid?, hr.den_eq, hg, if_false, Int.toNat_natCast, Nat.mul_one, Nat.one_mul,
    Nat.add_mul]

lemma holds_below (hk : r.holds (k * p) 1 = true) (h : k ≤ r.value / p) :
    r.holds (r.value / p * p) 1 = true :=
  hr.holds_of_le_of_le hk hr.holds_value (Nat.mul_le_mul_right p h) (Nat.div_mul_le_self _ _)

lemma holds_above (hp : 0 < p) (hk : r.holds (k * p) 1 = true) (h : r.value / p + 1 ≤ k) :
    r.holds ((r.value / p + 1) * p) 1 = true :=
  hr.holds_of_le_of_le hr.holds_value hk
    (r.value_lt_mul hp).le (Nat.mul_le_mul_right p h)

/-- A grid without a hit has no number in the interval. -/
lemma not_holds_of_onGrid? (h : r.onGrid? g = none) (k : Nat) :
    r.holds (k * 10 ^ g) 1 = false := by
  rw [hr.onGrid?_natCast] at h
  rw [← Bool.not_eq_true]
  intro hk
  obtain hle | hgt := le_or_gt k (r.value / 10 ^ g)
  · have hbelow := hr.holds_below hk hle
    simp only [hbelow, Bool.true_and, if_true] at h
    split at h <;> simp at h
  · have habove := hr.holds_above (Nat.pow_pos (by omega)) hk hgt
    simp only [habove, Bool.and_true, if_true] at h
    split at h <;> simp at h

/-- The hit is the neighbour below or above the value, and if both are hits, the nearer one. -/
lemma onGrid?_eq_some (h : r.onGrid? g = some d) : r.holds (d * 10 ^ g) 1 = true ∧
    ((d = r.value / 10 ^ g ∧ (r.holds ((d + 1) * 10 ^ g) 1 = true →
      2 * r.value < d * 10 ^ g + (d + 1) * 10 ^ g)) ∨
    (d = r.value / 10 ^ g + 1 ∧ (r.holds (r.value / 10 ^ g * 10 ^ g) 1 = true →
      r.value / 10 ^ g * 10 ^ g + d * 10 ^ g < 2 * r.value))) := by
  have htie := hr.no_tie (r.value / 10 ^ g) g
  rw [hr.onGrid?_natCast] at h
  generalize r.value / 10 ^ g = b at *
  dsimp only at h
  cases hlow : r.holds (b * 10 ^ g) 1 with
  | false =>
    cases hhigh : r.holds ((b + 1) * 10 ^ g) 1 with
    | false => simp [hlow, hhigh] at h
    | true =>
      obtain rfl : b + 1 = d := by simpa [hlow, hhigh] using h
      exact ⟨hhigh, .inr ⟨rfl, by simp⟩⟩
  | true =>
    cases hhigh : r.holds ((b + 1) * 10 ^ g) 1 with
    | false =>
      obtain rfl : b = d := by simpa [hlow, hhigh] using h
      exact ⟨hlow, .inl ⟨rfl, by simp [hhigh]⟩⟩
    | true =>
      specialize htie hlow hhigh
      simp only [hlow, hhigh, Bool.and_self, if_true, Option.some.injEq,
        beq_eq_false_iff_ne.mpr htie, Bool.false_and, Bool.or_false, decide_eq_true_eq] at h
      split at h
      · next hlt =>
        subst h
        exact ⟨hlow, .inl ⟨rfl, fun _ => hlt⟩⟩
      · next hge =>
        subst h
        exact ⟨hhigh, .inr ⟨rfl, fun _ => by omega⟩⟩

lemma isNearestHit_of_onGrid? (h : r.onGrid? g = some d) : r.IsNearestHit (10 ^ g) d := by
  have hp : 0 < 10 ^ g := Nat.pow_pos (by omega)
  have hle : r.value / 10 ^ g * 10 ^ g ≤ r.value := Nat.div_mul_le_self _ _
  have hlt := r.value_lt_mul hp
  obtain ⟨hhit, hside⟩ := hr.onGrid?_eq_some h
  refine ⟨hhit, fun k hk hne => ?_⟩
  have hbelow := hr.holds_below hk
  have habove := hr.holds_above hp hk
  -- Another hit is no nearer than the neighbour on its side of the value. If that is not the hit
  -- that was taken, it is a hit as well, and the farther one of the two.
  obtain ⟨rfl, hother⟩ | ⟨rfl, hother⟩ := hside
  · obtain hkd | hkd := Nat.lt_or_gt_of_ne hne
    · have hfar : (k + 1) * 10 ^ g ≤ r.value / 10 ^ g * 10 ^ g := Nat.mul_le_mul_right _ hkd
      rw [Nat.add_one_mul] at hfar
      omega
    · have hfar : (r.value / 10 ^ g + 1) * 10 ^ g ≤ k * 10 ^ g := Nat.mul_le_mul_right _ hkd
      have hmiddle := hother (habove hkd)
      omega
  · obtain hkd | hkd := Nat.lt_or_gt_of_ne hne
    · have hfar : k * 10 ^ g ≤ r.value / 10 ^ g * 10 ^ g :=
        Nat.mul_le_mul_right _ (Nat.lt_succ_iff.mp hkd)
      have hmiddle := hother (hbelow (Nat.lt_succ_iff.mp hkd))
      omega
    · have hfar : (r.value / 10 ^ g + 1 + 1) * 10 ^ g ≤ k * 10 ^ g :=
        Nat.mul_le_mul_right _ hkd
      rw [Nat.add_one_mul (r.value / 10 ^ g + 1)] at hfar
      omega

/-- A grid finer than the interval has a hit. -/
lemma onGrid?_ne_none (h : 10 ^ g < r.high - r.low) : r.onGrid? g ≠ none := by
  intro hnone
  have hp : 0 < 10 ^ g := Nat.pow_pos (by omega)
  have hle : r.value / 10 ^ g * 10 ^ g ≤ r.value := Nat.div_mul_le_self _ _
  have hlt := r.value_lt_mul hp
  have hbelow : r.value / 10 ^ g * 10 ^ g ≤ r.low := by
    by_contra hlow
    have hhit := hr.holds_of_lt (not_le.mp hlow) (hle.trans_lt hr.lt_high)
    rw [hr.not_holds_of_onGrid? hnone] at hhit
    exact Bool.false_ne_true hhit
  have habove : r.high ≤ (r.value / 10 ^ g + 1) * 10 ^ g := by
    by_contra hhigh
    have hhit := hr.holds_of_lt (hr.low_lt.trans hlt) (not_le.mp hhigh)
    rw [hr.not_holds_of_onGrid? hnone] at hhit
    exact Bool.false_ne_true hhit
  rw [Nat.add_one_mul] at habove
  omega

/-- A grid coarser than the interval has one hit at most. -/
lemma eq_of_holds (h : r.high - r.low < p) (hk : r.holds (k * p) 1 = true)
    (hm : r.holds (m * p) 1 = true) : k = m := by
  have hkb := (holds_one_iff hr.den_eq).mp hk
  have hmb := (holds_one_iff hr.den_eq).mp hm
  obtain hlt | heq | hlt := Nat.lt_trichotomy k m
  · have hstep : (k + 1) * p ≤ m * p := Nat.mul_le_mul_right p hlt
    rw [Nat.add_one_mul] at hstep
    omega
  · exact heq
  · have hstep : (m + 1) * p ≤ k * p := Nat.mul_le_mul_right p hlt
    rw [Nat.add_one_mul] at hstep
    omega

end IsWhole

/-! ### All grids -/

/-- The search ends on the first grid that has a hit. -/
lemma search_eq (order : Int) (count fuel : Nat) {j : Nat} (hj : j < fuel)
    (hhit : r.onGrid? (order - count + 1 - j) ≠ none) :
    ∃ i ≤ j, ∃ d, r.search order count fuel = ⟨d, order - count + 1 - i⟩ ∧
      r.onGrid? (order - count + 1 - i) = some d ∧
      ∀ l < i, r.onGrid? (order - count + 1 - l) = none := by
  induction fuel generalizing count j with
  | zero => omega
  | succ fuel ih =>
    rw [search]
    cases hgrid : r.onGrid? (order - count + 1) with
    | some d => exact ⟨0, Nat.zero_le j, d, by simp, by simpa using hgrid, by simp⟩
    | none =>
      have hshift : ∀ l : Nat,
          order - (count + 1 : Nat) + 1 - l = order - count + 1 - (l + 1 : Nat) := by omega
      obtain _ | j := j
      · simp [hgrid] at hhit
      obtain ⟨i, hij, d, hsearch, hd, hnone⟩ :=
        ih (count + 1) (j := j) (by omega) (by rwa [hshift])
      rw [hshift] at hsearch hd
      refine ⟨i + 1, by omega, d, hsearch, hd, fun l hl => ?_⟩
      obtain _ | l := l
      · simpa using hgrid
      · rw [← hshift]
        exact hnone l (by omega)

lemma decimalOrder_one (hn : 0 < n) :
    ∃ o : Nat, decimalOrder n 1 = o ∧ 10 ^ o ≤ n ∧ n < 10 ^ (o + 1) := by
  have hpos : 0 < (Nat.toDigits 10 n).length := List.length_pos_of_ne_nil Nat.toDigits_ne_nil
  obtain ⟨o, ho⟩ : ∃ o, (Nat.toDigits 10 n).length = o + 1 := ⟨_, (Nat.sub_add_cancel hpos).symm⟩
  refine ⟨o, ?_, ?_, ?_⟩
  · rw [decimalOrder, if_pos (Nat.one_le_iff_ne_zero.mpr hn.ne'), Nat.div_one, decimalLength,
      if_neg hn.ne', ho]
    omega
  · obtain rfl | hpos := Nat.eq_zero_or_pos o
    · exact hn
    · by_contra hlt
      have := (Nat.length_toDigits_le_iff (b := 10) (by omega) hpos).mpr (not_le.mp hlt)
      omega
  · exact (Nat.length_toDigits_le_iff (by omega) (by omega)).mp ho.le

/-- What is found ends in as many zeros as any number in the interval. -/
lemma IsWhole.search_value (hr : r.IsWhole) :
    ∃ d g : Nat, r.search (decimalOrder r.value 1) 1 18 = ⟨d, g⟩ ∧ r.IsNearestHit (10 ^ g) d ∧
      ∀ k f, r.holds k 1 = true → 10 ^ f ∣ k → 10 ^ f ∣ d * 10 ^ g := by
  have hlarge := hr.large
  have hnarrow := hr.narrow
  have hwide := hr.wide
  obtain ⟨o, horder, hlow, hhigh⟩ := decimalOrder_one (n := r.value) (by omega)
  obtain ⟨b, rfl⟩ : ∃ b, o = b + 16 := by
    have hlt : 16 < o + 1 := (Nat.pow_lt_pow_iff_right (by omega)).mp (hlarge.trans_lt hhigh)
    exact ⟨o - 16, by omega⟩
  have hgrid : ∀ l ≤ b + 16, ((b + 16 : Nat) : Int) - (1 : Nat) + 1 - l = (b + 16 - l : Nat) := by
    omega
  have hfine : 10 ^ b < r.high - r.low := by
    rw [Nat.pow_add] at hlow
    omega
  obtain ⟨i, hi, d, hsearch, hd, hnone⟩ :=
    search_eq (r := r) (b + 16 : Nat) 1 18 (j := 16) (by omega)
      (by rw [hgrid 16 (by omega)]; exact hr.onGrid?_ne_none hfine)
  rw [hgrid i (by omega)] at hsearch hd
  have hnearest := hr.isNearestHit_of_onGrid? hd
  refine ⟨d, b + 16 - i, by rw [horder, hsearch], hnearest, fun k f hk hf => ?_⟩
  -- A number with more zeros would be a hit on a grid that was tried before, or, with more zeros
  -- than the value has digits behind its first one, the only hit on the coarsest grid.
  have hcoarser : ∀ l < i, ∀ c, k ≠ c * 10 ^ (b + 16 - l) := by
    rintro l hl c rfl
    have hmiss := hnone l hl
    rw [hgrid l (by omega)] at hmiss
    rw [hr.not_holds_of_onGrid? hmiss] at hk
    exact Bool.false_ne_true hk
  obtain hle | hgt := le_or_gt f (b + 16 - i)
  · exact (Nat.pow_dvd_pow 10 hle).trans (Nat.dvd_mul_left _ d)
  obtain hle | hgt := le_or_gt f (b + 16)
  · obtain ⟨c, rfl⟩ := hf
    have hl : b + 16 - (b + 16 - f) = f := by omega
    exact absurd (by rw [hl, Nat.mul_comm]) (hcoarser (b + 16 - f) (by omega) c)
  · obtain ⟨c, rfl⟩ := (Nat.pow_dvd_pow 10 hgt.le).trans hf
    obtain rfl | hpos := Nat.eq_zero_or_pos i
    · have hone : r.high - r.low < 10 ^ (b + 16) := by
        rw [Nat.pow_succ] at hhigh
        omega
      rw [Nat.mul_comm] at hk hf
      rw [Nat.sub_zero] at hnearest ⊢
      rwa [hr.eq_of_holds hone hnearest.1 hk]
    · exact absurd (Nat.mul_comm _ _) (hcoarser 0 hpos c)

end RoundingInterval

namespace Double

open RoundingInterval

variable {x : Double} {m e n k : Nat}

/-- Of the whole numbers that are rounded to the double, this is the one that ends in the most zeros
and, among those, lies nearest. -/
structure IsShortest (x : Double) (n : Nat) : Prop where
  rounds : ofInt n = x
  dvd : ∀ k g : Nat, ofInt k = x → 10 ^ g ∣ k → 10 ^ g ∣ n
  nearest : ∀ k : Nat, ofInt k = x → (∀ g, 10 ^ g ∣ n → 10 ^ g ∣ k) → k ≠ n →
    |(n : ℚ) - x.value| < |(k : ℚ) - x.value|

/-- A tie between two multiples of a power of ten needs a power of two that is too large for them
both to lie in the interval. -/
lemma two_mul_ne_add (h : 10 ^ n ≤ 4 * 2 ^ e) :
    2 * (4 * (m * 2 ^ e)) ≠ k * 10 ^ n + (k + 1) * 10 ^ n := by
  intro htie
  have hodd : 2 ^ (e + 3) ∣ (2 * k + 1) * 5 ^ n * 2 ^ n := by
    refine ⟨m, ?_⟩
    rw [Nat.mul_assoc, ← Nat.mul_pow]
    calc (2 * k + 1) * 10 ^ n = k * 10 ^ n + (k + 1) * 10 ^ n := by ring
      _ = 2 * (4 * (m * 2 ^ e)) := htie.symm
      _ = 2 ^ (e + 3) * m := by ring
  have hcoprime : Nat.Coprime (2 ^ (e + 3)) ((2 * k + 1) * 5 ^ n) := by
    refine Nat.Coprime.pow_left _ (Nat.coprime_two_left.mpr ?_)
    exact (odd_two_mul_add_one k).mul (Odd.pow (by decide))
  have hle : e + 3 ≤ n := (Nat.pow_dvd_pow_iff_le_right (by omega)).mp
    (hcoprime.dvd_of_dvd_mul_left hodd)
  have htwo : 2 ^ (e + 3) ≤ 10 ^ n :=
    (Nat.pow_le_pow_right (by omega) hle).trans (Nat.pow_le_pow_left (by omega) n)
  rw [Nat.pow_add] at htwo
  have := Nat.two_pow_pos e
  omega

namespace IsWhole

variable (hx : x.IsWhole m e)

include hx

lemma isWhole_interval : (ofDouble x).IsWhole := by
  have hm := hx.le
  have hle : 2 ^ 52 * 2 ^ e ≤ m * 2 ^ e := Nat.mul_le_mul_right _ hx.le
  have hlt : (m + 1) * 2 ^ e ≤ 2 ^ 53 * 2 ^ e := Nat.mul_le_mul_right _ hx.lt
  have hpos := Nat.two_pow_pos e
  have hden : (ofDouble x).den = 1 := by rw [hx.interval]
  have hlow : (ofDouble x).low = 4 * (m * 2 ^ e) - (if m = 2 ^ 52 then 1 else 2) * 2 ^ e := by
    rw [hx.interval, Nat.sub_mul, Nat.mul_assoc]
  have hvalue : (ofDouble x).value = 4 * (m * 2 ^ e) := by
    rw [hx.interval, Nat.mul_assoc]
  have hhigh : (ofDouble x).high = 4 * (m * 2 ^ e) + 2 * 2 ^ e := by
    rw [hx.interval, Nat.add_mul, Nat.mul_assoc]
  rw [Nat.add_one_mul] at hlt
  refine ⟨hden, ?_, by omega, by omega, ?_, ?_, fun k n hk hnext => ?_⟩
  · rw [hlow, hvalue]
    split <;> omega
  · rw [hlow, hvalue, hhigh]
    split <;> omega
  · rw [hlow, hvalue, hhigh]
    split
    · next hfirst =>
      subst hfirst
      omega
    · omega
  · rw [holds_one_iff hden] at hk hnext
    rw [hvalue]
    refine two_mul_ne_add ?_
    have hwidth : (ofDouble x).high ≤ (ofDouble x).low + 4 * 2 ^ e := by
      rw [hlow, hhigh]
      split <;> omega
    rw [Nat.add_one_mul] at hnext
    omega

lemma exists_search : ∃ d g : Nat,
    (ofDouble x).search (decimalOrder (ofDouble x).value (ofDouble x).den) 1 18 = ⟨d, g⟩ ∧
      x.IsShortest (d * 10 ^ g) := by
  have hr := hx.isWhole_interval
  obtain ⟨d, g, hsearch, hnearest, hzeros⟩ := hr.search_value
  refine ⟨d, g, by rw [hr.den_eq, hsearch], (hx.holds_iff _).mp hnearest.1,
    fun k f hk hf => hzeros k f ((hx.holds_iff k).mpr hk) hf, fun k hk hdvd hne => ?_⟩
  obtain ⟨c, hc⟩ := hdvd g (Nat.dvd_mul_left _ d)
  obtain rfl : k = c * 10 ^ g := hc.trans (Nat.mul_comm _ _)
  have hvalue : (ofDouble x).value = m * 2 ^ (e + 2) := by
    rw [hx.interval, Nat.pow_add]
    ring
  have hlt := hnearest.2 c ((hx.holds_iff _).mpr hk) (by rintro rfl; exact hne rfl)
  rw [hvalue] at hlt
  rw [hx.value]
  have habs : |((d * 10 ^ g : Nat) : Int) - (m * 2 ^ (e + 2) : Nat)| <
      |((c * 10 ^ g : Nat) : Int) - (m * 2 ^ (e + 2) : Nat)| := by
    rw [Int.abs_eq_natAbs, Int.abs_eq_natAbs]
    exact_mod_cast hlt
  exact_mod_cast habs

end IsWhole

lemma IsShortest.unique (hn : x.IsShortest n) (hk : x.IsShortest k) : n = k := by
  by_contra hne
  have hnk := hn.nearest k hk.rounds (fun g hg => hk.dvd n g hn.rounds hg) (Ne.symm hne)
  have hkn := hk.nearest n hn.rounds (fun g hg => hn.dvd k g hk.rounds hg) hne
  exact lt_asymm hnk hkn

end Double

/-! ### The text -/

lemma toDigits_eq_stripZeros (n : Nat) :
    Nat.toDigits 10 n = (stripZeros n).1 ++ List.replicate (stripZeros n).2 '0' := by
  have hzeros := List.eq_replicate_of_mem (l := (Nat.toDigits 10 n).reverse.takeWhile (· == '0'))
    (a := '0') fun c hc => by
      simpa using List.all_eq_true.mp List.all_takeWhile c hc
  calc Nat.toDigits 10 n
      = ((Nat.toDigits 10 n).reverse.takeWhile (· == '0') ++
          (Nat.toDigits 10 n).reverse.dropWhile (· == '0')).reverse := by
        rw [List.takeWhile_append_dropWhile, List.reverse_reverse]
    _ = (stripZeros n).1 ++ ((Nat.toDigits 10 n).reverse.takeWhile (· == '0')).reverse := by
        rw [List.reverse_append]
        rfl
    _ = (stripZeros n).1 ++ List.replicate (stripZeros n).2 '0' := by
        rw [hzeros, List.reverse_replicate]
        rfl

lemma toDigits_mul_pow {d : Nat} (hd : 0 < d) (g : Nat) :
    Nat.toDigits 10 (d * 10 ^ g) = Nat.toDigits 10 d ++ List.replicate g '0' := by
  induction g with
  | zero => simp
  | succ g ih =>
    have hpos : 0 < d * 10 ^ g := Nat.mul_pos hd (Nat.pow_pos (by omega))
    have hten : d * 10 ^ (g + 1) = 10 * (d * 10 ^ g) + 0 := by
      rw [Nat.pow_succ, ← Nat.mul_assoc]
      omega
    rw [hten, ← Nat.toDigits_append_toDigits (by omega) hpos (by omega), ih, List.append_assoc,
      List.replicate_succ']
    rfl

/-- A number whose point stands behind all its digits is filled up with zeros. -/
lemma NumberLayout.plain_literal {digits : List Char} {k : Nat} (h : 0 < digits.length + k) :
    NumberLayout.literal.plain digits (digits.length + k : Nat) =
      digits ++ List.replicate k '0' := by
  have hpoint : ¬ ((digits.length + k : Nat) : Int) ≤ 0 := by omega
  simp only [plain, hpoint, if_false, Int.toNat_natCast, Nat.le_add_right, if_true, literal,
    Bool.false_eq_true, List.append_nil, zeros, Nat.add_sub_cancel_left]

/-- A whole double is written as the shortest whole number that is rounded to it. -/
theorem Double.IsWhole.exists_plainText {x : Double} {m e : Nat} (hx : x.IsWhole m e) :
    ∃ n, x.IsShortest n ∧ x.plainText = toString n := by
  obtain ⟨d, g, hsearch, hshortest⟩ := hx.exists_search
  refine ⟨d * 10 ^ g, hshortest, ?_⟩
  have hpos : 0 < d * 10 ^ g :=
    hx.isWhole_interval.pos_of_holds ((hx.holds_iff _).mpr hshortest.rounds)
  have hdigits := toDigits_eq_stripZeros d
  have hlength : 0 < (stripZeros d).1.length + ((stripZeros d).2 + g) := by
    have hne := List.length_pos_of_ne_nil (Nat.toDigits_ne_nil (b := 10) (n := d))
    rw [hdigits, List.length_append, List.length_replicate] at hne
    omega
  have hpoint : ((stripZeros d).1.length : Int) + (stripZeros d).2 + g =
      ((stripZeros d).1.length + ((stripZeros d).2 + g) : Nat) := by omega
  have hplain : ∀ point, NumberLayout.literal.isPlain point = true := fun _ => rfl
  rw [plainText, isNaN_eq_false hx.isFinite, hx.isFinite, NumberLayout.finite, hx.isZero,
    hx.isNegative, shortest]
  simp only [hsearch, hplain, if_true, if_false, Bool.not_true, Bool.false_eq_true]
  rw [hpoint, NumberLayout.plain_literal hlength, Nat.toString_eq_repr,
    Nat.repr_eq_ofList_toDigits, toDigits_mul_pow (Nat.pos_of_mul_pos_right hpos), hdigits,
    List.append_assoc, List.replicate_append_replicate]

end SqlWorkbench
