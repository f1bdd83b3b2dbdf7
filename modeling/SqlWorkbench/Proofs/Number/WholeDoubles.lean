import SqlWorkbench.Number.Shortest
import SqlWorkbench.Proofs.Number.Integers

/-!
# Whole numbers as doubles

A whole number beyond fifty-three bits is rounded to a multiple of its last binary place, a tie
going to the even multiple.

Main statements: the interval in which the digits of a double are searched holds exactly the whole
numbers that are rounded to the double, and the double that a whole number is rounded to is the
nearest one of all.
-/

namespace SqlWorkbench

variable {n d m k e : Nat}

/-! ### Nearest multiples -/

/-- The multiple `m * d` lies as near to `n` as any other; of two that lie equally near it is the
even one. -/
@[mk_iff]
structure NearestEven (n d m : Nat) : Prop where
  le_add : 2 * (m * d) ≤ 2 * n + d
  add_le : 2 * n ≤ 2 * (m * d) + d
  even : 2 * (m * d) = 2 * n + d ∨ 2 * n = 2 * (m * d) + d → m % 2 = 0

lemma nearestEven_roundEven (hd : 0 < d) : NearestEven n d (roundEven n d) := by
  have hsplit : n / d * d + n % d = n := Nat.div_add_mod' n d
  have hstep : (n / d + 1) * d = n / d * d + d := Nat.add_one_mul _ _
  have hlt : n % d < d := Nat.mod_lt n hd
  rw [roundEven]
  split
  · next h =>
    simp only [Bool.or_eq_true, Bool.and_eq_true, decide_eq_true_eq, beq_iff_eq] at h
    constructor <;> omega
  · next h =>
    simp only [Bool.or_eq_true, Bool.and_eq_true, decide_eq_true_eq, beq_iff_eq, not_or,
      not_and] at h
    constructor <;> omega

namespace NearestEven

lemma le (hd : 0 < d) (hm : NearestEven n d m) (hk : NearestEven n d k) : m ≤ k := by
  by_contra hlt
  have hstep : (k + 1) * d ≤ m * d := Nat.mul_le_mul_right d (by omega)
  have hle := hm.le_add
  have hge := hk.add_le
  rw [Nat.add_one_mul] at hstep
  -- The two are neighbours, and the number lies in the middle between them.
  have hnext : m = k + 1 := by
    refine Nat.eq_of_mul_eq_mul_right hd ?_
    rw [Nat.add_one_mul]
    omega
  have hkeven := hk.even (by omega)
  have hmeven := hm.even (by omega)
  omega

lemma eq_roundEven (hd : 0 < d) (h : NearestEven n d m) : m = roundEven n d :=
  Nat.le_antisymm (h.le hd (nearestEven_roundEven hd)) ((nearestEven_roundEven hd).le hd h)

lemma le_of_mul_le (hd : 0 < d) (h : NearestEven n d m) (hk : k * d ≤ n) : k ≤ m := by
  by_contra hlt
  have hstep : (m + 1) * d ≤ k * d := Nat.mul_le_mul_right d (by omega)
  have hge := h.add_le
  rw [Nat.add_one_mul] at hstep
  omega

lemma le_of_le_mul (hd : 0 < d) (h : NearestEven n d m) (hk : n ≤ k * d) : m ≤ k := by
  by_contra hlt
  have hstep : (k + 1) * d ≤ m * d := Nat.mul_le_mul_right d (by omega)
  have hle := h.le_add
  rw [Nat.add_one_mul] at hstep
  omega

/-- No multiple lies nearer. -/
lemma abs_sub_le (hd : 0 < d) (h : NearestEven n d m) (k : Int) :
    |(m * d : Int) - n| ≤ |k * d - n| := by
  have hle : (2 * (m * d) : Int) ≤ 2 * n + d := by exact_mod_cast h.le_add
  have hge : (2 * n : Int) ≤ 2 * (m * d) + d := by exact_mod_cast h.add_le
  have hpos : (0 : Int) < d := by exact_mod_cast hd
  obtain hlt | rfl | hgt := lt_trichotomy k m
  · have hstep : (k + 1) * (d : Int) ≤ m * d := Int.mul_le_mul_of_nonneg_right (by omega) hpos.le
    rw [add_one_mul] at hstep
    rw [abs_of_nonpos (a := k * d - n) (by omega), abs_le]
    omega
  · exact le_refl _
  · have hstep : (m + 1) * (d : Int) ≤ k * d := Int.mul_le_mul_of_nonneg_right (by omega) hpos.le
    rw [add_one_mul] at hstep
    rw [abs_of_nonneg (a := k * d - n) (by omega), abs_le]
    omega

/-- Nothing below a multiple lies nearer if the number is above that multiple. -/
lemma abs_sub_le_of_le (hd : 0 < d) (h : NearestEven n d m) (hk : k * d ≤ n) {q : ℚ}
    (hq : q ≤ (k * d : Nat)) : |((m * d : Nat) : ℚ) - n| ≤ |q - n| := by
  have hkn : ((k * d : Nat) : ℚ) ≤ n := by exact_mod_cast hk
  have hnearest : |((m * d : Nat) : ℚ) - n| ≤ |((k * d : Nat) : ℚ) - n| := by
    exact_mod_cast h.abs_sub_le hd k
  rw [abs_of_nonpos (a := ((k * d : Nat) : ℚ) - n) (by linarith)] at hnearest
  rw [abs_of_nonpos (a := q - n) (by linarith)]
  linarith

end NearestEven

/-! ### Rounding to the format -/

lemma binaryOrder_one (hn : n ≠ 0) : binaryOrder n 1 = n.log2 := by
  have hle := Nat.log2_self_le hn
  have hone : Nat.log2 1 = 0 := by decide
  have hnot : ¬ ((n.log2 : Int) < 0) := by omega
  simp [binaryOrder, hone, hnot, hle]

namespace BinaryFormat

lemma double_round (exponent : Int) (hn : n ≠ 0)
    (hexponent : max ((n.log2 : Int) - 52) (-1074) = exponent) :
    double.round n 1 = min ((exponent + 1074).toNat * 2 ^ 52 +
      if exponent < 0 then n * 2 ^ (-exponent).toNat else roundEven n (2 ^ exponent.toNat))
      double.infinity := by
  have h : max (binaryOrder n 1 - (double.fractionBits : Int)) double.leastExponent = exponent := by
    rw [binaryOrder_one hn]
    exact hexponent
  rw [round, if_neg hn]
  simp only [h, roundEven_one, Nat.one_mul]
  rfl

/-- A whole number of `e + 53` bits is rounded to a multiple of `2 ^ e`. -/
lemma double_round_of_le (hlow : 2 ^ (52 + e) ≤ n) (hhigh : n < 2 ^ (53 + e)) :
    double.round n 1 = min ((e + 1074) * 2 ^ 52 + roundEven n (2 ^ e)) double.infinity := by
  have hn : n ≠ 0 := by
    have := Nat.two_pow_pos (52 + e)
    omega
  have hlog : n.log2 = 52 + e := by
    rw [Nat.log2_eq_iff hn]
    exact ⟨hlow, by rwa [Nat.add_right_comm]⟩
  rw [double_round e hn (by omega), if_neg (by omega), Int.toNat_natCast]
  rfl

/-- The pattern of a whole number with a bit to spare lies below that of any greater number. -/
lemma double_round_lt (hn : n < 2 ^ 52) : double.round n 1 < 1075 * 2 ^ 52 := by
  by_cases hzero : n = 0
  · rw [hzero, round_zero]
    omega
  have hlog : n.log2 < 52 := (Nat.log2_lt hzero).mpr hn
  obtain ⟨k, hk⟩ : ∃ k, n.log2 + 1 + k = 52 := ⟨51 - n.log2, by omega⟩
  have hlt : n * 2 ^ (k + 1) < 2 ^ 53 := by
    have h : n * 2 ^ (k + 1) < 2 ^ (n.log2 + 1) * 2 ^ (k + 1) :=
      Nat.mul_lt_mul_of_pos_right Nat.lt_log2_self (Nat.two_pow_pos _)
    rwa [← Nat.pow_add, ← Nat.add_assoc, hk] at h
  have hpattern : (1073 - k) * 2 ^ 52 ≤ 1073 * 2 ^ 52 := Nat.mul_le_mul_right _ (by omega)
  rw [double_round (-((k : Int) + 1)) hzero (by omega), if_pos (by omega), neg_neg]
  have hfield : (-((k : Int) + 1) + 1074).toNat = 1073 - k := by omega
  have hscale : ((k : Int) + 1).toNat = k + 1 := by omega
  rw [hfield, hscale]
  refine (Nat.min_le_left _ _).trans_lt ?_
  omega

/-- A whole number of more than fifty-two bits has the pattern of its nearest multiple. -/
lemma double_round_eq_iff (hlow : 2 ^ (52 + e) ≤ n) (hhigh : n < 2 ^ (53 + e))
    (hk : k < double.infinity) :
    double.round n 1 = k ↔ ∃ r, NearestEven n (2 ^ e) r ∧ (e + 1074) * 2 ^ 52 + r = k := by
  rw [double_round_of_le hlow hhigh]
  constructor
  · intro h
    exact ⟨_, nearestEven_roundEven (Nat.two_pow_pos e), by omega⟩
  · rintro ⟨r, hr, rfl⟩
    rw [← hr.eq_roundEven (Nat.two_pow_pos e), Nat.min_eq_left hk.le]

end BinaryFormat

/-! ### Whole doubles -/

namespace Double

lemma toNat_bits_ofMagnitude (hn : n < 2 ^ 64) : (ofMagnitude false n).bits.toNat = n := by
  rw [ofMagnitude, if_neg Bool.false_ne_true]
  exact UInt64.toNat_ofNat_of_lt' hn

lemma ofMagnitude_inj (hm : m < 2 ^ 64) (hn : n < 2 ^ 64) :
    ofMagnitude false m = ofMagnitude false n ↔ m = n := by
  refine ⟨fun h => ?_, fun h => by rw [h]⟩
  rw [← toNat_bits_ofMagnitude hm, h, toNat_bits_ofMagnitude hn]

lemma ofInt_natCast (n : Nat) :
    ofInt n = ofMagnitude false (BinaryFormat.double.round n 1) := by
  have hsign : decide ((n : Int) < 0) = false := decide_eq_false (by omega)
  rw [ofInt, hsign, Int.natAbs_natCast, ofRatio]

/-- The double is `m * 2 ^ (e + 2)`, where `m` uses all its bits. Even the quarters of its last
place are whole numbers. -/
structure IsWhole (x : Double) (m e : Nat) : Prop where
  le : 2 ^ 52 ≤ m
  lt : m < 2 ^ 53
  exponent_le : e ≤ 969
  eq : x = ofMagnitude false ((e + 1076) * 2 ^ 52 + m)

namespace IsWhole

variable {x : Double} (hx : x.IsWhole m e)

include hx

lemma toNat_bits : x.bits.toNat = (e + 1076) * 2 ^ 52 + m := by
  obtain ⟨hle, hlt, he, rfl⟩ := hx
  exact toNat_bits_ofMagnitude (by omega)

lemma isNegative : x.isNegative = false := by
  have hbits := hx.toNat_bits
  have := hx.lt
  have := hx.exponent_le
  exact decide_eq_false (by omega)

lemma exponentField : x.exponentField = e + 1077 := by
  rw [Double.exponentField, magnitude, hx.toNat_bits]
  have := hx.le
  have := hx.lt
  have := hx.exponent_le
  omega

lemma significand : x.significand = m := by
  rw [Double.significand, hx.exponentField, if_neg (by omega), fraction, magnitude, hx.toNat_bits]
  have := hx.le
  have := hx.lt
  have := hx.exponent_le
  omega

lemma exponent : x.exponent = e + 2 := by
  rw [Double.exponent, hx.exponentField]
  omega

lemma isFinite : x.isFinite = true := by
  rw [Double.isFinite, hx.exponentField, bne_iff_ne]
  have := hx.exponent_le
  omega

lemma isZero : x.isZero = false := by
  have hle := hx.le
  rw [← Bool.not_eq_true, ← significand_eq_zero_iff, hx.significand]
  omega

lemma value : x.value = (m * 2 ^ (e + 2) : Nat) := by
  rw [Double.value, hx.isNegative, hx.significand, hx.exponent, if_neg Bool.false_ne_true]
  push_cast
  rw [one_mul]
  rfl

/-- The double is rounded to from what its pattern is rounded to from. -/
lemma ofInt_eq_iff (n : Nat) :
    ofInt n = x ↔ BinaryFormat.double.round n 1 = (e + 1076) * 2 ^ 52 + m := by
  have hinfinity : BinaryFormat.double.infinity = 2047 * 2 ^ 52 := rfl
  have hround := BinaryFormat.double.round_le_infinity n 1
  have := hx.lt
  have := hx.exponent_le
  rw [ofInt_natCast, hx.eq, ofMagnitude_inj (by omega) (by omega)]

/-- A number is rounded to the double from the binade of the double, or, if the double is the first
of its binade, from the one below. -/
lemma ofInt_eq_iff_nearestEven (n : Nat) : ofInt n = x ↔
    (2 ^ 54 * 2 ^ e ≤ n ∧ n < 2 ^ 55 * 2 ^ e ∧ NearestEven n (4 * 2 ^ e) m) ∨
    (m = 2 ^ 52 ∧ 2 ^ 53 * 2 ^ e ≤ n ∧ n < 2 ^ 54 * 2 ^ e ∧
      NearestEven n (2 * 2 ^ e) (2 ^ 53)) := by
  have hinfinity : BinaryFormat.double.infinity = 2047 * 2 ^ 52 := rfl
  have hlt := hx.lt
  have he := hx.exponent_le
  have htwo : 2 ^ (e + 1) = 2 * 2 ^ e := by rw [Nat.pow_add]; omega
  have hfour : 2 ^ (e + 2) = 4 * 2 ^ e := by rw [Nat.pow_add]; omega
  rw [hx.ofInt_eq_iff]
  constructor
  · intro h
    have hn : 2 ^ 52 ≤ n := by
      by_contra hsmall
      have := BinaryFormat.double_round_lt (n := n) (by omega)
      omega
    have hzero : n ≠ 0 := by omega
    obtain ⟨f, hf⟩ : ∃ f, n.log2 = 52 + f :=
      Nat.exists_eq_add_of_le ((Nat.le_log2 hzero).mpr hn)
    obtain ⟨hlow, hhigh⟩ := (Nat.log2_eq_iff hzero).mp hf
    rw [Nat.add_right_comm] at hhigh
    obtain ⟨r, hr, hpattern⟩ :=
      (BinaryFormat.double_round_eq_iff hlow hhigh (by omega)).mp h
    rw [Nat.pow_add] at hlow hhigh
    have hrlow := hr.le_of_mul_le (Nat.two_pow_pos f) hlow
    have hrhigh := hr.le_of_le_mul (Nat.two_pow_pos f) hhigh.le
    have hle := hx.le
    obtain ⟨rfl, rfl⟩ | ⟨rfl, rfl, rfl⟩ :
        (f = e + 2 ∧ r = m) ∨ (f = e + 1 ∧ r = 2 ^ 53 ∧ m = 2 ^ 52) := by omega
    · rw [hfour] at hr hlow hhigh
      exact .inl ⟨by omega, by omega, hr⟩
    · rw [htwo] at hr hlow hhigh
      exact .inr ⟨rfl, by omega, by omega, hr⟩
  · rintro (⟨hlow, hhigh, hr⟩ | ⟨rfl, hlow, hhigh, hr⟩)
    · rw [BinaryFormat.double_round_eq_iff (e := e + 2) _ _ (by omega)]
      · exact ⟨m, hfour ▸ hr, by omega⟩
      · rw [Nat.pow_add, hfour]
        omega
      · rw [Nat.pow_add, hfour]
        omega
    · rw [BinaryFormat.double_round_eq_iff (e := e + 1) _ _ (by omega)]
      · exact ⟨2 ^ 53, htwo ▸ hr, by omega⟩
      · rw [Nat.pow_add, htwo]
        omega
      · rw [Nat.pow_add, htwo]
        omega

/-- The interval between the middles to the neighbours of the double. The double below the first one
of a binade is only half as far away. -/
lemma interval : RoundingInterval.ofDouble x =
    { low := (4 * m - if m = 2 ^ 52 then 1 else 2) * 2 ^ e
      value := 4 * m * 2 ^ e
      high := (4 * m + 2) * 2 ^ e
      den := 1
      closed := m % 2 == 0 } := by
  have hfield : e + 1077 > 1 := by omega
  have hscale : (e : Int) + 2 - 2 = e := by omega
  have hnonneg : ¬ (e : Int) < 0 := by omega
  rw [RoundingInterval.ofDouble, hx.significand, hx.exponent, hx.exponentField]
  simp only [hscale, hnonneg, hfield, and_true, if_false, Int.toNat_natCast]

/-- The interval holds exactly the whole numbers that are rounded to the double. -/
lemma holds_iff (n : Nat) : (RoundingInterval.ofDouble x).holds n 1 = true ↔ ofInt n = x := by
  have hlt : (m + 1) * 2 ^ e ≤ 2 ^ 53 * 2 ^ e := Nat.mul_le_mul_right _ hx.lt
  have hpos := Nat.two_pow_pos e
  rw [hx.ofInt_eq_iff_nearestEven, hx.interval, RoundingInterval.holds, nearestEven_iff,
    nearestEven_iff]
  generalize 2 ^ e = s at *
  obtain rfl | hm := Nat.eq_or_lt_of_le hx.le
  · -- The interval is closed, and its part below the double comes from the binade below.
    simp only [Nat.reduceMod, Nat.reducePow, BEq.rfl, if_true, Nat.mul_one, Bool.and_eq_true,
      decide_eq_true_eq, implies_true, and_true, true_and]
    omega
  · have hle : (2 ^ 52 + 1) * s ≤ m * s := Nat.mul_le_mul_right _ hm
    have hlow : (4 * m - 2) * s = 4 * (m * s) - 2 * s := by
      rw [Nat.sub_mul, Nat.mul_assoc]
    have hhigh : (4 * m + 2) * s = 4 * (m * s) + 2 * s := by
      rw [Nat.add_mul, Nat.mul_assoc]
    have hmul : m * (4 * s) = 4 * (m * s) := Nat.mul_left_comm m 4 s
    rw [if_neg hm.ne']
    simp only [hlow, hhigh, hmul, hm.ne', false_and, or_false, Nat.mul_one, beq_iff_eq]
    rw [Nat.add_one_mul] at hlt
    split
    · next heven =>
      simp only [Bool.and_eq_true, decide_eq_true_eq]
      omega
    · next hodd =>
      simp only [Bool.and_eq_true, decide_eq_true_eq]
      omega

end IsWhole

/-! ### The nearest double -/

/-- No finite double lies nearer to the integer. -/
def IsNearest (x : Double) (i : Int) : Prop :=
  x.isFinite = true ∧ ∀ y : Double, y.isFinite = true → |x.value - i| ≤ |y.value - i|

lemma significand_lt (x : Double) : x.significand < 2 ^ 53 := by
  have hfraction : x.fraction < 2 ^ 52 := Nat.mod_lt _ (Nat.two_pow_pos 52)
  rw [significand]
  split <;> omega

lemma exists_value_eq_mul {y : Double} (h : (e : Int) ≤ y.exponent) :
    ∃ k : Int, y.value = (k * 2 ^ e : Int) := by
  obtain ⟨f, hf⟩ := Int.le.dest h
  refine ⟨(if y.isNegative then -1 else 1) * y.significand * 2 ^ f, ?_⟩
  rw [value, ← hf, zpow_add₀ two_ne_zero, zpow_natCast, zpow_natCast]
  push_cast
  ring

lemma value_le_of_exponent_lt {y : Double} (h : y.exponent < (e : Int) + 1) :
    y.value ≤ (2 ^ 53 * 2 ^ e : Nat) := by
  have hsignificand : (y.significand : ℚ) ≤ 2 ^ 53 := by exact_mod_cast y.significand_lt.le
  have hpower : (2 : ℚ) ^ y.exponent ≤ 2 ^ e := by
    rw [← zpow_natCast]
    exact zpow_le_zpow_right₀ one_le_two (by omega)
  have hnonneg : (0 : ℚ) ≤ 2 ^ y.exponent := zpow_nonneg zero_le_two _
  have habs : (y.significand : ℚ) * 2 ^ y.exponent ≤ 2 ^ 53 * 2 ^ e :=
    mul_le_mul hsignificand hpower hnonneg (by positivity)
  have hpos : (0 : ℚ) ≤ y.significand * 2 ^ y.exponent :=
    mul_nonneg (Nat.cast_nonneg _) hnonneg
  rw [value]
  push_cast
  split
  · linarith
  · linarith

/-- A significand that runs over is the first one of the next binade. -/
lemma isWhole_ofMagnitude (he : e ≤ 968) (hlow : 2 ^ 52 ≤ m) (hhigh : m ≤ 2 ^ 53) :
    ∃ k f, (ofMagnitude false ((e + 1076) * 2 ^ 52 + m)).IsWhole k f ∧
      k * 2 ^ (f + 2) = m * 2 ^ (e + 2) := by
  obtain rfl | hlt := Nat.eq_or_lt_of_le hhigh
  · have hpattern : (e + 1076) * 2 ^ 52 + 2 ^ 53 = (e + 1 + 1076) * 2 ^ 52 + 2 ^ 52 := by omega
    have hpower : 2 ^ (e + 1 + 2) = 2 * 2 ^ (e + 2) := by
      rw [Nat.add_right_comm, Nat.pow_succ']
    refine ⟨2 ^ 52, e + 1, ⟨by omega, by omega, by omega, by rw [hpattern]⟩, ?_⟩
    rw [hpower]
    omega
  · exact ⟨m, e, ⟨hlow, hlt, by omega, rfl⟩, rfl⟩

section

variable (he : e ≤ 968) (hlow : 2 ^ 52 * 2 ^ (e + 2) ≤ n) (hhigh : n < 2 ^ 53 * 2 ^ (e + 2))

include he hlow hhigh

/-- A whole number of more than fifty-four bits is rounded to its nearest multiple. -/
lemma exists_isWhole : ∃ r, NearestEven n (2 ^ (e + 2)) r ∧
    ∃ m f, (ofInt n).IsWhole m f ∧ m * 2 ^ (f + 2) = r * 2 ^ (e + 2) := by
  have hinfinity : BinaryFormat.double.infinity = 2047 * 2 ^ 52 := rfl
  have hpos := Nat.two_pow_pos (e + 2)
  have hr := nearestEven_roundEven (n := n) hpos
  have hrlow := hr.le_of_mul_le hpos hlow
  have hrhigh := hr.le_of_le_mul hpos hhigh.le
  refine ⟨_, hr, ?_⟩
  rw [← Nat.pow_add] at hlow hhigh
  rw [ofInt_natCast, BinaryFormat.double_round_of_le hlow hhigh, Nat.min_eq_left (by omega)]
  exact isWhole_ofMagnitude he hrlow hrhigh

lemma isNearest_ofInt : (ofInt n).IsNearest n := by
  obtain ⟨r, hr, m, f, hx, hvalue⟩ := exists_isWhole he hlow hhigh
  have hpos := Nat.two_pow_pos (e + 2)
  refine ⟨hx.isFinite, fun y hy => ?_⟩
  rw [hx.value, hvalue, Int.cast_natCast]
  obtain hplace | hplace := le_or_gt (e + 2 : Int) y.exponent
  · obtain ⟨k, hk⟩ := exists_value_eq_mul (e := e + 2) hplace
    rw [hk]
    exact_mod_cast hr.abs_sub_le hpos k
  · -- The other double lies below the binade of the number.
    have hbelow := value_le_of_exponent_lt (e := e + 1) (y := y) (by omega)
    have hpower : 2 ^ (e + 2) = 2 * 2 ^ (e + 1) := Nat.pow_succ'
    have hsame : 2 ^ 53 * 2 ^ (e + 1) = 2 ^ 52 * 2 ^ (e + 2) := by omega
    exact hr.abs_sub_le_of_le hpos hlow (hsame ▸ hbelow)

end

end Double

end SqlWorkbench
