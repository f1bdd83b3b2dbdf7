import Mathlib.Data.List.Induction
import Mathlib.Data.Nat.Digits.Defs
import Mathlib.Tactic.FieldSimp
import Mathlib.Tactic.Linarith
import SqlWorkbench.Number.Reading
import SqlWorkbench.Proofs.Number.Sign

/-!
# Integers as texts and as floating-point numbers

A run of digits is read from the left, one digit after the other; what it spells is said by the
values of its places. A finite double is a rational number, and where this is an integer, the
conversion to 64 bits holds it between their bounds.
-/

namespace SqlWorkbench

/-! ### Texts -/

/-- The number that digits spell, by the values of their places. -/
def placeValue (digits : List Char) : Nat :=
  Nat.ofDigits 10 (digits.reverse.map digitValue)

/-- The text spells the integer: digits behind a sign or none. -/
def SpellsInteger (s : List Char) (i : Int) : Prop :=
  ∃ sign digits : List Char, s = sign ++ digits ∧ digits ≠ [] ∧
    (∀ c ∈ digits, c.isDigit = true) ∧
    ((sign = [] ∨ sign = ['+']) ∧ i = placeValue digits ∨
      sign = ['-'] ∧ i = -(placeValue digits : Int))

lemma natOfDigits_eq (digits : List Char) : natOfDigits digits = placeValue digits := by
  induction digits using List.reverseRecOn with
  | nil => rfl
  | append_singleton digits c ih =>
    rw [natOfDigits, List.foldl_append, ← natOfDigits, ih, placeValue, placeValue,
      List.reverse_concat, List.map_cons, Nat.ofDigits_cons, List.foldl_cons, List.foldl_nil,
      Nat.add_comm]

/-- A body behind a sign or none is a number if it has digits only, and at least one. -/
def signedInt? (negative : Bool) (body : List Char) : Option Int :=
  if body.isEmpty || !body.all Char.isDigit then none
  else some (if negative then -(natOfDigits body : Int) else natOfDigits body)

lemma readInt?_minus (body : List Char) : readInt? ('-' :: body) = signedInt? true body := rfl

lemma readInt?_plus (body : List Char) : readInt? ('+' :: body) = signedInt? false body := rfl

lemma readInt?_of_head {s : List Char} (hminus : s.head? ≠ some '-') (hplus : s.head? ≠ some '+') :
    readInt? s = signedInt? false s := by
  rw [readInt?, signedInt?]
  · rintro rest rfl
    exact hminus rfl
  · rintro rest rfl
    exact hplus rfl

lemma signedInt?_eq_some_iff {negative : Bool} {body : List Char} {i : Int} :
    signedInt? negative body = some i ↔ body ≠ [] ∧ (∀ c ∈ body, c.isDigit = true) ∧
      i = if negative then -(placeValue body : Int) else placeValue body := by
  rw [signedInt?, natOfDigits_eq]
  split
  · next h =>
    simp only [reduceCtorEq, false_iff]
    rintro ⟨hne, hdigits, -⟩
    simp [hne, List.all_eq_true.mpr hdigits] at h
  · next h =>
    simp only [Bool.or_eq_true, List.isEmpty_iff, Bool.not_eq_true', not_or, Bool.not_eq_false,
      List.all_eq_true] at h
    rw [Option.some.injEq, eq_comm, and_iff_right h.1, and_iff_right h.2]

/-- What is read is what the text spells. -/
lemma readInt?_eq_some_iff {s : List Char} {i : Int} :
    readInt? s = some i ↔ SpellsInteger s i := by
  constructor
  · intro h
    by_cases hminus : s.head? = some '-'
    · obtain ⟨body, rfl⟩ := List.head?_eq_some_iff.mp hminus
      rw [readInt?_minus, signedInt?_eq_some_iff] at h
      exact ⟨['-'], body, rfl, h.1, h.2.1, .inr ⟨rfl, h.2.2⟩⟩
    by_cases hplus : s.head? = some '+'
    · obtain ⟨body, rfl⟩ := List.head?_eq_some_iff.mp hplus
      rw [readInt?_plus, signedInt?_eq_some_iff] at h
      exact ⟨['+'], body, rfl, h.1, h.2.1, .inl ⟨.inr rfl, h.2.2⟩⟩
    · rw [readInt?_of_head hminus hplus, signedInt?_eq_some_iff] at h
      exact ⟨[], s, rfl, h.1, h.2.1, .inl ⟨.inl rfl, h.2.2⟩⟩
  · rintro ⟨sign, digits, rfl, hne, hdigits, ⟨rfl | rfl, rfl⟩ | ⟨rfl, rfl⟩⟩
    · have hhead : ∀ c, digits.head? = some c → c.isDigit = true := fun c hc =>
        hdigits c (List.mem_of_mem_head? hc)
      rw [List.nil_append, readInt?_of_head, signedInt?_eq_some_iff]
      · exact ⟨hne, hdigits, rfl⟩
      · exact fun hc => absurd (hhead _ hc) (by decide)
      · exact fun hc => absurd (hhead _ hc) (by decide)
    · exact signedInt?_eq_some_iff.mpr ⟨hne, hdigits, rfl⟩
    · exact signedInt?_eq_some_iff.mpr ⟨hne, hdigits, rfl⟩

/-! ### Floating-point numbers -/

namespace Double

variable {x : Double} {i : Int}

/-- The rational number that a finite double denotes. -/
def value (x : Double) : ℚ :=
  (if x.isNegative then -1 else 1) * x.significand * 2 ^ x.exponent

lemma ratio_snd_pos (x : Double) : 0 < x.ratio.2 := by
  rw [ratio]
  split
  · exact Nat.two_pow_pos _
  · exact Nat.one_pos

lemma value_eq (x : Double) : x.value = x.numerator / x.ratio.2 := by
  have hratio : (x.ratio.1 : ℚ) / x.ratio.2 = x.significand * 2 ^ x.exponent := by
    rw [ratio]
    split
    · next h =>
      obtain ⟨n, hn⟩ := Int.eq_ofNat_of_zero_le (a := -x.exponent) (by omega)
      obtain hexp : x.exponent = -(n : Int) := by omega
      simp [hexp, div_eq_mul_inv]
    · next h =>
      obtain ⟨n, hn⟩ := Int.eq_ofNat_of_zero_le (a := x.exponent) (by omega)
      simp [hn]
  rw [value, numerator, mul_assoc, ← hratio]
  split
  · push_cast
    ring
  · push_cast
    ring

lemma numerator_eq_of_value (h : x.value = i) : x.numerator = i * x.ratio.2 := by
  have hpos : (x.ratio.2 : ℚ) ≠ 0 := by
    exact_mod_cast (ratio_snd_pos x).ne'
  rw [value_eq, div_eq_iff hpos] at h
  exact_mod_cast h

/-- A finite double has no fractional part exactly if it denotes an integer. -/
lemma isInteger_iff : x.isInteger = true ↔ x.isFinite = true ∧ ∃ i : Int, x.value = i := by
  rw [isInteger, Bool.and_eq_true, beq_iff_eq, ← Nat.dvd_iff_mod_eq_zero]
  refine and_congr_right fun _ => ?_
  constructor
  · rintro ⟨k, hk⟩
    have hpos : (x.ratio.2 : ℚ) ≠ 0 := by
      exact_mod_cast (ratio_snd_pos x).ne'
    refine ⟨if x.isNegative then -(k : Int) else k, ?_⟩
    rw [value_eq, div_eq_iff hpos, numerator, hk]
    split
    · push_cast
      ring
    · push_cast
      ring
  · rintro ⟨i, hi⟩
    have hnumerator := congrArg Int.natAbs (numerator_eq_of_value hi)
    rw [Int.natAbs_mul, Int.natAbs_natCast] at hnumerator
    refine ⟨i.natAbs, ?_⟩
    rw [Nat.mul_comm, ← hnumerator, numerator]
    split <;> simp

/-- The conversion of an integer holds it within 64 bits. -/
lemma toInt64_eq_clamp (hfinite : x.isFinite = true) (h : x.value = i) :
    x.toInt64 = clamp (-2 ^ 63) (2 ^ 63 - 1) i := by
  have hpos : (x.ratio.2 : Int) ≠ 0 := by
    exact_mod_cast (ratio_snd_pos x).ne'
  have hnumerator := numerator_eq_of_value h
  rw [numerator] at hnumerator
  rw [toInt64, isNaN_eq_false hfinite, hfinite, if_neg Bool.false_ne_true, Bool.not_true,
    if_neg Bool.false_ne_true]
  dsimp only
  congr 1
  split
  · next hsign =>
    rw [if_pos hsign, neg_eq_iff_eq_neg, ← neg_mul] at hnumerator
    rw [hnumerator, Int.mul_ediv_cancel _ hpos, neg_neg]
  · next hsign =>
    rw [if_neg hsign] at hnumerator
    rw [hnumerator, Int.mul_ediv_cancel _ hpos]

end Double

end SqlWorkbench
