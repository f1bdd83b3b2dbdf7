import Mathlib.Tactic.Common
import SqlWorkbench.Number.Double

/-!
# Signs of floating-point numbers

A number that is not below zero is told by its bits: it has no sign, or is the zero that has one.
-/

namespace SqlWorkbench.Double

variable {x : Double}

/-- The numerator of a finite number with the sign of the number. -/
def numerator (x : Double) : Int :=
  if x.isNegative then -(x.ratio.1 : Int) else x.ratio.1

/-- The number is positive infinity, or finite and not below zero. -/
def AtLeastZero (x : Double) : Prop :=
  x = .infinity false ∨ x.isFinite = true ∧ 0 ≤ x.numerator

lemma isNaN_eq_false (hx : x.isFinite = true) : x.isNaN = false := by
  rw [isFinite, bne_iff_ne] at hx
  rw [isNaN, beq_eq_false_iff_ne.mpr hx, Bool.false_and]

lemma significand_eq_zero_iff : x.significand = 0 ↔ x.isZero = true := by
  rw [significand, isZero, exponentField, fraction, beq_iff_eq]
  split <;> omega

lemma ratio_eq_zero_iff : x.ratio.1 = 0 ↔ x.isZero = true := by
  rw [ratio, ← significand_eq_zero_iff]
  split
  · exact Iff.rfl
  · rw [Nat.mul_eq_zero, or_iff_left (Nat.pos_iff_ne_zero.mp (Nat.two_pow_pos x.exponent.toNat))]

lemma eq_infinity_iff : x = .infinity false ↔
    x.isNegative = false ∧ x.exponentField = 2047 ∧ x.fraction = 0 := by
  have hbits : x = .infinity false ↔ x.bits.toNat = 2047 * 2 ^ 52 := by
    rw [infinity, ofMagnitude, BinaryFormat.infinity]
    constructor
    · intro h
      rw [h]
      rfl
    · intro h
      cases x
      exact congrArg Double.mk (UInt64.toNat_inj.mp h)
  rw [hbits, isNegative, exponentField, fraction, magnitude, decide_eq_false_iff_not]
  have hlt := x.bits.toNat_lt
  omega

/-- The test of the sign is right. -/
lemma isNonnegative_iff : x.isNonnegative = true ↔ x.AtLeastZero := by
  rw [isNonnegative, AtLeastZero, eq_infinity_iff, isNaN, isFinite, numerator]
  have hzero := x.ratio_eq_zero_iff
  cases hsign : x.isNegative with
  | false =>
    by_cases hspecial : x.exponentField = 2047
    · simp [hspecial]
    · simp [hspecial]
  | true =>
    have hfield : x.isZero = true → x.exponentField ≠ 2047 := by
      rw [isZero, beq_iff_eq, exponentField]
      intro h
      omega
    by_cases hspecial : x.exponentField = 2047
    · have : x.isZero = false := by simpa using fun h => hfield h hspecial
      simp [hspecial, this]
    · simp [hspecial, ← hzero]

end SqlWorkbench.Double
