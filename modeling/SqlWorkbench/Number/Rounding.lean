/-!
# Rounding to a binary format

A positive rational number is rounded to the nearest number of a binary floating-point format, a
tie going to the even neighbour. The result is the bit pattern without the sign, and patterns are
ordered as the numbers they stand for.
-/

-- Numbers come with powers of their own. They keep them where they are monoids as well, so that a
-- power is one and the same in every module.
attribute [instance(20000), default_instance 20000] instPowNat

namespace SqlWorkbench

/-- The widths of a binary floating-point format. -/
structure BinaryFormat where
  /-- Bits stored after the leading one. -/
  fractionBits : Nat
  /-- The exponent of the last place of the smallest numbers. -/
  leastExponent : Int
  /-- The exponent field that is kept for infinity and for what is no number. -/
  specialExponent : Nat

/-- The format of 64 bits. -/
def BinaryFormat.double : BinaryFormat := ⟨52, -1074, 2047⟩

/-- The format of 32 bits. -/
def BinaryFormat.single : BinaryFormat := ⟨23, -149, 255⟩

/-- A quotient rounded to the nearest integer, ties to even. -/
def roundEven (num den : Nat) : Nat :=
  let q := num / den
  let r := num % den
  if 2 * r > den || (2 * r == den && q % 2 == 1) then q + 1 else q

theorem roundEven_one (n : Nat) : roundEven n 1 = n := by
  simp [roundEven, Nat.mod_one]

/-- The exponent of the largest power of two that is not above a positive quotient. -/
def binaryOrder (num den : Nat) : Int :=
  let guess : Int := (num.log2 : Int) - (den.log2 : Int)
  let reached := if guess < 0 then den ≤ num * 2 ^ (-guess).toNat else den * 2 ^ guess.toNat ≤ num
  if reached then guess else guess - 1

namespace BinaryFormat

/-- The bit pattern of infinity. -/
def infinity (f : BinaryFormat) : Nat :=
  f.specialExponent * 2 ^ f.fractionBits

/-- The bit pattern of the number nearest to `num / den`. -/
def round (f : BinaryFormat) (num den : Nat) : Nat :=
  if num = 0 then 0
  else
    let exponent := max (binaryOrder num den - f.fractionBits) f.leastExponent
    let significand :=
      if exponent < 0 then roundEven (num * 2 ^ (-exponent).toNat) den
      else roundEven num (den * 2 ^ exponent.toNat)
    min ((exponent - f.leastExponent).toNat * 2 ^ f.fractionBits + significand) f.infinity

@[simp] theorem round_zero (f : BinaryFormat) (den : Nat) : f.round 0 den = 0 := by
  simp [round]

/-- Nothing is rounded beyond infinity. -/
theorem round_le_infinity (f : BinaryFormat) (num den : Nat) : f.round num den ≤ f.infinity := by
  unfold round
  split
  · exact Nat.zero_le _
  · exact Nat.min_le_right _ _

end BinaryFormat

end SqlWorkbench
