import SqlWorkbench.Number.Rounding

/-!
# Floating-point numbers

A double is its bit pattern: a sign, an exponent of eleven bits and a fraction of fifty-two. A
finite double is the rational number `± significand * 2 ^ exponent`, and every operation here is
exact arithmetic on that number followed by one rounding.
-/

namespace SqlWorkbench

/-- A floating-point number of 64 bits. -/
structure Double where
  /-- The bit pattern. -/
  bits : UInt64
deriving DecidableEq, Inhabited

namespace Double

/-! ### Parts -/

/-- The sign bit is set. -/
def isNegative (x : Double) : Bool :=
  2 ^ 63 ≤ x.bits.toNat

/-- The bit pattern without the sign. -/
def magnitude (x : Double) : Nat :=
  x.bits.toNat % 2 ^ 63

/-- The exponent field. -/
def exponentField (x : Double) : Nat :=
  x.magnitude / 2 ^ 52

/-- The stored part of the significand. -/
def fraction (x : Double) : Nat :=
  x.magnitude % 2 ^ 52

/-- The number is neither infinite nor undefined. -/
def isFinite (x : Double) : Bool :=
  x.exponentField != 2047

/-- The pattern stands for no number. -/
def isNaN (x : Double) : Bool :=
  x.exponentField == 2047 && x.fraction != 0

/-- The number is zero, of either sign. -/
def isZero (x : Double) : Bool :=
  x.magnitude == 0

/-- The significand of a finite number as an integer. -/
def significand (x : Double) : Nat :=
  if x.exponentField = 0 then x.fraction else x.fraction + 2 ^ 52

/-- The exponent that belongs to the significand. -/
def exponent (x : Double) : Int :=
  (max x.exponentField 1 : Nat) - 1075

/-- The absolute value of a finite number as a quotient. -/
def ratio (x : Double) : Nat × Nat :=
  if x.exponent < 0 then (x.significand, 2 ^ (-x.exponent).toNat)
  else (x.significand * 2 ^ x.exponent.toNat, 1)

/-! ### Construction -/

/-- The number of the given sign and bit pattern without the sign. -/
def ofMagnitude (negative : Bool) (m : Nat) : Double :=
  ⟨UInt64.ofNat (if negative then 2 ^ 63 + m else m)⟩

/-- The double nearest to `± num / den`. -/
def ofRatio (negative : Bool) (num den : Nat) : Double :=
  ofMagnitude negative (BinaryFormat.double.round num den)

/-- The double nearest to an integer. -/
def ofInt (i : Int) : Double :=
  ofRatio (i < 0) i.natAbs 1

/-- Zero with a sign. -/
def zero (negative : Bool) : Double :=
  ofMagnitude negative 0

/-- Infinity with a sign. -/
def infinity (negative : Bool) : Double :=
  ofMagnitude negative BinaryFormat.double.infinity

/-- The usual pattern that stands for no number, with a sign bit. -/
def nan (negative : Bool) : Double :=
  ofMagnitude negative (BinaryFormat.double.infinity + 2 ^ 51)

/-- The double nearest to `± digits * 10 ^ exponent`. -/
def ofDecimal (negative : Bool) (digits : Nat) (exponent : Int) : Double :=
  if digits = 0 then zero negative
  else
    let order := (Nat.toDigits 10 digits).length + exponent
    if order > 310 then infinity negative
    else if order < -330 then zero negative
    else if exponent < 0 then ofRatio negative digits (10 ^ (-exponent).toNat)
    else ofRatio negative (digits * 10 ^ exponent.toNat) 1

/-! ### Arithmetic -/

/-- The product with a finite positive factor. -/
def scaleUp (x y : Double) : Double :=
  ofRatio x.isNegative (x.ratio.1 * y.ratio.1) (x.ratio.2 * y.ratio.2)

/-- The quotient by a finite positive divisor. -/
def scaleDown (x y : Double) : Double :=
  ofRatio x.isNegative (x.ratio.1 * y.ratio.2) (x.ratio.2 * y.ratio.1)

/-- The number with its sign changed. -/
def neg (x : Double) : Double :=
  ofMagnitude (!x.isNegative) x.magnitude

/-- The number is finite and has no fractional part. -/
def isInteger (x : Double) : Bool :=
  x.isFinite && x.ratio.1 % x.ratio.2 == 0

/-- The number is zero or more; what is no number is not. -/
def isNonnegative (x : Double) : Bool :=
  !x.isNaN && (!x.isNegative || x.isZero)

/-- The number is neither zero nor undefined. -/
def isNonzero (x : Double) : Bool :=
  !x.isZero

/-! ### Conversion -/

/-- An integer held between two bounds. -/
def clamp (least greatest i : Int) : Int :=
  max least (min i greatest)

/-- The integer part, held within 64 signed bits. -/
def toInt64 (x : Double) : Int :=
  let least : Int := -2 ^ 63
  let greatest : Int := 2 ^ 63 - 1
  if x.isNaN then 0
  else if !x.isFinite then if x.isNegative then least else greatest
  else
    let n : Int := x.ratio.1 / x.ratio.2
    clamp least greatest (if x.isNegative then -n else n)

/-- The nearest natural number, a half going up, held within 64 bits; below zero it is zero. -/
def roundToNat (x : Double) : Nat :=
  if x.isNaN || x.isNegative then 0
  else if !x.isFinite then 2 ^ 64 - 1
  else min ((2 * x.ratio.1 + x.ratio.2) / (2 * x.ratio.2)) (2 ^ 64 - 1)

/-- The bit pattern of the nearest number of 32 bits. -/
def toSingle (x : Double) : UInt32 :=
  let sign := if x.isNegative then 2 ^ 31 else 0
  let m :=
    if x.isNaN then BinaryFormat.single.infinity + 2 ^ 22 + (x.fraction / 2 ^ 29) % 2 ^ 22
    else if !x.isFinite then BinaryFormat.single.infinity
    else BinaryFormat.single.round x.ratio.1 x.ratio.2
  UInt32.ofNat (sign + m)

/-- The number with the given bit pattern of 32 bits. -/
def ofSingle (bits : UInt32) : Double :=
  let negative : Bool := 2 ^ 31 ≤ bits.toNat
  let m := bits.toNat % 2 ^ 31
  let field := m / 2 ^ 23
  let fraction := m % 2 ^ 23
  if field = 255 then
    if fraction = 0 then infinity negative
    else ofMagnitude negative (BinaryFormat.double.infinity + 2 ^ 51 + fraction % 2 ^ 22 * 2 ^ 29)
  else
    let significand := if field = 0 then fraction else fraction + 2 ^ 23
    ofRatio negative (significand * 2 ^ (max field 1 - 1)) (2 ^ 149)

end Double

end SqlWorkbench
