import SqlWorkbench.Number.Shortest

/-!
# Writing floating-point numbers

The shortest digits of a number are laid out in one of two ways: with an exponent where the point
would be far from the digits, as data formats want it, or always in full, as literals want it.
-/

namespace SqlWorkbench

/-- The decisions on how the digits of a number are laid out. -/
structure NumberLayout where
  /-- Least exponent that is still written in full; none is too small if absent. -/
  leastPlain : Option Int
  /-- Least exponent that is no longer written in full; none is too large if absent. -/
  leastLarge : Option Int
  /-- An integer is written with a point and a zero. -/
  keepsPoint : Bool

/-- Data formats: an exponent from sixteen up and below minus five, and always a point in full. -/
def NumberLayout.data : NumberLayout := ⟨some (-5), some 16, true⟩

/-- Literals: never an exponent, and a point only where a fraction follows. -/
def NumberLayout.literal : NumberLayout := ⟨none, none, false⟩

namespace NumberLayout

/-- A run of zeros. -/
def zeros (n : Nat) : List Char :=
  List.replicate n '0'

/-- The digits in full, with the point `point` places after the first. -/
def plain (l : NumberLayout) (digits : List Char) (point : Int) : List Char :=
  if point ≤ 0 then '0' :: '.' :: zeros (-point).toNat ++ digits
  else
    let places := point.toNat
    if digits.length ≤ places then
      digits ++ zeros (places - digits.length) ++ (if l.keepsPoint then ['.', '0'] else [])
    else digits.take places ++ '.' :: digits.drop places

/-- The digits with an exponent. -/
def scientific (digits : List Char) (point : Int) : List Char :=
  let exponent := point - 1
  let sign := if exponent < 0 then '-' else '+'
  digits.take 1 ++ (if digits.length ≤ 1 then [] else '.' :: digits.drop 1)
    ++ ['e', sign] ++ Nat.toDigits 10 exponent.natAbs

/-- The exponent is one that is written in full. -/
def isPlain (l : NumberLayout) (exponent : Int) : Bool :=
  l.leastPlain.all (fun e => decide (e ≤ exponent)) &&
    l.leastLarge.all (fun e => decide (exponent < e))

/-- A number that is neither infinite nor undefined. -/
def finite (l : NumberLayout) (x : Double) : String :=
  let body :=
    if x.isZero then l.plain ['0'] 1
    else
      let (digits, point) := x.shortest
      if l.isPlain (point - 1) then l.plain digits point else scientific digits point
  String.ofList (if x.isNegative then '-' :: body else body)

end NumberLayout

/-- The number as data formats write it; it has to be finite. -/
def Double.dataText (x : Double) : String :=
  NumberLayout.data.finite x

/-- The number in full. -/
def Double.plainText (x : Double) : String :=
  if x.isNaN then "NaN"
  else if !x.isFinite then if x.isNegative then "-inf" else "inf"
  else NumberLayout.literal.finite x

end SqlWorkbench
