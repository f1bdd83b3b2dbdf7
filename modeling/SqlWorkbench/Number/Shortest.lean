import SqlWorkbench.Number.Double

/-!
# The shortest digits that read back

A double is written with the fewest decimal digits that round to it again. For one, two, and more
digits the two neighbours of the number on that decimal grid are tried against the interval of
reals that round to it; the first grid with a hit wins, and of two hits the nearer one.
-/

namespace SqlWorkbench

/-- A decimal number `digits * 10 ^ exponent`. -/
structure Scientific where
  digits : Nat
  exponent : Int
deriving DecidableEq

/-- The number of decimal digits of a natural number; zero has none. -/
def decimalLength (n : Nat) : Nat :=
  if n = 0 then 0 else (Nat.toDigits 10 n).length

/-- The exponent of the largest power of ten that is not above a positive quotient. -/
def decimalOrder (num den : Nat) : Int :=
  if den ≤ num then (decimalLength (num / den) : Int) - 1
  else -(decimalLength ((den + num - 1) / num - 1) : Int)

/-- The open or closed interval `low … high` around `value`, over a common denominator. -/
structure RoundingInterval where
  low : Nat
  value : Nat
  high : Nat
  den : Nat
  closed : Bool

namespace RoundingInterval

/-- The interval of reals that round to the finite nonzero number. -/
def ofDouble (x : Double) : RoundingInterval :=
  let m := x.significand
  let q := x.exponent - 2
  let below := if m = 2 ^ 52 ∧ x.exponentField > 1 then 1 else 2
  let scale := if q < 0 then 1 else 2 ^ q.toNat
  { low := (4 * m - below) * scale
    value := 4 * m * scale
    high := (4 * m + 2) * scale
    den := if q < 0 then 2 ^ (-q).toNat else 1
    closed := m % 2 == 0 }

/-- The quotient `num / den` lies in the interval. -/
def holds (r : RoundingInterval) (num den : Nat) : Bool :=
  if r.closed then r.low * den ≤ num * r.den && num * r.den ≤ r.high * den
  else r.low * den < num * r.den && num * r.den < r.high * den

/-- The nearest hit among the neighbours of the value on the grid of `10 ^ grid`. -/
def onGrid? (r : RoundingInterval) (grid : Int) : Option Nat :=
  let up := if grid < 0 then 1 else 10 ^ grid.toNat
  let down := if grid < 0 then 10 ^ (-grid).toNat else 1
  let below := r.value * down / (r.den * up)
  let above := below + 1
  let belowHits := r.holds (below * up) down
  let aboveHits := r.holds (above * up) down
  let twice := 2 * r.value * down
  let middle := (below + above) * up * r.den
  if belowHits && aboveHits then
    some (if twice < middle || (twice == middle && below % 2 == 0) then below else above)
  else if belowHits then some below
  else if aboveHits then some above
  else none

/-- The first hit with `count` digits or more, trying `fuel` grids. -/
def search (r : RoundingInterval) (order : Int) (count : Nat) : Nat → Scientific
  | 0 => ⟨0, 0⟩
  | fuel + 1 =>
    match r.onGrid? (order - count + 1) with
    | some digits => ⟨digits, order - count + 1⟩
    | none => search r order (count + 1) fuel

end RoundingInterval

/-- The digits of a natural number without the zeros at its end, and how many those are. -/
def stripZeros (n : Nat) : List Char × Nat :=
  let digits := (Nat.toDigits 10 n).reverse
  ((digits.dropWhile (· == '0')).reverse, (digits.takeWhile (· == '0')).length)

/-- The shortest digits of a finite nonzero number, and the place of the decimal point counted from
the first digit. -/
def Double.shortest (x : Double) : List Char × Int :=
  let r := RoundingInterval.ofDouble x
  let hit := r.search (decimalOrder r.value r.den) 1 18
  let (digits, zeros) := stripZeros hit.digits
  (digits, digits.length + zeros + hit.exponent)

end SqlWorkbench
