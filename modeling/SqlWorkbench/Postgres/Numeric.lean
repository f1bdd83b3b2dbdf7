import SqlWorkbench.Binary.Bytes
import SqlWorkbench.Number.Decimal

/-!
# Decimals on the wire

A decimal travels as its digits to the base of ten thousand, with the weight of the first one, a
sign and the number of decimal places that are shown.
-/

namespace SqlWorkbench.Postgres.Numeric

/-- The base of the digits. -/
def base : Nat :=
  10000

/-- The parts of a decimal on the wire. -/
structure Parts where
  /-- The power of the base that the first digit stands at. -/
  weight : Int
  negative : Bool
  /-- The number of decimal places that are shown. -/
  places : Nat
  digits : List Nat

/-! ### Writing -/

/-- The digits of a number to the base, the lowest one first. -/
def lowDigits (n : Nat) : List Nat :=
  if h : n = 0 then []
  else
    have : n / base < n := Nat.div_lt_self (Nat.pos_of_ne_zero h) (by decide)
    n % base :: lowDigits (n / base)

/-- Digits of the fraction that are zero up to the end are left out. -/
def dropTrailingZeros (weight : Int) (digits : List Nat) : List Nat :=
  if weight < 0 then digits
  else
    let whole := digits.take (weight + 1).toNat
    let fraction := digits.drop (weight + 1).toNat
    whole ++ (fraction.reverse.dropWhile (· == 0)).reverse

/-- The parts of a decimal. -/
def ofDecimal (d : Decimal) : Parts :=
  if d.mantissa = 0 then ⟨0, false, 0, []⟩
  else
    let groups := (d.scale + 3) / 4
    let digits := (lowDigits (d.mantissa * 10 ^ (4 * groups - d.scale))).reverse
    let weight : Int := digits.length - groups - 1
    ⟨weight, d.negative, d.scale, dropTrailingZeros weight digits⟩

/-- The parts as bytes. -/
def Parts.toBytes (p : Parts) : Bytes :=
  Bytes.ofNat 2 p.digits.length ++ Bytes.ofInt 2 p.weight
    ++ Bytes.ofNat 2 (if p.negative then 0x4000 else 0) ++ Bytes.ofNat 2 p.places
    ++ p.digits.flatMap (Bytes.ofNat 2)

/-! ### Reading -/

/-- Digits of two bytes each, as many as given. -/
def readDigits? : Nat → Bytes → Option (List Nat)
  | 0, _ => some []
  | count + 1, bytes => do
    let (digit, rest) ← Bytes.readNat? 2 bytes
    some (digit :: (← readDigits? count rest))

/-- The parts in a run of bytes; bytes behind them are passed over. -/
def Parts.ofBytes? (bytes : Bytes) : Option Parts := do
  let (count, bytes) ← Bytes.readNat? 2 bytes
  let (weight, bytes) ← Bytes.readInt? 2 bytes
  let (sign, bytes) ← Bytes.readNat? 2 bytes
  let (places, bytes) ← Bytes.readNat? 2 bytes
  let digits ← readDigits? count bytes
  some ⟨weight, sign == 0x4000, places, digits⟩

/-- The number that digits before the point spell, if it stays within the room of a decimal. -/
def wholeOf? (digits : List Nat) : Option Nat :=
  digits.foldlM (fun n digit =>
    let next := n * base + digit
    if Decimal.isRoomy next then some next else none) 0

/-- A quotient by a power of ten in lowest terms of ten. -/
def reduce : Nat → Nat → Nat × Nat
  | n, 0 => (n, 0)
  | n, scale + 1 => if n % 10 = 0 then reduce (n / 10) scale else (n, scale + 1)

/-- Places are dropped until the digits fit, ties going to the even digit. -/
def fitPlaces? : Nat → Nat → Nat → Option (Nat × Nat)
  | 0, n, dropped => if Decimal.isRoomy (roundEven n (10 ^ dropped)) then
      some (roundEven n (10 ^ dropped), 0) else none
  | scale + 1, n, dropped =>
    if Decimal.isRoomy (roundEven n (10 ^ dropped)) then
      some (roundEven n (10 ^ dropped), scale + 1)
    else fitPlaces? scale n (dropped + 1)

/-- The sum of two numbers with decimal places. -/
def add? (a b : Nat × Nat) : Option (Nat × Nat) :=
  let scale := max a.2 b.2
  fitPlaces? scale (a.1 * 10 ^ (scale - a.2) + b.1 * 10 ^ (scale - b.2)) 0

/-- Digits behind the point are added, the first one with the given number of decimal places. Of
those beyond the largest number of places only the first counts, by which the sum is rounded. -/
def addFraction? (sum : Nat × Nat) (places : Nat) : List Nat → Option (Nat × Nat)
  | [] => some sum
  | digit :: rest =>
    let sum? :=
      if places ≤ Decimal.maxScale then add? sum (reduce digit places)
      else if places = Decimal.maxScale + 4 ∧ digit ≥ 5000 then add? sum (1, Decimal.maxScale)
      else some sum
    sum?.bind fun sum => addFraction? sum (places + 4) rest

/-- The decimal that the parts stand for, with the places that are shown. -/
def Parts.toDecimal? (p : Parts) : Option Decimal := do
  let count := (p.weight + 1).toNat
  let whole ← wholeOf? (p.digits.take count)
  let factor := base ^ (count - p.digits.length)
  let whole ← if Decimal.isRoomy factor ∧ Decimal.isRoomy (whole * factor) then
    some (whole * factor) else none
  let places := 4 * ((-p.weight - 1).toNat + 1)
  let (mantissa, scale) ← addFraction? (whole, 0) places (p.digits.drop count)
  let d ← Decimal.ofParts? p.negative mantissa scale
  d.rescale? p.places

end SqlWorkbench.Postgres.Numeric
