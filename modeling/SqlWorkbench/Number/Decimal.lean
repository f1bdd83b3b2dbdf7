import SqlWorkbench.Number.Reading

/-!
# Decimals

A decimal is an integer of at most 96 bits with a number of decimal places, at most 28. Digits
that do not fit are rounded away where they stand behind the point; before it they are refused.
-/

namespace SqlWorkbench

/-- A decimal number. -/
structure Decimal where
  negative : Bool
  mantissa : Nat
  /-- The number of digits behind the point. -/
  scale : Nat
  fits : mantissa < 2 ^ 96 ∧ scale ≤ 28
deriving DecidableEq

namespace Decimal

/-- The largest number of decimal places. -/
def maxScale : Nat :=
  28

/-- The digits fit in a decimal. -/
def isRoomy (mantissa : Nat) : Bool :=
  mantissa < 2 ^ 96

/-- The decimal with the given parts, if they fit. -/
def ofParts? (negative : Bool) (mantissa scale : Nat) : Option Decimal :=
  if h : mantissa < 2 ^ 96 ∧ scale ≤ 28 then some ⟨negative, mantissa, scale, h⟩ else none

/-- The decimal with the given parts; zero has no sign. -/
def ofRead? (negative : Bool) (mantissa scale : Nat) : Option Decimal :=
  ofParts? (negative && mantissa != 0) mantissa scale

/-- An integer as a decimal. -/
def ofInt? (i : Int) : Option Decimal :=
  ofParts? (i < 0) i.natAbs 0

/-- A decimal as text, with all its decimal places. -/
def text (d : Decimal) : String :=
  let digits := Nat.toDigits 10 d.mantissa
  let padded := List.replicate (d.scale + 1 - digits.length) '0' ++ digits
  let whole := padded.take (padded.length - d.scale)
  let fraction := padded.drop (padded.length - d.scale)
  String.ofList ((if d.negative then ['-'] else []) ++ whole
    ++ if d.scale = 0 then [] else '.' :: fraction)

/-! ### Rounding -/

/-- The quotient by ten, rounded by the last digit, five and above going up. -/
def dropDigit (n : Nat) : Nat :=
  n / 10 + if n % 10 ≥ 5 then 1 else 0

/-- The quotient by a power of ten, rounded by the highest digit that is dropped. -/
def dropDigits : Nat → Nat → Nat
  | 0, n => n
  | count + 1, n => dropDigit (n / 10 ^ count)

/-- Zeros behind the last digit, as many as fit up to the given number. -/
def appendZeros : Nat → Nat → Nat × Nat
  | 0, n => (n, 0)
  | count + 1, n =>
    if isRoomy (10 * n) then
      let (m, added) := appendZeros count (10 * n)
      (m, added + 1)
    else (n, 0)

/-- The decimal with another number of decimal places, rounded where places are lost. -/
def rescale? (scale : Nat) (d : Decimal) : Option Decimal :=
  if d.mantissa = 0 then ofParts? d.negative 0 (min scale maxScale)
  else if scale < d.scale then
    ofParts? d.negative (dropDigits (d.scale - scale) d.mantissa) scale
  else
    let (mantissa, added) := appendZeros (min scale maxScale - d.scale) d.mantissa
    ofParts? d.negative mantissa (d.scale + added)

/-! ### Reading -/

/-- The digits read so far. -/
structure Reading where
  mantissa : Nat := 0
  scale : Nat := 0
  /-- The point has been read. -/
  point : Bool := false
  /-- At least one digit has been read. -/
  started : Bool := false

/-- The reading is cut off before the next character, which decides whether it is rounded up. What
follows that character does not count. -/
def Reading.cutOff? (r : Reading) (next : Char) : Option (Nat × Nat) :=
  let up? : Option Bool :=
    if next.isDigit then some (digitValue next ≥ 5)
    else if next == '_' || next == '.' then some false
    else none
  match up? with
  | none => none
  | some false => some (r.mantissa, r.scale)
  | some true =>
    if isRoomy (r.mantissa + 1) then some (r.mantissa + 1, r.scale)
    else if r.scale = 0 then none
    else some ((r.mantissa + 5) / 10, r.scale - 1)

/-- Read digits with at most one point; digits may be set apart by underscores. -/
def readDigits? (r : Reading) : List Char → Option (Nat × Nat)
  | [] => if r.started then some (r.mantissa, r.scale) else none
  | c :: rest =>
    if c.isDigit then
      let mantissa := 10 * r.mantissa + digitValue c
      if !isRoomy mantissa then if r.point then r.cutOff? c else none
      else
        let r : Reading :=
          { mantissa, scale := if r.point then r.scale + 1 else 0, point := r.point,
            started := true }
        match rest with
        | next :: _ =>
          if r.point && maxScale ≤ r.scale then r.cutOff? next else readDigits? r rest
        | [] => some (r.mantissa, r.scale)
    else if c == '.' && !r.point then readDigits? { r with point := true } rest
    else if c == '_' && r.started then readDigits? r rest
    else none

/-- A decimal without an exponent. -/
def readPlain? (s : List Char) : Option Decimal :=
  let (negative, body) := match s with
    | '-' :: rest => (true, rest)
    | '+' :: rest => (false, rest)
    | _ => (false, s)
  (readDigits? {} body).bind fun p => ofRead? negative p.1 p.2

/-- The digits of an exponent of 32 bits, which may have a plus in front. -/
def readExponent? (s : List Char) : Option Nat :=
  match s with
  | '-' :: _ => none
  | _ => (readInt? s).bind fun i => if i < 2 ^ 32 then some i.toNat else none

/-- The decimal moved so many places to the right of the point. -/
def shiftDown? (d : Decimal) (places : Nat) : Option Decimal :=
  if maxScale < places then none
  else if d.scale + places ≤ maxScale then ofParts? d.negative d.mantissa (d.scale + places)
  else
    (d.rescale? (maxScale - places)).bind fun r => ofParts? r.negative r.mantissa maxScale

/-- The decimal moved so many places to the left of the point. -/
def shiftUp? (d : Decimal) (places : Nat) : Option Decimal :=
  if places ≤ d.scale then ofParts? d.negative d.mantissa (d.scale - places)
  else if maxScale < places then none
  else ofParts? d.negative (d.mantissa * 10 ^ (places - d.scale)) 0

/-- A decimal with an exponent. -/
def readScientific? (s : List Char) : Option Decimal :=
  let isMark (c : Char) : Bool := c == 'e' || c == 'E'
  match s.dropWhile (!isMark ·) with
  | [] => none
  | _ :: exponent =>
    (readPlain? (s.takeWhile (!isMark ·))).bind fun d =>
      match exponent with
      | '-' :: digits => (readExponent? digits).bind d.shiftDown?
      | digits => (readExponent? digits).bind d.shiftUp?

/-- A decimal with or without an exponent. -/
def read? (s : List Char) : Option Decimal :=
  (readPlain? s).or (readScientific? s)

/-! ### Floating-point numbers -/

/-- Multiply by five for each halving of the unit; halve where the digits are even or full. The
second component is the power of ten that is still to be applied. -/
def timesFives : Nat → Nat → Int → Nat × Int
  | 0, bits, exponent => (bits, exponent)
  | count + 1, bits, exponent =>
    if bits % 2 = 0 then timesFives count (bits / 2) (exponent + 1)
    else if isRoomy (5 * bits) then timesFives count (5 * bits) exponent
    else timesFives count (bits / 2) (exponent + 1)

/-- Double for each doubling of the unit; divide by five where the digits are full. -/
def timesTwos : Nat → Nat → Int → Nat × Int
  | 0, bits, exponent => (bits, exponent)
  | count + 1, bits, exponent =>
    if bits < 2 ^ 95 then timesTwos count (2 * bits) (exponent - 1)
    else timesTwos count (bits / 5) exponent

/-- Multiply by ten as often as given, if the digits stay within their room. -/
def timesTens? : Nat → Nat → Option Nat
  | 0, bits => some bits
  | count + 1, bits => if isRoomy (10 * bits) then timesTens? count (10 * bits) else none

/-- Drop digits beyond the largest number of places; if none is left, so is no place. -/
def dropPlaces : Nat → Nat → Nat → Nat × Nat
  | 0, bits, scale => (bits, scale)
  | count + 1, bits, scale =>
    if bits / 10 = 0 then (0, 0) else dropPlaces count (dropDigit bits) (scale - 1)

/-- Drop places until the digits are within 52 bits, which a floating-point number vouches for. -/
def dropUncertain : Nat → Nat → Nat × Nat
  | 0, bits => (bits, 0)
  | scale + 1, bits =>
    if 2 ^ 52 ≤ bits then dropUncertain scale (dropDigit bits) else (bits, scale + 1)

/-- Drop zeros behind the last digit of the fraction. -/
def dropZeros : Nat → Nat → Nat × Nat
  | 0, bits => (bits, 0)
  | scale + 1, bits => if bits % 10 = 0 then dropZeros scale (bits / 10) else (bits, scale + 1)

/-- The decimal that a floating-point number stands for to 15 or 16 digits. -/
def ofDouble? (x : Double) : Option Decimal :=
  if !x.isFinite then none
  else if x.isZero then ofParts? x.isNegative 0 0
  else
    let (bits, exponent) :=
      if x.exponent < 0 then timesFives (-x.exponent).toNat x.significand x.exponent
      else timesTwos x.exponent.toNat x.significand x.exponent
    (timesTens? exponent.toNat bits).bind fun bits =>
      let scale := (-exponent).toNat
      let (bits, scale) := dropPlaces (scale - maxScale) bits scale
      let (bits, scale) := dropUncertain scale bits
      let (bits, scale) := dropZeros scale bits
      ofParts? x.isNegative bits scale

end Decimal

end SqlWorkbench
