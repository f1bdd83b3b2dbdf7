import SqlWorkbench.Number.Double

/-!
# Reading numbers

A decimal text is split into sign, digits, fraction and exponent, and is then rounded once. Words
for infinity and for what is no number are read as well, in any case of their letters.
-/

namespace SqlWorkbench

/-- The value of a digit. -/
def digitValue (c : Char) : Nat :=
  c.toNat - 48

/-- The number that a run of digits spells. -/
def natOfDigits (digits : List Char) : Nat :=
  digits.foldl (fun n c => 10 * n + digitValue c) 0

@[simp] theorem natOfDigits_nil : natOfDigits [] = 0 := rfl

/-- The digits in front of a text, and what follows them. -/
def spanDigits (s : List Char) : List Char × List Char :=
  (s.takeWhile Char.isDigit, s.dropWhile Char.isDigit)

/-- An integer: a sign or none, then digits only, at least one. -/
def readInt? (s : List Char) : Option Int :=
  let (negative, body) := match s with
    | '-' :: rest => (true, rest)
    | '+' :: rest => (false, rest)
    | _ => (false, s)
  if body.isEmpty || !body.all Char.isDigit then none
  else
    let n : Int := natOfDigits body
    some (if negative then -n else n)

/-- An integer that fits in 64 signed bits. -/
def readInt64? (s : List Char) : Option Int :=
  (readInt? s).filter fun i => decide (-2 ^ 63 ≤ i ∧ i < 2 ^ 63)

/-- An exponent of a decimal: digits after an optional sign, or nothing at all. -/
def readExponent? : List Char → Option Int
  | [] => some 0
  | c :: rest => if c == 'e' || c == 'E' then readInt? rest else none

/-- An unsigned decimal: digits with at most one point, at least one digit, then an exponent. -/
def readDecimal? (negative : Bool) (s : List Char) : Option Double :=
  let (whole, rest) := spanDigits s
  let (fraction, rest) := match rest with
    | '.' :: tail => spanDigits tail
    | _ => ([], rest)
  if whole.isEmpty && fraction.isEmpty then none
  else
    (readExponent? rest).map fun exponent =>
      Double.ofDecimal negative (natOfDigits (whole ++ fraction)) (exponent - fraction.length)

/-- A floating-point number with an optional sign. -/
def Double.read? (s : List Char) : Option Double :=
  let (negative, body) := match s with
    | '-' :: rest => (true, rest)
    | '+' :: rest => (false, rest)
    | _ => (false, s)
  let word := body.map Char.toLower
  if word == ['n', 'a', 'n'] then some (Double.nan negative)
  else if word == ['i', 'n', 'f'] || word == ['i', 'n', 'f', 'i', 'n', 'i', 't', 'y'] then
    some (Double.infinity negative)
  else readDecimal? negative body

end SqlWorkbench
