import SqlWorkbench.Json.Basic
import SqlWorkbench.Number.Hexadecimal
import SqlWorkbench.Number.Reading
import SqlWorkbench.Text.Join

/-!
# Reading structured data

The grammar is the strict one: no comments, no trailing commas, no leading zeros, no bare control
characters in texts, and nothing behind the value but blanks. Lists and objects may be nested to
a depth of 127.

A number without fraction and exponent that fits in 64 bits is an integer. Any other number takes
the leading digits that fit in 64 bits and scales them by a power of ten, which may differ from
the nearest double in the last place.
-/

namespace SqlWorkbench.Json

/-! ### Numbers -/

/-- The largest integer of 64 bits without a sign. -/
def maxInteger : Nat :=
  2 ^ 64 - 1

/-- Scale by a negative power of ten, as many steps of `10 ^ 308` as it takes. -/
def scaleDownBy (x : Double) (exponent : Nat) : Nat → Double
  | 0 => x
  | fuel + 1 =>
    if exponent ≤ 308 then x.scaleDown (Double.ofRatio false (10 ^ exponent) 1)
    else if x.isZero then x
    else scaleDownBy (x.scaleDown (Double.ofRatio false (10 ^ 308) 1)) (exponent - 308) fuel

/-- The floating-point number of the given digits and exponent, unless it is too large. -/
def scaled? (negative : Bool) (significand : Nat) (exponent : Int) : Option Double :=
  let x := Double.ofInt significand
  let size :=
    if x.isZero then some x
    else if exponent < 0 then some (scaleDownBy x exponent.natAbs 4)
    else if exponent > 308 then none
    else
      let y := x.scaleUp (Double.ofRatio false (10 ^ exponent.natAbs) 1)
      if y.isFinite then some y else none
  size.map fun y => if negative then y.neg else y

/-- Digits taken into the significand as long as it fits, their number, and what follows them. -/
def takeDigits (significand : Nat) (taken : Nat) : List Char → Nat × Nat × List Char
  | [] => (significand, taken, [])
  | c :: rest =>
    if c.isDigit && 10 * significand + digitValue c ≤ maxInteger then
      takeDigits (10 * significand + digitValue c) (taken + 1) rest
    else (significand, taken, c :: rest)

/-- The exponent part of a number, added to `exponent`. -/
def readExponent? (negative : Bool) (significand : Nat) (exponent : Int) (s : List Char) :
    Option (Double × List Char) :=
  match s with
  | c :: rest =>
    if c == 'e' || c == 'E' then
      let (down, rest) := match rest with
        | '-' :: tail => (true, tail)
        | '+' :: tail => (false, tail)
        | _ => (false, rest)
      let (digits, rest) := spanDigits rest
      if digits.isEmpty then none
      else
        let n : Int := natOfDigits digits
        (scaled? negative significand (if down then exponent - n else exponent + n)).map (·, rest)
    else (scaled? negative significand exponent).map (·, s)
  | [] => (scaled? negative significand exponent).map (·, s)

/-- The fraction of a number behind its point; digits that no longer fit are dropped. -/
def readFraction? (negative : Bool) (significand : Nat) (exponent : Int) (s : List Char) :
    Option (Double × List Char) :=
  let (significand, taken, rest) := takeDigits significand 0 s
  let dropped := rest.takeWhile Char.isDigit
  if taken = 0 ∧ dropped.isEmpty then none
  else readExponent? negative significand (exponent - taken) (rest.dropWhile Char.isDigit)

/-- A number without its sign. -/
def readUnsigned? (negative : Bool) (s : List Char) : Option (Json × List Char) :=
  match s with
  | [] => none
  | first :: _ =>
    if !first.isDigit then none
    else
      let (significand, _, rest) :=
        if first == '0' then (0, 1, s.drop 1) else takeDigits 0 0 s
      let extra := rest.takeWhile Char.isDigit
      let tail := rest.dropWhile Char.isDigit
      let asFloat (r : Option (Double × List Char)) := r.map fun p => (Json.float p.1, p.2)
      if first == '0' && !extra.isEmpty then none
      else match tail with
        | '.' :: fraction => asFloat (readFraction? negative significand extra.length fraction)
        | _ =>
          if !extra.isEmpty || tail.head? == some 'e' || tail.head? == some 'E' then
            asFloat (readExponent? negative significand extra.length tail)
          else if !negative then some (.int significand, tail)
          else if significand = 0 ∨ significand > 2 ^ 63 then
            some (.float (Double.ofRatio true significand 1), tail)
          else some (.int (-significand), tail)

/-! ### Texts -/

/-- Four hexadecimal digits. -/
def readHex? (s : List Char) : Option (Nat × List Char) :=
  let digits := s.take 4
  if digits.length < 4 then none else (Hexadecimal.natOf? digits).map (·, s.drop 4)

/-- The character named by an escape in front of the text, the backslash already read. -/
def readEscape? : List Char → Option (Char × List Char)
  | 'u' :: rest => do
    let (high, rest) ← readHex? rest
    if 0xDC00 ≤ high ∧ high ≤ 0xDFFF then none
    else if 0xD800 ≤ high ∧ high ≤ 0xDBFF then
      match rest with
      | '\\' :: 'u' :: rest => do
        let (low, rest) ← readHex? rest
        if 0xDC00 ≤ low ∧ low ≤ 0xDFFF then
          some (Char.ofNat (0x10000 + (high - 0xD800) * 0x400 + (low - 0xDC00)), rest)
        else none
      | _ => none
    else some (Char.ofNat high, rest)
  | c :: rest =>
    if c == '"' || c == '\\' || c == '/' then some (c, rest)
    else if c == 'b' then some ('\x08', rest)
    else if c == 'f' then some ('\x0C', rest)
    else if c == 'n' then some ('\n', rest)
    else if c == 'r' then some ('\r', rest)
    else if c == 't' then some ('\t', rest)
    else none
  | [] => none

/-- The rest of a text up to its closing quote; the characters read so far are kept backwards. -/
def readText? (read : List Char) : Nat → List Char → Option (String × List Char)
  | 0, _ => none
  | _, [] => none
  | fuel + 1, c :: rest =>
    if c == '"' then some (String.ofList read.reverse, rest)
    else if c == '\\' then
      match readEscape? rest with
      | some (c, rest) => readText? (c :: read) fuel rest
      | none => none
    else if c.toNat < 32 then none
    else readText? (c :: read) fuel rest

/-! ### Values -/

/-- The blanks that may stand between tokens. -/
def isSpace (c : Char) : Bool :=
  c == ' ' || c == '\n' || c == '\t' || c == '\r'

/-- Without the blanks in front. -/
def skipSpace (s : List Char) : List Char :=
  s.dropWhile isSpace

/-- A word that stands for a value. -/
def readWord? (s : List Char) : Option (Json × List Char) :=
  match s with
  | 'n' :: 'u' :: 'l' :: 'l' :: rest => some (.null, rest)
  | 't' :: 'r' :: 'u' :: 'e' :: rest => some (.bool true, rest)
  | 'f' :: 'a' :: 'l' :: 's' :: 'e' :: rest => some (.bool false, rest)
  | _ => none

mutual

/-- A value in front of the text, nested at most `depth` levels; every call spends fuel. -/
def readValue? : Nat → Nat → List Char → Option (Json × List Char)
  | 0, _, _ => none
  | fuel + 1, depth, s =>
    match skipSpace s with
    | '"' :: rest => (readText? [] (rest.length + 1) rest).map fun p => (.string p.1, p.2)
    | '-' :: rest => readUnsigned? true rest
    | '[' :: rest =>
      if depth ≤ 1 then none
      else match skipSpace rest with
        | ']' :: rest => some (.array [], rest)
        | rest => (readItems? fuel (depth - 1) rest).map fun p => (.array p.1, p.2)
    | '\x7b' :: rest =>
      if depth ≤ 1 then none
      else match skipSpace rest with
        | '\x7d' :: rest => some (.object [], rest)
        | rest => (readMembers? fuel (depth - 1) rest).map fun p => (.object p.1, p.2)
    | c :: rest => if c.isDigit then readUnsigned? false (c :: rest) else readWord? (c :: rest)
    | [] => none

/-- The items of a list, at least one, up to the closing bracket. -/
def readItems? : Nat → Nat → List Char → Option (List Json × List Char)
  | 0, _, _ => none
  | fuel + 1, depth, s =>
    match readValue? fuel depth s with
    | none => none
    | some (item, rest) =>
      match skipSpace rest with
      | ',' :: rest => (readItems? fuel depth rest).map fun p => (item :: p.1, p.2)
      | ']' :: rest => some ([item], rest)
      | _ => none

/-- The members of an object, at least one, up to the closing brace. -/
def readMembers? : Nat → Nat → List Char → Option (List (String × Json) × List Char)
  | 0, _, _ => none
  | fuel + 1, depth, s =>
    match skipSpace s with
    | '"' :: rest =>
      match readText? [] (rest.length + 1) rest with
      | none => none
      | some (name, rest) =>
        match skipSpace rest with
        | ':' :: rest =>
          match readValue? fuel depth rest with
          | none => none
          | some (value, rest) =>
            match skipSpace rest with
            | ',' :: rest => (readMembers? fuel depth rest).map fun p => ((name, value) :: p.1, p.2)
            | '\x7d' :: rest => some ([(name, value)], rest)
            | _ => none
        | _ => none
    | _ => none

end

/-- The value that a text spells; repeated members of an object are all kept. -/
def readRaw? (s : String) : Option Json :=
  let cs := s.toList
  match readValue? (2 * cs.length + 2) 128 cs with
  | some (j, rest) => if (skipSpace rest).isEmpty then some j else none
  | none => none

/-- The value that a text spells. -/
def read? (s : String) : Option Json :=
  (readRaw? s).map normalize

end SqlWorkbench.Json
