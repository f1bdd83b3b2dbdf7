import SqlWorkbench.Calendar.Date
import SqlWorkbench.Number.Hexadecimal
import SqlWorkbench.Number.Reading
import SqlWorkbench.Toml.Basic

/-!
# Numbers, dates and times in TOML

Between two digits of a number one underscore may stand. An integer has 64 bits with a sign and no
leading zeros; without a sign it may also be written in base sixteen, eight or two. A number with a
fraction or an exponent is a floating-point number, and must not be too large for one.

Four digits and a hyphen begin a date, two digits and a colon a time.
-/

namespace SqlWorkbench.Toml

/-! ### Dates and times -/

/-- A number with exactly as many digits as given. -/
def readFixed? (width : Nat) (s : List Char) : Option (Nat × List Char) :=
  let digits := s.take width
  if digits.length = width ∧ digits.all Char.isDigit then
    some (natOfDigits digits, s.drop width)
  else none

/-- What follows a character. -/
def after? (c : Char) : List Char → Option (List Char)
  | d :: rest => if c = d then some rest else none
  | [] => none

/-- The text begins with a date. -/
def beginsWithDate (s : List Char) : Bool :=
  match readFixed? 4 s with
  | some (_, '-' :: _) => true
  | _ => false

/-- The text begins with a time. -/
def beginsWithTime (s : List Char) : Bool :=
  match readFixed? 2 s with
  | some (_, ':' :: _) => true
  | _ => false

/-- What follows a date. -/
def afterDate? (s : List Char) : Option (List Char) := do
  let (year, s) ← readFixed? 4 s
  let (month, s) ← readFixed? 2 (← after? '-' s)
  let (day, s) ← readFixed? 2 (← after? '-' s)
  (Date.ofParts? year month day).map fun _ => s

/-- What follows an hour and a minute. -/
def afterMinute? (s : List Char) : Option (List Char) := do
  let (hour, s) ← readFixed? 2 s
  let (minute, s) ← readFixed? 2 (← after? ':' s)
  if hour ≤ 23 ∧ minute ≤ 59 then some s else none

/-- What follows a time with seconds and, perhaps, a fraction of them. -/
def afterTime? (s : List Char) : Option (List Char) := do
  let s ← afterMinute? s
  let (second, s) ← readFixed? 2 (← after? ':' s)
  if 60 < second then none
  else
    match s with
    | '.' :: d :: rest => some (if d.isDigit then rest.dropWhile Char.isDigit else s)
    | _ => some s

/-- What follows the distance to universal time, if one is given. -/
def afterOffset? : List Char → Option (List Char)
  | [] => some []
  | c :: rest =>
    if c == 'Z' || c == 'z' then some rest
    else if c == '+' || c == '-' then afterMinute? rest
    else some (c :: rest)

/-- What follows a date and, perhaps, a time behind it. -/
def afterDateTime? (s : List Char) : Option (List Char) := do
  let s ← afterDate? s
  match s with
  | c :: rest =>
    if (c == 'T' || c == 't' || c == ' ') && beginsWithTime rest then
      afterOffset? (← afterTime? rest)
    else some s
  | [] => some s

/-! ### Numbers -/

/-- The digits in front of the text, of which `p` tells, and what follows them; an underscore has
a digit on both sides. -/
def readDigits? (p : Char → Bool) : List Char → Option (List Char × List Char)
  | [] => none
  | [c] => if p c then some ([c], []) else none
  | c :: d :: rest =>
    if !p c then none
    else if d == '_' then (readDigits? p rest).map fun q => (c :: q.1, q.2)
    else if p d then (readDigits? p (d :: rest)).map fun q => (c :: q.1, q.2)
    else some ([c], d :: rest)

/-- An integer, if it fits in 64 bits. -/
def ofInteger? (i : Int) : Option Toml :=
  if -2 ^ 63 ≤ i ∧ i < 2 ^ 63 then some (.integer i) else none

/-- An integer in another base. -/
def readInBase? (base : Nat) (s : List Char) : Option (Toml × List Char) := do
  let isDigit (c : Char) := (Hexadecimal.value? c).any (· < base)
  let (digits, s) ← readDigits? isDigit s
  let values ← digits.mapM Hexadecimal.value?
  let i ← ofInteger? (values.foldl (fun n v => base * n + v) 0 : Nat)
  some (i, s)

/-- The sign in front of a text, and what follows it. -/
def readSign : List Char → List Char × List Char
  | '+' :: rest => (['+'], rest)
  | '-' :: rest => (['-'], rest)
  | s => ([], s)

/-- The digits in front of a point or an exponent, without leading zeros. -/
def readWhole? : List Char → Option (List Char × List Char)
  | '0' :: rest => some (['0'], rest)
  | s => readDigits? Char.isDigit s

/-- A point and the digits behind it, or nothing. -/
def readFraction? : List Char → Option (List Char × List Char)
  | '.' :: rest => (readDigits? Char.isDigit rest).map fun p => ('.' :: p.1, p.2)
  | s => some ([], s)

/-- An exponent, or nothing. -/
def readExponent? : List Char → Option (List Char × List Char)
  | [] => some ([], [])
  | c :: rest =>
    if c == 'e' || c == 'E' then
      let (sign, rest) := readSign rest
      (readDigits? Char.isDigit rest).map fun p => ('e' :: sign ++ p.1, p.2)
    else some ([], c :: rest)

/-- A number in base ten. -/
def readDecimal? (s : List Char) : Option (Toml × List Char) := do
  let (sign, s) := readSign s
  match s with
  | 'i' :: 'n' :: 'f' :: rest => some (.float (Double.infinity (sign == ['-'])), rest)
  | 'n' :: 'a' :: 'n' :: rest => some (.float (Double.nan (sign == ['-'])), rest)
  | _ =>
    let (whole, s) ← readWhole? s
    let (fraction, s) ← readFraction? s
    let (exponent, s) ← readExponent? s
    if fraction.isEmpty && exponent.isEmpty then
      let i ← readInt? (sign ++ whole)
      (ofInteger? i).map (·, s)
    else
      let x ← Double.read? (sign ++ whole ++ fraction ++ exponent)
      if sign != ['-'] && !x.isFinite then none else some (.float x, s)

/-- A number, date or time. -/
def readNumber? (s : List Char) : Option (Toml × List Char) :=
  let asWritten (rest : List Char) : Toml × List Char :=
    (.moment (String.ofList (s.take (s.length - rest.length))), rest)
  if beginsWithDate s then (afterDateTime? s).map asWritten
  else if beginsWithTime s then (afterTime? s).map asWritten
  else
    match s with
    | '0' :: 'x' :: rest => readInBase? 16 rest
    | '0' :: 'o' :: rest => readInBase? 8 rest
    | '0' :: 'b' :: rest => readInBase? 2 rest
    | _ => readDecimal? s

end SqlWorkbench.Toml
