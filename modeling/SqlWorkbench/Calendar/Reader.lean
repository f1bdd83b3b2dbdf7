import SqlWorkbench.Calendar.Date
import SqlWorkbench.Number.Reading
import SqlWorkbench.Text.Blank

/-!
# Reading dates and times

A pattern is a list of items that a text has to match from front to end. Numbers may have fewer
digits than usual and blanks in front of them; a year may carry a sign and then has any number of
digits.
-/

namespace SqlWorkbench

/-! ### Patterns -/

/-- One of the numbers of a date and time. -/
inductive ClockField where
  | year | month | day | hour | minute | second
deriving DecidableEq

/-- One item of a pattern. -/
inductive PatternItem where
  /-- This very character. -/
  | literal (c : Char)
  /-- Any number of blanks. -/
  | blanks
  /-- A number. -/
  | number (field : ClockField)
  /-- A point and digits, or nothing. -/
  | fraction

/-- The numbers read so far. -/
structure ClockReading where
  year : Int := 0
  month : Nat := 0
  day : Nat := 0
  hour : Nat := 0
  minute : Nat := 0
  second : Nat := 0
  nanos : Nat := 0

namespace ClockReading

/-- Enter a number. -/
def set (r : ClockReading) (field : ClockField) (n : Int) : ClockReading :=
  match field with
  | .year => { r with year := n }
  | .month => { r with month := n.toNat }
  | .day => { r with day := n.toNat }
  | .hour => { r with hour := n.toNat }
  | .minute => { r with minute := n.toNat }
  | .second => { r with second := n.toNat }

/-- The date read. -/
def date? (r : ClockReading) : Option Date :=
  Date.ofParts? r.year r.month r.day

/-- The time read; the sixtieth second is a leap second. -/
def time? (r : ClockReading) : Option TimeOfDay :=
  if r.hour ≤ 23 ∧ r.minute ≤ 59 ∧ r.second ≤ 60 then
    let leap := if r.second = 60 then 1 else 0
    some ⟨r.hour * 3600 + r.minute * 60 + r.second - leap, r.nanos + leap * 1000000000⟩
  else none

/-- The date and time read. -/
def moment? (r : ClockReading) : Option Moment := do
  let date ← r.date?
  let time ← r.time?
  some ⟨date, time⟩

end ClockReading

/-- At most `width` digits, at least one. -/
def readNumber? (width : Nat) (s : List Char) : Option (Nat × List Char) :=
  let digits := (s.take width).takeWhile Char.isDigit
  if digits.isEmpty then none else some (natOfDigits digits, s.drop digits.length)

/-- A year: with a sign any number of digits, without one at most four. -/
def readYear? : List Char → Option (Int × List Char)
  | '-' :: rest => (readNumber? rest.length rest).map fun p => (-(p.1 : Int), p.2)
  | '+' :: rest => (readNumber? rest.length rest).map fun p => ((p.1 : Int), p.2)
  | s => (readNumber? 4 s).map fun p => ((p.1 : Int), p.2)

/-- The digits behind a point as nanoseconds; those beyond the ninth are passed over. -/
def readNanos? (s : List Char) : Option (Nat × List Char) :=
  (readNumber? 9 s).map fun p =>
    let taken := s.length - p.2.length
    (p.1 * 10 ^ (9 - taken), p.2.dropWhile Char.isDigit)

/-- Match the items of a pattern one after the other. -/
def readPattern? : List PatternItem → ClockReading → List Char → Option (ClockReading × List Char)
  | [], r, s => some (r, s)
  | .literal c :: items, r, s =>
    match s with
    | d :: rest => if c = d then readPattern? items r rest else none
    | [] => none
  | .blanks :: items, r, s => readPattern? items r (Text.trimStart s)
  | .number .year :: items, r, s =>
    match readYear? (Text.trimStart s) with
    | some (n, rest) => readPattern? items (r.set .year n) rest
    | none => none
  | .number field :: items, r, s =>
    match readNumber? 2 (Text.trimStart s) with
    | some (n, rest) => readPattern? items (r.set field n) rest
    | none => none
  | .fraction :: items, r, s =>
    match s with
    | '.' :: rest =>
      match readNanos? rest with
      | some (n, rest) => readPattern? items { r with nanos := n } rest
      | none => none
    | _ => readPattern? items r s

/-- Match a pattern against a whole text. -/
def matchPattern? (items : List PatternItem) (s : List Char) : Option ClockReading :=
  match readPattern? items {} s with
  | some (r, []) => some r
  | _ => none

/-! ### Dates -/

/-- Year, month and day with hyphens. -/
def datePattern : List PatternItem :=
  [.number .year, .literal '-', .number .month, .literal '-', .number .day]

/-- A date in which blanks may also stand before the hyphens and at the end. -/
def spacedDatePattern : List PatternItem :=
  [.number .year, .blanks, .literal '-', .number .month, .blanks, .literal '-', .number .day,
    .blanks]

/-- Hour, minute and second with colons. -/
def timePattern : List PatternItem :=
  [.number .hour, .literal ':', .number .minute, .literal ':', .number .second]

/-- A date. -/
def Date.read? (s : List Char) : Option Date :=
  (matchPattern? datePattern s).bind ClockReading.date?

/-- A date with blanks allowed between its parts. -/
def Date.readSpaced? (s : List Char) : Option Date :=
  (matchPattern? spacedDatePattern s).bind ClockReading.date?

namespace Moment

/-- A date and a time separated by blanks or by nothing. -/
def readPlain? (s : List Char) : Option Moment :=
  (matchPattern? (datePattern ++ .blanks :: timePattern) s).bind ClockReading.moment?

/-- A date and a time with an optional fraction, separated by blanks or by a `T`. -/
def readPrecise? (s : List Char) : Option Moment :=
  ((matchPattern? (datePattern ++ .blanks :: timePattern ++ [.fraction]) s).bind
      ClockReading.moment?).or
    ((matchPattern? (datePattern ++ .literal 'T' :: timePattern ++ [.fraction]) s).bind
      ClockReading.moment?)

/-- The seconds by which a zone is ahead of universal time. -/
def readOffset? : List Char → Option Int
  | ['Z'] => some 0
  | ['z'] => some 0
  | [sign, h₁, h₂, ':', m₁, m₂] =>
    let negative := sign == '-' || sign == '\u2212'
    if (negative || sign == '+') && h₁.isDigit && h₂.isDigit && m₁.isDigit && m₂.isDigit then
      let minutes := natOfDigits [m₁, m₂]
      let hours := natOfDigits [h₁, h₂]
      if minutes ≤ 59 ∧ hours ≤ 23 then
        let seconds : Int := hours * 3600 + minutes * 60
        some (if negative then -seconds else seconds)
      else none
    else none
  | _ => none

/-- The number that exactly these digits spell. -/
def exactNumber? (digits : List Char) : Option Nat :=
  if digits.all Char.isDigit then some (natOfDigits digits) else none

/-- The numbers of a date and time in which each has its full width, and what follows them. -/
def readFullWidth? : List Char → Option (ClockReading × List Char)
  | y₁ :: y₂ :: y₃ :: y₄ :: '-' :: m₁ :: m₂ :: '-' :: d₁ :: d₂ :: t :: h₁ :: h₂ :: ':' :: n₁ :: n₂
      :: ':' :: s₁ :: s₂ :: rest => do
    let year ← exactNumber? [y₁, y₂, y₃, y₄]
    let month ← exactNumber? [m₁, m₂]
    let day ← exactNumber? [d₁, d₂]
    let hour ← exactNumber? [h₁, h₂]
    let minute ← exactNumber? [n₁, n₂]
    let second ← exactNumber? [s₁, s₂]
    if t == 'T' || t == 't' || t == ' ' then
      some ({ year, month, day, hour, minute, second }, rest)
    else none
  | _ => none

/-- A date and time of full width with its zone, turned into universal time. -/
def readZoned? (s : List Char) : Option Moment := do
  let (r, rest) ← readFullWidth? s
  let (r, rest) ← readPattern? [.fraction] r rest
  let offset ← readOffset? rest
  let m ← r.moment?
  m.minusSeconds? offset

end Moment

end SqlWorkbench
