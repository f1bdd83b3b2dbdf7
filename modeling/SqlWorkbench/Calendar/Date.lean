/-!
# Dates and times of day

Dates of the Gregorian calendar, extended to all years, between two far limits. A moment is a date
with a time of day; a leap second is written into the nanoseconds, which may therefore reach two
whole seconds.
-/

namespace SqlWorkbench

/-! ### Dates -/

/-- A year with 366 days. -/
def isLeapYear (year : Int) : Bool :=
  year % 4 == 0 && (year % 100 != 0 || year % 400 == 0)

/-- The number of days of a month. -/
def daysInMonth (year : Int) (month : Nat) : Nat :=
  if month = 2 then if isLeapYear year then 29 else 28
  else if month = 4 ∨ month = 6 ∨ month = 9 ∨ month = 11 then 30
  else 31

/-- The parts of a date name a day within the limits of the calendar. -/
def IsDate (year : Int) (month day : Nat) : Prop :=
  -262143 ≤ year ∧ year ≤ 262142 ∧ 1 ≤ month ∧ month ≤ 12 ∧ 1 ≤ day ∧ day ≤ daysInMonth year month

instance (year : Int) (month day : Nat) : Decidable (IsDate year month day) := by
  unfold IsDate
  infer_instance

/-- A day of the calendar. -/
structure Date where
  year : Int
  month : Nat
  day : Nat
  isDate : IsDate year month day
deriving DecidableEq

namespace Date

/-- The day with the given parts, if there is one. -/
def ofParts? (year : Int) (month day : Nat) : Option Date :=
  if h : IsDate year month day then some ⟨year, month, day, h⟩ else none

/-- Days since the first of January 1970. -/
def toDays (d : Date) : Int :=
  let y := if d.month ≤ 2 then d.year - 1 else d.year
  let era := y / 400
  let yearOfEra := y % 400
  let m : Int := if d.month ≤ 2 then d.month + 9 else d.month - 3
  let dayOfYear := (153 * m + 2) / 5 + d.day - 1
  era * 146097 + yearOfEra * 365 + yearOfEra / 4 - yearOfEra / 100 + dayOfYear - 719468

/-- The day that is so many days after the first of January 1970. -/
def ofDays? (days : Int) : Option Date :=
  let z := days + 719468
  let era := z / 146097
  let dayOfEra := z % 146097
  let yearOfEra := (dayOfEra - dayOfEra / 1460 + dayOfEra / 36524 - dayOfEra / 146096) / 365
  let dayOfYear := dayOfEra - (365 * yearOfEra + yearOfEra / 4 - yearOfEra / 100)
  let m := (5 * dayOfYear + 2) / 153
  let day := dayOfYear - (153 * m + 2) / 5 + 1
  let month := if m < 10 then m + 3 else m - 9
  let year := yearOfEra + era * 400 + (if month ≤ 2 then 1 else 0)
  ofParts? year month.toNat day.toNat

end Date

/-! ### Times -/

/-- A time of day to the nanosecond. -/
structure TimeOfDay where
  /-- Seconds since midnight. -/
  seconds : Nat
  /-- Nanoseconds, a leap second included. -/
  nanos : Nat
deriving DecidableEq

/-- The first moment of a day. -/
def TimeOfDay.midnight : TimeOfDay := ⟨0, 0⟩

/-- A date with a time of day. -/
structure Moment where
  date : Date
  time : TimeOfDay
deriving DecidableEq

namespace Moment

/-- The moment so many seconds earlier, if the calendar reaches that far. -/
def minusSeconds? (m : Moment) (seconds : Int) : Option Moment :=
  let total : Int := m.time.seconds - seconds
  (Date.ofDays? (m.date.toDays + total / 86400)).map fun date =>
    ⟨date, ⟨(total % 86400).toNat, m.time.nanos⟩⟩

/-- Nanoseconds since the first of January 1970. -/
def toNanos (m : Moment) : Int :=
  (m.date.toDays * 86400 + m.time.seconds) * 1000000000 + m.time.nanos

/-- The moment so many microseconds after the first of January 1970. -/
def ofMicros? (micros : Int) : Option Moment :=
  let seconds := micros / 1000000
  (Date.ofDays? (seconds / 86400)).map fun date =>
    ⟨date, ⟨(seconds % 86400).toNat, (micros % 1000000).toNat * 1000⟩⟩

end Moment

end SqlWorkbench
