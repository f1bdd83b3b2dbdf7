import SqlWorkbench.Calendar.Date

/-!
# Writing dates and times

Dates are written year, month, day with hyphens. A year outside the four-digit ones carries a
sign. The fraction of a second is left out, or has a fixed number of digits, or as many groups of
three digits as it needs.
-/

namespace SqlWorkbench

/-- A number with zeros in front up to a width. -/
def paddedNat (width n : Nat) : String :=
  let digits := Nat.toDigits 10 n
  String.ofList (List.replicate (width - digits.length) '0' ++ digits)

/-- A year: four digits, or a sign and at least four digits. -/
def yearText (year : Int) : String :=
  if 0 ≤ year ∧ year ≤ 9999 then paddedNat 4 year.toNat
  else (if year < 0 then "-" else "+") ++ paddedNat 4 year.natAbs

/-- A date as year, month and day. -/
def Date.text (d : Date) : String :=
  yearText d.year ++ "-" ++ paddedNat 2 d.month ++ "-" ++ paddedNat 2 d.day

namespace TimeOfDay

/-- Hours, minutes and seconds; a leap second counts as the sixtieth. -/
def clockText (t : TimeOfDay) : String :=
  let second := t.seconds % 60 + t.nanos / 1000000000
  paddedNat 2 (t.seconds / 3600) ++ ":" ++ paddedNat 2 (t.seconds / 60 % 60) ++ ":"
    ++ paddedNat 2 second

/-- The fraction of the second in as many groups of three digits as it needs. -/
def fractionText (t : TimeOfDay) : String :=
  let nanos := t.nanos % 1000000000
  if nanos = 0 then ""
  else if nanos % 1000000 = 0 then "." ++ paddedNat 3 (nanos / 1000000)
  else if nanos % 1000 = 0 then "." ++ paddedNat 6 (nanos / 1000)
  else "." ++ paddedNat 9 nanos

/-- The whole milliseconds of the second. -/
def millisText (t : TimeOfDay) : String :=
  "." ++ paddedNat 3 (t.nanos % 1000000000 / 1000000)

/-- The time with the fraction that it needs. -/
def text (t : TimeOfDay) : String :=
  t.clockText ++ t.fractionText

end TimeOfDay

namespace Moment

/-- Date and time with the fraction that it needs. -/
def text (m : Moment) : String :=
  m.date.text ++ "T" ++ m.time.text

/-- Date and time with whole milliseconds, in universal time. -/
def millisText (m : Moment) : String :=
  m.date.text ++ "T" ++ m.time.clockText ++ m.time.millisText ++ "Z"

/-- Date and time with the fraction that it needs, in universal time. -/
def zonedText (m : Moment) : String :=
  m.text ++ "Z"

end Moment

end SqlWorkbench
