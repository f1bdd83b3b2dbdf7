import SqlWorkbench.Calendar.Printer
import SqlWorkbench.Calendar.Reader
import SqlWorkbench.Dialect
import SqlWorkbench.Json.Printer

/-!
# Data

A datum is an operand of a filter, a parameter of a query or a value of an assignment. It is read
from structured data, shown as plain text, and written as a literal of a dialect.
-/

namespace SqlWorkbench

/-- An operand, parameter or value. -/
inductive Datum where
  | null
  | bool (value : Bool)
  | int (value : Int)
  | float (value : Double)
  | text (value : String)
  | date (value : Date)
  | moment (value : Moment)
  | json (value : Json)
deriving Inhabited

/-- One row of a result: its cells under the names of their columns. -/
abbrev Row := List (String × Json)

namespace Datum

/-- The datum stands for no value. -/
def isNull : Datum → Bool
  | null => true
  | _ => false

/-- The datum as plain text. -/
def display : Datum → String
  | null => "NULL"
  | bool b => if b then "true" else "false"
  | int i => toString i
  | float x => x.plainText
  | text s => s
  | date d => d.text
  | moment m => m.millisText
  | json j => j.compact

/-- Texts lose the blanks around them; all else stays. -/
def trimmed : Datum → Datum
  | text s => text (String.ofList (Text.trim s.toList))
  | d => d

/-! ### Structured data -/

/-- An integer of structured data: one beyond 64 signed bits becomes a floating-point number. -/
def ofInteger (i : Int) : Datum :=
  if -2 ^ 63 ≤ i ∧ i < 2 ^ 63 then int i else float (Double.ofInt i)

/-- The datum that structured data stands for; texts are never read as dates. -/
def ofJson : Json → Datum
  | .null => null
  | .bool b => bool b
  | .int i => ofInteger i
  | .float x => float x
  | .string s => text s
  | j => json j

/-- The structured data that a datum becomes in generated code and bound parameters. -/
def toJson : Datum → Json
  | null => .null
  | bool b => .bool b
  | int i => .int i
  | float x => if x.isFinite then .float x else .null
  | json j => j
  | d => .string d.display

/-- The structured data that a datum is stored as; moments keep all digits of their fraction. -/
def stored : Datum → Json
  | date d => .string d.text
  | moment m => .string m.zonedText
  | text s => .string s
  | d => d.toJson

/-- A datum written with a tag: dates, moments, any number and any structured data, which plain
structured data cannot tell apart from texts and numbers. -/
def ofTagged? : Json → Option Datum
  | .object [("$date", .string s)] => (Date.readSpaced? s.toList).map date
  | .object [("$date", _)] => none
  | .object [("$datetime", .string s)] => (Moment.readZoned? s.toList).map moment
  | .object [("$datetime", _)] => none
  | .object [("$float", .string s)] => (Double.read? s.toList).map float
  | .object [("$float", _)] => none
  | .object [("$json", j)] => some (json j)
  | j => some (ofJson j)

end Datum

/-! ### Literals -/

/-- The text has the shape of a date, or of a date with a time. -/
def looksLikeDate (s : List Char) : Bool :=
  (Date.read? s).isSome || (Moment.readZoned? s).isSome || (Moment.readPlain? s).isSome

namespace Dialect

/-- A quoted text that is to be read as a moment. -/
def momentLiteral (d : Dialect) (s : String) : String :=
  if d = clickhouse then "parseDateTime64BestEffort(" ++ d.quoteText s ++ ")" else d.quoteText s

/-- A datum as a literal of the dialect. -/
def literal (d : Dialect) : Datum → String
  | .null => "NULL"
  | .bool b =>
    if d = mssql then if b then "1" else "0"
    else if b then "TRUE" else "FALSE"
  | .int i => toString i
  | .float x => if x.isFinite then x.plainText else "NULL"
  | .text s => if looksLikeDate s.toList then d.momentLiteral s else d.quoteText s
  | .date t => d.momentLiteral (Datum.date t).display
  | .moment t => d.momentLiteral (Datum.moment t).display
  | .json j => d.quoteText j.compact

end Dialect

end SqlWorkbench
