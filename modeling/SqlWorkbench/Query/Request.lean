import SqlWorkbench.Json.Decode
import SqlWorkbench.Query.Filter

/-!
# Requests

What a user of a table wants: rows, their number, or a change. Requests are read from structured
data, in which every part may be left out.
-/

namespace SqlWorkbench

/-- An ordering by one column. -/
structure Ordering where
  column : String
  direction : Direction

/-- A new value for a column. -/
structure Assignment where
  column : String
  value : Datum

/-- Rows of a table. -/
structure SelectRequest where
  schema : Option String := none
  table : String := ""
  /-- All columns if absent or empty. -/
  columns : Option (List String) := none
  filters : List Filter := []
  connective : Connective := .and
  ordering : List Ordering := []
  limit : Option Nat := none
  offset : Option Nat := none

/-- The number of rows of a table. -/
structure CountRequest where
  schema : Option String := none
  table : String := ""
  filters : List Filter := []
  connective : Connective := .and
  /-- An estimate will not do. -/
  exact : Bool := false

/-- New values in rows of a table. -/
structure UpdateRequest where
  schema : Option String := none
  table : String := ""
  assignments : List Assignment := []
  filters : List Filter := []
  connective : Connective := .and

/-- Rows to be removed from a table. -/
structure DeleteRequest where
  schema : Option String := none
  table : String := ""
  filters : List Filter := []
  connective : Connective := .and

/-- A new row of a table. -/
structure InsertRequest where
  schema : Option String := none
  table : String := ""
  assignments : List Assignment := []

/-! ### Reading -/

open Json

/-- A field that may be left out. -/
private def lax (name : String) : Json.Field := ⟨name, .default⟩

/-- A connective. -/
def Connective.ofJson? : Json → Option Connective :=
  choice? ofKeyword?

/-- A direction. -/
def Direction.ofJson? : Json → Option Direction :=
  choice? ofKeyword?

/-- An operator by its symbol. -/
def Operator.ofJson? : Json → Option Operator :=
  choice? ofSymbol?

/-- A dialect by its name. -/
def Dialect.ofJson? : Json → Option Dialect :=
  choice? ofName?

/-- A natural number of 64 bits. -/
def natural64? : Json → Option Nat :=
  naturalBelow? (2 ^ 64)

/-- A filter, its values read by `datum`. -/
def Filter.ofJson? (datum : Json → Option Datum) (j : Json) : Option Filter := do
  let slots ← slots? [⟨"column", .refused⟩, ⟨"operator", .refused⟩, lax "values"] j
  let column ← fieldAt? slots 0 "" string?
  let operator ← fieldAt? slots 1 .eq Operator.ofJson?
  let values ← fieldAt? slots 2 [] (list? datum)
  some { column, operator, values }

/-- An ordering. -/
def Ordering.ofJson? (j : Json) : Option Ordering := do
  let slots ← slots? [⟨"column", .refused⟩, lax "direction"] j
  let column ← fieldAt? slots 0 "" string?
  let direction ← fieldAt? slots 1 .ascending Direction.ofJson?
  some { column, direction }

/-- An assignment, its value read by `datum`. -/
def Assignment.ofJson? (datum : Json → Option Datum) (j : Json) : Option Assignment := do
  let slots ← slots? [⟨"column", .refused⟩, ⟨"value", .refused⟩] j
  let column ← fieldAt? slots 0 "" string?
  let value ← fieldAt? slots 1 .null datum
  some { column, value }

/-- A request for rows. -/
def SelectRequest.ofJson? (datum : Json → Option Datum) (j : Json) : Option SelectRequest := do
  let slots ← slots? (["schema", "table", "columns", "filters", "concat", "orderBy", "limit",
    "offset"].map lax) j
  let schema ← fieldAt? slots 0 none (optional? string?)
  let table ← fieldAt? slots 1 "" string?
  let columns ← fieldAt? slots 2 none (optional? (list? string?))
  let filters ← fieldAt? slots 3 [] (list? (Filter.ofJson? datum))
  let connective ← fieldAt? slots 4 .and Connective.ofJson?
  let ordering ← fieldAt? slots 5 [] (list? Ordering.ofJson?)
  let limit ← fieldAt? slots 6 none (optional? natural64?)
  let offset ← fieldAt? slots 7 none (optional? natural64?)
  some { schema, table, columns, filters, connective, ordering, limit, offset }

/-- A request for a number of rows. -/
def CountRequest.ofJson? (datum : Json → Option Datum) (j : Json) : Option CountRequest := do
  let slots ← slots? (["schema", "table", "filters", "concat", "exact"].map lax) j
  let schema ← fieldAt? slots 0 none (optional? string?)
  let table ← fieldAt? slots 1 "" string?
  let filters ← fieldAt? slots 2 [] (list? (Filter.ofJson? datum))
  let connective ← fieldAt? slots 3 .and Connective.ofJson?
  let exact ← fieldAt? slots 4 false bool?
  some { schema, table, filters, connective, exact }

/-- A request for new values. -/
def UpdateRequest.ofJson? (datum : Json → Option Datum) (j : Json) : Option UpdateRequest := do
  let slots ← slots? (["schema", "table", "set", "filters", "concat"].map lax) j
  let schema ← fieldAt? slots 0 none (optional? string?)
  let table ← fieldAt? slots 1 "" string?
  let assignments ← fieldAt? slots 2 [] (list? (Assignment.ofJson? datum))
  let filters ← fieldAt? slots 3 [] (list? (Filter.ofJson? datum))
  let connective ← fieldAt? slots 4 .and Connective.ofJson?
  some { schema, table, assignments, filters, connective }

/-- A request to remove rows. -/
def DeleteRequest.ofJson? (datum : Json → Option Datum) (j : Json) : Option DeleteRequest := do
  let slots ← slots? (["schema", "table", "filters", "concat"].map lax) j
  let schema ← fieldAt? slots 0 none (optional? string?)
  let table ← fieldAt? slots 1 "" string?
  let filters ← fieldAt? slots 2 [] (list? (Filter.ofJson? datum))
  let connective ← fieldAt? slots 3 .and Connective.ofJson?
  some { schema, table, filters, connective }

/-- A request for a new row. -/
def InsertRequest.ofJson? (datum : Json → Option Datum) (j : Json) : Option InsertRequest := do
  let slots ← slots? (["schema", "table", "values"].map lax) j
  let schema ← fieldAt? slots 0 none (optional? string?)
  let table ← fieldAt? slots 1 "" string?
  let assignments ← fieldAt? slots 2 [] (list? (Assignment.ofJson? datum))
  some { schema, table, assignments }

end SqlWorkbench
