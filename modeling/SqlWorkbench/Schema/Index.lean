import SqlWorkbench.Dialect
import SqlWorkbench.Schema.Column

/-!
# Indexes

The catalog lists the columns of indexes one by one. They are grouped into one index per name, and
from these the ones that need a statement of their own are chosen.
-/

namespace SqlWorkbench

/-- One column of an index, as the catalog lists it. -/
structure IndexColumn where
  schema : String
  table : String
  name : String
  column : String
  isUnique : Bool := false
  isPrimary : Bool := false
deriving DecidableEq

/-- An index with its columns in order. -/
structure Index where
  schema : String
  table : String
  name : String
  columns : List String
  isUnique : Bool
  isPrimary : Bool
deriving DecidableEq

namespace Index

/-- The index that a listed column begins. -/
def ofColumn (c : IndexColumn) : Index :=
  { schema := c.schema, table := c.table, name := c.name, columns := [c.column],
    isUnique := c.isUnique, isPrimary := c.isPrimary }

/-- Enter a listed column: into the index of its name, or as a new index at the end. -/
def enter (indexes : List Index) (c : IndexColumn) : List Index :=
  match indexes with
  | [] => [ofColumn c]
  | i :: rest =>
    if i.name = c.name then { i with columns := i.columns ++ [c.column] } :: rest
    else i :: enter rest c

/-- The indexes of a table, in order of their first column. -/
def group (listed : List IndexColumn) (table : String) : List Index :=
  (listed.filter fun c => c.table == table).foldl enter []

@[simp] theorem group_nil (table : String) : group [] table = [] := rfl

/-- The uniqueness is stated with the only column already. -/
def isStated (i : Index) (columns : List Column) : Bool :=
  match i.columns with
  | [only] => i.isUnique && columns.any fun c => c.id == only && c.unique
  | _ => false

/-- The indexes that need a statement of their own: no primary keys, no single unique columns that
say so themselves, and none in a dialect without further indexes. -/
def explicit (indexes : List Index) (columns : List Column) (d : Dialect) : List Index :=
  if d = .clickhouse then []
  else indexes.filter fun i => !i.isPrimary && !i.isStated columns

end Index

/-! ### Structured data -/

open Json

/-- A listed column from structured data. -/
def IndexColumn.ofJson? (j : Json) : Option IndexColumn := do
  let slots ← slots? [⟨"schema", .refused⟩, ⟨"table", .refused⟩, ⟨"name", .refused⟩,
    ⟨"column", .refused⟩, ⟨"isUnique", .default⟩, ⟨"isPrimary", .default⟩] j
  let schema ← fieldAt? slots 0 "" string?
  let table ← fieldAt? slots 1 "" string?
  let name ← fieldAt? slots 2 "" string?
  let column ← fieldAt? slots 3 "" string?
  let isUnique ← fieldAt? slots 4 false bool?
  let isPrimary ← fieldAt? slots 5 false bool?
  some { schema, table, name, column, isUnique, isPrimary }

/-- A listed column as structured data. -/
def IndexColumn.toJson (c : IndexColumn) : Json :=
  .object [("schema", .string c.schema), ("table", .string c.table), ("name", .string c.name),
    ("column", .string c.column), ("isUnique", .bool c.isUnique), ("isPrimary", .bool c.isPrimary)]

/-- An index as structured data. -/
def Index.toJson (i : Index) : Json :=
  .object [("schema", .string i.schema), ("table", .string i.table), ("name", .string i.name),
    ("columns", ofStrings i.columns), ("isUnique", .bool i.isUnique),
    ("isPrimary", .bool i.isPrimary)]

end SqlWorkbench
