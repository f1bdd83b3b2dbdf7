import SqlWorkbench.Codegen.TypeMap
import SqlWorkbench.Query.Request
import SqlWorkbench.Schema.EnumType
import SqlWorkbench.Schema.Index

/-!
# Table models

A table with everything that a generator has to know: its columns, the enum types and the indexes
of the catalog, and the dialect.
-/

namespace SqlWorkbench

/-- A table to generate code for. -/
structure TableModel where
  table : String := ""
  columns : List Column := []
  enums : List EnumType := []
  /-- The columns of all indexes, as the catalog lists them. -/
  indexColumns : List IndexColumn := []
  dialect : Dialect := .postgres

namespace TableModel

/-- The enum type that a column is written as: the first that it uses, if that has values. -/
def enumOf? (m : TableModel) (c : Column) : Option EnumType :=
  (EnumType.find? m.enums m.table c).filter fun e => !e.values.isEmpty

/-- The indexes that need a statement of their own. -/
def explicitIndexes (m : TableModel) : List Index :=
  Index.explicit (Index.group m.indexColumns m.table) m.columns m.dialect

/-- The type of a column in a kind of generated code. -/
def typeOf (m : TableModel) (format : CodeFormat) (c : Column) : String :=
  TypeMap.type format m.dialect c.dataType

end TableModel

/-- A value of the column is a set of the values of the enum type. -/
def Column.isSetOf (c : Column) (e : EnumType) : Bool :=
  e.isSet || Text.eqIgnoringAsciiCase c.dataType.toList ['s', 'e', 't']

/-! ### Structured data -/

open Json

/-- A table model from structured data. -/
def TableModel.ofJson? (j : Json) : Option TableModel := do
  let slots ← slots? (["table", "columns", "enums", "indexes", "dialect"].map (⟨·, .default⟩)) j
  let table ← fieldAt? slots 0 "" string?
  let columns ← fieldAt? slots 1 [] (list? Column.ofJson?)
  let enums ← fieldAt? slots 2 [] (list? EnumType.ofJson?)
  let indexColumns ← fieldAt? slots 3 [] (list? IndexColumn.ofJson?)
  let dialect ← fieldAt? slots 4 .postgres Dialect.ofJson?
  some { table, columns, enums, indexColumns, dialect }

/-- A table model as structured data. -/
def TableModel.toJson (m : TableModel) : Json :=
  .object [("table", .string m.table), ("columns", .array (m.columns.map Column.toJson)),
    ("enums", .array (m.enums.map EnumType.toJson)),
    ("indexes", .array (m.indexColumns.map IndexColumn.toJson)),
    ("dialect", .string m.dialect.name)]

end SqlWorkbench
