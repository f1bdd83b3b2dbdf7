import SqlWorkbench.Schema.Column

/-!
# Enum types

An enum type lists the values that a column may take, in the order of the engine. Some engines
name their enum types, others bind them to a column.
-/

namespace SqlWorkbench

/-- The column that an enum type is bound to. -/
structure EnumBinding where
  /-- A value of the column is a set of the listed values. -/
  isSet : Bool := false
  table : Option String := none
  column : Option String := none
deriving DecidableEq

/-- An enum type. -/
structure EnumType where
  schema : String
  name : String
  values : List String
  binding : Option EnumBinding := none
deriving DecidableEq

namespace EnumType

/-- Values of the type are sets of the listed values. -/
def isSet (e : EnumType) : Bool :=
  (e.binding.map EnumBinding.isSet).getD false

/-- The type is bound to the column. -/
def binds (e : EnumType) (table column : String) : Bool :=
  match e.binding with
  | some b => b.table == some table && b.column == some column
  | none => false

/-- The column uses the type: by binding, by the declared name, or by the name of its type. -/
def isUsedBy (e : EnumType) (table : String) (c : Column) : Bool :=
  e.binds table c.id || c.enumName == some e.name || (!c.dataType.isEmpty && c.dataType == e.name)

/-- The enum type of a column: the first one that it uses. -/
def find? (enums : List EnumType) (table : String) (c : Column) : Option EnumType :=
  enums.find? fun e => e.isUsedBy table c

/-- The place of the enum type of a column in the list. -/
def findIdx? (enums : List EnumType) (table : String) (c : Column) : Option Nat :=
  enums.findIdx? fun e => e.isUsedBy table c

end EnumType

/-! ### Structured data -/

open Json

/-- A binding from structured data. -/
def EnumBinding.ofJson? (j : Json) : Option EnumBinding := do
  let slots ← slots? (["isSet", "table", "column"].map (⟨·, .default⟩)) j
  let isSet ← fieldAt? slots 0 false bool?
  let table ← fieldAt? slots 1 none (optional? string?)
  let column ← fieldAt? slots 2 none (optional? string?)
  some { isSet, table, column }

/-- A binding as structured data. -/
def EnumBinding.toJson (b : EnumBinding) : Json :=
  .object ([("isSet", .bool b.isSet)] ++ member? "table" .string b.table
    ++ member? "column" .string b.column)

/-- An enum type from structured data. -/
def EnumType.ofJson? (j : Json) : Option EnumType := do
  let slots ← slots? [⟨"schema", .refused⟩, ⟨"name", .refused⟩, ⟨"values", .refused⟩,
    ⟨"metadata", .default⟩] j
  let schema ← fieldAt? slots 0 "" string?
  let name ← fieldAt? slots 1 "" string?
  let values ← fieldAt? slots 2 [] (list? string?)
  let binding ← fieldAt? slots 3 none (optional? EnumBinding.ofJson?)
  some { schema, name, values, binding }

/-- An enum type as structured data. -/
def EnumType.toJson (e : EnumType) : Json :=
  .object ([("schema", .string e.schema), ("name", .string e.name), ("values", ofStrings e.values)]
    ++ member? "metadata" EnumBinding.toJson e.binding)

end SqlWorkbench
