import SqlWorkbench.Json.Decode

/-!
# Columns

The columns of a table as every generator sees them: the type in the words of the engine, the
flags, and the foreign keys that leave the column or arrive at it.
-/

namespace SqlWorkbench

/-- A foreign key that leaves a column. -/
structure ForeignKey where
  schema : String
  table : String
  column : String
  onDelete : Option String := none
  onUpdate : Option String := none
  name : Option String := none
deriving DecidableEq

/-- A foreign key that arrives at a column. -/
structure Reference where
  schema : String
  table : String
  column : String
  isUnique : Bool := false
deriving DecidableEq

/-- A column of a table. -/
structure Column where
  id : String := ""
  /-- The type in the words of the engine. -/
  dataType : String := ""
  isNullable : Bool := false
  isEditable : Bool := false
  primaryKey : Bool := false
  unique : Bool := false
  maxLength : Option Int := none
  precision : Option Nat := none
  scale : Option Nat := none
  /-- The name of the enum type, if the engine tells it. -/
  enumName : Option String := none
  foreign : Option ForeignKey := none
  references : List Reference := []
deriving DecidableEq

namespace Column

/-- An editable column without any flag. -/
def ofType (id dataType : String) : Column :=
  { id, dataType, isEditable := true }

/-- The column with null allowed. -/
def nullable (c : Column) : Column :=
  { c with isNullable := true }

/-- The column as the primary key. -/
def primary (c : Column) : Column :=
  { c with primaryKey := true }

/-- The column with each value at most once. -/
def distinct (c : Column) : Column :=
  { c with unique := true }

end Column

/-! ### Structured data -/

open Json

/-- A member that is left out when absent. -/
def Json.member? {α : Type} (name : String) (encode : α → Json) : Option α → List (String × Json)
  | some a => [(name, encode a)]
  | none => []

/-- A foreign key from structured data. -/
def ForeignKey.ofJson? (j : Json) : Option ForeignKey := do
  let slots ← slots? [⟨"schema", .refused⟩, ⟨"table", .refused⟩, ⟨"column", .refused⟩,
    ⟨"onDelete", .default⟩, ⟨"onUpdate", .default⟩, ⟨"name", .default⟩] j
  let schema ← fieldAt? slots 0 "" string?
  let table ← fieldAt? slots 1 "" string?
  let column ← fieldAt? slots 2 "" string?
  let onDelete ← fieldAt? slots 3 none (optional? string?)
  let onUpdate ← fieldAt? slots 4 none (optional? string?)
  let name ← fieldAt? slots 5 none (optional? string?)
  some { schema, table, column, onDelete, onUpdate, name }

/-- A foreign key as structured data. -/
def ForeignKey.toJson (k : ForeignKey) : Json :=
  .object ([("schema", .string k.schema), ("table", .string k.table), ("column", .string k.column)]
    ++ member? "onDelete" .string k.onDelete ++ member? "onUpdate" .string k.onUpdate
    ++ member? "name" .string k.name)

/-- A reference from structured data. -/
def Reference.ofJson? (j : Json) : Option Reference := do
  let slots ← slots? [⟨"schema", .refused⟩, ⟨"table", .refused⟩, ⟨"column", .refused⟩,
    ⟨"isUnique", .default⟩] j
  let schema ← fieldAt? slots 0 "" string?
  let table ← fieldAt? slots 1 "" string?
  let column ← fieldAt? slots 2 "" string?
  let isUnique ← fieldAt? slots 3 false bool?
  some { schema, table, column, isUnique }

/-- A reference as structured data. -/
def Reference.toJson (r : Reference) : Json :=
  .object [("schema", .string r.schema), ("table", .string r.table), ("column", .string r.column),
    ("isUnique", .bool r.isUnique)]

/-- A column from structured data. -/
def Column.ofJson? (j : Json) : Option Column := do
  let slots ← slots? (["id", "type", "isNullable", "isEditable", "primaryKey", "unique",
    "maxLength", "precision", "scale", "enum", "foreign", "references"].map (⟨·, .default⟩)) j
  let id ← fieldAt? slots 0 "" string?
  let dataType ← fieldAt? slots 1 "" string?
  let isNullable ← fieldAt? slots 2 false bool?
  let isEditable ← fieldAt? slots 3 false bool?
  let primaryKey ← fieldAt? slots 4 false bool?
  let unique ← fieldAt? slots 5 false bool?
  let maxLength ← fieldAt? slots 6 none (optional? (integerWithin? (-2 ^ 63) (2 ^ 63)))
  let precision ← fieldAt? slots 7 none (optional? (naturalBelow? (2 ^ 32)))
  let scale ← fieldAt? slots 8 none (optional? (naturalBelow? (2 ^ 32)))
  let enumName ← fieldAt? slots 9 none (optional? string?)
  let foreign ← fieldAt? slots 10 none (optional? ForeignKey.ofJson?)
  let references ← fieldAt? slots 11 [] (list? Reference.ofJson?)
  some { id, dataType, isNullable, isEditable, primaryKey, unique, maxLength, precision, scale,
         enumName, foreign, references }

/-- A column as structured data; what is absent is left out. -/
def Column.toJson (c : Column) : Json :=
  .object ([("id", .string c.id), ("type", .string c.dataType), ("isNullable", .bool c.isNullable),
      ("isEditable", .bool c.isEditable), ("primaryKey", .bool c.primaryKey),
      ("unique", .bool c.unique)]
    ++ member? "maxLength" .int c.maxLength
    ++ member? "precision" (fun n : Nat => .int n) c.precision
    ++ member? "scale" (fun n : Nat => .int n) c.scale
    ++ member? "enum" .string c.enumName
    ++ member? "foreign" ForeignKey.toJson c.foreign
    ++ if c.references.isEmpty then []
      else [("references", .array (c.references.map Reference.toJson))])

end SqlWorkbench
