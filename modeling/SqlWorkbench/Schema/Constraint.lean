import SqlWorkbench.Schema.Column

/-!
# Constraints

The catalog lists constraints by column. They are folded into the columns of a table: keys become
flags, foreign keys become edges at both of their ends.
-/

namespace SqlWorkbench

/-- The kind of a constraint. -/
inductive ConstraintKind where
  | primaryKey | unique | foreignKey
deriving DecidableEq

/-- A constraint on a column, as the catalog lists it. -/
structure Constraint where
  schema : String
  table : String
  name : String
  kind : ConstraintKind
  column : Option String := none
  /-- The schema of the column that a foreign key points at. -/
  usageSchema : Option String := none
  usageTable : Option String := none
  usageColumn : Option String := none
  onDelete : Option String := none
  onUpdate : Option String := none
deriving DecidableEq

namespace Constraint

/-- The constraint is on the column. -/
def owns (r : Constraint) (schema table column : String) : Bool :=
  r.schema == schema && r.table == table && r.column == some column

/-- The constraint points at the column. -/
def targets (r : Constraint) (schema table column : String) : Bool :=
  r.usageSchema == some schema && r.usageTable == some table && r.usageColumn == some column

/-- The constraint is a key, which makes values distinct. -/
def isKey (r : Constraint) : Bool :=
  r.kind == .primaryKey || r.kind == .unique

/-- One of the keys is on the column. -/
def isUniqueColumn (rows : List Constraint) (schema table column : String) : Bool :=
  rows.any fun r => r.isKey && r.owns schema table column

/-- The edge that leaves the column of a foreign key, if it names a table and a column. -/
def edge? (r : Constraint) (schema : String) : Option ForeignKey :=
  match r.usageTable, r.usageColumn with
  | some table, some column =>
    some { schema := r.usageSchema.getD schema, table, column, onDelete := r.onDelete,
           onUpdate := r.onUpdate, name := some r.name }
  | _, _ => none

/-- The edge that arrives at the column which a foreign key points at. -/
def reference? (rows : List Constraint) (r : Constraint) : Option Reference :=
  r.column.map fun column =>
    { schema := r.schema, table := r.table, column,
      isUnique := isUniqueColumn rows r.schema r.table column }

end Constraint

namespace Column

/-- Add a reference unless it is there. -/
def addReference (c : Column) (r : Reference) : Column :=
  if c.references.contains r then c else { c with references := c.references ++ [r] }

/-- Set the foreign key that leaves the column, if there is a new one. -/
def setForeign (c : Column) (key : Option ForeignKey) : Column :=
  { c with foreign := key.or c.foreign }

/-- Fold one constraint into a column of `schema.table`. -/
def constrainBy (schema table : String) (rows : List Constraint) (c : Column) (r : Constraint) :
    Column :=
  match r.kind with
  | .primaryKey => if r.owns schema table c.id then { c with primaryKey := true } else c
  | .unique => if r.owns schema table c.id then { c with unique := true } else c
  | .foreignKey =>
    let c := if r.owns schema table c.id then c.setForeign (r.edge? schema) else c
    if r.targets schema table c.id then ((Constraint.reference? rows r).map c.addReference).getD c
    else c

/-- Fold all constraints into a column of `schema.table`. -/
def constrain (schema table : String) (rows : List Constraint) (c : Column) : Column :=
  rows.foldl (constrainBy schema table rows) c

end Column

/-- Fold the constraints into the columns of `schema.table`. -/
def Constraint.apply (schema table : String) (columns : List Column) (rows : List Constraint) :
    List Column :=
  columns.map (Column.constrain schema table rows)

/-! ### Structured data -/

open Json

/-- How the kinds are named. -/
def ConstraintKind.name : ConstraintKind → String
  | primaryKey => "primaryKey"
  | unique => "unique"
  | foreignKey => "foreignKey"

/-- The kind with exactly this name. -/
def ConstraintKind.ofName? (s : String) : Option ConstraintKind :=
  [primaryKey, unique, foreignKey].find? fun k => k.name == s

/-- A constraint from structured data. -/
def Constraint.ofJson? (j : Json) : Option Constraint := do
  let slots ← slots? [⟨"schema", .refused⟩, ⟨"table", .refused⟩, ⟨"name", .refused⟩,
    ⟨"type", .refused⟩, ⟨"column", .default⟩, ⟨"usageSchema", .default⟩, ⟨"usageTable", .default⟩,
    ⟨"usageColumn", .default⟩, ⟨"onDelete", .default⟩, ⟨"onUpdate", .default⟩] j
  let schema ← fieldAt? slots 0 "" string?
  let table ← fieldAt? slots 1 "" string?
  let name ← fieldAt? slots 2 "" string?
  let kind ← fieldAt? slots 3 .unique (choice? ConstraintKind.ofName?)
  let column ← fieldAt? slots 4 none (optional? string?)
  let usageSchema ← fieldAt? slots 5 none (optional? string?)
  let usageTable ← fieldAt? slots 6 none (optional? string?)
  let usageColumn ← fieldAt? slots 7 none (optional? string?)
  let onDelete ← fieldAt? slots 8 none (optional? string?)
  let onUpdate ← fieldAt? slots 9 none (optional? string?)
  some { schema, table, name, kind, column, usageSchema, usageTable, usageColumn, onDelete,
         onUpdate }

/-- A constraint as structured data. -/
def Constraint.toJson (r : Constraint) : Json :=
  .object [("schema", .string r.schema), ("table", .string r.table), ("name", .string r.name),
    ("type", .string r.kind.name), ("column", ofString? r.column),
    ("usageSchema", ofString? r.usageSchema), ("usageTable", ofString? r.usageTable),
    ("usageColumn", ofString? r.usageColumn), ("onDelete", ofString? r.onDelete),
    ("onUpdate", ofString? r.onUpdate)]

end SqlWorkbench
