import SqlWorkbench.Datum
import SqlWorkbench.Schema.Constraint
import SqlWorkbench.Schema.EnumLabels
import SqlWorkbench.Schema.EnumType
import SqlWorkbench.Schema.Index

/-!
# Catalog rows

The rows that the catalog answers with become enum types, listed index columns and constraints.
Engines differ in the spelling of booleans and in the case of keywords.
-/

namespace SqlWorkbench.Catalog

/-- A cell as text; what is no text is written as structured data. -/
def textCell? (row : Row) (name : String) : Option String :=
  match Keyed.find? row name with
  | some (.string s) => some s
  | some .null => none
  | some j => some j.compact
  | none => none

/-- A cell as text, empty if there is none. -/
def textCell (row : Row) (name : String) : String :=
  (textCell? row name).getD ""

/-- A cell as a boolean; numbers and some words stand for one. -/
def flagCell (row : Row) (name : String) : Bool :=
  match Keyed.find? row name with
  | some (.bool b) => b
  | some (.int i) => i != 0
  | some (.float x) => x.isNonzero
  | some (.string s) => ["t", "true", "1"].contains (String.ofList (Text.toAsciiLower s.toList))
  | _ => false

/-! ### Enum types -/

/-- Enter one value of a named type; `key` tells the types apart. -/
def enterValue (types : List (String × EnumType)) (key schema name value : String) :
    List (String × EnumType) :=
  match types with
  | [] => [(key, { schema, name, values := [value] })]
  | t :: rest =>
    if t.1 = key then (key, { t.2 with values := t.2.values ++ [value] }) :: rest
    else t :: enterValue rest key schema name value

/-- Named types, one value per row. -/
def namedEnums (rows : List Row) : List EnumType :=
  (rows.foldl (fun types row =>
    let schema := textCell row "schema"
    let name := textCell row "name"
    enterValue types (schema ++ "." ++ name) schema name (textCell row "value")) []).map Prod.snd

/-- A type bound to a column, with all values in one row. -/
def boundEnum (values : List String) (isSet : Bool) (row : Row) : EnumType :=
  let name := textCell row "name"
  { schema := textCell row "schema", name, values,
    binding := some { isSet, table := textCell? row "table", column := some name } }

/-- The enum types of the rows of the catalog. -/
def enumsOfRows (d : Dialect) (rows : List Row) : List EnumType :=
  match d with
  | .postgres => namedEnums rows
  | .mysql | .mssql =>
    rows.map fun row =>
      boundEnum (EnumLabels.ofQuotedList (textCell row "value"))
        (textCell? row "data_type" == some "set") row
  | .clickhouse =>
    (rows.map fun row =>
      boundEnum (EnumLabels.ofNumberedList (textCell row "type")) false row).filter
        fun e => !e.values.isEmpty
  | .sqlite => []

/-! ### Indexes and constraints -/

/-- The listed index columns of the rows; in one dialect each row is part of the primary key. -/
def indexColumnsOfRows (d : Dialect) (rows : List Row) : List IndexColumn :=
  rows.map fun row =>
    let sorting := d == .clickhouse
    { schema := textCell row "schema"
      table := textCell row "table"
      name := if sorting then "primary_key" else textCell row "name"
      column := textCell row "column"
      isUnique := sorting || flagCell row "isUnique"
      isPrimary := sorting || flagCell row "isPrimary" }

/-- The kind of constraint that a keyword names, in any case. -/
def constraintKind? (keyword : String) : Option ConstraintKind :=
  match String.ofList (Text.toAsciiUpper keyword.toList) with
  | "PRIMARY KEY" => some .primaryKey
  | "UNIQUE" => some .unique
  | "FOREIGN KEY" => some .foreignKey
  | _ => none

/-- The constraints of the rows; rows of another kind are passed over. -/
def constraintsOfRows (rows : List Row) : List Constraint :=
  rows.filterMap fun row =>
    ((textCell? row "type").bind constraintKind?).map fun kind =>
      { schema := textCell row "schema"
        table := textCell row "table"
        name := textCell row "name"
        kind
        column := textCell? row "column"
        usageSchema := textCell? row "usage_schema"
        usageTable := textCell? row "usage_table"
        usageColumn := textCell? row "usage_column"
        onDelete := textCell? row "on_delete"
        onUpdate := textCell? row "on_update" }

end SqlWorkbench.Catalog
