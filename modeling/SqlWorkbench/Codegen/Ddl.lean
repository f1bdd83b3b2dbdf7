import SqlWorkbench.Codegen.TableModel

/-!
# Table definitions

A table as a statement that creates it, with the enum types before it and the indexes behind it.
-/

namespace SqlWorkbench.Ddl

/-- The values of an enum type as literals. -/
def valueList (d : Dialect) (values : List String) : String :=
  Text.joinWith ", " (values.map d.quoteText)

/-- The most values of an enum type whose numbers fit in one byte. -/
def mostByteValues : Nat := 127

/-- The values of an enum type, numbered from one. -/
def numberedValues (d : Dialect) (values : List String) : String :=
  Text.joinWith ", " (values.mapIdx fun i v => d.quoteText v ++ " = " ++ toString (i + 1))

/-- The type of a column that takes the values of an enum type. -/
def enumType (d : Dialect) (c : Column) (e : EnumType) : String :=
  match d with
  | .clickhouse =>
    let name := if e.values.length > mostByteValues then "Enum16" else "Enum8"
    let type := name ++ "(" ++ numberedValues d e.values ++ ")"
    if c.isNullable then "Nullable(" ++ type ++ ")" else type
  | .mysql => (if c.isSetOf e then "SET" else "ENUM") ++ "(" ++ valueList d e.values ++ ")"
  | .postgres => d.quoteName e.name
  | .mssql => e.name
  | .sqlite =>
    "TEXT CHECK (" ++ d.quoteName c.id ++ " IN (" ++ valueList d e.values ++ "))"

/-- The length that is added to a type of texts or bytes which states none. -/
def lengthSuffix (c : Column) (lower : List Char) : String :=
  match c.maxLength with
  | some n =>
    if (n > 0 || n == -1) && TypeMap.hasAny lower ["char", "binary"]
        && !TypeMap.hasAny lower ["text", "("] then
      if n = -1 then "(MAX)" else "(" ++ toString n ++ ")"
    else ""
  | none => ""

/-- The precision that is added to a type of decimals which states none. -/
def precisionSuffix (c : Column) (lower : List Char) : String :=
  match c.precision with
  | some p =>
    if p > 0 && TypeMap.hasAny lower ["decimal", "numeric"] && !TypeMap.hasAny lower ["("] then
      match c.scale.filter (0 < ·) with
      | some s => "(" ++ toString p ++ ", " ++ toString s ++ ")"
      | none => "(" ++ toString p ++ ")"
    else ""
  | none => ""

/-- The type of a column without an enum type. -/
def scalarType (m : TableModel) (c : Column) : String :=
  let base := m.typeOf .sql c
  let lower := Text.toAsciiLower base.toList
  let type := base ++ lengthSuffix c lower ++ precisionSuffix c lower
  if m.dialect = .clickhouse then
    if c.isNullable && (Text.dropPrefix? "nullable(".toList lower).isNone then
      "Nullable(" ++ type ++ ")"
    else type
  else String.ofList (Text.toUpper type.toList)

/-- The type of a column. -/
def columnType (m : TableModel) (c : Column) : String :=
  match m.enumOf? c with
  | some e => enumType m.dialect c e
  | none =>
    match c.enumName with
    | some name =>
      if Text.eqIgnoringAsciiCase c.dataType.toList ['e', 'n', 'u', 'm'] then name
      else scalarType m c
    | none => scalarType m c

/-- The names of the columns of the primary key. -/
def primaryNames (m : TableModel) : List String :=
  (m.columns.filter Column.primaryKey).map fun c => m.dialect.quoteName c.id

/-- The clauses of a key on one column. -/
def keyClauses (m : TableModel) (c : Column) : List String :=
  let d := m.dialect
  let raw := Text.toAsciiLower c.dataType.toList
  let composite := 1 < (primaryNames m).length
  let numbering :=
    if !c.primaryKey || composite then []
    else if d = .mysql ∧ TypeMap.hasAny raw ["int", "serial"] then ["AUTO_INCREMENT"]
    else if d = .mssql ∧ TypeMap.hasAny raw ["int"] then ["IDENTITY(1,1)"]
    else []
  let key :=
    if d = .clickhouse then []
    else if c.primaryKey then if composite then [] else ["PRIMARY KEY"]
    else if c.unique then ["UNIQUE"]
    else []
  numbering ++ key

/-- The line of a column. -/
def columnLine (m : TableModel) (c : Column) : String :=
  "  " ++ Text.joinWith " " ([m.dialect.quoteName c.id, columnType m c]
    ++ (if c.isNullable then [] else ["NOT NULL"]) ++ keyClauses m c)

/-- The line of a foreign key, where the dialect has them. -/
def foreignLine? (d : Dialect) (c : Column) : Option String :=
  if d = .clickhouse then none
  else c.foreign.map fun k =>
    let action (event : String) (what : Option String) : String :=
      (what.map fun w => " ON " ++ event ++ " " ++ w).getD ""
    "  FOREIGN KEY (" ++ d.quoteName c.id ++ ") REFERENCES " ++ d.quoteName k.table ++ "("
      ++ d.quoteName k.column ++ ")" ++ action "DELETE" k.onDelete ++ action "UPDATE" k.onUpdate

/-- The line of a primary key of several columns. -/
def compositeLine (m : TableModel) : List String :=
  let names := primaryNames m
  if 1 < names.length && m.dialect != .clickhouse then
    ["  PRIMARY KEY (" ++ Text.joinWith ", " names ++ ")"]
  else []

/-- The enum types that are created with the table, each name once. -/
def createdTypes (m : TableModel) : List EnumType :=
  if m.dialect = .postgres then
    (m.columns.filterMap m.enumOf?).foldl
      (fun types e => if types.any fun t => t.name == e.name then types else types ++ [e]) []
  else []

/-- The statements that create the enum types. -/
def typeStatements (m : TableModel) : String :=
  let d := m.dialect
  let statements := (createdTypes m).map fun e =>
    "CREATE TYPE " ++ d.quoteName e.name ++ " AS ENUM (" ++ valueList d e.values ++ ");\n"
  if statements.isEmpty then "" else String.join statements ++ "\n"

/-- The storage of the table, where the dialect asks for it. -/
def engineClause (m : TableModel) : String :=
  if m.dialect = .clickhouse then
    " ENGINE = MergeTree() ORDER BY " ++
      match primaryNames m with
      | [] => "tuple()"
      | [name] => name
      | names => "(" ++ Text.joinWith ", " names ++ ")"
  else ""

/-- The statement that creates an index. -/
def indexStatement (m : TableModel) (i : Index) : String :=
  let d := m.dialect
  "CREATE " ++ (if i.isUnique then "UNIQUE " else "") ++ "INDEX " ++ d.quoteName i.name ++ " ON "
    ++ d.quoteName m.table ++ " (" ++ Text.joinWith ", " (i.columns.map d.quoteName) ++ ");"

/-- The statements that create a table. -/
def text (m : TableModel) : String :=
  let lines := m.columns.map (columnLine m) ++ compositeLine m
    ++ m.columns.filterMap (foreignLine? m.dialect)
  let indexes := m.explicitIndexes.map (indexStatement m)
  typeStatements m ++ "CREATE TABLE " ++ m.dialect.quoteName m.table ++ " (\n"
    ++ Text.joinWith ",\n" lines ++ "\n)" ++ engineClause m ++ ";"
    ++ if indexes.isEmpty then "" else "\n\n" ++ Text.joinWith "\n" indexes

end SqlWorkbench.Ddl
