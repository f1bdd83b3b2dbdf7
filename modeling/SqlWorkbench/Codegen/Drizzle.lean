import SqlWorkbench.Codegen.TypeScript

/-!
# Drizzle modules

A table as a Drizzle module: what it imports, its enums, its columns with their references and
indexes, and its relations. The module is built as data first, so that what is imported and what is
used can be compared.
-/

namespace SqlWorkbench.Drizzle

/-! ### Flavours -/

/-- How the columns of enum types are declared. -/
inductive EnumStyle where
  /-- A type is declared once and called for each column. -/
  | declared (function : String)
  /-- A function takes the values along with the column. -/
  | inline (function : String)
  /-- A text column takes the values as an option. -/
  | textOption
  /-- The column keeps its type, which is narrowed. -/
  | narrowed
deriving DecidableEq

/-- The function that declares tables. -/
def tableFunction : Dialect → String
  | .postgres => "pgTable"
  | .mysql => "mysqlTable"
  | .mssql => "mssqlTable"
  | .clickhouse => "clickhouseTable"
  | .sqlite => "sqliteTable"

/-- The module that the functions of a dialect come from. -/
def corePath : Dialect → String
  | .postgres => "drizzle-orm/pg-core"
  | .mysql => "drizzle-orm/mysql-core"
  | .mssql => "drizzle-orm/mssql-core"
  | .clickhouse => "drizzle-orm/clickhouse-core"
  | .sqlite => "drizzle-orm/sqlite-core"

/-- How a dialect declares the columns of enum types. -/
def enumStyle : Dialect → EnumStyle
  | .postgres => .declared "pgEnum"
  | .mysql => .inline "mysqlEnum"
  | .mssql => .narrowed
  | .clickhouse => .inline "enum"
  | .sqlite => .textOption

/-- The dialect has foreign keys. -/
def hasLinks (d : Dialect) : Bool :=
  d != .clickhouse

/-! ### Columns -/

/-- An enum declared in the module. -/
structure EnumDeclaration where
  function : String
  name : String
  values : List String
deriving DecidableEq

/-- The variable of a declared enum. -/
def EnumDeclaration.var (e : EnumDeclaration) : String :=
  Naming.camelCase e.name ++ "Enum"

/-- What builds a column. -/
inductive Builder where
  /-- A function of the dialect, the options behind the name of the column, and a narrower type. -/
  | core (function options : String) (narrowed : Option String)
  /-- An enum declared in the module. -/
  | declared (declaration : EnumDeclaration)

/-- A column of a table that another column points at. -/
structure Target where
  table : String
  column : String

/-- The variable of the table of a target. -/
def Target.var (t : Target) : String :=
  Naming.tableVariable t.table

/-- The member of a table variable that holds a column. -/
def columnOf (var column : String) : String :=
  Naming.member var (Naming.camelCase column)

/-- The target as an expression. -/
def Target.text (t : Target) : String :=
  columnOf t.var t.column

/-- A column of the module. -/
structure ColumnField where
  id : String
  builder : Builder
  isNullable : Bool
  isPrimary : Bool
  isUnique : Bool
  references : Option Target

/-- The options of a scalar column. -/
def scalarOptions (c : Column) (function : String) : String :=
  if ["varchar", "char", "nvarchar"].contains function then
    match c.maxLength.filter (0 < ·) with
    | some n => ", \x7b length: " ++ toString n ++ " \x7d"
    | none => ""
  else if function == "decimal" then
    match c.precision.filter (0 < ·) with
    | some p =>
      match c.scale.filter (0 < ·) with
      | some s => ", \x7b precision: " ++ toString p ++ ", scale: " ++ toString s ++ " \x7d"
      | none => ", \x7b precision: " ++ toString p ++ " \x7d"
    | none => ""
  else ""

/-- A list of values. -/
def valueList (values : List String) : String :=
  "[" ++ Text.joinWith ", " (values.map Naming.singleQuoted) ++ "]"

/-- What builds a column of a table. -/
def Builder.ofColumn (m : TableModel) (c : Column) : Builder :=
  let function := m.typeOf .drizzle c
  let scalar := Builder.core function (scalarOptions c function)
  match m.enumOf? c with
  | none => scalar none
  | some e =>
    let narrowed := scalar (some (TypeScript.union c e))
    if c.isSetOf e then narrowed
    else match enumStyle m.dialect with
      | .declared function => .declared ⟨function, e.name, e.values⟩
      | .inline function => .core function (", " ++ valueList e.values) none
      | .textOption => .core "text" (", \x7b enum: " ++ valueList e.values ++ " \x7d") none
      | .narrowed => narrowed

/-- A column of a table as a column of the module. -/
def ColumnField.ofColumn (m : TableModel) (c : Column) : ColumnField :=
  { id := c.id
    builder := .ofColumn m c
    isNullable := c.isNullable
    isPrimary := c.primaryKey
    isUnique := c.unique
    references :=
      if hasLinks m.dialect then c.foreign.map fun k => ⟨k.table, k.column⟩ else none }

/-- The function that a builder takes from the dialect. -/
def Builder.coreFunction : Builder → String
  | core function _ _ => function
  | declared e => e.function

/-- The enum that a builder calls, if it is declared in the module. -/
def Builder.declaration? : Builder → Option EnumDeclaration
  | core _ _ _ => none
  | declared e => some e

/-- The call of a builder. -/
def Builder.text (id : String) : Builder → String
  | core function options narrowed =>
    function ++ "(" ++ Naming.singleQuoted id ++ options ++ ")"
      ++ (narrowed.map fun type => ".$type<" ++ type ++ ">()").getD ""
  | declared e => e.var ++ "(" ++ Naming.singleQuoted id ++ ")"

/-- The line of a column. -/
def ColumnField.text (c : ColumnField) : String :=
  "  " ++ Naming.key (Naming.camelCase c.id) ++ ": " ++ c.builder.text c.id
    ++ (if c.isNullable then "" else ".notNull()")
    ++ (if c.isPrimary then ".primaryKey()" else if c.isUnique then ".unique()" else "")
    ++ (c.references.map fun t => ".references(() => " ++ t.text ++ ")").getD ""
    ++ ","

/-! ### Relations -/

/-- A relation to another table. -/
inductive Relation where
  /-- To one row, by a column and the column that it points at. -/
  | one (name : String) (target : Target) (source : String)
  /-- To all rows that point here. -/
  | many (name : String) (table : String)

/-- The variable of the table that a relation leads to. -/
def Relation.var : Relation → String
  | one _ target _ => target.var
  | many _ table => Naming.tableVariable table

/-- The lines of a relation; `var` holds the table itself. -/
def Relation.text (var : String) : Relation → String
  | one name target source =>
    "  " ++ Naming.key name ++ ": one(" ++ target.var ++ ", \x7b\n    fields: ["
      ++ columnOf var source ++ "],\n    references: [" ++ target.text ++ "],\n  \x7d),"
  | many name table =>
    "  " ++ Naming.key name ++ ": many(" ++ Naming.tableVariable table ++ "),"

/-- What the relation of a foreign key is named for: the column without its ending, or the table. -/
def relationBase (c : Column) (k : ForeignKey) : String :=
  let stem := Naming.withoutIdEnding c.id
  if stem == c.id then k.table else stem

/-- The relations of the references to a column, and the names in use after them. -/
def Relation.ofReferences (used : List String) : List Reference → List Relation × List String
  | [] => ([], used)
  | r :: rest =>
    let (name, used) := Naming.claimRelation used r.table r.column
    let (relations, used) := ofReferences used rest
    (.many name r.table :: relations, used)

/-- The relations of the columns, with names that are not in use. -/
def Relation.ofColumns (used : List String) : List Column → List Relation
  | [] => []
  | c :: rest =>
    let (own, used) := match c.foreign with
      | some k =>
        let (name, used) := Naming.claimRelation used (relationBase c k) c.id
        ([Relation.one name ⟨k.table, k.column⟩ c.id], used)
      | none => ([], used)
    let (others, used) := ofReferences used c.references
    own ++ others ++ ofColumns used rest

/-! ### Modules -/

/-- A module. -/
structure Module where
  dialect : Dialect
  table : String
  /-- Functions taken from the dialect. -/
  coreImports : List String
  /-- Other tables. -/
  tableImports : List String
  enums : List EnumDeclaration
  columns : List ColumnField
  indexes : List Index
  relations : List Relation

/-- The function that declares an index. -/
def indexFunction (i : Index) : String :=
  if i.isUnique then "uniqueIndex" else "index"

/-- The tables that the module of a table takes from other modules: those that its columns point
at first, then those that point at it. -/
def importedTables (m : TableModel) : List String :=
  if hasLinks m.dialect then
    let pointedAt := m.columns.filterMap fun c => c.foreign.map ForeignKey.table
    let pointing := m.columns.flatMap fun c => c.references.map Reference.table
    ((pointedAt ++ pointing).filter fun t => t != m.table).eraseDups
  else []

/-- The module of a table. -/
def Module.ofTable (m : TableModel) : Module :=
  let columns := m.columns.map (ColumnField.ofColumn m)
  let indexes := m.explicitIndexes
  { dialect := m.dialect
    table := m.table
    coreImports := (columns.map (fun c => c.builder.coreFunction) ++ indexes.map indexFunction
      ++ [tableFunction m.dialect]).eraseDups
    tableImports := importedTables m
    enums := (columns.filterMap fun c => c.builder.declaration?).eraseDups
    columns
    indexes
    relations := if hasLinks m.dialect then Relation.ofColumns [] m.columns else [] }

namespace Module

/-- The variable of the table. -/
def var (m : Module) : String :=
  Naming.tableVariable m.table

/-- An import of names. -/
def importLine (names : List String) (path : String) : String :=
  "import \x7b " ++ Text.joinWith ", " names ++ " \x7d from " ++ Naming.singleQuoted path ++ ";"

/-- The imports. -/
def importLines (m : Module) : List String :=
  (if m.relations.isEmpty then [] else [importLine ["relations"] "drizzle-orm"])
    ++ m.tableImports.map (fun t => importLine [Naming.tableVariable t] ("./" ++ t))
    ++ [importLine m.coreImports (corePath m.dialect)]

/-- The line of an enum. -/
def enumLine (e : EnumDeclaration) : String :=
  "export const " ++ e.var ++ " = " ++ e.function ++ "(" ++ Naming.singleQuoted e.name ++ ", "
    ++ valueList e.values ++ ");"

/-- The line of an index. -/
def indexLine (i : Index) : String :=
  "  " ++ indexFunction i ++ "(" ++ Naming.singleQuoted i.name ++ ").on("
    ++ Text.joinWith ", " (i.columns.map (columnOf "t")) ++ "),"

/-- The definition of the table. -/
def tableDefinition (m : Module) : String :=
  let extra :=
    if m.indexes.isEmpty then ""
    else ", (t) => [\n" ++ Text.joinWith "\n" (m.indexes.map indexLine) ++ "\n]"
  "export const " ++ m.var ++ " = " ++ tableFunction m.dialect ++ "("
    ++ Naming.singleQuoted m.table ++ ", \x7b\n"
    ++ Text.joinWith "\n" (m.columns.map ColumnField.text) ++ "\n\x7d" ++ extra ++ ");"

/-- The definition of the relations. -/
def relationsDefinition (m : Module) : String :=
  "export const " ++ m.var ++ "Relations = relations(" ++ m.var
    ++ ", (\x7b one, many \x7d) => (\x7b\n"
    ++ Text.joinWith "\n" (m.relations.map (Relation.text m.var)) ++ "\n\x7d));"

/-- The text of a module. -/
def text (m : Module) : String :=
  let definitions :=
    (if m.enums.isEmpty then [] else [Text.joinWith "\n" (m.enums.map enumLine)])
      ++ [m.tableDefinition]
      ++ if m.relations.isEmpty then [] else [m.relationsDefinition]
  Text.joinWith "\n" m.importLines ++ "\n\n" ++ Text.joinWith "\n\n" definitions

end Module

/-- A table as a module. -/
def text (m : TableModel) : String :=
  (Module.ofTable m).text

end SqlWorkbench.Drizzle
