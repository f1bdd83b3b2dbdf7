import SqlWorkbench.Codegen.Naming
import SqlWorkbench.Codegen.TableModel
import SqlWorkbench.Text.Blank

/-!
# Prisma models

A table as a Prisma model: its fields, the relations that its foreign keys make, its indexes, and
the enums that its columns use. Names are kept apart; what is renamed is mapped to its name in the
database.
-/

namespace SqlWorkbench.Prisma

/-! ### Enums -/

/-- The name can stand as a member of an enum. -/
def isIdentifier (name : String) : Bool :=
  match name.toList with
  | c :: rest => c.isAlpha && rest.all Text.isWordChar
  | [] => false

/-- A member of an enum; one that is renamed tells its value. -/
structure Member where
  name : String
  value : Option String
deriving DecidableEq

/-- An enum. -/
structure EnumBlock where
  name : String
  members : List Member
deriving DecidableEq

/-- The name that a value without a name of its own would have. -/
def memberName (value : String) : String :=
  let name := Naming.sanitized value
  if (name.toList.head?.map Char.isAlpha).getD false then name else "value_" ++ name

/-- The members of the values, with the names in use; a value that is an identifier keeps it. -/
def Member.ofValues (used : List String) : List String → List Member
  | [] => []
  | value :: rest =>
    if isIdentifier value then ⟨value, none⟩ :: ofValues used rest
    else
      let (name, used) := Naming.claim used (memberName value)
      ⟨name, some value⟩ :: ofValues used rest

/-- The enum of an enum type. -/
def EnumBlock.ofType (name : String) (e : EnumType) : EnumBlock :=
  ⟨name, Member.ofValues (e.values.filter isIdentifier) e.values⟩

/-- The line of a member. -/
def Member.text (m : Member) : String :=
  "  " ++ m.name ++ match m.value with
    | some value => " @map(" ++ Naming.doubleQuoted value ++ ")"
    | none => ""

/-- The text of an enum. -/
def EnumBlock.text (b : EnumBlock) : String :=
  "enum " ++ b.name ++ " \x7b\n" ++ Text.joinWith "\n" (b.members.map Member.text) ++ "\n\x7d"

/-- The name of the enum of a column. -/
def enumName (table : String) (c : Column) (e : EnumType) : String :=
  Naming.pascalCase (if e.name.isEmpty then table ++ "_" ++ c.id else e.name)

/-- The enum of a column, if it has one. -/
def enumBlock? (m : TableModel) (c : Column) : Option EnumBlock :=
  (m.enumOf? c).map fun e => .ofType (enumName m.table c e) e

/-! ### Fields -/

/-- A field of a model. -/
structure Field where
  name : String
  type : String
  attributes : List String
deriving DecidableEq

/-- The type of a column without the mark for null or lists. -/
def baseType (m : TableModel) (c : Column) : String :=
  match m.enumOf? c with
  | some e => enumName m.table c e
  | none => m.typeOf .prisma c

/-- The mark for lists or null. -/
def typeMark (m : TableModel) (c : Column) : String :=
  if ((m.enumOf? c).map c.isSetOf).getD false then "[]"
  else if c.isNullable then "?"
  else ""

/-- The attributes of a column. -/
def attributes (m : TableModel) (c : Column) : List String :=
  let type := baseType m c
  let key :=
    if c.primaryKey then
      "@id" :: if type == "Int" then ["@default(autoincrement())"] else []
    else if c.unique then ["@unique"]
    else []
  let length :=
    match c.maxLength.filter (0 < ·) with
    | some n => if type == "String" then ["@db.VarChar(" ++ toString n ++ ")"] else []
    | none => []
  let precision :=
    match c.precision.filter (0 < ·) with
    | some p =>
      if type == "Decimal" then
        ["@db.Decimal(" ++ toString p ++ ", " ++ toString (c.scale.getD 0) ++ ")"]
      else []
    | none => []
  let mapped :=
    if Naming.camelCase c.id == c.id then [] else ["@map(" ++ Naming.doubleQuoted c.id ++ ")"]
  key ++ length ++ precision ++ mapped

/-- The field of a column. -/
def columnField (m : TableModel) (c : Column) : Field :=
  ⟨Naming.camelCase c.id, baseType m c ++ typeMark m c, attributes m c⟩

/-- The field of the foreign key that leaves a column, and the names in use after it. -/
def foreignField (used : List String) (c : Column) (k : ForeignKey) : Field × List String :=
  let (name, used) := Naming.claimRelation used k.table c.id
  (⟨name, Naming.pascalCase k.table ++ (if c.isNullable then "?" else ""),
    ["@relation(fields: [" ++ Naming.camelCase c.id ++ "], references: ["
      ++ Naming.camelCase k.column ++ "])"]⟩, used)

/-- The fields of the references to a column, and the names in use after them. -/
def referenceFields (used : List String) : List Reference → List Field × List String
  | [] => ([], used)
  | r :: rest =>
    let (name, used) := Naming.claimRelation used r.table r.column
    let (fields, used) := referenceFields used rest
    (⟨name, Naming.pascalCase r.table ++ "[]", []⟩ :: fields, used)

/-- The relations of the columns, with names that are not in use. -/
def relationFields (used : List String) : List Column → List Field
  | [] => []
  | c :: rest =>
    let (own, used) := match c.foreign with
      | some k =>
        let (field, used) := foreignField used c k
        ([field], used)
      | none => ([], used)
    let (others, used) := referenceFields used c.references
    own ++ others ++ relationFields used rest

/-! ### Models -/

/-- A model with the enums that it uses. -/
structure Model where
  name : String
  /-- The name of the table. -/
  table : String
  fields : List Field
  indexes : List Index
  enums : List EnumBlock

/-- The model of a table. -/
def Model.ofTable (m : TableModel) : Model :=
  { name := Naming.pascalCase m.table
    table := m.table
    fields := m.columns.map (columnField m)
      ++ relationFields (m.columns.map fun c => Naming.camelCase c.id) m.columns
    indexes := m.explicitIndexes
    enums := (m.columns.filterMap (enumBlock? m)).eraseDups }

/-- The text with blanks behind it up to a number of characters. -/
def padded (width : Nat) (s : String) : String :=
  s ++ String.ofList (List.replicate (width - s.length) ' ')

/-- The greatest length in bytes of the texts. -/
def widest (texts : List String) : Nat :=
  texts.foldl (fun n s => max n s.utf8ByteSize) 0

/-- The lines of the fields, in columns. -/
def fieldLines (fields : List Field) : List String :=
  let nameWidth := widest (fields.map Field.name)
  let typeWidth := widest (fields.map Field.type)
  fields.map fun f =>
    let line := "  " ++ padded nameWidth f.name ++ " " ++ padded typeWidth f.type ++ " "
      ++ Text.joinWith " " f.attributes
    String.ofList (Text.trimEnd line.toList)

/-- The line of an index. -/
def indexLine (i : Index) : String :=
  "  " ++ (if i.isUnique then "@@unique" else "@@index") ++ "(["
    ++ Text.joinWith ", " (i.columns.map Naming.camelCase) ++ "], map: "
    ++ Naming.doubleQuoted i.name ++ ")"

/-- The text of a model with its enums. -/
def Model.text (m : Model) : String :=
  let indexes := m.indexes.map indexLine
  let body := fieldLines m.fields
    ++ (if indexes.isEmpty then [] else "" :: indexes)
    ++ (if m.name == m.table then [] else ["", "  @@map(" ++ Naming.doubleQuoted m.table ++ ")"])
  "model " ++ m.name ++ " \x7b\n" ++ Text.joinWith "\n" body ++ "\n\x7d"
    ++ String.join (m.enums.map fun e => "\n\n" ++ e.text)

/-- A table as a model. -/
def text (m : TableModel) : String :=
  (Model.ofTable m).text

end SqlWorkbench.Prisma
