import SqlWorkbench.Dialect

/-!
# Types in generated code

The type of a column, in the words of its engine, is recognised by the words it contains, so that
decorated types are recognised as well. The first rule that applies decides.
-/

namespace SqlWorkbench

/-- A kind of generated code. -/
inductive CodeFormat where
  | sql | ts | zod | prisma | drizzle | kysely
deriving DecidableEq

namespace CodeFormat

/-- All kinds of generated code. -/
def all : List CodeFormat := [sql, ts, zod, prisma, drizzle, kysely]

/-- The name of a kind of code. -/
def name : CodeFormat → String
  | sql => "sql"
  | ts => "ts"
  | zod => "zod"
  | prisma => "prisma"
  | drizzle => "drizzle"
  | kysely => "kysely"

/-- The kind of code with exactly this name. -/
def ofName? (s : String) : Option CodeFormat :=
  all.find? fun f => f.name == s

/-- The kind of code that a user means, or the lower-cased word that means none. -/
def parse (s : String) : Except String CodeFormat :=
  let word := String.ofList (Text.toLower (Text.trim s.toList))
  if word == "typescript" then .ok ts
  else match ofName? word with
    | some f => .ok f
    | none => .error word

end CodeFormat

namespace TypeMap

/-- One of the words occurs in the type. -/
def hasAny (type : List Char) (words : List String) : Bool :=
  words.any fun w => Text.containsText w.toList type

/-- Rules in order, each a list of words and what they stand for. -/
abbrev Rules := List (List String × String)

/-- What the first rule that applies says. -/
def decide (rules : Rules) (otherwise : String) (type : List Char) : String :=
  match rules with
  | [] => otherwise
  | rule :: rest => if hasAny type rule.1 then rule.2 else decide rest otherwise type

/-- Types of TypeScript. -/
def typescript (type : List Char) : String :=
  decide [
    (["int", "float", "decimal", "number", "double", "numeric", "real"], "number"),
    (["bool", "bit"], "boolean"),
    (["date", "time"], "Date"),
    (["json"], "unknown")] "string" type

/-- Validators of Zod. -/
def zod (type : List Char) : String :=
  match typescript type with
  | "number" => "z.number()"
  | "boolean" => "z.boolean()"
  | "Date" => "z.date()"
  | "unknown" => "z.record(z.string(), z.any())"
  | _ => "z.string()"

/-- Scalars of Prisma. -/
def prisma (type : List Char) : String :=
  decide [
    (["decimal", "numeric"], "Decimal"),
    (["bool"], "Boolean"),
    (["date", "timestamp"], "DateTime"),
    (["json"], "Json"),
    (["int"], "Int"),
    (["float", "double", "real"], "Float")] "String" type

/-- Column functions of Drizzle. -/
def drizzleRules : Dialect → Rules
  | .postgres => [
    (["serial"], "serial"),
    (["int"], "integer"),
    (["text"], "text"),
    (["varchar", "character varying"], "varchar"),
    (["bool"], "boolean"),
    (["timestamp"], "timestamp"),
    (["date"], "date"),
    (["decimal", "numeric"], "decimal"),
    (["double", "float", "real"], "doublePrecision"),
    (["json"], "json")]
  | .mysql => [
    (["serial"], "serial"),
    (["tinyint"], "tinyint"),
    (["int"], "int"),
    (["text"], "text"),
    (["varchar"], "varchar"),
    (["bool"], "boolean"),
    (["timestamp"], "timestamp"),
    (["datetime"], "datetime"),
    (["date"], "date"),
    (["decimal", "numeric"], "decimal"),
    (["double", "float", "real"], "double"),
    (["json"], "json")]
  | .mssql => [
    (["datetime2"], "datetime2"),
    (["datetime"], "datetime"),
    (["date"], "date"),
    (["int"], "integer"),
    (["bit"], "bit"),
    (["bool"], "boolean"),
    (["text"], "text"),
    (["nvarchar"], "nvarchar"),
    (["varchar"], "varchar"),
    (["decimal", "numeric"], "decimal"),
    (["float", "real"], "float")]
  | .clickhouse => [
    (["int"], "integer"),
    (["text"], "text"),
    (["bool"], "boolean"),
    (["date"], "date"),
    (["decimal"], "decimal"),
    (["real", "float"], "real"),
    (["json"], "json")]
  | .sqlite => [
    (["int"], "integer"),
    (["real", "float", "double", "decimal", "numeric"], "real"),
    (["blob"], "blob")]

/-- Types of the dialect itself; only a few foreign ones are respelled. -/
def sql (d : Dialect) (raw : String) (type : List Char) : String :=
  if d = .postgres then
    decide [(["datetime2"], "timestamp"), (["nvarchar"], "varchar"), (["int32"], "integer")]
      raw type
  else raw

/-- The type of generated code for a type of the engine. -/
def type (format : CodeFormat) (d : Dialect) (raw : String) : String :=
  let lower := Text.toAsciiLower raw.toList
  match format with
  | .ts | .kysely => typescript lower
  | .zod => zod lower
  | .prisma =>
    if d = .mssql ∧ lower = ['d', 'a', 't', 'e'] then "DateTime @db.Date" else prisma lower
  | .drizzle => decide (drizzleRules d) "text" lower
  | .sql => sql d raw lower

end TypeMap

end SqlWorkbench
