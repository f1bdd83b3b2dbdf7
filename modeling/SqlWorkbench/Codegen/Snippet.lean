import SqlWorkbench.Codegen.Naming
import SqlWorkbench.Query.Compile

/-!
# Query snippets

The rows that a list of filters keeps, as a snippet of code: a statement, a Prisma call, a Drizzle
chain or a Kysely chain. All filters have to hold.
-/

namespace SqlWorkbench

/-- A kind of snippet. -/
inductive SnippetFormat where
  | sql | prisma | drizzle | kysely
deriving DecidableEq

namespace SnippetFormat

/-- The name of a kind of snippet. -/
def name : SnippetFormat → String
  | sql => "sql"
  | prisma => "prisma"
  | drizzle => "drizzle"
  | kysely => "kysely"

/-- The kind of snippet with exactly this name. -/
def ofName? (s : String) : Option SnippetFormat :=
  [sql, prisma, drizzle, kysely].find? fun f => f.name == s

end SnippetFormat

namespace Filter

/-- The datum that the operator looks at, as structured data. -/
def firstJson (f : Filter) : Json :=
  (f.operands.head?.map Datum.toJson).getD .null

/-- The data that the operator looks at, as structured data. -/
def arrayJson (f : Filter) : Json :=
  .array (f.operands.map Datum.toJson)

end Filter

namespace Snippet

/-! ### Statements -/

/-- A statement with its terminator. -/
def sql (table : String) (filters : List Filter) (d : Dialect) : Except QueryError String :=
  ((SqlStyle.inlining d).select { table, filters }).map fun q => q.sql ++ ";"

/-! ### Prisma -/

/-- Blanks for a level of an object. -/
def indent (level : Nat) : String :=
  String.ofList (List.replicate (2 * level) ' ')

/-- Contents on lines of their own between brackets. -/
def block (opening closing : String) (level : Nat) (contents : List String) : String :=
  if contents.isEmpty then opening ++ closing
  else
    opening ++ "\n" ++ Text.joinWith ",\n" (contents.map (indent (level + 1) ++ ·)) ++ "\n"
      ++ indent level ++ closing

mutual

/-- Structured data as an object literal, with bare keys where they can be. -/
def object (level : Nat) : Json → String
  | .object members => block "\x7b" "\x7d" level (objectMembers (level + 1) members)
  | .array items => block "[" "]" level (objectItems (level + 1) items)
  | j => j.compact

/-- The members of an object literal. -/
def objectMembers (level : Nat) : List (String × Json) → List String
  | [] => []
  | (name, value) :: rest =>
    (Naming.key name ++ ": " ++ object level value) :: objectMembers level rest

/-- The items of a list literal. -/
def objectItems (level : Nat) : List Json → List String
  | [] => []
  | item :: rest => object level item :: objectItems level rest

end

/-- The clause of a filter. -/
def prismaClause (f : Filter) : Json :=
  let value := f.firstJson
  let only (name : String) (j : Json) : Json := .object [(name, j)]
  let contains : Json := only "contains" value
  let insensitive : Json := .object [("contains", value), ("mode", .string "insensitive")]
  match f.operator with
  | .eq => value
  | .notEq => only "not" value
  | .gt => only "gt" value
  | .gte => only "gte" value
  | .lt => only "lt" value
  | .lte => only "lte" value
  | .like => contains
  | .notLike => only "not" contains
  | .ilike => insensitive
  | .notIlike => only "not" insensitive
  | .isIn => only "in" f.arrayJson
  | .notIn => only "notIn" f.arrayJson
  | .isNull => .null
  | .isNotNull => only "not" .null

/-- Enter the clause of a filter: two objects under one key become one, and otherwise the later
clause takes the place of the earlier one. -/
def enterClause (clauses : List (String × Json)) (f : Filter) : List (String × Json) :=
  let key := Naming.camelCase f.column
  match Keyed.find? clauses key, prismaClause f with
  | some (.object existing), .object more =>
    Keyed.put clauses key (.object (Keyed.putAll existing more))
  | _, clause => Keyed.put clauses key clause

/-- The clauses of all filters. -/
def prismaClauses (filters : List Filter) : List (String × Json) :=
  filters.foldl enterClause []

/-- The lines behind the first moved in by one level. -/
def moveIn (s : String) : String :=
  String.ofList (Text.replaceChar '\n' ['\n', ' ', ' '] s.toList)

/-- A Prisma call. -/
def prisma (table : String) (filters : List Filter) : String :=
  let model := Naming.tableVariable table
  let clauses := prismaClauses filters
  if clauses.isEmpty then "await prisma." ++ model ++ ".findMany()"
  else
    "await prisma." ++ model ++ ".findMany(\x7b\n  where: " ++ moveIn (object 0 (.object clauses))
      ++ "\n\x7d)"

/-! ### Drizzle -/

/-- The function of an operator. -/
def drizzleFunction : Operator → String
  | .eq => "eq"
  | .notEq => "ne"
  | .gt => "gt"
  | .gte => "gte"
  | .lt => "lt"
  | .lte => "lte"
  | .like => "like"
  | .notLike => "notLike"
  | .ilike => "ilike"
  | .notIlike => "notIlike"
  | .isIn => "inArray"
  | .notIn => "notInArray"
  | .isNull => "isNull"
  | .isNotNull => "isNotNull"

/-- The condition of a filter. -/
def drizzleCondition (var : String) (f : Filter) : String :=
  let operand :=
    if !f.operator.hasValue then ""
    else ", " ++ (if f.operator.isArray then f.arrayJson else f.firstJson).compact
  drizzleFunction f.operator ++ "(" ++ Naming.member var (Naming.camelCase f.column) ++ operand
    ++ ")"

/-- A Drizzle chain. -/
def drizzle (table : String) (filters : List Filter) : String :=
  let var := Naming.tableVariable table
  if filters.isEmpty then "await db.select().from(" ++ var ++ ")"
  else
    "await db.select()\n  .from(" ++ var ++ ")\n  .where(and(\n    "
      ++ Text.joinWith ",\n    " (filters.map (drizzleCondition var)) ++ "\n  ))"

/-! ### Kysely -/

/-- A datum as an expression. -/
def kyselyValue : Datum → String
  | .null => "null"
  | .float x => if x.isFinite then x.plainText else "null"
  | .text s => Naming.singleQuoted s
  | .date d => Naming.singleQuoted (Datum.date d).display
  | .moment m => Naming.singleQuoted (Datum.moment m).display
  | .json j => j.compact
  | d => d.display

/-- The condition of a filter. -/
def kyselyCondition (f : Filter) : String :=
  let operator :=
    Naming.singleQuoted (String.ofList (Text.toLower f.operator.symbol.toList))
  let right :=
    match f.operator with
    | .isNull => "'is', null"
    | .isNotNull => "'is not', null"
    | _ =>
      operator ++ ", " ++
        if f.operator.isArray then
          "[" ++ Text.joinWith ", " (f.operands.map kyselyValue) ++ "]"
        else (f.operands.head?.map kyselyValue).getD "null"
  Naming.singleQuoted f.column ++ ", " ++ right

/-- A Kysely chain. -/
def kysely (table : String) (filters : List Filter) : String :=
  let source := "await db.selectFrom(" ++ Naming.singleQuoted table ++ ")"
  if filters.isEmpty then source ++ ".selectAll().execute()"
  else
    source ++ "\n  .selectAll()\n"
      ++ Text.joinWith "\n" (filters.map fun f => "  .where(" ++ kyselyCondition f ++ ")")
      ++ "\n  .execute()"

/-- A snippet; only a statement can fail, on the filters that have no condition. -/
def text (format : SnippetFormat) (table : String) (filters : List Filter) (d : Dialect) :
    Except QueryError String :=
  match format with
  | .sql => sql table filters d
  | .prisma => .ok (prisma table filters)
  | .drizzle => .ok (drizzle table filters)
  | .kysely => .ok (kysely table filters)

end Snippet

end SqlWorkbench
