import SqlWorkbench.Codegen.Naming
import SqlWorkbench.Codegen.TableModel

/-!
# Interfaces and validators

A table as a TypeScript interface, as a Zod validator, and as the interface of a Kysely database.
-/

namespace SqlWorkbench

/-! ### Interfaces -/

namespace TypeScript

/-- The values of an enum type as a union, or as a list of members of the union. -/
def union (c : Column) (e : EnumType) : String :=
  let union := Text.joinWith " | " (e.values.map Naming.singleQuoted)
  if c.isSetOf e then "(" ++ union ++ ")[]" else union

/-- The type of a column. -/
def columnType (m : TableModel) (c : Column) : String :=
  match m.enumOf? c with
  | some e => union c e
  | none => m.typeOf .ts c

/-- The interface of a table. -/
def text (m : TableModel) : String :=
  let fields := m.columns.map fun c =>
    "  " ++ Naming.key c.id ++ (if c.isNullable then "?" else "") ++ ": " ++ columnType m c ++ ";"
  "export interface " ++ Naming.pascalCase m.table ++ " \x7b\n" ++ Text.joinWith "\n" fields
    ++ "\n\x7d"

end TypeScript

/-! ### Validators -/

namespace Zod

/-- The validator of the values of an enum type. -/
def enumValidator (c : Column) (e : EnumType) : String :=
  "z.enum([" ++ Text.joinWith ", " (e.values.map Naming.singleQuoted) ++ "])"
    ++ if c.isSetOf e then ".array()" else ""

/-- The validator of a column without an enum type. -/
def scalarValidator (m : TableModel) (c : Column) : String :=
  let type := m.typeOf .zod c
  if type == "z.string()" then
    match c.maxLength.filter (0 < ·) with
    | some n => "z.string().max(" ++ toString n ++ ")"
    | none => type
  else if type == "z.number()" && TypeMap.hasAny (Text.toAsciiLower c.dataType.toList) ["int"] then
    "z.int()"
  else type

/-- The validator of a column. -/
def validator (m : TableModel) (c : Column) : String :=
  (match m.enumOf? c with
    | some e => enumValidator c e
    | none => scalarValidator m c)
  ++ if c.isNullable then ".nullable()" else ""

/-- The validator of a table. -/
def text (m : TableModel) : String :=
  let pascal := Naming.pascalCase m.table
  let camel := Naming.camelCase pascal
  let fields := m.columns.map fun c => "  " ++ Naming.key c.id ++ ": " ++ validator m c ++ ","
  Text.joinWith "\n" [
    "import * as z from 'zod';",
    "",
    "export const " ++ camel ++ "Schema = z.object(\x7b",
    Text.joinWith "\n" fields,
    "\x7d);",
    "",
    "export type " ++ pascal ++ " = z.infer<typeof " ++ camel ++ "Schema>;"]

end Zod

/-! ### Databases -/

namespace Kysely

/-- The type of a column: keys are generated, and null is a value. -/
def columnType (m : TableModel) (c : Column) : String :=
  let type := TypeScript.columnType m c
  (if c.primaryKey then "Generated<" ++ type ++ ">" else type)
    ++ if c.isNullable then " | null" else ""

/-- The interface of a table and of a database with it. -/
def text (m : TableModel) : String :=
  let pascal := Naming.pascalCase m.table
  let fields := m.columns.map fun c => "  " ++ Naming.key c.id ++ ": " ++ columnType m c ++ ";"
  Text.joinWith "\n" [
    "import \x7b Generated \x7d from 'kysely';",
    "",
    "export interface " ++ pascal ++ "Table \x7b",
    Text.joinWith "\n" fields,
    "\x7d",
    "",
    "export interface Database \x7b",
    "  " ++ Naming.key m.table ++ ": " ++ pascal ++ "Table;",
    "\x7d"]

end Kysely

end SqlWorkbench
