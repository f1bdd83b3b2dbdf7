import SqlWorkbench.Codegen.Ddl
import SqlWorkbench.Codegen.Drizzle
import SqlWorkbench.Codegen.Prisma
import SqlWorkbench.Codegen.TypeScript

/-!
# Generated code

A table in every kind of generated code.
-/

namespace SqlWorkbench

/-- A table as code. -/
def TableModel.code (m : TableModel) : CodeFormat → String
  | .sql => Ddl.text m
  | .ts => TypeScript.text m
  | .zod => Zod.text m
  | .prisma => Prisma.text m
  | .drizzle => Drizzle.text m
  | .kysely => Kysely.text m

end SqlWorkbench
