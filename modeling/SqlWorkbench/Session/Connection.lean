import SqlWorkbench.Query.Request
import SqlWorkbench.Session.Redaction

/-!
# Connections

A saved connection names a database and how it is reached. Its identifier is the key to all that
is kept for it.
-/

namespace SqlWorkbench

/-- A saved connection. -/
structure Connection where
  id : String
  name : String := ""
  dialect : Dialect
  /-- How the database is reached, passwords included. -/
  connectionString : String
deriving DecidableEq

namespace Connection

/-- A connection that is named by its identifier. -/
def ofId (id : String) (dialect : Dialect) (connectionString : String) : Connection :=
  { id, name := id, dialect, connectionString }

/-- The connection string with passwords masked. -/
def shown (c : Connection) : String :=
  Redaction.redact c.connectionString

/-- A connection from structured data; only the name may be left out. -/
def ofJson? (j : Json) : Option Connection := do
  let slots ← Json.slots? [⟨"id", .refused⟩, ⟨"name", .default⟩, ⟨"dialect", .refused⟩,
    ⟨"connection_string", .refused⟩] j
  let id ← Json.fieldAt? slots 0 "" Json.string?
  let name ← Json.fieldAt? slots 1 "" Json.string?
  let dialect ← Json.fieldAt? slots 2 .postgres Dialect.ofJson?
  let connectionString ← Json.fieldAt? slots 3 "" Json.string?
  some { id, name, dialect, connectionString }

/-- The connection as structured data. -/
def toJson (c : Connection) : Json :=
  .object [("id", .string c.id), ("name", .string c.name), ("dialect", .string c.dialect.name),
    ("connection_string", .string c.connectionString)]

end Connection

end SqlWorkbench
