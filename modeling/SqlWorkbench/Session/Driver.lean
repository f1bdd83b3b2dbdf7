import SqlWorkbench.Query.Template
import SqlWorkbench.Session.Connection
import SqlWorkbench.Keyed

/-!
# Drivers

A driver is what a connection needs to put its requests into words. It is built once and kept
under the identifier of the connection, until dialect or connection string change.
-/

namespace SqlWorkbench

/-- What is built for a connection. -/
structure Driver where
  /-- Tells a driver from an equal one that was built before or after it. -/
  serial : Nat
  dialect : Dialect
  /-- How the queries of the connection are put into words. -/
  style : SqlStyle
  connectionString : String
deriving DecidableEq

namespace Driver

/-- A new driver of a connection. -/
def ofConnection (serial : Nat) (c : Connection) : Driver :=
  { serial, dialect := c.dialect, style := .binding c.dialect,
    connectionString := c.connectionString }

/-- The driver was built for the same dialect and connection string. -/
def fits (d : Driver) (c : Connection) : Bool :=
  d.dialect == c.dialect && d.connectionString == c.connectionString

end Driver

/-- The drivers that are kept, and how many have been built. -/
structure Drivers where
  kept : List (String × Driver) := []
  built : Nat := 0

namespace Drivers

/-- The kept driver of a connection, if it still fits. -/
def find? (ds : Drivers) (c : Connection) : Option Driver :=
  (Keyed.find? ds.kept c.id).filter fun d => d.fits c

/-- Build a driver and keep it in place of an earlier one. -/
def build (ds : Drivers) (c : Connection) : Drivers × Driver :=
  let d := Driver.ofConnection ds.built c
  (⟨Keyed.put ds.kept c.id d, ds.built + 1⟩, d)

/-- The driver of a connection, built if there is none that fits. -/
def driver (ds : Drivers) (c : Connection) : Drivers × Driver :=
  match ds.find? c with
  | some d => (ds, d)
  | none => ds.build c

/-- Forget the driver under an identifier; tells whether there was one. -/
def forget (ds : Drivers) (id : String) : Drivers × Bool :=
  ({ ds with kept := Keyed.erase ds.kept id }, (Keyed.find? ds.kept id).isSome)

/-- The number of drivers that are kept. -/
def size (ds : Drivers) : Nat :=
  ds.kept.length

end Drivers

end SqlWorkbench
