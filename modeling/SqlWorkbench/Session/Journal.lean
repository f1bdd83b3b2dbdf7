import SqlWorkbench.Datum
import SqlWorkbench.Keyed

/-!
# The journal

Every statement that is sent is entered under its connection before it is sent, and settled in
place with what came of it. Beyond a capacity the oldest settled entries are dropped; pending ones
stay until they settle.
-/

namespace SqlWorkbench

/-- What an engine returns for a statement. -/
structure Output where
  rows : List Row := []
  /-- How long the statement ran. -/
  micros : Nat := 0

/-- One statement in the journal. -/
structure Entry where
  id : Nat
  sql : String
  parameters : List Datum
  result : Option (List Row) := none
  /-- How long the statement ran, in milliseconds, once it has succeeded. -/
  duration : Option Nat := none
  error : Option String := none

namespace Entry

/-- The statement still runs. -/
def isPending (e : Entry) : Bool :=
  e.result.isNone && e.error.isNone

/-- The statement has failed. -/
def isFailed (e : Entry) : Bool :=
  e.error.isSome

/-- The entry with the output of its statement. -/
def complete (output : Output) (e : Entry) : Entry :=
  { e with result := some output.rows, duration := some (output.micros / 1000) }

/-- The entry with the failure of its statement. -/
def fail (message : String) (e : Entry) : Entry :=
  { e with error := some message }

@[simp] theorem id_complete (output : Output) (e : Entry) : (e.complete output).id = e.id := rfl

@[simp] theorem id_fail (message : String) (e : Entry) : (e.fail message).id = e.id := rfl

end Entry

/-! ### Entries of one connection -/

namespace Journal

/-- Without the first settled entries, as many as given. -/
def dropSettled : Nat → List Entry → List Entry
  | 0, log => log
  | _ + 1, [] => []
  | n + 1, e :: log => if e.isPending then e :: dropSettled (n + 1) log else dropSettled n log

@[simp] theorem dropSettled_zero (log : List Entry) : dropSettled 0 log = log := by
  cases log <;> rfl

@[simp] theorem dropSettled_nil (n : Nat) : dropSettled n [] = [] := by
  cases n <;> rfl

/-- Without the oldest settled entries beyond the capacity. -/
def evict (capacity : Option Nat) (log : List Entry) : List Entry :=
  match capacity with
  | none => log
  | some cap => dropSettled (log.length - cap) log

/-- The entry with the identifier. -/
def entryOf? (log : List Entry) (id : Nat) : Option Entry :=
  log.find? fun e => e.id == id

/-- Change the entry with the identifier. -/
def changeEntry (id : Nat) (change : Entry → Entry) (log : List Entry) : List Entry :=
  log.map fun e => if e.id = id then change e else e

end Journal

/-! ### All connections -/

/-- The entries of all connections, in the order in which they were made. -/
structure Journal where
  /-- How many entries a connection keeps; all of them if absent. -/
  capacity : Option Nat
  logs : List (String × List Entry) := []
  /-- The identifier of the next entry. -/
  next : Nat := 0

namespace Journal

/-- The capacity that is taken if none is given. -/
def defaultCapacity : Nat :=
  1000

/-- An empty journal. -/
def empty (capacity : Option Nat := some defaultCapacity) : Journal :=
  { capacity }

/-- The entries of a connection. -/
def entries (j : Journal) (connection : String) : List Entry :=
  (Keyed.find? j.logs connection).getD []

/-- The connections that have been entered and not cleared since, in alphabetical order. -/
def connections (j : Journal) : List String :=
  (j.logs.map Prod.fst).mergeSort fun a b => decide (a ≤ b)

/-- An entry of a connection. -/
def entry? (j : Journal) (connection : String) (id : Nat) : Option Entry :=
  entryOf? (j.entries connection) id

/-- Enter a statement that is about to be sent; the answer is the identifier of its entry. -/
def append (j : Journal) (connection sql : String) (parameters : List Datum) : Journal × Nat :=
  let entry : Entry := { id := j.next, sql, parameters }
  let log := evict j.capacity (j.entries connection ++ [entry])
  ({ j with logs := Keyed.put j.logs connection log, next := j.next + 1 }, entry.id)

/-- Settle an entry; tells whether it was still there. -/
def settle (j : Journal) (connection : String) (id : Nat) (change : Entry → Entry) :
    Journal × Bool :=
  match j.entry? connection id with
  | none => (j, false)
  | some _ =>
    let log := evict j.capacity (changeEntry id change (j.entries connection))
    ({ j with logs := Keyed.put j.logs connection log }, true)

/-- Settle an entry with the output of its statement. -/
def complete (j : Journal) (connection : String) (id : Nat) (output : Output) : Journal × Bool :=
  j.settle connection id (Entry.complete output)

/-- Settle an entry with the failure of its statement. -/
def fail (j : Journal) (connection : String) (id : Nat) (message : String) : Journal × Bool :=
  j.settle connection id (Entry.fail message)

/-- Forget the entries of a connection. -/
def clear (j : Journal) (connection : String) : Journal :=
  { j with logs := Keyed.erase j.logs connection }

end Journal

end SqlWorkbench
