import SqlWorkbench.Query.Error
import SqlWorkbench.Session.Driver
import SqlWorkbench.Session.Journal
import SqlWorkbench.Session.TransportError
import SqlWorkbench.Session.Wording

/-!
# Sending statements

A session holds the journal and the drivers. A statement is sent in two steps, between which other
statements may be sent and settled: it is entered in the journal and handed to the transport, and
once the transport has answered, its entry is settled.
-/

namespace SqlWorkbench

/-- A statement as the transport receives it. -/
structure Call where
  dialect : Dialect
  connectionString : String
  sql : String
  parameters : List Datum

/-- What the transport answers. -/
structure Reply where
  /-- Connections whose entries were cleared by others while the statement ran. -/
  cleared : List String := []
  outcome : Except TransportError Output

/-- A transport answers a call, given all calls before it. -/
abbrev Transport := List Call → Call → Reply

/-- What is kept while statements are sent. -/
structure Session where
  journal : Journal
  drivers : Drivers := {}
  /-- All that the transport has received. -/
  calls : List Call := []

/-- A statement that has been handed to the transport and not been settled. -/
structure Flight where
  connection : String
  entry : Nat
  reply : Reply

/-- Why an operation fails. -/
inductive SessionError where
  | query (error : QueryError)
  | transport (error : TransportError)
  | streamingUnsupported (dialect : Dialect)
  | unexpectedShape (what : String)

/-- The wording of a failure. -/
def SessionError.message : SessionError → String
  | query e => e.message
  | transport e => e.message
  | streamingUnsupported d => "streaming is not implemented for " ++ d.name
  | unexpectedShape what => "unexpected result shape: " ++ what

namespace Session

/-- A session with nothing sent yet. -/
def ofJournal (journal : Journal) : Session :=
  { journal }

/-- Enter a statement and hand it to the transport. -/
def start (t : Transport) (s : Session) (c : Connection) (sql : String) (parameters : List Datum) :
    Session × Flight :=
  let sql := Wording.forDispatch c.dialect sql
  let (journal, entry) := s.journal.append c.id sql parameters
  let call : Call := { dialect := c.dialect, connectionString := c.connectionString, sql,
                       parameters }
  ({ s with journal, calls := s.calls ++ [call] }, ⟨c.id, entry, t s.calls call⟩)

/-- Settle the entry of a statement with the answer of the transport. -/
def settle (s : Session) (f : Flight) : Session × Except TransportError Output :=
  let journal := f.reply.cleared.foldl Journal.clear s.journal
  let settled := match f.reply.outcome with
    | .ok output => journal.complete f.connection f.entry output
    | .error e => journal.fail f.connection f.entry e.message
  ({ s with journal := settled.1 }, f.reply.outcome)

/-- Send a statement and wait for the answer. -/
def dispatch (t : Transport) (s : Session) (c : Connection) (sql : String)
    (parameters : List Datum) : Session × Except TransportError Output :=
  let (s, flight) := s.start t c sql parameters
  s.settle flight

/-- Send two statements at once. -/
def dispatchBoth (t : Transport) (s : Session) (c : Connection) (first second : String) :
    Session × Except TransportError Output × Except TransportError Output :=
  let (s, f₁) := s.start t c first []
  let (s, f₂) := s.start t c second []
  let (s, r₁) := s.settle f₁
  let (s, r₂) := s.settle f₂
  (s, r₁, r₂)

end Session

end SqlWorkbench
