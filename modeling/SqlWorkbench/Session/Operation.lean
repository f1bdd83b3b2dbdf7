import SqlWorkbench.Query.Compile
import SqlWorkbench.Schema.Catalog
import SqlWorkbench.Schema.Rows
import SqlWorkbench.Script.Group
import SqlWorkbench.Session.Dispatch

/-!
# Operations

What can be done over a connection: requests on tables, scripts, and questions to the catalog.
An operation may fail after it has changed the session, which keeps the changes.
-/

namespace SqlWorkbench

/-- A number of rows. -/
structure RowCount where
  count : Nat
  isEstimated : Bool

/-- A statement of a script with its lines. -/
structure ScriptStep where
  startLine : Nat
  endLine : Nat
  sql : String

/-- What came of a script: the statements that ran, and the one that failed and ended it. -/
structure ScriptReport where
  completed : List (ScriptStep × Output) := []
  failure : Option (ScriptStep × TransportError) := none

namespace ScriptReport

/-- All statements ran. -/
def isSuccess (r : ScriptReport) : Bool :=
  r.failure.isNone

/-- The report with one more statement in front. -/
def precede (r : ScriptReport) (step : ScriptStep) (output : Output) : ScriptReport :=
  { r with completed := (step, output) :: r.completed }

end ScriptReport

/-- The statements of a script in order, each with the lines of its group. -/
def Script.steps (text : String) : List ScriptStep :=
  (groups text).flatMap fun g => g.statements.map fun sql => ⟨g.startLine, g.endLine, sql⟩

namespace Session

/-- An operation on a session. -/
abbrev Operation (α : Type) := ExceptT SessionError (StateM Session) α

/-! ### Statements -/

/-- Run a statement as it is. -/
def execute (t : Transport) (c : Connection) (q : Query) : Operation Output := fun s =>
  let (s, outcome) := s.dispatch t c q.sql q.parameters
  (outcome.mapError .transport, s)

/-- The style in which the queries of a connection are put into words. -/
def styleOf (c : Connection) : Operation SqlStyle := fun s =>
  let (drivers, driver) := s.drivers.driver c
  (.ok driver.style, { s with drivers })

/-- A query in words, or why there is none. -/
def worded {α : Type} (q : Except QueryError α) : Operation α :=
  match q with
  | .ok a => pure a
  | .error e => throw (.query e)

/-! ### Requests -/

/-- The rows of a request. -/
def select (t : Transport) (c : Connection) (r : SelectRequest) : Operation (List Row) := do
  let style ← styleOf c
  let output ← execute t c (← worded (style.select r))
  pure output.rows

/-- Change rows. -/
def update (t : Transport) (c : Connection) (r : UpdateRequest) : Operation Output := do
  let style ← styleOf c
  execute t c (← worded (style.update r))

/-- Remove rows. -/
def delete (t : Transport) (c : Connection) (r : DeleteRequest) : Operation Output := do
  let style ← styleOf c
  execute t c (← worded (style.delete r))

/-- Add a row. -/
def insert (t : Transport) (c : Connection) (r : InsertRequest) : Operation Output := do
  let style ← styleOf c
  execute t c (style.insert r)

/-- The number in a cell of the first row; engines send long integers as texts. -/
def firstNumber? (rows : List Row) (column : String) : Option Double :=
  match rows.head?.bind fun row => Keyed.find? row column with
  | some (.string s) => Double.read? (Text.trim s.toList)
  | some j => j.double?
  | none => none

/-- The number of rows by counting them. -/
def countRows (t : Transport) (c : Connection) (plan : CountPlan) : Operation RowCount := do
  let output ← execute t c plan.countQuery
  match firstNumber? output.rows "total" with
  | some total => pure ⟨total.roundToNat, false⟩
  | none => throw (.unexpectedShape "count query returned no total")

/-- An estimate of the number of rows that can be used. -/
def estimateOf? (output : Output) : Option RowCount :=
  ((firstNumber? output.rows "count").filter Double.isNonnegative).map fun n =>
    ⟨n.roundToNat, true⟩

/-- The number of rows of a request: the estimate where there is one, the count otherwise. -/
def count (t : Transport) (c : Connection) (r : CountRequest) : Operation RowCount := do
  let style ← styleOf c
  let plan ← worded (style.count r)
  match plan with
  | .counted _ => countRows t c plan
  | .estimated estimate _ =>
    let answer ← tryCatch (some <$> execute t c estimate) fun _ => pure none
    match answer.bind estimateOf? with
    | some n => pure n
    | none => countRows t c plan

/-- Rows one by one, which no engine is asked for yet. -/
def stream (c : Connection) (_ : SelectRequest) : Operation (List Row) :=
  throw (.streamingUnsupported c.dialect)

/-! ### Scripts -/

/-- Run statements in order up to the first that fails. -/
def runSteps (t : Transport) (c : Connection) (s : Session) :
    List ScriptStep → Session × ScriptReport
  | [] => (s, {})
  | step :: rest =>
    match s.dispatch t c step.sql [] with
    | (s, .error e) => (s, { failure := some (step, e) })
    | (s, .ok output) =>
      let (s, report) := runSteps t c s rest
      (s, report.precede step output)

/-- Run a script up to the first statement that fails. -/
def runScript (t : Transport) (c : Connection) (s : Session) (text : String) :
    Session × ScriptReport :=
  s.runSteps t c (Script.steps text)

/-! ### The catalog -/

/-- The rows that the catalog gives; none where it is not asked. -/
def ask (t : Transport) (c : Connection) (q : Option Query) : Operation (List Row) :=
  match q with
  | some q => do return (← execute t c q).rows
  | none => pure []

/-- The enum types of a database. -/
def enums (t : Transport) (c : Connection) : Operation (List EnumType) := do
  return Catalog.enumsOfRows c.dialect (← ask t c (Catalog.enums? c.dialect))

/-- The indexes of a table. -/
def indexes (t : Transport) (c : Connection) (table : String) : Operation (List Index) := do
  return Index.group (Catalog.indexColumnsOfRows c.dialect
    (← ask t c (Catalog.indexes? c.dialect))) table

/-- The constraints of a database. -/
def constraints (t : Transport) (c : Connection) : Operation (List Constraint) := do
  return Catalog.constraintsOfRows (← ask t c (Catalog.constraints? c.dialect))

end Session

end SqlWorkbench
