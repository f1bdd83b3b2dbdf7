import SqlWorkbench.CommandLine.Invocation
import SqlWorkbench.Json.Reader
import SqlWorkbench.Script.Danger
import SqlWorkbench.Session.Operation
import SqlWorkbench.Settings

/-!
# Execution

A command works on what it finds: settings, an input and a transport. It prints structured data or
generated code, or fails with a cause; a script that stops halfway is printed and counts as failed.
-/

namespace SqlWorkbench

/-! ### What is printed -/

/-- A statement group as structured data. -/
def StatementGroup.toJson (g : StatementGroup) : Json :=
  .object [("startLine", .int g.startLine), ("endLine", .int g.endLine),
    ("statements", Json.ofStrings g.statements)]

/-- The members that tell of a statement of a script. -/
def ScriptStep.members (s : ScriptStep) : List (String × Json) :=
  [("startLine", .int s.startLine), ("endLine", .int s.endLine), ("sql", .string s.sql)]

/-- What came of a script as structured data. -/
def ScriptReport.toJson (r : ScriptReport) : Json :=
  let completed := r.completed.map fun c => Json.object (c.1.members ++
    [("rows", .array (c.2.rows.map .object)), ("durationMs", .int (c.2.micros / 1000))])
  let failure := r.failure.map fun f =>
    Json.object (f.1.members ++ [("error", .string f.2.fullMessage)])
  .object [("completed", .array completed), ("failure", failure.getD .null)]

namespace CommandLine

/-- Why a command fails. -/
inductive Failure where
  | settings (error : SettingsError)
  /-- The file at the path cannot be read. -/
  | unreadableFile (path : String)
  /-- Standard input cannot be read. -/
  | unreadableInput
  /-- The input is not what the command reads. -/
  | malformedInput (what : String)
  | query (error : QueryError)
  /-- The settings at the path have no such connection. -/
  | unknownConnection (key path : String)
  /-- The script destroys data, and nobody has confirmed it. -/
  | unconfirmed
deriving DecidableEq

/-- The wording of a failure. -/
def Failure.message : Failure → String
  | settings e => e.message
  | unreadableFile path => "Failed to read " ++ path
  | unreadableInput => "Failed to read stdin"
  | malformedInput what => "Invalid " ++ what
  | query e => e.message
  | unknownConnection key path =>
    "no saved connection named " ++ Text.quoted key ++ " in " ++ path
  | unconfirmed => "buffer contains destructive statements; pass --yes to run it"

/-- What a command prints. -/
structure Printed where
  text : String
  /-- The command has done all that it was to do. -/
  isSuccess : Bool := true

/-- What a command finds. -/
structure Surroundings where
  settingsPath : String
  settings : Found
  /-- What is in the file of the command, or in standard input. -/
  input : Found
  transport : Transport

/-! ### Steps -/

/-- A line of output. -/
def printLine (s : String) : Printed :=
  { text := s ++ "\n" }

/-- Structured data as output. -/
def printJson (j : Json) : Printed :=
  printLine j.pretty

/-- The input of a command. -/
def Invocation.read (i : Invocation) (w : Surroundings) : Except Failure String :=
  match w.input, i.input? with
  | .text s, _ => .ok s
  | _, some path => .error (.unreadableFile path)
  | _, none => .error .unreadableInput

/-- The value that an input holds. -/
def decodeInput {α : Type} (what : String) (decode : Json → Option α) (input : String) :
    Except Failure α :=
  match (Json.readRaw? input).bind decode with
  | some a => .ok a
  | none => .error (.malformedInput what)

/-- A datum of an input. -/
def datum (j : Json) : Option Datum :=
  some (Datum.ofJson j.normalize)

/-- Compile the request of an input. -/
def compileInput (kind : RequestKind) (style : SqlStyle) (input : String) :
    Except Failure Printed := do
  let request ← decodeInput (kind.name ++ " request") (Request.ofJson? kind datum) input
  let compiled ← (request.compile style).mapError .query
  pure (printJson compiled.toJson)

/-- Run a script over a connection. -/
def runScript (t : Transport) (s : Settings) (c : Connection) (script : String) : Printed :=
  let (_, report) := (Session.ofJournal s.journal).runScript t c script
  { printJson report.toJson with isSuccess := report.isSuccess }

/-! ### Commands -/

/-- Carry out an invocation. -/
def Invocation.execute (i : Invocation) (w : Surroundings) : Except Failure Printed := do
  let settings ← (Settings.load w.settingsPath w.settings).mapError .settings
  match i.command with
  | .split =>
    let script ← i.read w
    pure (printJson (.array ((Script.groups script).map StatementGroup.toJson)))
  | .check =>
    let script ← i.read w
    pure (printJson (.object [("dangerous", .bool (Script.isDestructive script))]))
  | .compile kind dialect isInline =>
    let dialect := dialect.getD settings.defaultDialect
    compileInput kind (if isInline then .inlining dialect else .binding dialect) (← i.read w)
  | .generate format dialect =>
    let model ← decodeInput "generator input" TableModel.ofJson? (← i.read w)
    pure (printLine ({ model with dialect := dialect.getD model.dialect }.code format))
  | .query format table dialect =>
    let filters ← decodeInput "filter list" (Json.list? (Filter.ofJson? datum)) (← i.read w)
    let dialect := dialect.getD settings.defaultDialect
    let text ← (Snippet.text format table filters dialect).mapError .query
    pure (printLine text)
  | .run key isConfirmed =>
    let some connection := settings.connection? key
      | .error (.unknownConnection key w.settingsPath)
    let script ← i.read w
    if Script.isDestructive script && !isConfirmed then .error .unconfirmed
    else pure (runScript w.transport settings connection script)

end CommandLine

end SqlWorkbench
