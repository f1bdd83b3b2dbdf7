import SqlWorkbench.Codegen.Generate
import SqlWorkbench.Codegen.Snippet
import SqlWorkbench.CommandLine.Arguments
import SqlWorkbench.Query.Compiled

/-!
# Invocations

The commands of the program and what each of them takes. The path of the settings may stand in
front of the command or among its arguments, which then counts.
-/

namespace SqlWorkbench.CommandLine

/-- What the program is to do. -/
inductive Command where
  /-- Show the statement groups of a script. -/
  | split
  /-- Tell whether a script destroys data. -/
  | check
  /-- Compile a request. -/
  | compile (kind : RequestKind) (dialect : Option Dialect) (isInline : Bool)
  /-- Generate the code of a table. -/
  | generate (format : CodeFormat) (dialect : Option Dialect)
  /-- Put filters on a table into the words of a library. -/
  | query (format : SnippetFormat) (table : String) (dialect : Option Dialect)
  /-- Run a script over a saved connection. -/
  | run (connection : String) (isConfirmed : Bool)

/-- A command with the files that it works on. -/
structure Invocation where
  command : Command
  /-- What the command reads; standard input if absent. -/
  file : Option String := none
  /-- Where the settings are. -/
  settings : Option String := none

/-! ### Commands -/

/-- A path that may be given. -/
def isPath (s : String) : Bool :=
  !s.isEmpty

/-- An option whose values are the names of a choice. -/
def choiceOption {α : Type} (name : String) (named : String → Option α) :
    String × (String → Bool) :=
  (name, fun s => (named s).isSome)

/-- The rules of a command, if there is one with the name. -/
def rules? (command : String) : Option Rules :=
  let settings := ("config", isPath)
  let dialect := choiceOption "dialect" Dialect.ofName?
  let any (name : String) : String × (String → Bool) := (name, fun _ => true)
  match command with
  | "split" | "check" => some { options := [settings] }
  | "compile" => some
      { options := [choiceOption "kind" RequestKind.ofName?, dialect, settings]
        flags := ["inline"] }
  | "generate" => some { options := [choiceOption "format" CodeFormat.ofName?, dialect, settings] }
  | "query" => some
      { options := [choiceOption "format" SnippetFormat.ofName?, any "table", dialect, settings] }
  | "run" => some { options := [any "connection", settings], flags := ["yes"] }
  | _ => none

/-- The command with the name, if its arguments hold what it needs. -/
def Command.ofArguments? (name : String) (a : Arguments) : Option Command :=
  let dialect := (a.option? "dialect").bind Dialect.ofName?
  match name with
  | "split" => some .split
  | "check" => some .check
  | "compile" => do
    some (.compile (← RequestKind.ofName? (← a.option? "kind")) dialect (a.has "inline"))
  | "generate" => do some (.generate (← CodeFormat.ofName? (← a.option? "format")) dialect)
  | "query" => do
    some (.query (← SnippetFormat.ofName? (← a.option? "format")) (← a.option? "table") dialect)
  | "run" => do some (.run (← a.option? "connection") (a.has "yes"))
  | _ => none

namespace Invocation

/-- The invocation of a command with the arguments behind its name. -/
def ofCommand (settings : Option String) (name : String) (args : List String) :
    Except Detour Invocation := do
  let some rules := rules? name | .error .refused
  let a ← Arguments.ofList rules args
  let some command := Command.ofArguments? name a | .error .refused
  pure { command, file := a.operand, settings := (a.option? "config").or settings }

/-- The invocation behind the path of the settings, which is given at most once there. -/
def afterSettings (settings : Option String) : List String → Except Detour Invocation
  | [] => .error .refused
  | "--config" :: path :: rest =>
    if settings.isNone && isPath path && !isOptionLike path then afterSettings (some path) rest
    else .error .refused
  | "--help" :: _ | "-h" :: _ | ["help"] => .error .help
  | "--version" :: _ | "-V" :: _ => .error .version
  | ["help", command] => .error (if (rules? command).isSome then .help else .refused)
  | arg :: rest =>
    match Text.dropPrefix? "--config=".toList arg.toList with
    | some path =>
      if settings.isNone && !path.isEmpty then afterSettings (some (String.ofList path)) rest
      else .error .refused
    | none => ofCommand settings arg rest

/-- The invocation that arguments spell. -/
def ofArguments (args : List String) : Except Detour Invocation :=
  afterSettings none args

/-- The file that the command reads, unless it reads standard input: a hyphen stands for that, with
slashes or single points behind it or without. -/
def input? (i : Invocation) : Option String :=
  i.file.filter fun path =>
    match path.splitOn "/" with
    | "-" :: rest => rest.any fun part => part != "" && part != "."
    | _ => true

end Invocation

/-! ### Texts about the program -/

/-- How the program is used. -/
def usage : String :=
  String.join ([
    "Split, compile and generate SQL for several database engines",
    "",
    "Usage: polysql [OPTIONS] <COMMAND>",
    "",
    "Commands:",
    "  split     Split an editor buffer into statement groups (JSON)",
    "  check     Report whether a buffer contains destructive statements",
    "  compile   Compile a JSON request into dialect SQL",
    "  generate  Generate schema code from a JSON table description",
    "  query     Render a filtered SELECT for a table from a JSON list of filters",
    "  run       Run every statement of a buffer against a saved connection",
    "  help      Print this message or the help of the given subcommand(s)",
    "",
    "Options:",
    "      --config <CONFIG>  Config file (defaults to the user config directory)",
    "  -h, --help             Print help",
    "  -V, --version          Print version"].map (· ++ "\n"))

/-- The version of the program. -/
def versionText : String :=
  "polysql 0.1.0\n"

end SqlWorkbench.CommandLine
