import SqlWorkbench.CommandLine.Execution
import SqlWorkbench.Postgres.Exchange

/-!
# The program

Reads files and standard input, carries out the command of its arguments and prints what comes of
it. No server can be reached from here, so that a script ends at its first statement.
-/

namespace SqlWorkbench.CommandLine

/-- What is found at a path. -/
def find (path : String) : IO Found := do
  try
    return .text (← IO.FS.readFile path)
  catch e =>
    match e with
    | .noFileOrDirectory .. => return .nothing
    | _ => return .unreadable

/-- What standard input holds. -/
def findInput : IO Found := do
  try
    let bytes ← (← IO.getStdin).readBinToEnd
    return (String.fromUTF8? bytes).elim .unreadable .text
  catch _ => return .unreadable

/-- The path of the settings below the directory that the user has for settings. -/
def usualSettings : IO String := do
  let below (directory : String) := directory ++ "/" ++ Settings.defaultPath
  match ← IO.getEnv "XDG_CONFIG_HOME", ← IO.getEnv "HOME" with
  | some directory, home =>
    if directory.startsWith "/" then return below directory
    else return below ((home.map (· ++ "/.config")).getD ".")
  | none, home => return below ((home.map (· ++ "/.config")).getD ".")

/-- Carry out an invocation; the answer is the status of the program. -/
def carryOut (i : Invocation) : IO UInt32 := do
  let settingsPath ← i.settings.elim usualSettings pure
  let settings ← find settingsPath
  let input ← i.input?.elim findInput find
  let surroundings : Surroundings := {
    settingsPath, settings, input, transport := Postgres.transport {} fun _ => none }
  match i.execute surroundings with
  | .ok printed =>
    IO.print printed.text
    return if printed.isSuccess then 0 else 1
  | .error e =>
    IO.eprintln ("Error: " ++ e.message)
    return 1

end SqlWorkbench.CommandLine

open SqlWorkbench SqlWorkbench.CommandLine

/-- Carry out the command of the arguments. -/
def main (args : List String) : IO UInt32 := do
  match Invocation.ofArguments args with
  | .ok i => carryOut i
  | .error .help =>
    IO.print usage
    return 0
  | .error .version =>
    IO.print versionText
    return 0
  | .error .refused =>
    IO.eprint usage
    return 2
