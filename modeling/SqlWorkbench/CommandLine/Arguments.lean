import SqlWorkbench.Keyed
import SqlWorkbench.Text.Join

/-!
# Arguments

The arguments of a command are read from left to right. Two hyphens begin an option, whose value
is attached by an equals sign or is the next argument, or a flag, which has no value. An option or
flag is given at most once. All else is an operand, of which there is at most one; behind two bare
hyphens everything is.
-/

namespace SqlWorkbench.CommandLine

/-- Why arguments lead to no command. -/
inductive Detour where
  /-- They are not understood. -/
  | refused
  /-- They ask how the program is used. -/
  | help
  /-- They ask which version of the program it is. -/
  | version
deriving DecidableEq

/-- What a command takes: options, each with what it accepts as a value, and flags. -/
structure Rules where
  options : List (String × (String → Bool))
  flags : List String := []

/-- Arguments told apart. -/
structure Arguments where
  options : List (String × String) := []
  flags : List String := []
  operand : Option String := none

namespace Arguments

/-- The value of an option. -/
def option? (a : Arguments) (name : String) : Option String :=
  Keyed.find? a.options name

/-- The flag is given. -/
def has (a : Arguments) (flag : String) : Bool :=
  a.flags.contains flag

end Arguments

/-- The argument begins like an option; a bare hyphen does not. -/
def isOptionLike (arg : String) : Bool :=
  match arg.toList with
  | '-' :: _ :: _ => true
  | _ => false

/-- The name of an option, and the value attached to it. -/
def splitAttached (s : List Char) : String × Option String :=
  match Text.splitAt? ['='] s with
  | some (name, value) => (String.ofList name, some (String.ofList value))
  | none => (String.ofList s, none)

/-- The state between two arguments. -/
structure Reading where
  arguments : Arguments := {}
  /-- The option that waits for its value. -/
  waiting : Option String := none
  /-- Nothing is an option any more. -/
  onlyOperands : Bool := false

namespace Reading

/-- Take an option with its value. -/
def takeOption (rules : Rules) (r : Reading) (name value : String) : Except Detour Reading :=
  let isAccepted := ((Keyed.find? rules.options name).map (· value)).getD false
  if isAccepted && (r.arguments.option? name).isNone then
    .ok { r with
      arguments := { r.arguments with options := Keyed.put r.arguments.options name value }
      waiting := none }
  else .error .refused

/-- Take a flag. -/
def takeFlag (rules : Rules) (r : Reading) (name : String) : Except Detour Reading :=
  if name == "help" then .error .help
  else if rules.flags.contains name && !r.arguments.has name then
    .ok { r with arguments := { r.arguments with flags := name :: r.arguments.flags } }
  else .error .refused

/-- Take an operand. -/
def takeOperand (r : Reading) (arg : String) : Except Detour Reading :=
  if r.arguments.operand.isNone && !arg.isEmpty then
    .ok { r with arguments := { r.arguments with operand := some arg } }
  else .error .refused

/-- Take an argument that is not the value of an option. -/
def takeFresh (rules : Rules) (r : Reading) (arg : String) : Except Detour Reading :=
  match arg.toList with
  | ['-', '-'] => .ok { r with onlyOperands := true }
  | '-' :: '-' :: s =>
    match splitAttached s with
    | (name, some value) => r.takeOption rules name value
    | (name, none) =>
      if (Keyed.find? rules.options name).isSome then .ok { r with waiting := some name }
      else r.takeFlag rules name
  | ['-', 'h'] => .error .help
  | '-' :: _ :: _ => .error .refused
  | _ => r.takeOperand arg

/-- Take the next argument. -/
def take (rules : Rules) (r : Reading) (arg : String) : Except Detour Reading :=
  if r.onlyOperands then r.takeOperand arg
  else
    match r.waiting with
    | some name => if isOptionLike arg then .error .refused else r.takeOption rules name arg
    | none => r.takeFresh rules arg

end Reading

/-- The arguments of a command, told apart by its rules. -/
def Arguments.ofList (rules : Rules) (args : List String) : Except Detour Arguments := do
  let r ← args.foldlM (Reading.take rules) {}
  if r.waiting.isSome then .error .refused else pure r.arguments

end SqlWorkbench.CommandLine
