/-!
# Failures of engines

An engine tells of a failure by a message and, often, a code of five characters whose first two
name its class.
-/

namespace SqlWorkbench

/-- What kind of failure it is. -/
inductive ErrorCategory where
  | syntaxError
  | semantic
  | execution
  | transaction
  | connection
  | unknown
deriving DecidableEq

namespace ErrorCategory

/-- The name of the category. -/
def name : ErrorCategory → String
  | syntaxError => "Syntax"
  | semantic => "Semantic"
  | execution => "Execution"
  | transaction => "Transaction"
  | connection => "Connection"
  | unknown => "Unknown"

/-- All categories. -/
def all : List ErrorCategory :=
  [syntaxError, semantic, execution, transaction, connection, unknown]

/-- The category with the name. -/
def ofName? (s : String) : Option ErrorCategory :=
  all.find? fun c => c.name == s

/-- The category as it is shown in front of a message. -/
def label : ErrorCategory → String
  | unknown => "Error"
  | c => c.name ++ " Error"

/-- The category of a code, by its class. -/
def ofCode (code : String) : ErrorCategory :=
  match code.toList.take 2 with
  | ['4', '2'] => if code = "42601" ∨ code = "42000" then syntaxError else semantic
  | ['2', '2'] | ['2', '3'] | ['5', '3'] | ['5', '4'] | ['5', '5'] | ['5', '7'] => execution
  | ['2', '5'] | ['4', '0'] => transaction
  | ['0', '8'] => connection
  | _ => unknown

end ErrorCategory

/-- A failure that an engine, or the way to it, reports. -/
structure TransportError where
  category : ErrorCategory := .unknown
  message : String
  code : Option String := none
deriving DecidableEq

namespace TransportError

/-- A failure with the category of its code. -/
def ofCode (code message : String) : TransportError :=
  ⟨.ofCode code, message, some code⟩

/-- A failure of the connection. -/
def ofConnection (message : String) : TransportError :=
  ⟨.connection, message, none⟩

/-- The message with category and code. -/
def fullMessage (e : TransportError) : String :=
  e.category.label ++ ": " ++ e.message ++
    match e.code with
    | some code => " (SQLSTATE " ++ code ++ ")"
    | none => ""

end TransportError

end SqlWorkbench
