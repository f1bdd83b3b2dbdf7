import SqlWorkbench.Keyed
import SqlWorkbench.Number.Double

/-!
# Structured data

A value is null, a boolean, an integer, a floating-point number, a text, a list or a list of named
members. The order of members is part of the value.
-/

namespace SqlWorkbench

/-- A structured value. -/
inductive Json where
  | null
  | bool (value : Bool)
  | int (value : Int)
  | float (value : Double)
  | string (value : String)
  | array (items : List Json)
  | object (members : List (String × Json))
deriving Inhabited

namespace Json

/-! ### Repeated members -/

mutual

/-- Each name once: a repeated member keeps its first place and takes its last value. -/
def normalize : Json → Json
  | .array items => .array (normalizeItems items)
  | .object members => .object (Keyed.putAll [] (normalizeMembers members))
  | other => other

/-- `normalize` on the items of a list. -/
def normalizeItems : List Json → List Json
  | [] => []
  | item :: rest => normalize item :: normalizeItems rest

/-- `normalize` on the values of members. -/
def normalizeMembers : List (String × Json) → List (String × Json)
  | [] => []
  | (name, value) :: rest => (name, normalize value) :: normalizeMembers rest

end

/-! ### Views -/

/-- The text of a text value. -/
def string? : Json → Option String
  | .string s => some s
  | _ => none

/-- The boolean of a boolean value. -/
def bool? : Json → Option Bool
  | .bool b => some b
  | _ => none

/-- The integer of an integer value. -/
def int? : Json → Option Int
  | .int i => some i
  | _ => none

/-- The items of a list value. -/
def array? : Json → Option (List Json)
  | .array items => some items
  | _ => none

/-- The members of an object. -/
def object? : Json → Option (List (String × Json))
  | .object members => some members
  | _ => none

/-- The value is null. -/
def isNull : Json → Bool
  | .null => true
  | _ => false

/-- The number as a floating-point number. -/
def double? : Json → Option Double
  | .int i => some (Double.ofInt i)
  | .float x => some x
  | _ => none

/-- A number that may be absent or null. -/
def ofNat? (n : Option Nat) : Json :=
  n.elim .null fun n => .int n

/-- A text that may be absent. -/
def ofString? (s : Option String) : Json :=
  s.elim .null .string

/-- A list of texts. -/
def ofStrings (ss : List String) : Json :=
  .array (ss.map .string)

end Json

end SqlWorkbench
