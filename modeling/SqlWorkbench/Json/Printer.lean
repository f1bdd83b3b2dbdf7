import SqlWorkbench.Json.Basic
import SqlWorkbench.Number.Hexadecimal
import SqlWorkbench.Number.Notation
import SqlWorkbench.Text.Join

/-!
# Writing structured data

Two layouts: compact, without any space, and spread over lines with two blanks per level. Texts
escape the quote, the backslash and the control characters, and nothing else.
-/

namespace SqlWorkbench.Json

/-- How a character appears inside a text. -/
def escapedChar (c : Char) : List Char :=
  if c == '"' then ['\\', '"']
  else if c == '\\' then ['\\', '\\']
  else if c == '\x08' then ['\\', 'b']
  else if c == '\x0C' then ['\\', 'f']
  else if c == '\n' then ['\\', 'n']
  else if c == '\r' then ['\\', 'r']
  else if c == '\t' then ['\\', 't']
  else if c.toNat < 32 then ['\\', 'u'] ++ Hexadecimal.lastDigits 4 c.toNat
  else [c]

/-- A text between double quotes. -/
def quotedText (s : String) : String :=
  String.ofList ('"' :: s.toList.flatMap escapedChar ++ ['"'])

/-- A floating-point number; what has no decimal form is null. -/
def numberText (x : Double) : String :=
  if x.isFinite then x.dataText else "null"

mutual

/-- A value on one line without spaces. -/
def compact : Json → String
  | .null => "null"
  | .bool b => if b then "true" else "false"
  | .int i => toString i
  | .float x => numberText x
  | .string s => quotedText s
  | .array items => "[" ++ Text.joinWith "," (compactItems items) ++ "]"
  | .object members => "\x7b" ++ Text.joinWith "," (compactMembers members) ++ "\x7d"

/-- The items of a list, each on its own. -/
def compactItems : List Json → List String
  | [] => []
  | item :: rest => compact item :: compactItems rest

/-- The members of an object, each on its own. -/
def compactMembers : List (String × Json) → List String
  | [] => []
  | (name, value) :: rest => (quotedText name ++ ":" ++ compact value) :: compactMembers rest

end

/-- The blanks in front of a line at the given level. -/
def indent (level : Nat) : String :=
  String.ofList (List.replicate (2 * level) ' ')

/-- Opening bracket, lines one level deeper, closing bracket; empty contents stay on one line. -/
def block (opening closing : String) (level : Nat) (contents : List String) : String :=
  if contents.isEmpty then opening ++ closing
  else
    opening ++ "\n" ++ Text.joinWith ",\n" (contents.map (indent (level + 1) ++ ·))
      ++ "\n" ++ indent level ++ closing

mutual

/-- A value spread over lines, with the first line at the given level. -/
def prettyAt (level : Nat) : Json → String
  | .null => "null"
  | .bool b => if b then "true" else "false"
  | .int i => toString i
  | .float x => numberText x
  | .string s => quotedText s
  | .array items => block "[" "]" level (prettyItems (level + 1) items)
  | .object members => block "\x7b" "\x7d" level (prettyMembers (level + 1) members)

/-- The items of a list at their level. -/
def prettyItems (level : Nat) : List Json → List String
  | [] => []
  | item :: rest => prettyAt level item :: prettyItems level rest

/-- The members of an object at their level. -/
def prettyMembers (level : Nat) : List (String × Json) → List String
  | [] => []
  | (name, value) :: rest =>
    (quotedText name ++ ": " ++ prettyAt level value) :: prettyMembers level rest

end

/-- A value spread over lines. -/
def pretty (j : Json) : String :=
  prettyAt 0 j

end SqlWorkbench.Json
