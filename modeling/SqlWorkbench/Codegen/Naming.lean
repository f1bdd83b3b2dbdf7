import SqlWorkbench.Json.Printer
import SqlWorkbench.Text.Casing
import SqlWorkbench.Text.Letter

/-!
# Names in generated code

Names of tables and columns become identifiers of the generated code: split into words, put
together again in the case of types or of values, quoted where they are no identifiers, and kept
apart from each other.
-/

namespace SqlWorkbench.Naming

/-! ### Identifiers -/

/-- A character that an identifier may begin with. -/
def isIdentifierStart (c : Char) : Bool :=
  c.isAlpha || c == '_' || c == '$'

/-- A character that may follow in an identifier. -/
def isIdentifierPart (c : Char) : Bool :=
  Text.isWordChar c || c == '$'

/-- The name can stand without quotes. -/
def isBare (name : String) : Bool :=
  match name.toList with
  | c :: rest => isIdentifierStart c && rest.all isIdentifierPart
  | [] => false

/-- How a character appears between single quotes. -/
def escapedChar (c : Char) : List Char :=
  if c = '\\' then ['\\', '\\']
  else if c = '\x27' then ['\\', '\x27']
  else if c = '\n' then ['\\', 'n']
  else if c = '\r' then ['\\', 'r']
  else if c = '\t' then ['\\', 't']
  else [c]

/-- A text between single quotes. -/
def singleQuoted (s : String) : String :=
  String.ofList ('\x27' :: s.toList.flatMap escapedChar ++ ['\x27'])

/-- A text between double quotes. -/
def doubleQuoted (s : String) : String :=
  Json.quotedText s

/-- A name as a key of an object. -/
def key (name : String) : String :=
  if isBare name then name else singleQuoted name

/-- A member of an object. -/
def member (object name : String) : String :=
  if isBare name then object ++ "." ++ name else object ++ "[" ++ singleQuoted name ++ "]"

/-- The name with an underscore in place of each character that no word has. -/
def sanitized (name : String) : String :=
  String.ofList (name.toList.map fun c => if Text.isWordChar c then c else '_')

/-! ### Words -/

/-- The runs of letters and digits of a text. -/
def alphanumericRuns (s : List Char) : List (List Char) :=
  go s []
where
  /-- Collects the current run backwards. -/
  go : List Char → List Char → List (List Char)
    | [], run => if run.isEmpty then [] else [run.reverse]
    | c :: rest, run =>
      if Text.isAlphanumeric c then go rest (c :: run)
      else if run.isEmpty then go rest []
      else run.reverse :: go rest []

/-- A word ends between two characters; `next` is the one after them. -/
def isBoundary (previous current : Char) (next : Option Char) : Bool :=
  Text.isUpper current &&
    (Text.isLower previous || (Text.isUpper previous && (next.map Text.isLower).getD false))

/-- The words of a run, each of which has one case or begins with a capital. -/
def wordsOfRun (run : List Char) : List (List Char) :=
  match run with
  | [] => []
  | c :: rest => go c [c] rest
where
  /-- Knows the previous character and collects the current word backwards. -/
  go (previous : Char) (word : List Char) : List Char → List (List Char)
    | [] => [word.reverse]
    | c :: rest =>
      if isBoundary previous c rest.head? then word.reverse :: go c [c] rest
      else go c (c :: word) rest

/-- The words of a name. -/
def words (name : List Char) : List (List Char) :=
  (alphanumericRuns name).flatMap wordsOfRun

/-- A word with a capital in front and small letters behind. -/
def capitalized : List Char → List Char
  | [] => []
  | c :: rest => Text.upperChars c ++ rest.flatMap Text.lowerChars

/-- An underscore in front of a name that would begin with a digit. -/
def guardDigit (s : List Char) : List Char :=
  match s with
  | c :: _ => if c.isDigit then '_' :: s else s
  | [] => []

/-- The name of a type; it is never empty. -/
def pascalCase (name : String) : String :=
  let pascal := (words name.toList).flatMap capitalized
  if pascal.isEmpty then "Table" else String.ofList (guardDigit pascal)

/-- The name of a value; a name without letters and digits keeps its length. -/
def camelCase (name : String) : String :=
  let camel := match words name.toList with
    | [] => []
    | first :: rest => Text.toLower first ++ rest.flatMap capitalized
  if camel.isEmpty then sanitized name else String.ofList (guardDigit camel)

/-- The name of the variable that holds a table. -/
def tableVariable (table : String) : String :=
  camelCase (pascalCase table)

/-! ### Keeping names apart -/

/-- The candidate followed by the first number from `number` on that makes it free. -/
def numbered (used : List String) (candidate : String) (number : Nat) : Nat → String
  | 0 => candidate ++ toString number
  | fuel + 1 =>
    if used.contains (candidate ++ toString number) then
      numbered used candidate (number + 1) fuel
    else candidate ++ toString number

/-- A free name: the candidate, or the candidate with a number from two on. -/
def free (used : List String) (candidate : String) : String :=
  if used.contains candidate then numbered used candidate 2 used.length else candidate

/-- Take a free name for the candidate. -/
def claim (used : List String) (candidate : String) : String × List String :=
  let name := free used candidate
  (name, name :: used)

/-- Take a name for a relation: its base, or the base with the column that it comes from. -/
def claimRelation (used : List String) (base sourceColumn : String) : String × List String :=
  let name := camelCase base
  if used.contains name then claim used (camelCase (base ++ "_" ++ sourceColumn))
  else (name, name :: used)

/-! ### Suffixes -/

/-- What stands in front of an ending, if the text ends with it. -/
def dropEnding? (ending s : List Char) : Option (List Char) :=
  if ending.length ≤ s.length && s.drop (s.length - ending.length) == ending then
    some (s.take (s.length - ending.length))
  else none

/-- The name of a column without the ending that marks it as a key; an ending alone stays. -/
def withoutIdEnding (id : String) : String :=
  let stem := ((dropEnding? ['_', 'i', 'd'] id.toList).or
    (dropEnding? ['I', 'd'] id.toList)).getD []
  if stem.isEmpty then id else String.ofList stem

end SqlWorkbench.Naming
