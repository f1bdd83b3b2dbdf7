import SqlWorkbench.Text.Blank
import SqlWorkbench.Text.Casing
import SqlWorkbench.Text.Join
import SqlWorkbench.Text.Letter

/-!
# Labels of enum types

Some engines tell the values of an enum only inside the text of a column type. The text is taken
apart at the commas outside single quotes.
-/

namespace SqlWorkbench.EnumLabels

/-- The parts of a list between the commas outside single quotes. -/
def splitList (s : List Char) : List (List Char) :=
  go s [] false
where
  /-- Collects the current part backwards and knows whether a quote is open. -/
  go : List Char → List Char → Bool → List (List Char)
    | [], part, _ => [part.reverse]
    | c :: rest, part, inQuote =>
      if c = '\x27' then go rest (c :: part) (!inQuote)
      else if c = ',' ∧ !inQuote then part.reverse :: go rest [] inQuote
      else go rest (c :: part) inQuote

/-- Each pair of single quotes becomes one. -/
def undouble : List Char → List Char
  | '\x27' :: '\x27' :: rest => '\x27' :: undouble rest
  | c :: rest => c :: undouble rest
  | [] => []

/-- The text without a character at its end, if it is there. -/
def dropLastIf (c : Char) (s : List Char) : List Char :=
  if s.getLast? = some c then s.dropLast else s

/-- The text without a character at its front, if it is there. -/
def dropFirstIf (c : Char) : List Char → List Char
  | d :: rest => if d = c then rest else d :: rest
  | [] => []

/-- A quoted label without its quotes. -/
def unquote (s : List Char) : List Char :=
  undouble (dropLastIf '\x27' (dropFirstIf '\x27' (Text.trim s)))

/-- The inside of `enum(…)` or `set(…)`, in any case of the letters. -/
def body (s : List Char) : List Char :=
  let lower := Text.toAsciiLower s
  let inside :=
    if (Text.dropPrefix? ['e', 'n', 'u', 'm', '('] lower).isSome then s.drop 5
    else if (Text.dropPrefix? ['s', 'e', 't', '('] lower).isSome then s.drop 4
    else s
  dropLastIf ')' inside

/-- The labels of a type `enum('a','b')` or `set('a','b')`. -/
def ofQuotedList (columnType : String) : List String :=
  let inside := body columnType.toList
  if inside.isEmpty then [] else (splitList inside).map fun part => String.ofList (unquote part)

/-! ### Numbered labels -/

/-- The inside of `Enum8(…)`, with any number in the name and no line break inside. -/
def numberedBody? (s : List Char) : Option (List Char) :=
  match Text.dropPrefix? ['E', 'n', 'u', 'm'] s with
  | some rest =>
    let digits := rest.takeWhile Text.isDecimalDigit
    match rest.dropWhile Text.isDecimalDigit with
    | '(' :: inside =>
      if !digits.isEmpty && inside.getLast? == some ')' && !inside.dropLast.contains '\n' then
        some inside.dropLast
      else none
    | _ => none
  | none => none

/-- The rest of a pair behind its label: blanks, an equals sign, blanks, a digit. -/
def isNumbered (s : List Char) : Bool :=
  match s.dropWhile (· == ' ') with
  | '=' :: rest => ((rest.dropWhile (· == ' ')).head?.map Text.isDecimalDigit).getD false
  | _ => false

/-- The label of a pair `'a' = 1` at the front of a text. -/
def labelAt? : List Char → Option (List Char)
  | '\x27' :: rest =>
    let label := rest.takeWhile (· != '\x27')
    match rest.dropWhile (· != '\x27') with
    | _ :: after => if !label.isEmpty && isNumbered after then some label else none
    | [] => none
  | _ => none

/-- The label of the first pair in a text. -/
def label? : List Char → Option (List Char)
  | [] => none
  | c :: rest => (labelAt? (c :: rest)).or (label? rest)

/-- The labels of a type `Enum8('a' = 1, 'b' = 2)`. -/
def ofNumberedList (dataType : String) : List String :=
  match numberedBody? dataType.toList with
  | some inside => ((splitList inside).filterMap label?).map String.ofList
  | none => []

end SqlWorkbench.EnumLabels
