import SqlWorkbench.Dialect
import SqlWorkbench.Text.Blank
import SqlWorkbench.Text.Word

/-!
# Statements as they are sent

ClickHouse changes rows by altering a table. A statement that starts as an update, up to the word
that opens its assignments, is reworded so; all else is sent as it is.
-/

namespace SqlWorkbench.Wording

/-- The assignments of an update, if their opening word comes next, with blanks at either side. -/
def assignments? (s : List Char) : Option (List Char) :=
  match s with
  | [] => none
  | c :: _ =>
    if Text.isBlank c then
      match Text.dropWord? "SET".toList (Text.trimStart s) with
      | some (b :: rest) => if Text.isBlank b then some (Text.trimStart rest) else none
      | _ => none
    else none

/-- The shortest table that is followed by assignments, and these; a table is not empty. -/
def tableAndAssignments? : List Char → Option (List Char × List Char)
  | [] => none
  | c :: s =>
    match assignments? s with
    | some rest => some ([c], rest)
    | none => (tableAndAssignments? s).map fun parts => (c :: parts.1, parts.2)

/-- Table and assignments after blanks, at least one; as many blanks as can be are passed over. -/
def afterBlanks? : List Char → Option (List Char × List Char)
  | [] => none
  | c :: s => if Text.isBlank c then (afterBlanks? s).or (tableAndAssignments? s) else none

/-- An update reworded as an alteration of its table. -/
def altered (s : List Char) : List Char :=
  match (Text.dropWord? "UPDATE".toList (Text.trimStart s)).bind afterBlanks? with
  | some (table, assignments) =>
    s.takeWhile Text.isBlank ++ "ALTER TABLE ".toList ++ table ++ " UPDATE ".toList ++ assignments
  | none => s

/-- The statement as it is sent to an engine of the dialect. -/
def forDispatch (d : Dialect) (sql : String) : String :=
  match d with
  | .clickhouse => String.ofList (altered sql.toList)
  | _ => sql

end SqlWorkbench.Wording
