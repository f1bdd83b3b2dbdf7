import SqlWorkbench.Query.Filter
import SqlWorkbench.Query.Template

/-!
# Expressions

An expression is a tree of names, data, lists, comparisons and junctions. Its template names no
dialect in the data, only in the quoting of names and in the literals that are always written out.
-/

namespace SqlWorkbench

/-- A part of a statement. -/
inductive Expression where
  /-- A possibly qualified name. -/
  | name (parts : List String)
  /-- A datum that is always written out. -/
  | literal (value : Datum)
  /-- A datum that is bound where the style binds data. -/
  | parameter (value : Datum)
  /-- A parenthesised list. -/
  | list (items : List Expression)
  /-- A comparison; some operators have no right side. -/
  | comparison (left : Expression) (operator : String) (right : Option Expression)
  /-- Conditions joined by one connective. -/
  | junction (connective : Connective) (items : List Expression)
  /-- A fragment that is taken as it is. -/
  | raw (sql : String)
deriving Inhabited

namespace Expression

/-- A column. -/
def column (name : String) : Expression :=
  .name [name]

/-- A table, qualified unless the schema is absent or empty. -/
def table (schema : Option String) (table : String) : Expression :=
  match schema with
  | some s => if s.isEmpty then .name [table] else .name [s, table]
  | none => .name [table]

/-- A junction of more than one condition, which needs parentheses inside another. -/
def isWideJunction : Expression → Bool
  | .junction _ items => decide (1 < items.length)
  | _ => false

mutual

/-- The template of an expression. -/
def template (d : Dialect) : Expression → Template
  | .name parts => .ofText (d.quotePath parts)
  | .literal value => .ofText (d.literal value)
  | .parameter value => [.slot value]
  | .list items => .ofText "(" ++ .joinWith ", " (templates d items) ++ .ofText ")"
  | .comparison left operator none => template d left ++ .ofText (" " ++ operator)
  | .comparison left operator (some right) =>
    template d left ++ .ofText (" " ++ operator ++ " ") ++ template d right
  | .junction connective items =>
    .joinWith (" " ++ connective.keyword ++ " ") (conditions d items)
  | .raw sql => .ofText sql

/-- The templates of the items of a list. -/
def templates (d : Dialect) : List Expression → List Template
  | [] => []
  | item :: rest => template d item :: templates d rest

/-- The templates of the items of a junction, wide junctions among them in parentheses. -/
def conditions (d : Dialect) : List Expression → List Template
  | [] => []
  | item :: rest =>
    (if item.isWideJunction then .ofText "(" ++ template d item ++ .ofText ")"
      else template d item) :: conditions d rest

end

end Expression

end SqlWorkbench
