import SqlWorkbench.Query.Expression

/-!
# Rendering

An expression is rendered from left to right. The data that are bound on the way are collected, and
a placeholder has the number of its datum among all that are collected so far.
-/

namespace SqlWorkbench

/-- Rendering collects the data that it binds. -/
abbrev Rendering (α : Type) := StateM (List Datum) α

namespace Expression

/-- A datum is written out, or collected and written as a placeholder. -/
def renderDatum (style : SqlStyle) (value : Datum) : Rendering String :=
  if style.inline then return style.dialect.literal value
  else do
    modify fun bound => bound ++ [value]
    return style.dialect.placeholder (← get).length

mutual

/-- The text of an expression. -/
def render (style : SqlStyle) : Expression → Rendering String
  | .name parts => return style.dialect.quotePath parts
  | .literal value => return style.dialect.literal value
  | .parameter value => renderDatum style value
  | .list items => do
    return "(" ++ Text.joinWith ", " (← renderItems style items) ++ ")"
  | .comparison left operator none => do
    return (← render style left) ++ (" " ++ operator)
  | .comparison left operator (some right) => do
    let leftText ← render style left
    let rightText ← render style right
    return leftText ++ (" " ++ operator ++ " ") ++ rightText
  | .junction connective items => do
    return Text.joinWith (" " ++ connective.keyword ++ " ") (← renderConditions style items)
  | .raw sql => return sql

/-- The texts of the items of a list. -/
def renderItems (style : SqlStyle) : List Expression → Rendering (List String)
  | [] => return []
  | item :: rest => do
    let itemText ← render style item
    return itemText :: (← renderItems style rest)

/-- The texts of the items of a junction, wide junctions among them in parentheses. -/
def renderConditions (style : SqlStyle) : List Expression → Rendering (List String)
  | [] => return []
  | item :: rest => do
    let itemText ← render style item
    let condition := if item.isWideJunction then "(" ++ itemText ++ ")" else itemText
    return condition :: (← renderConditions style rest)

end

end Expression

/-! ### Queries -/

/-- Writing a query collects the data that it binds, and may fail. -/
abbrev Writing (α : Type) := StateT (List Datum) (Except QueryError) α

/-- Rendering never fails. -/
instance : MonadLift Rendering Writing where
  monadLift rendering := fun bound => .ok (rendering.run bound)

/-- What is written from the start, with the data that are bound to it. -/
def Writing.query (writing : Writing String) : Except QueryError Query :=
  (writing.run []).map fun (sql, parameters) => ⟨sql, parameters⟩

/-- What is rendered from the start, with the data that are bound to it. -/
def Rendering.query (rendering : Rendering String) : Query :=
  let (sql, parameters) := rendering.run []
  ⟨sql, parameters⟩

end SqlWorkbench
