import SqlWorkbench.Datum
import SqlWorkbench.Query.Error

/-!
# Filters

A filter compares a column with data. Filters are joined by one connective for the whole list.
-/

namespace SqlWorkbench

/-- How neighbouring conditions are joined. -/
inductive Connective where
  | and | or
deriving DecidableEq, Inhabited

/-- The word of a connective. -/
def Connective.keyword : Connective → String
  | and => "AND"
  | or => "OR"

/-- The connective with exactly this word. -/
def Connective.ofKeyword? (s : String) : Option Connective :=
  if s == "AND" then some and else if s == "OR" then some or else none

/-- The direction of an ordering. -/
inductive Direction where
  | ascending | descending
deriving DecidableEq, Inhabited

/-- The word of a direction. -/
def Direction.keyword : Direction → String
  | ascending => "ASC"
  | descending => "DESC"

/-- The direction with exactly this word. -/
def Direction.ofKeyword? (s : String) : Option Direction :=
  if s == "ASC" then some ascending else if s == "DESC" then some descending else none

/-- A condition on a column. -/
structure Filter where
  column : String
  operator : Operator
  values : List Datum

namespace Filter

/-- The filter with the operator that the word means. -/
def parse (column word : String) (values : List Datum) : Except QueryError Filter :=
  match Operator.parse? word with
  | some operator => .ok ⟨column, operator, values⟩
  | none => .error (.unknownOperator word)

/-- The values that the operator looks at: none, all of them without blanks around them, or the
first. -/
def operands (f : Filter) : List Datum :=
  if !f.operator.hasValue then []
  else if f.operator.isArray then f.values.map Datum.trimmed
  else f.values.take 1

end Filter

end SqlWorkbench
