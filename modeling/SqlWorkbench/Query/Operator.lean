import SqlWorkbench.Dialect
import SqlWorkbench.Text.Quoted

/-!
# Comparison operators

The comparisons of a filter. An operator takes no value, the first of the given values, or all of
them as a list.
-/

namespace SqlWorkbench

/-- A comparison of a filter. -/
inductive Operator where
  | eq | notEq | gt | gte | lt | lte | like | notLike | ilike | notIlike | isIn | notIn
  | isNull | isNotNull
deriving DecidableEq

namespace Operator

/-- All operators. -/
def all : List Operator :=
  [eq, notEq, gt, gte, lt, lte, like, notLike, ilike, notIlike, isIn, notIn, isNull, isNotNull]

/-- How an operator is written. -/
def symbol : Operator → String
  | eq => "="
  | notEq => "!="
  | gt => ">"
  | gte => ">="
  | lt => "<"
  | lte => "<="
  | like => "LIKE"
  | notLike => "NOT LIKE"
  | ilike => "ILIKE"
  | notIlike => "NOT ILIKE"
  | isIn => "IN"
  | notIn => "NOT IN"
  | isNull => "IS NULL"
  | isNotNull => "IS NOT NULL"

theorem mem_all (op : Operator) : op ∈ all := by
  cases op <;> decide

/-- The operator compares with something. -/
def hasValue : Operator → Bool
  | isNull | isNotNull => false
  | _ => true

/-- The operator compares with a list. -/
def isArray : Operator → Bool
  | isIn | notIn => true
  | _ => false

/-- The operator ignores letter case. -/
def isCaseInsensitive : Operator → Bool
  | ilike | notIlike => true
  | _ => false

/-- The operator written exactly so. -/
def ofSymbol? (s : String) : Option Operator :=
  all.find? fun op => op.symbol == s

/-- Capitals, single blanks between the words, and one spelling for each comparison. -/
def normalized (s : String) : String :=
  let words := (Text.fields s.toList).map String.ofList
  let spelled := String.ofList (Text.toUpper (Text.joinWith " " words).toList)
  if spelled == "<>" then "!=" else if spelled == "==" then "=" else spelled

/-- The operator that a user means. -/
def parse? (s : String) : Option Operator :=
  ofSymbol? (normalized s)

end Operator

end SqlWorkbench
