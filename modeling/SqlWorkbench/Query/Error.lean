import SqlWorkbench.Query.Operator

/-!
# Requests that cannot be compiled

The causes for which a request has no query, and their wording.
-/

namespace SqlWorkbench

/-- Why a request has no query. -/
inductive QueryError where
  /-- The word is no operator. -/
  | unknownOperator (word : String)
  /-- The engine has no such operator. -/
  | unsupportedOperator (operator : Operator) (dialect : Dialect)
  /-- The operator compares with a value and none is given. -/
  | missingValue (column : String) (operator : Operator)
  /-- The update changes no column. -/
  | emptyUpdate (table : String)
deriving DecidableEq

/-- The wording of an error. -/
def QueryError.message : QueryError → String
  | unknownOperator word => "unknown filter operator: " ++ Text.quoted word
  | unsupportedOperator operator dialect =>
    "operator " ++ operator.symbol ++ " is not supported by " ++ dialect.name
  | missingValue column operator =>
    "operator " ++ operator.symbol ++ " on column " ++ Text.quoted column ++ " requires a value"
  | emptyUpdate table => "update of " ++ Text.quoted table ++ " has no columns to set"

end SqlWorkbench
