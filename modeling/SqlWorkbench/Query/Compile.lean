import SqlWorkbench.Query.Rendering
import SqlWorkbench.Query.Request

/-!
# Queries of requests

Each request is written from left to right in a style. A request fails on the first filter that has
no condition; an update also fails when it changes nothing.
-/

namespace SqlWorkbench

/-! ### Conditions -/

/-- The condition of a filter. A filter on an empty list keeps the meaning of a set: nothing is
in it. -/
def Filter.condition (d : Dialect) (f : Filter) : Except QueryError Expression :=
  if f.operator.isCaseInsensitive && !d.supportsCaseInsensitive then
    .error (.unsupportedOperator f.operator d)
  else if !f.operator.hasValue then
    .ok (.comparison (.column f.column) f.operator.symbol none)
  else if f.operator.isArray then
    if f.operands.isEmpty then .ok (.raw (if f.operator = .notIn then "1 = 1" else "1 = 0"))
    else
      .ok (.comparison (.column f.column) f.operator.symbol
        (some (.list (f.operands.map .parameter))))
  else match f.operands with
    | value :: _ =>
      .ok (.comparison (.column f.column) f.operator.symbol (some (.parameter value)))
    | [] => .error (.missingValue f.column f.operator)

/-- The restriction to the rows that the filters keep; nothing if there are no filters. -/
def whereClause (style : SqlStyle) (filters : List Filter) (connective : Connective) :
    Writing (Option String) :=
  if filters.isEmpty then return none
  else do
    let conditions ← liftM (filters.mapM (Filter.condition style.dialect))
    return some ("WHERE " ++ (← (Expression.junction connective conditions).render style))

/-! ### Rows -/

/-- The largest limit that stands for none. -/
def largestLimit : String := "18446744073709551615"

/-- The limit and offset of a request. -/
def paging (d : Dialect) (limit offset : Option Nat) : List String :=
  match d with
  | .mssql =>
    match limit, offset with
    | some l, o =>
      ["OFFSET " ++ toString (o.getD 0) ++ " ROWS FETCH NEXT " ++ toString l ++ " ROWS ONLY"]
    | none, some o => ["OFFSET " ++ toString o ++ " ROWS"]
    | none, none => []
  | _ =>
    let limitText : Option String :=
      match limit, offset with
      | some l, _ => some (toString l)
      | none, some _ =>
        if d = .mysql then some largestLimit else if d = .sqlite then some "-1" else none
      | none, none => none
    (limitText.map ("LIMIT " ++ ·)).toList ++ (offset.map fun o => "OFFSET " ++ toString o).toList

/-- The columns that are selected. -/
def projection (style : SqlStyle) (columns : Option (List String)) : Rendering String :=
  match columns with
  | some (c :: cs) => do
    return Text.joinWith ", " (← Expression.renderItems style ((c :: cs).map .column))
  | _ => return "*"

/-- The order of the rows; paging needs one in some dialects. -/
def orderClause (style : SqlStyle) (request : SelectRequest) : Rendering (Option String) :=
  if !request.ordering.isEmpty then do
    let columns ← Expression.renderItems style (request.ordering.map fun o => .column o.column)
    let orders := List.zipWith (fun column o => column ++ " " ++ o.direction.keyword) columns
      request.ordering
    return some ("ORDER BY " ++ Text.joinWith ", " orders)
  else if (request.limit.isSome || request.offset.isSome) && style.dialect = .mssql then
    return some "ORDER BY (SELECT NULL)"
  else return none

/-! ### Numbers of rows -/

/-- How the number of rows of a table is found. -/
inductive CountPlan where
  /-- Ask the catalog first, and count if it does not know. -/
  | estimated (estimate count : Query)
  /-- Count. -/
  | counted (count : Query)

namespace CountPlan

/-- The query that counts. -/
def countQuery : CountPlan → Query
  | estimated _ count => count
  | counted count => count

/-- The catalog is asked first. -/
def isEstimated : CountPlan → Bool
  | estimated _ _ => true
  | counted _ => false

end CountPlan

/-- What the catalog is asked for in place of a schema that is absent or empty. -/
def schemaOr (schema : Option String) (fallback : String) : Expression :=
  match schema with
  | some s => if s.isEmpty then .raw fallback else .parameter (.text s)
  | none => .raw fallback

/-- Equality of catalog columns with expressions, all of them. -/
def catalogConditions (conditions : List (String × Expression)) : Expression :=
  .junction .and (conditions.map fun c => .comparison (.raw c.1) "=" (some c.2))

/-- What the catalog is asked for a number of rows, where it knows one: a selection and the
condition on it. -/
def catalogQuestion (d : Dialect) (schema : Option String) (table : String) :
    Option (String × Expression) :=
  match d with
  | .postgres =>
    some ("SELECT c.reltuples AS count FROM pg_catalog.pg_class c " ++
        "INNER JOIN pg_catalog.pg_namespace n ON n.oid = c.relnamespace",
      catalogConditions [("n.nspname", schemaOr schema "current_schema()"),
        ("c.relname", .parameter (.text table))])
  | .mysql =>
    some ("SELECT TABLE_ROWS AS count FROM information_schema.TABLES",
      catalogConditions [("TABLE_SCHEMA", schemaOr schema "DATABASE()"),
        ("TABLE_NAME", .parameter (.text table))])
  | .clickhouse =>
    some ("SELECT sum(rows) AS count FROM system.parts",
      catalogConditions [("database", schemaOr schema "currentDatabase()"),
        ("table", .parameter (.text table)), ("active", .literal (.int 1))])
  | .mssql | .sqlite => none

/-! ### Queries -/

namespace SqlStyle

/-- The query of a request for rows. -/
def select (style : SqlStyle) (r : SelectRequest) : Except QueryError Query :=
  Writing.query do
    let columns ← projection style r.columns
    let table ← (Expression.table r.schema r.table).render style
    let clause ← whereClause style r.filters r.connective
    let order ← orderClause style r
    return Text.joinWith " " (["SELECT " ++ columns, "FROM " ++ table]
      ++ clause.toList ++ order.toList ++ paging style.dialect r.limit r.offset)

/-- The query that asks the catalog for a number of rows, where there is one. -/
def estimate (style : SqlStyle) (schema : Option String) (table : String) : Option Query :=
  (catalogQuestion style.dialect schema table).map fun (selection, condition) =>
    Rendering.query do
      return selection ++ " WHERE " ++ (← condition.render style)

/-- The query that counts rows. -/
def exactCount (style : SqlStyle) (r : CountRequest) : Except QueryError Query :=
  Writing.query do
    let table ← (Expression.table r.schema r.table).render style
    let clause ← whereClause style r.filters r.connective
    return Text.joinWith " " (("SELECT COUNT(*) AS total FROM " ++ table) :: clause.toList)

/-- The plan of a request for a number of rows: the catalog is asked only for whole tables, and
only where an estimate will do. -/
def count (style : SqlStyle) (r : CountRequest) : Except QueryError CountPlan :=
  (style.exactCount r).map fun count =>
    if r.exact || !r.filters.isEmpty then .counted count
    else match style.estimate r.schema r.table with
      | some estimate => .estimated estimate count
      | none => .counted count

/-- The query of a change of rows. -/
def update (style : SqlStyle) (r : UpdateRequest) : Except QueryError Query :=
  if r.assignments.isEmpty then .error (.emptyUpdate r.table)
  else Writing.query do
    let table ← (Expression.table r.schema r.table).render style
    let assignments ← Expression.renderItems style (r.assignments.map fun a =>
      .comparison (.column a.column) "=" (some (.parameter a.value)))
    let clause ← whereClause style r.filters r.connective
    return Text.joinWith " "
      (("UPDATE " ++ table ++ " SET " ++ Text.joinWith ", " assignments) :: clause.toList)

/-- The query of a removal of rows. -/
def delete (style : SqlStyle) (r : DeleteRequest) : Except QueryError Query :=
  Writing.query do
    let table ← (Expression.table r.schema r.table).render style
    let clause ← whereClause style r.filters r.connective
    return Text.joinWith " " (("DELETE FROM " ++ table) :: clause.toList)

/-- The query of a new row; one without values takes all defaults. -/
def insert (style : SqlStyle) (r : InsertRequest) : Query :=
  Rendering.query do
    let table ← (Expression.table r.schema r.table).render style
    if r.assignments.isEmpty then
      return "INSERT INTO " ++ table ++
        if style.dialect = .mysql ∨ style.dialect = .clickhouse then " () VALUES ()"
        else " DEFAULT VALUES"
    else
      let columns ← (Expression.list (r.assignments.map fun a => .column a.column)).render style
      let values ← (Expression.list (r.assignments.map fun a => .parameter a.value)).render style
      return "INSERT INTO " ++ table ++ " " ++ columns ++ " VALUES " ++ values

end SqlStyle

end SqlWorkbench
