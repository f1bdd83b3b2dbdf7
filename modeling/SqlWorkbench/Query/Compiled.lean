import SqlWorkbench.Query.Compile

/-!
# Requests of any kind

A request of any of the five kinds is read, compiled, and shown as structured data.
-/

namespace SqlWorkbench

/-- The kinds of requests. -/
inductive RequestKind where
  | select | count | update | delete | insert
deriving DecidableEq

namespace RequestKind

/-- All kinds. -/
def all : List RequestKind :=
  [select, count, update, delete, insert]

/-- The name of a kind. -/
def name : RequestKind → String
  | select => "select"
  | count => "count"
  | update => "update"
  | delete => "delete"
  | insert => "insert"

/-- The kind with the name. -/
def ofName? (s : String) : Option RequestKind :=
  all.find? fun k => k.name == s

end RequestKind

/-- A request of any kind. -/
inductive Request where
  | select (request : SelectRequest)
  | count (request : CountRequest)
  | update (request : UpdateRequest)
  | delete (request : DeleteRequest)
  | insert (request : InsertRequest)

/-- What a request is compiled into. -/
inductive Compiled where
  | query (query : Query)
  | plan (plan : CountPlan)

/-- A request of the given kind. -/
def Request.ofJson? (kind : RequestKind) (datum : Json → Option Datum) (j : Json) :
    Option Request :=
  match kind with
  | .select => (SelectRequest.ofJson? datum j).map .select
  | .count => (CountRequest.ofJson? datum j).map .count
  | .update => (UpdateRequest.ofJson? datum j).map .update
  | .delete => (DeleteRequest.ofJson? datum j).map .delete
  | .insert => (InsertRequest.ofJson? datum j).map .insert

/-- A request in the words of a style. -/
def Request.compile (style : SqlStyle) : Request → Except QueryError Compiled
  | select r => (style.select r).map .query
  | count r => (style.count r).map .plan
  | update r => (style.update r).map .query
  | delete r => (style.delete r).map .query
  | insert r => .ok (.query (style.insert r))

/-- Data as they are stored. -/
def Datum.listJson (data : List Datum) : Json :=
  .array (data.map Datum.stored)

/-- A query as structured data. -/
def Query.toJson (q : Query) : Json :=
  .object [("sql", .string q.sql), ("parameters", Datum.listJson q.parameters)]

/-- A plan as structured data. -/
def CountPlan.toJson : CountPlan → Json
  | estimated estimate count =>
    .object [("kind", .string "estimate"), ("estimate", estimate.toJson), ("exact", count.toJson)]
  | counted count => .object [("kind", .string "exact"), ("exact", count.toJson)]

/-- What a request is compiled into, as structured data. -/
def Compiled.toJson : Compiled → Json
  | query q => q.toJson
  | plan p => p.toJson

end SqlWorkbench
