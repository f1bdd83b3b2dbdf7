import SqlWorkbench.Proofs.Query.Templates
import SqlWorkbench.Query.Compiled

/-!
# Requests by templates

Every request has a template in a dialect, and its query in a style is the query of that template.
-/

namespace SqlWorkbench

variable {style : SqlStyle} {d : Dialect} {filters : List Filter} {connective : Connective}

/-! ### Lifting -/

instance : LawfulMonadLift Rendering Writing where
  monadLift_pure _ := rfl
  monadLift_bind _ _ := rfl

/-- The query of what is only rendered. -/
lemma Writing.query_liftM (rendering : Rendering String) :
    Writing.query (liftM rendering) = .ok (Rendering.query rendering) :=
  rfl

lemma Rendering.query_write (t : Template) : Rendering.query (t.write style) = t.query style :=
  rfl

/-! ### Texts without data -/

/-- The name of a table, qualified unless the schema is absent or empty. -/
def tableName (d : Dialect) (schema : Option String) (table : String) : String :=
  match schema with
  | some s => if s.isEmpty then d.quotePath [table] else d.quotePath [s, table]
  | none => d.quotePath [table]

@[simp] lemma render_table (schema : Option String) (table : String) :
    (Expression.table schema table).render style = pure (tableName style.dialect schema table) := by
  cases schema with
  | none => simp [Expression.table, tableName, Expression.render]
  | some s => cases h : s.isEmpty <;> simp [Expression.table, tableName, h, Expression.render]

lemma renderItems_columns {α : Type} (name : α → String) (as : List α) :
    Expression.renderItems style (as.map fun a => .column (name a))
      = pure (as.map fun a => style.dialect.quotePath [name a]) := by
  induction as with
  | nil => simp [Expression.renderItems]
  | cons a as ih =>
    rw [List.map_cons, Expression.renderItems, ih]
    simp [Expression.column, Expression.render]

/-- The columns that are selected, in a dialect. -/
def projectionText (d : Dialect) (columns : Option (List String)) : String :=
  match columns with
  | some (c :: cs) => Text.joinWith ", " ((c :: cs).map fun c => d.quotePath [c])
  | _ => "*"

lemma projection_eq (columns : Option (List String)) :
    projection style columns = pure (projectionText style.dialect columns) := by
  rcases columns with _ | _ | ⟨c, cs⟩
  · rfl
  · rfl
  · rw [projection, renderItems_columns fun c => c, pure_bind, projectionText]

/-- The order of the rows, in a dialect. -/
def orderText (d : Dialect) (r : SelectRequest) : Option String :=
  if !r.ordering.isEmpty then
    some ("ORDER BY " ++ Text.joinWith ", " (r.ordering.map fun o =>
      d.quotePath [o.column] ++ " " ++ o.direction.keyword))
  else if (r.limit.isSome || r.offset.isSome) && d = .mssql then some "ORDER BY (SELECT NULL)"
  else none

lemma orderClause_eq (r : SelectRequest) :
    orderClause style r = pure (orderText style.dialect r) := by
  rw [orderClause, orderText]
  split
  · rw [renderItems_columns, pure_bind, List.zipWith_map_left, List.zipWith_self]
  · split <;> rfl

/-! ### The restriction -/

/-- The template of the restriction to the rows that the filters keep. -/
def whereTemplate (d : Dialect) (filters : List Filter) (connective : Connective) :
    Except QueryError (Option Template) :=
  if filters.isEmpty then .ok none
  else do
    let conditions ← filters.mapM (Filter.condition d)
    return some (.ofText "WHERE " ++ (Expression.junction connective conditions).template d)

/-- The restriction is written like its template, if there is one. -/
lemma whereClause_eq_write :
    whereClause style filters connective = (do
      let clause ← liftM (whereTemplate style.dialect filters connective)
      clause.mapM fun t => liftM (t.write style)) := by
  rw [whereClause, whereTemplate]
  split
  · rfl
  · rw [liftM_bind, bind_assoc]
    congr 1
    funext conditions
    rw [liftM_pure, pure_bind, Expression.render_eq_write]
    simp [Template.write_append]

lemma whereClause_of_ok {clause : Option Template}
    (h : whereTemplate style.dialect filters connective = .ok clause) :
    whereClause style filters connective = liftM (clause.mapM (Template.write style)) := by
  rw [whereClause_eq_write, h]
  cases clause <;> rfl

/-- The template of templates and texts with a restriction between them, all apart by blanks. -/
def restrictedTemplate (d : Dialect) (filters : List Filter) (connective : Connective)
    (heads : List Template) (tail : List String) : Except QueryError Template :=
  (whereTemplate d filters connective).map fun clause =>
    .joinWith " " (heads ++ clause.toList ++ tail.map .ofText)

lemma query_restricted (style : SqlStyle) (filters : List Filter) (connective : Connective)
    (heads : List Template) (tail : List String) :
    Writing.query (do
      let head ← liftM (heads.mapM (Template.write style))
      let clause ← whereClause style filters connective
      return Text.joinWith " " (head ++ clause.toList ++ tail))
    = (restrictedTemplate style.dialect filters connective heads tail).map
        (Template.query style) := by
  rw [restrictedTemplate]
  cases hclause : whereTemplate style.dialect filters connective with
  | error e =>
    rw [whereClause_eq_write, hclause]
    rfl
  | ok clause =>
    rw [whereClause_of_ok hclause, Except.map, Except.map, ← Rendering.query_write,
      ← Writing.query_liftM, Template.write_joinWith]
    congr 1
    simp only [List.mapM_append, Template.mapM_write_map_ofText, liftM_bind, liftM_pure, bind_assoc,
      pure_bind]
    cases clause with
    | none => simp
    | some t => simp

/-! ### Templates of requests -/

/-- The template of a request for rows. -/
def SelectRequest.template (d : Dialect) (r : SelectRequest) : Except QueryError Template :=
  restrictedTemplate d r.filters r.connective
    [.ofText ("SELECT " ++ projectionText d r.columns),
      .ofText ("FROM " ++ tableName d r.schema r.table)]
    ((orderText d r).toList ++ paging d r.limit r.offset)

/-- The template that counts rows. -/
def CountRequest.template (d : Dialect) (r : CountRequest) : Except QueryError Template :=
  restrictedTemplate d r.filters r.connective
    [.ofText ("SELECT COUNT(*) AS total FROM " ++ tableName d r.schema r.table)] []

/-- The template that asks the catalog for a number of rows, where there is one. -/
def estimateTemplate (d : Dialect) (schema : Option String) (table : String) : Option Template :=
  (catalogQuestion d schema table).map fun (selection, condition) =>
    .ofText (selection ++ " WHERE ") ++ condition.template d

/-- The template of the new values in an update. -/
def assignmentsTemplate (d : Dialect) (assignments : List Assignment) : Template :=
  .joinWith ", " (Expression.templates d (assignments.map fun a =>
    .comparison (.column a.column) "=" (some (.parameter a.value))))

/-- The template of a change of rows. -/
def UpdateRequest.template (d : Dialect) (r : UpdateRequest) : Except QueryError Template :=
  if r.assignments.isEmpty then .error (.emptyUpdate r.table)
  else restrictedTemplate d r.filters r.connective
    [.ofText ("UPDATE " ++ tableName d r.schema r.table ++ " SET ")
      ++ assignmentsTemplate d r.assignments] []

/-- The template of a removal of rows. -/
def DeleteRequest.template (d : Dialect) (r : DeleteRequest) : Except QueryError Template :=
  restrictedTemplate d r.filters r.connective
    [.ofText ("DELETE FROM " ++ tableName d r.schema r.table)] []

/-- The template of a new row. -/
def InsertRequest.template (d : Dialect) (r : InsertRequest) : Template :=
  if r.assignments.isEmpty then
    .ofText ("INSERT INTO " ++ tableName d r.schema r.table ++
      if d = .mysql ∨ d = .clickhouse then " () VALUES ()" else " DEFAULT VALUES")
  else
    .ofText ("INSERT INTO " ++ tableName d r.schema r.table ++ " ")
      ++ (Expression.list (r.assignments.map fun a => .column a.column)).template d
      ++ .ofText " VALUES "
      ++ (Expression.list (r.assignments.map fun a => .parameter a.value)).template d

namespace SqlStyle

theorem select_eq_query (r : SelectRequest) :
    style.select r = (r.template style.dialect).map (Template.query style) := by
  rw [select, SelectRequest.template, ← query_restricted]
  simp [projection_eq, orderClause_eq]

theorem update_eq_query (r : UpdateRequest) :
    style.update r = (r.template style.dialect).map (Template.query style) := by
  rw [update, UpdateRequest.template]
  split
  · rfl
  · rw [← query_restricted]
    simp [Expression.renderItems_eq_mapM, assignmentsTemplate, Template.write_append,
      Template.write_joinWith, String.append_assoc]

theorem delete_eq_query (r : DeleteRequest) :
    style.delete r = (r.template style.dialect).map (Template.query style) := by
  rw [delete, DeleteRequest.template, ← query_restricted]
  simp

theorem insert_eq_query (r : InsertRequest) :
    style.insert r = (r.template style.dialect).query style := by
  rw [insert, InsertRequest.template, ← Rendering.query_write, render_table, pure_bind]
  congr 1
  cases r.assignments.isEmpty with
  | true => simp
  | false => simp [Template.write_append, Expression.render_eq_write, String.append_assoc]

theorem estimate_eq_query (schema : Option String) (table : String) :
    style.estimate schema table
      = (estimateTemplate style.dialect schema table).map (Template.query style) := by
  rw [estimate, estimateTemplate, Option.map_map]
  congr 1
  funext ⟨selection, condition⟩
  rw [Function.comp_apply, ← Rendering.query_write]
  simp [Template.write_append, Expression.render_eq_write]

theorem exactCount_eq_query (r : CountRequest) :
    style.exactCount r = (r.template style.dialect).map (Template.query style) := by
  rw [exactCount, CountRequest.template, ← query_restricted]
  simp

end SqlStyle

/-! ### The data of requests -/

/-- The data of the condition of a filter are the values that its operator looks at. -/
lemma Filter.data_condition {f : Filter} {e : Expression} (h : f.condition d = .ok e) :
    e.data = f.operands := by
  have hdata : Expression.dataOfItems (f.operands.map .parameter) = f.operands := by
    rw [Expression.dataOfItems_parameters fun value => value, List.map_id']
  rw [Filter.condition] at h
  split at h
  · cases h
  split at h
  · next hvalue =>
    cases h
    simp [Filter.operands, hvalue, Expression.data, Expression.column]
  split at h
  · split at h
    · next hempty =>
      cases h
      rw [List.isEmpty_iff.mp hempty]
      rfl
    · cases h
      simp [Expression.data, Expression.column, hdata]
  · next hvalue harray =>
    split at h
    · next value values hoperands =>
      cases h
      have hone : f.operands = [value] := by
        rw [Filter.operands, if_neg hvalue, if_neg harray] at hoperands ⊢
        cases hvalues : f.values with
        | nil => simp [hvalues] at hoperands
        | cons v vs =>
          rw [hvalues] at hoperands
          cases hoperands
          rfl
      simp [Expression.data, Expression.column, hone]
    · cases h

/-- Filters that have conditions have them one by one. -/
lemma forall₂_condition {conditions : List Expression}
    (h : filters.mapM (Filter.condition d) = .ok conditions) :
    List.Forall₂ (fun f e => f.condition d = .ok e) filters conditions := by
  induction filters generalizing conditions with
  | nil =>
    cases h
    exact .nil
  | cons f filters ih =>
    rw [List.mapM_cons] at h
    cases hf : f.condition d with
    | error e =>
      rw [hf] at h
      cases h
    | ok e =>
      cases hfilters : filters.mapM (Filter.condition d) with
      | error e' =>
        rw [hf, hfilters] at h
        cases h
      | ok rest =>
        rw [hf, hfilters] at h
        cases h
        exact .cons hf (ih hfilters)

/-- The data of the conditions of filters. -/
lemma data_conditions {conditions : List Expression}
    (h : List.Forall₂ (fun f e => f.condition d = .ok e) filters conditions) :
    Expression.dataOfItems conditions = filters.flatMap Filter.operands := by
  induction h with
  | nil => rfl
  | cons hf _ ih => rw [Expression.dataOfItems, Filter.data_condition hf, ih, List.flatMap_cons]

/-- There is a restriction if there are filters, and it is made of their conditions. -/
lemma whereTemplate_cases {clause : Option Template}
    (h : whereTemplate d filters connective = .ok clause) :
    filters = [] ∧ clause = none ∨ ∃ conditions,
      List.Forall₂ (fun f e => f.condition d = .ok e) filters conditions ∧
      clause
        = some (.ofText "WHERE " ++ (Expression.junction connective conditions).template d) := by
  rw [whereTemplate] at h
  split at h
  · next hempty =>
    cases h
    exact Or.inl ⟨List.isEmpty_iff.mp hempty, rfl⟩
  · cases hconditions : filters.mapM (Filter.condition d) with
    | error e =>
      rw [hconditions] at h
      cases h
    | ok conditions =>
      rw [hconditions] at h
      cases h
      exact Or.inr ⟨conditions, forall₂_condition hconditions, rfl⟩

lemma slots_whereTemplate {clause : Option Template}
    (h : whereTemplate d filters connective = .ok clause) :
    clause.toList.flatMap Template.slots = filters.flatMap Filter.operands := by
  obtain ⟨rfl, rfl⟩ | ⟨conditions, hconditions, rfl⟩ := whereTemplate_cases h
  · rfl
  · rw [← data_conditions hconditions]
    simp [Template.ofText, Expression.slots_template, Expression.data]

lemma exists_of_restricted {heads : List Template} {tail : List String} {t : Template}
    (h : restrictedTemplate d filters connective heads tail = .ok t) :
    ∃ clause, whereTemplate d filters connective = .ok clause ∧
      t = .joinWith " " (heads ++ clause.toList ++ tail.map .ofText) := by
  rw [restrictedTemplate] at h
  cases hclause : whereTemplate d filters connective with
  | error e =>
    rw [hclause] at h
    cases h
  | ok clause =>
    rw [hclause] at h
    cases h
    exact ⟨clause, rfl, rfl⟩

/-- What a template with a restriction leaves to be bound: the data of what stands before the
restriction, and then those of the filters. -/
lemma slots_restricted {heads : List Template} {tail : List String} {t : Template}
    (h : restrictedTemplate d filters connective heads tail = .ok t) :
    t.slots = heads.flatMap Template.slots ++ filters.flatMap Filter.operands := by
  obtain ⟨clause, hclause, rfl⟩ := exists_of_restricted h
  have htail : (tail.map Template.ofText).flatMap Template.slots = [] := by
    simp [Template.ofText]
  rw [Template.slots_joinWith, List.flatMap_append, List.flatMap_append, htail,
    slots_whereTemplate hclause, List.append_nil]

end SqlWorkbench
