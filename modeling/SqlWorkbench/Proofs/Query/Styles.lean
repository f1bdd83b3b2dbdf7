import SqlWorkbench.Proofs.Query.Requests

/-!
# The two styles agree

Where data are bound and where they are written out, a request has the same texts with something
between them: placeholders that are numbered from left to right, or literals of the same data.
-/

namespace SqlWorkbench

variable {d : Dialect}

/-! ### One sequence of texts -/

/-- Texts with one filling between any two neighbours. -/
def interleave : List String → List String → String
  | [], _ => ""
  | text :: _, [] => text
  | text :: texts, filling :: fillings => text ++ filling ++ interleave texts fillings

lemma interleave_append_cons (s text : String) (texts fillings : List String) :
    interleave ((s ++ text) :: texts) fillings = s ++ interleave (text :: texts) fillings := by
  cases fillings <;> simp [interleave, String.append_assoc]

/-- Two statements have the same texts; between them stand placeholders in the first, numbered on
from `count`, and the literals of the data in the second. -/
def SameTexts (d : Dialect) (count : Nat) (data : List Datum) (bound inlined : String) : Prop :=
  ∃ texts : List String, texts.length = data.length + 1 ∧
    bound = interleave texts ((List.range' (count + 1) data.length).map d.placeholder) ∧
    inlined = interleave texts (data.map d.literal)

/-- Both forms of a template have the same texts. -/
lemma Template.sameTexts (t : Template) (count : Nat) :
    SameTexts d count t.slots (t.boundSql d count) (t.literalSql d) := by
  induction t generalizing count with
  | nil => exact ⟨[""], rfl, rfl, rfl⟩
  | cons piece t ih =>
    cases piece with
    | text sql =>
      obtain ⟨texts, hlength, hbound, hinlined⟩ := ih count
      obtain ⟨first, rest, rfl⟩ := List.exists_cons_of_length_eq_add_one hlength
      refine ⟨(sql ++ first) :: rest, hlength, ?_, ?_⟩
      · rw [boundSql, hbound, slots_text, interleave_append_cons]
      · rw [literalSql, hinlined, slots_text, interleave_append_cons]
    | slot value =>
      obtain ⟨texts, hlength, hbound, hinlined⟩ := ih (count + 1)
      refine ⟨"" :: texts, by simp [hlength], ?_, ?_⟩
      · rw [boundSql, hbound, slots_slot, List.length_cons, List.range'_succ, List.map_cons,
          interleave, String.empty_append]
      · rw [literalSql, hinlined, slots_slot, List.map_cons, interleave, String.empty_append]

lemma Template.queryAfter_binding (hd : d.inlinesParameters = false) (t : Template) (count : Nat) :
    t.queryAfter (.binding d) count = ⟨t.boundSql d count, t.slots⟩ := by
  simp [queryAfter, SqlStyle.binding, hd]

lemma Template.queryAfter_inlining (t : Template) (count : Nat) :
    t.queryAfter (.inlining d) count = ⟨t.literalSql d, []⟩ := by
  simp [queryAfter, SqlStyle.inlining]

/-- Two queries with the same texts, of which the first binds the data and the second none. -/
def Query.Agree (d : Dialect) (data : List Datum) (bound inlined : Query) : Prop :=
  bound.parameters = data ∧ inlined.parameters = [] ∧ SameTexts d 0 data bound.sql inlined.sql

lemma Template.query_agree (hd : d.inlinesParameters = false) (t : Template) :
    Query.Agree d t.slots (t.query (.binding d)) (t.query (.inlining d)) := by
  rw [query, query, queryAfter_binding hd, queryAfter_inlining]
  exact ⟨rfl, rfl, t.sameTexts 0⟩

@[simp] lemma SqlStyle.dialect_binding : (binding d).dialect = d := rfl

@[simp] lemma SqlStyle.dialect_inlining : (inlining d).dialect = d := rfl

/-! ### Requests -/

/-- The data of a request in the order of its query: new values, and what the filters look at. -/
def Request.data : Request → List Datum
  | select r => r.filters.flatMap Filter.operands
  | count r => r.filters.flatMap Filter.operands
  | update r => r.assignments.map Assignment.value ++ r.filters.flatMap Filter.operands
  | delete r => r.filters.flatMap Filter.operands
  | insert r => r.assignments.map Assignment.value

/-- The data that the catalog is asked for the number of rows of a table with. -/
def catalogData (schema : Option String) (table : String) : List Datum :=
  match schema with
  | some s => if s.isEmpty then [.text table] else [.text s, .text table]
  | none => [.text table]

/-- What a request is compiled into where data are bound, and where they are written out. -/
inductive Request.Agree (d : Dialect) : Request → Compiled → Compiled → Prop
  | query {r : Request} {bound inlined : Query} (h : Query.Agree d r.data bound inlined) :
    Agree d r (.query bound) (.query inlined)
  | counted {r : CountRequest} {bound inlined : Query}
    (h : Query.Agree d (Request.count r).data bound inlined) :
    Agree d (.count r) (.plan (.counted bound)) (.plan (.counted inlined))
  | estimated {r : CountRequest} {boundEstimate inlinedEstimate bound inlined : Query}
    (hestimate : Query.Agree d (catalogData r.schema r.table) boundEstimate inlinedEstimate)
    (h : Query.Agree d (Request.count r).data bound inlined) :
    Agree d (.count r) (.plan (.estimated boundEstimate bound))
      (.plan (.estimated inlinedEstimate inlined))

/-- Both fail with one error, or both succeed and agree. -/
inductive Request.SameOutcome (d : Dialect) (r : Request) :
    Except QueryError Compiled → Except QueryError Compiled → Prop
  | failed (e : QueryError) : SameOutcome d r (.error e) (.error e)
  | compiled {bound inlined : Compiled} (h : Request.Agree d r bound inlined) :
    SameOutcome d r (.ok bound) (.ok inlined)

lemma Request.sameOutcome_query (hd : d.inlinesParameters = false) {r : Request}
    {result : Except QueryError Template} (hdata : ∀ t, result = .ok t → t.slots = r.data) :
    r.SameOutcome d ((result.map (Template.query (.binding d))).map .query)
      ((result.map (Template.query (.inlining d))).map .query) := by
  cases result with
  | error e => exact .failed e
  | ok t => exact .compiled (.query (hdata t rfl ▸ t.query_agree hd))

/-! ### The data of templates -/

lemma slots_assignmentsTemplate (assignments : List Assignment) :
    Template.slots (assignmentsTemplate d assignments) = assignments.map Assignment.value := by
  rw [assignmentsTemplate, Template.slots_joinWith, Expression.slots_templates,
    Expression.dataOfItems_eq_flatMap, List.flatMap_map]
  exact List.map_eq_flatMap.symm

lemma slots_updateTemplate {r : UpdateRequest} {t : Template} (h : r.template d = .ok t) :
    t.slots = (Request.update r).data := by
  rw [UpdateRequest.template] at h
  split at h
  · cases h
  · rw [slots_restricted h, List.flatMap_singleton, Template.slots_append,
      slots_assignmentsTemplate]
    rfl

lemma slots_insertTemplate (r : InsertRequest) :
    Template.slots (r.template d) = (Request.insert r).data := by
  rw [InsertRequest.template, Request.data]
  split
  · next hempty =>
    rw [List.isEmpty_iff.mp hempty]
    rfl
  · simp [Template.ofText, Expression.slots_template, Expression.data,
      Expression.dataOfItems_columns, Expression.dataOfItems_parameters]

lemma slots_estimateTemplate {schema : Option String} {table : String} {t : Template}
    (h : estimateTemplate d schema table = some t) : t.slots = catalogData schema table := by
  have hschema (fallback : String) :
      (schemaOr schema fallback).data ++ [.text table] = catalogData schema table := by
    cases schema with
    | none => rfl
    | some s => cases h : s.isEmpty <;> simp [schemaOr, catalogData, h, Expression.data]
  cases d <;> cases h
  all_goals
    simp [Template.ofText, Expression.slots_template, catalogConditions, Expression.data,
      Expression.dataOfItems, hschema]

/-! ### The two styles -/

lemma Request.compile_sameOutcome (hd : d.inlinesParameters = false) (r : Request) :
    r.SameOutcome d (r.compile (.binding d)) (r.compile (.inlining d)) := by
  cases r with
  | select r =>
    rw [compile, compile, SqlStyle.select_eq_query, SqlStyle.select_eq_query]
    exact sameOutcome_query hd fun t ht => slots_restricted ht
  | count r =>
    rw [compile, compile, SqlStyle.count, SqlStyle.count, SqlStyle.exactCount_eq_query,
      SqlStyle.exactCount_eq_query, SqlStyle.estimate_eq_query, SqlStyle.estimate_eq_query,
      SqlStyle.dialect_binding, SqlStyle.dialect_inlining]
    cases ht : r.template d with
    | error e => exact .failed e
    | ok t =>
      have hcount := t.query_agree hd
      rw [slots_restricted ht] at hcount
      cases hexact : r.exact || !r.filters.isEmpty with
      | true => exact .compiled (.counted hcount)
      | false =>
        cases hestimate : estimateTemplate d r.schema r.table with
        | none => exact .compiled (.counted hcount)
        | some estimate =>
          have hagree := estimate.query_agree hd
          rw [slots_estimateTemplate hestimate] at hagree
          exact .compiled (.estimated hagree hcount)
  | update r =>
    rw [compile, compile, SqlStyle.update_eq_query, SqlStyle.update_eq_query]
    exact sameOutcome_query hd fun t ht => slots_updateTemplate ht
  | delete r =>
    rw [compile, compile, SqlStyle.delete_eq_query, SqlStyle.delete_eq_query]
    exact sameOutcome_query hd fun t ht => slots_restricted ht
  | insert r =>
    rw [compile, compile, SqlStyle.insert_eq_query, SqlStyle.insert_eq_query]
    refine .compiled (.query ?_)
    rw [← slots_insertTemplate]
    exact Template.query_agree hd _

lemma Expression.render_sameTexts (hd : d.inlinesParameters = false) (e : Expression)
    (bound : List Datum) : ∃ boundSql inlinedSql : String,
      (e.render (.binding d)).run bound = (boundSql, bound ++ e.data) ∧
      (e.render (.inlining d)).run bound = (inlinedSql, bound) ∧
      SameTexts d bound.length e.data boundSql inlinedSql := by
  have htexts := Template.sameTexts (d := d) (e.template d) bound.length
  rw [slots_template] at htexts
  refine ⟨_, _, ?_, ?_, htexts⟩
  · rw [render_eq_write, Template.run_write, SqlStyle.dialect_binding,
      Template.queryAfter_binding hd, slots_template]
    rfl
  · rw [render_eq_write, Template.run_write, SqlStyle.dialect_inlining,
      Template.queryAfter_inlining, List.append_nil]
    rfl

/-- A dialect that binds no data has one style. Elsewhere every request fails in both styles with
one error or has queries with the same texts, and so has every expression: its placeholders go on
from the data that are bound already. -/
theorem binding_agrees_inlining (d : Dialect) :
    if d.inlinesParameters then
      (∀ r : Request, r.compile (.binding d) = r.compile (.inlining d)) ∧
      (∀ e : Expression, e.render (.binding d) = e.render (.inlining d))
    else
      (∀ r : Request, r.SameOutcome d (r.compile (.binding d)) (r.compile (.inlining d))) ∧
      (∀ (e : Expression) (bound : List Datum), ∃ boundSql inlinedSql : String,
        (e.render (.binding d)).run bound = (boundSql, bound ++ e.data) ∧
        (e.render (.inlining d)).run bound = (inlinedSql, bound) ∧
        SameTexts d bound.length e.data boundSql inlinedSql) := by
  cases hd : d.inlinesParameters with
  | true =>
    rw [if_pos rfl, SqlStyle.binding_eq_inlining hd]
    exact ⟨fun _ => rfl, fun _ => rfl⟩
  | false =>
    rw [if_neg (by simp)]
    exact ⟨Request.compile_sameOutcome hd, Expression.render_sameTexts hd⟩

end SqlWorkbench
