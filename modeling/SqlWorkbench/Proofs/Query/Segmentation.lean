import SqlWorkbench.Proofs.Query.Requests
import SqlWorkbench.Proofs.Query.Tokens

/-!
# Queries of PostgreSQL are single statements

A template whose texts are inert has inert queries, whatever data stand in its slots. An expression
adds to the names and data in it only operators and fragments of its own. Main statement: each query
that a request is compiled into for PostgreSQL is a script of one group with one statement, so that
a server is not sent it as a text of several statements.
-/

namespace SqlWorkbench

open Text Lexeme

variable {s t : Template} {inline : Bool} {filters : List Filter} {connective : Connective}

/-! ### Templates -/

namespace Template

/-- The texts of the template are inert. -/
def IsInert (t : Template) : Prop :=
  ∀ sql, .text sql ∈ t → Inert sql.toList

@[simp] lemma isInert_append : (s ++ t).IsInert ↔ s.IsInert ∧ t.IsInert := by
  simp [IsInert, or_imp, forall_and]

@[simp] lemma isInert_ofText {sql : String} : (ofText sql).IsInert ↔ Inert sql.toList := by
  simp [IsInert, ofText]

@[simp] lemma isInert_slot (value : Datum) : IsInert [.slot value] := by
  simp [IsInert]

lemma isInert_joinWith {separator : String} {ts : List Template}
    (hseparator : Inert separator.toList) (hts : ∀ t ∈ ts, t.IsInert) :
    (joinWith separator ts).IsInert := by
  fun_induction joinWith separator ts with
  | case1 => simp [IsInert]
  | case2 t => exact hts t (by simp)
  | case3 t next rest ih =>
    rw [List.forall_mem_cons] at hts
    rw [isInert_append, isInert_append, isInert_ofText]
    exact ⟨⟨hts.1, hseparator⟩, ih hts.2⟩

lemma IsInert.of_cons {piece : Piece} (h : IsInert (piece :: t)) : t.IsInert :=
  fun sql hsql => h sql (List.mem_cons_of_mem piece hsql)

lemma IsInert.inert_literalSql (ht : t.IsInert) : Inert (t.literalSql .postgres).toList := by
  induction t with
  | nil => exact .nil
  | cons piece t ih =>
    have hrest := ih ht.of_cons
    cases piece with
    | text sql => exact inert_append (ht sql (by simp)) hrest
    | slot value => exact inert_append (Dialect.inert_literal value) hrest

lemma IsInert.inert_boundSql (ht : t.IsInert) (count : Nat) :
    Inert (t.boundSql .postgres count).toList := by
  induction t generalizing count with
  | nil => exact .nil
  | cons piece t ih =>
    cases piece with
    | text sql => exact inert_append (ht sql (by simp)) (ih ht.of_cons count)
    | slot value =>
      exact inert_append (Dialect.inert_placeholder (count + 1)) (ih ht.of_cons (count + 1))

/-- Neither literals nor placeholders between inert texts open anything. -/
lemma IsInert.inert_query (ht : t.IsInert) : Inert (t.query ⟨.postgres, inline⟩).sql.toList := by
  cases inline with
  | true => exact ht.inert_literalSql
  | false => exact ht.inert_boundSql 0

/-- The template has inert texts, and not only blanks. -/
structure IsStatement (t : Template) : Prop where
  inert : t.IsInert
  visible : ∃ sql, .text sql ∈ t ∧ ∃ c ∈ sql.toList, isBlank c = false

lemma subset_sql_query {sql : String} {style : SqlStyle} (h : .text sql ∈ t) :
    sql.toList ⊆ (t.query style).sql.toList := by
  obtain ⟨before, behind, rfl⟩ := List.append_of_mem h
  have hparts : before ++ .text sql :: behind = before ++ (ofText sql ++ behind) := rfl
  rw [query, hparts]
  simp [queryAfter_append, Query.ofSql]

/-- A statement begins with a word. -/
lemma isStatement_ofText {keyword rest : String}
    (hkeyword : keyword.toList.all (fun c => c ∉ marks) = true)
    (hvisible : keyword.toList.any (fun c => !isBlank c) = true) (hrest : Inert rest.toList) :
    (ofText (keyword ++ rest)).IsStatement := by
  obtain ⟨c, hc, hblank⟩ := List.any_eq_true.mp hvisible
  have hinert := inert_append (inert_of_all hkeyword) hrest
  refine ⟨isInert_ofText.mpr hinert, keyword ++ rest, ?_, c, ?_, ?_⟩
  · exact List.mem_singleton_self _
  · simp [hc]
  · simpa using hblank

lemma IsStatement.append (hs : s.IsStatement) (ht : t.IsInert) : (s ++ t).IsStatement := by
  obtain ⟨sql, hsql, hvisible⟩ := hs.visible
  exact ⟨isInert_append.mpr ⟨hs.inert, ht⟩, sql, List.mem_append_left t hsql, hvisible⟩

/-- What stands behind a statement, apart by a blank, goes on with it. -/
lemma IsStatement.joinWith {ts : List Template} (hs : s.IsStatement) (hts : ∀ t ∈ ts, t.IsInert) :
    (joinWith " " (s :: ts)).IsStatement := by
  cases ts with
  | nil => exact hs
  | cons t ts =>
    have hblank : Inert " ".toList := inert_of_all (by decide)
    rw [Template.joinWith, List.append_assoc]
    refine hs.append (isInert_append.mpr ⟨isInert_ofText.mpr hblank, ?_⟩)
    exact isInert_joinWith hblank hts

end Template

/-! ### Expressions -/

namespace Expression

mutual

/-- What an expression takes over as it is: operators and raw fragments. -/
def fragments : Expression → List String
  | .name _ => []
  | .literal _ => []
  | .parameter _ => []
  | .list items => fragmentsOfItems items
  | .comparison left operator none => operator :: fragments left
  | .comparison left operator (some right) => operator :: (fragments left ++ fragments right)
  | .junction _ items => fragmentsOfItems items
  | .raw sql => [sql]

/-- The fragments of expressions one after the other. -/
def fragmentsOfItems : List Expression → List String
  | [] => []
  | item :: rest => fragments item ++ fragmentsOfItems rest

end

mutual

/-- The template of an expression is inert if its fragments are. -/
lemma isInert_template : ∀ e : Expression, (∀ sql ∈ e.fragments, Inert sql.toList) →
    (e.template .postgres).IsInert
  | .name parts, _ => by
    rw [template, Template.isInert_ofText]
    exact Dialect.inert_quotePath parts
  | .literal value, _ => by
    rw [template, Template.isInert_ofText]
    exact Dialect.inert_literal value
  | .parameter value, _ => by simp [template]
  | .list items, h => by
    have hitems := isInert_templates items h
    rw [template, Template.isInert_append, Template.isInert_append, Template.isInert_ofText,
      Template.isInert_ofText]
    refine ⟨⟨inert_of_all (by decide), ?_⟩, inert_of_all (by decide)⟩
    exact Template.isInert_joinWith (inert_of_all (by decide)) hitems
  | .comparison left operator none, h => by
    rw [fragments, List.forall_mem_cons] at h
    rw [template, Template.isInert_append, Template.isInert_ofText]
    exact ⟨isInert_template left h.2, inert_append (inert_of_all (by decide)) h.1⟩
  | .comparison left operator (some right), h => by
    rw [fragments, List.forall_mem_cons, List.forall_mem_append] at h
    rw [template, Template.isInert_append, Template.isInert_append, Template.isInert_ofText]
    have hblank : Inert " ".toList := inert_of_all (by decide)
    exact ⟨⟨isInert_template left h.2.1, inert_append (inert_append hblank h.1) hblank⟩,
      isInert_template right h.2.2⟩
  | .junction connective items, h => by
    rw [template]
    apply Template.isInert_joinWith
    · cases connective with
      | and => exact inert_of_all (by decide)
      | or => exact inert_of_all (by decide)
    · exact isInert_conditions items h
  | .raw sql, h => by
    rw [template, Template.isInert_ofText]
    exact h sql (by simp [fragments])

lemma isInert_templates : ∀ items : List Expression,
    (∀ sql ∈ fragmentsOfItems items, Inert sql.toList) →
      ∀ t ∈ templates .postgres items, t.IsInert
  | [], _ => by simp [templates]
  | item :: rest, h => by
    rw [fragmentsOfItems, List.forall_mem_append] at h
    rw [templates, List.forall_mem_cons]
    exact ⟨isInert_template item h.1, isInert_templates rest h.2⟩

lemma isInert_conditions : ∀ items : List Expression,
    (∀ sql ∈ fragmentsOfItems items, Inert sql.toList) →
      ∀ t ∈ conditions .postgres items, t.IsInert
  | [], _ => by simp [conditions]
  | item :: rest, h => by
    rw [fragmentsOfItems, List.forall_mem_append] at h
    rw [conditions, List.forall_mem_cons]
    refine ⟨?_, isInert_conditions rest h.2⟩
    have hitem := isInert_template item h.1
    split
    · rw [Template.isInert_append, Template.isInert_append, Template.isInert_ofText,
        Template.isInert_ofText]
      exact ⟨⟨inert_of_all (by decide), hitem⟩, inert_of_all (by decide)⟩
    · exact hitem

end

lemma fragmentsOfItems_eq_flatMap (items : List Expression) :
    fragmentsOfItems items = items.flatMap fragments := by
  induction items with
  | nil => rfl
  | cons item rest ih => rw [fragmentsOfItems, ih, List.flatMap_cons]

lemma fragmentsOfItems_parameters {α : Type} (value : α → Datum) (as : List α) :
    fragmentsOfItems (as.map fun a => .parameter (value a)) = [] := by
  rw [fragmentsOfItems_eq_flatMap, List.flatMap_map]
  exact List.flatMap_eq_nil_iff.mpr fun a _ => rfl

lemma fragmentsOfItems_columns {α : Type} (name : α → String) (as : List α) :
    fragmentsOfItems (as.map fun a => .column (name a)) = [] := by
  rw [fragmentsOfItems_eq_flatMap, List.flatMap_map]
  exact List.flatMap_eq_nil_iff.mpr fun a _ => rfl

end Expression

/-! ### Filters -/

lemma Operator.inert_symbol (operator : Operator) : Inert operator.symbol.toList := by
  cases operator <;> exact inert_of_all (by decide)

/-- The condition of a filter has no fragment but its operator, or a comparison of numbers. -/
lemma Filter.inert_fragments {f : Filter} {e : Expression} (h : f.condition .postgres = .ok e) :
    ∀ sql ∈ e.fragments, Inert sql.toList := by
  have hoperator := f.operator.inert_symbol
  have hitems := Expression.fragmentsOfItems_parameters (fun value => value) f.operands
  rw [condition] at h
  split at h
  · cases h
  split at h
  · cases h
    simpa [Expression.fragments, Expression.column]
  split at h
  · split at h
    · cases h
      rw [Expression.fragments, List.forall_mem_singleton]
      split
      · exact inert_of_all (by decide)
      · exact inert_of_all (by decide)
    · cases h
      simpa [Expression.fragments, Expression.column, hitems]
  · split at h
    · cases h
      simpa [Expression.fragments, Expression.column]
    · cases h

lemma inert_fragments_conditions {conditions : List Expression}
    (h : List.Forall₂ (fun f e => f.condition .postgres = .ok e) filters conditions) :
    ∀ sql ∈ Expression.fragmentsOfItems conditions, Inert sql.toList := by
  induction h with
  | nil => simp [Expression.fragmentsOfItems]
  | cons hf _ ih =>
    rw [Expression.fragmentsOfItems, List.forall_mem_append]
    exact ⟨Filter.inert_fragments hf, ih⟩

lemma isInert_whereTemplate {clause : Option Template}
    (h : whereTemplate .postgres filters connective = .ok clause) :
    ∀ t ∈ clause.toList, t.IsInert := by
  obtain ⟨-, rfl⟩ | ⟨conditions, hconditions, rfl⟩ := whereTemplate_cases h
  · simp
  · rw [Option.toList_some, List.forall_mem_singleton, Template.isInert_append,
      Template.isInert_ofText]
    refine ⟨inert_of_all (by decide), ?_⟩
    apply Expression.isInert_template
    rw [Expression.fragments]
    exact inert_fragments_conditions hconditions

lemma isStatement_restricted {heads : List Template} {tail : List String}
    (h : restrictedTemplate .postgres filters connective (s :: heads) tail = .ok t)
    (hs : s.IsStatement) (hheads : ∀ head ∈ heads, head.IsInert)
    (htail : ∀ sql ∈ tail, Inert sql.toList) : t.IsStatement := by
  obtain ⟨clause, hclause, rfl⟩ := exists_of_restricted h
  have hrest : ∀ rest ∈ heads ++ clause.toList ++ tail.map .ofText, rest.IsInert := by
    rw [List.forall_mem_append, List.forall_mem_append]
    refine ⟨⟨hheads, isInert_whereTemplate hclause⟩, ?_⟩
    simpa using htail
  exact hs.joinWith hrest

/-! ### Requests -/

lemma inert_tableName (schema : Option String) (table : String) :
    Inert (tableName .postgres schema table).toList := by
  cases schema with
  | none => exact Dialect.inert_quotePath [table]
  | some schema =>
    rw [tableName]
    split
    · exact Dialect.inert_quotePath [table]
    · exact Dialect.inert_quotePath [schema, table]

lemma inert_projectionText (columns : Option (List String)) :
    Inert (projectionText .postgres columns).toList := by
  rcases columns with _ | _ | ⟨c, cs⟩
  · exact inert_of_all (by decide)
  · exact inert_of_all (by decide)
  · rw [projectionText]
    apply inert_joinWith
    · exact inert_of_all (by decide)
    · intro piece hpiece
      obtain ⟨column, -, rfl⟩ := List.mem_map.mp hpiece
      exact Dialect.inert_quotePath [column]

lemma inert_orderText (r : SelectRequest) :
    ∀ sql ∈ (orderText .postgres r).toList, Inert sql.toList := by
  rw [orderText]
  split
  · rw [Option.toList_some, List.forall_mem_singleton]
    apply inert_append
    · exact inert_of_all (by decide)
    · apply inert_joinWith
      · exact inert_of_all (by decide)
      · intro piece hpiece
        obtain ⟨o, -, rfl⟩ := List.mem_map.mp hpiece
        apply inert_append
        · exact inert_append (Dialect.inert_quotePath _) (inert_of_all (by decide))
        · cases o.direction with
          | ascending => exact inert_of_all (by decide)
          | descending => exact inert_of_all (by decide)
  · simp

lemma inert_paging (limit offset : Option Nat) :
    ∀ sql ∈ paging .postgres limit offset, Inert sql.toList := by
  intro sql hsql
  have hnumber : ∃ n : Nat, sql = "LIMIT " ++ toString n ∨ sql = "OFFSET " ++ toString n := by
    cases limit with
    | none =>
      cases offset with
      | none => simp [paging] at hsql
      | some o => exact ⟨o, Or.inr (by simpa [paging] using hsql)⟩
    | some l =>
      cases offset with
      | none => exact ⟨l, Or.inl (by simpa [paging] using hsql)⟩
      | some o =>
        obtain h | h : sql = "LIMIT " ++ toString l ∨ sql = "OFFSET " ++ toString o := by
          simpa [paging] using hsql
        · exact ⟨l, Or.inl h⟩
        · exact ⟨o, Or.inr h⟩
  obtain ⟨n, rfl | rfl⟩ := hnumber
  · exact inert_append (inert_of_all (by decide)) (inert_toString_nat n)
  · exact inert_append (inert_of_all (by decide)) (inert_toString_nat n)

lemma SelectRequest.isStatement {r : SelectRequest} (h : r.template .postgres = .ok t) :
    t.IsStatement := by
  refine isStatement_restricted h ?_ ?_ ?_
  · exact Template.isStatement_ofText (by decide) (by decide)
      (inert_projectionText r.columns)
  · rw [List.forall_mem_singleton, Template.isInert_ofText]
    exact inert_append (inert_of_all (by decide)) (inert_tableName r.schema r.table)
  · rw [List.forall_mem_append]
    exact ⟨inert_orderText r, inert_paging r.limit r.offset⟩

lemma CountRequest.isStatement {r : CountRequest} (h : r.template .postgres = .ok t) :
    t.IsStatement := by
  refine isStatement_restricted h ?_ (by simp) (by simp)
  exact Template.isStatement_ofText (by decide) (by decide)
    (inert_tableName r.schema r.table)

lemma DeleteRequest.isStatement {r : DeleteRequest} (h : r.template .postgres = .ok t) :
    t.IsStatement := by
  refine isStatement_restricted h ?_ (by simp) (by simp)
  exact Template.isStatement_ofText (by decide) (by decide)
    (inert_tableName r.schema r.table)

lemma isInert_assignmentsTemplate (assignments : List Assignment) :
    Template.IsInert (assignmentsTemplate .postgres assignments) := by
  apply Template.isInert_joinWith
  · exact inert_of_all (by decide)
  · apply Expression.isInert_templates
    rw [Expression.fragmentsOfItems_eq_flatMap, List.flatMap_map]
    intro sql hsql
    obtain ⟨a, -, ha⟩ := List.mem_flatMap.mp hsql
    obtain rfl : sql = "=" := by simpa [Expression.fragments, Expression.column] using ha
    exact inert_of_all (by decide)

lemma UpdateRequest.isStatement {r : UpdateRequest} (h : r.template .postgres = .ok t) :
    t.IsStatement := by
  rw [UpdateRequest.template] at h
  split at h
  · cases h
  · refine isStatement_restricted h ?_ (by simp) (by simp)
    refine Template.IsStatement.append ?_ (isInert_assignmentsTemplate r.assignments)
    rw [String.append_assoc]
    exact Template.isStatement_ofText (by decide) (by decide)
      (inert_append (inert_tableName r.schema r.table) (inert_of_all (by decide)))

lemma InsertRequest.isStatement (r : InsertRequest) :
    Template.IsStatement (r.template .postgres) := by
  rw [InsertRequest.template]
  split
  · rw [String.append_assoc]
    exact Template.isStatement_ofText (by decide) (by decide)
      (inert_append (inert_tableName r.schema r.table) (inert_of_all (by decide)))
  · have hcolumns : (Expression.list (r.assignments.map fun a => .column a.column)).fragments
        = [] := Expression.fragmentsOfItems_columns _ _
    have hvalues : (Expression.list (r.assignments.map fun a => .parameter a.value)).fragments
        = [] := Expression.fragmentsOfItems_parameters _ _
    rw [String.append_assoc]
    refine Template.IsStatement.append (Template.IsStatement.append (Template.IsStatement.append
      ?_ ?_) ?_) ?_
    · exact Template.isStatement_ofText (by decide) (by decide)
        (inert_append (inert_tableName r.schema r.table) (inert_of_all (by decide)))
    · exact Expression.isInert_template _ (by simp [hcolumns])
    · exact Template.isInert_ofText.mpr (inert_of_all (by decide))
    · exact Expression.isInert_template _ (by simp [hvalues])

lemma inert_fragments_schemaOr {fallback : String} (hfallback : Inert fallback.toList)
    (schema : Option String) : ∀ sql ∈ (schemaOr schema fallback).fragments, Inert sql.toList := by
  cases schema with
  | none => simpa [schemaOr, Expression.fragments]
  | some s =>
    rw [schemaOr]
    split
    · simpa [Expression.fragments]
    · simp [Expression.fragments]

lemma isStatement_estimateTemplate {schema : Option String} {table : String}
    (h : estimateTemplate .postgres schema table = some t) : t.IsStatement := by
  cases h
  apply Template.IsStatement.append
  · exact Template.isStatement_ofText (by decide +kernel) (by decide +kernel)
      (inert_of_all (by decide))
  · apply Expression.isInert_template
    have hfallback : Inert "current_schema()".toList := inert_of_all (by decide)
    have hschema := inert_fragments_schemaOr hfallback schema
    simp only [catalogConditions, Expression.fragments, Expression.fragmentsOfItems,
      List.map_cons, List.map_nil, List.append_nil, List.forall_mem_append, List.forall_mem_cons]
    have hequal : Inert "=".toList := inert_of_all (by decide)
    refine ⟨⟨hequal, ⟨inert_of_all (by decide), by simp⟩, hschema⟩, hequal, ?_⟩
    exact ⟨inert_of_all (by decide), by simp⟩

/-! ### What a request is compiled into -/

/-- The queries of what a request is compiled into. -/
def Compiled.queries : Compiled → List Query
  | query q => [q]
  | plan (.estimated estimate count) => [estimate, count]
  | plan (.counted count) => [count]

lemma exists_template_of_ok {style : SqlStyle} {template : Except QueryError Template}
    {result : Except QueryError Query} {compiled : Compiled}
    (hresult : result = template.map (Template.query style))
    (htemplate : ∀ t, template = .ok t → t.IsStatement) (h : result.map .query = .ok compiled) :
    ∀ q ∈ compiled.queries, ∃ t : Template, t.IsStatement ∧ q = t.query style := by
  subst hresult
  cases template with
  | error e => cases h
  | ok t =>
    cases h
    rw [Compiled.queries, List.forall_mem_singleton]
    exact ⟨t, htemplate t rfl, rfl⟩

lemma Request.exists_template {r : Request} {compiled : Compiled}
    (h : r.compile ⟨.postgres, inline⟩ = .ok compiled) :
    ∀ q ∈ compiled.queries, ∃ t : Template, t.IsStatement ∧ q = t.query ⟨.postgres, inline⟩ := by
  cases r with
  | select r =>
    exact exists_template_of_ok (SqlStyle.select_eq_query r) (fun _ => r.isStatement) h
  | update r =>
    exact exists_template_of_ok (SqlStyle.update_eq_query r) (fun _ => r.isStatement) h
  | delete r =>
    exact exists_template_of_ok (SqlStyle.delete_eq_query r) (fun _ => r.isStatement) h
  | insert r =>
    cases h
    rw [Compiled.queries, List.forall_mem_singleton, SqlStyle.insert_eq_query]
    exact ⟨_, r.isStatement, rfl⟩
  | count r =>
    rw [compile, SqlStyle.count, SqlStyle.exactCount_eq_query, SqlStyle.estimate_eq_query] at h
    cases ht : r.template .postgres with
    | error e =>
      rw [ht] at h
      cases h
    | ok t =>
      rw [ht] at h
      have hcount := r.isStatement ht
      obtain ⟨estimate, hestimate⟩ :
          ∃ estimate, estimateTemplate .postgres r.schema r.table = some estimate := ⟨_, rfl⟩
      rw [hestimate] at h
      obtain rfl := Except.ok.inj h
      cases r.exact || !r.filters.isEmpty with
      | true =>
        intro q hq
        obtain rfl := List.mem_singleton.mp hq
        exact ⟨t, hcount, rfl⟩
      | false =>
        intro q hq
        rcases List.mem_cons.mp hq with rfl | hq
        · exact ⟨estimate, isStatement_estimateTemplate hestimate, rfl⟩
        · obtain rfl := List.mem_singleton.mp hq
          exact ⟨t, hcount, rfl⟩

/-- Whatever the names and the data of a request are, each query that it is compiled into for
PostgreSQL, with bound data or with literals, is a script of one group with one statement, itself up
to the blanks around it. So it is not taken for several statements. -/
theorem Request.groups_compile (r : Request) (inline : Bool) (compiled : Compiled)
    (h : r.compile ⟨.postgres, inline⟩ = .ok compiled) : ∀ q ∈ compiled.queries,
      (∃ g, Script.groups q.sql = [g] ∧
        g.statements = [String.ofList (trim q.sql.toList)]) ∧
      Postgres.Exchange.hasSeveralStatements q.sql = false := by
  intro q hq
  obtain ⟨t, ht, rfl⟩ := r.exists_template h q hq
  obtain ⟨sql, hsql, c, hc, hblank⟩ := ht.visible
  obtain ⟨g, hgroups, hstatements⟩ := Script.exists_groups_eq_of_inert ht.inert.inert_query
    ⟨c, Template.subset_sql_query hsql hc, hblank⟩
  exact ⟨⟨g, hgroups, hstatements⟩, Script.hasSeveralStatements_of_groups hgroups hstatements⟩

/-- Terminators, marks of comments, a dollar tag and a line break in the names and the data of an
update. -/
theorem Request.groups_compile_marks : ∃ q,
    (Request.update {
      schema := some "BEGIN;"
      table := "t\"\n--"
      assignments := [⟨"c/*", .text "\x27; $x$"⟩]
      filters := [⟨"d", .lt, [.int (-1)]⟩] }).compile ⟨.postgres, true⟩ = .ok (.query q) ∧
    q.sql =
      "UPDATE \"BEGIN;\".\"t\"\"\n--\" SET \"c/*\" = \x27\x27\x27; $x$\x27 WHERE \"d\" < -1" ∧
    (∃ g, Script.groups q.sql = [g] ∧ g.statements = [String.ofList (trim q.sql.toList)]) ∧
    Postgres.Exchange.hasSeveralStatements q.sql = false := by
  refine Exists.imp (fun q (h : _ ∧ _) => ⟨h.1, h.2, ?_⟩) ⟨_, rfl, ?_⟩
  · exact Request.groups_compile _ true _ h.1 q (List.mem_singleton_self q)
  · decide +kernel

end SqlWorkbench
