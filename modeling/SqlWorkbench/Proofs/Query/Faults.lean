import SqlWorkbench.Proofs.Query.Requests

/-!
# Faults of filters

A filter has a fault if the dialect has no such operator, or if it compares with a value and has
none. A request fails exactly if there is a fault in its filters, with the error of the first one,
or if it is an update that changes nothing.
-/

namespace SqlWorkbench

variable {style : SqlStyle} {d : Dialect} {f : Filter} {filters : List Filter}
  {connective : Connective} {e : QueryError}

/-! ### One filter -/

namespace Filter

/-- The operator ignores letter case, and the dialect has none that does. -/
def IsUnsupported (d : Dialect) (f : Filter) : Prop :=
  (f.operator = .ilike ∨ f.operator = .notIlike) ∧ d ≠ .postgres ∧ d ≠ .clickhouse

/-- The operator compares with one value, and there is none. -/
def LacksValue (f : Filter) : Prop :=
  f.operator ∉ [.isNull, .isNotNull, .isIn, .notIn] ∧ f.values = []

/-- The filter has a fault. -/
def IsFaulty (d : Dialect) (f : Filter) : Prop :=
  f.IsUnsupported d ∨ f.LacksValue

/-- The error of a filter with a fault; a value is missed only if the dialect has the operator. -/
inductive Fault (d : Dialect) (f : Filter) : QueryError → Prop
  | unsupported (h : f.IsUnsupported d) : Fault d f (.unsupportedOperator f.operator d)
  | lacking (hsupported : ¬ f.IsUnsupported d) (h : f.LacksValue) :
    Fault d f (.missingValue f.column f.operator)

lemma isUnsupported_iff :
    f.IsUnsupported d ↔ (f.operator.isCaseInsensitive && !d.supportsCaseInsensitive) = true := by
  rw [IsUnsupported]
  cases f.operator <;> cases d <;>
    simp [Operator.isCaseInsensitive, Dialect.supportsCaseInsensitive]

lemma lacksValue_iff :
    f.LacksValue ↔ f.operator.hasValue = true ∧ f.operator.isArray = false ∧ f.values = [] := by
  rw [LacksValue]
  cases f.operator <;> simp [Operator.hasValue, Operator.isArray]

/-- A filter has no condition exactly if it has a fault. -/
lemma condition_eq_error_iff : f.condition d = .error e ↔ Fault d f e := by
  constructor
  · intro h
    rw [condition] at h
    split at h
    · next hop =>
      cases h
      exact .unsupported (isUnsupported_iff.mpr hop)
    · next hop =>
      have hsupported : ¬ f.IsUnsupported d := fun hun => hop (isUnsupported_iff.mp hun)
      split at h
      · cases h
      · next hvalue =>
        split at h
        · split at h <;> cases h
        · next harray =>
          split at h
          · cases h
          · next hoperands =>
            cases h
            refine .lacking hsupported (lacksValue_iff.mpr ⟨by simpa using hvalue,
              by simpa using harray, ?_⟩)
            rw [operands, if_neg hvalue, if_neg harray] at hoperands
            simpa using hoperands
  · intro h
    cases h with
    | unsupported h => rw [condition, if_pos (isUnsupported_iff.mp h)]
    | lacking hsupported h =>
      obtain ⟨hvalue, harray, hvalues⟩ := lacksValue_iff.mp h
      have hop := fun hop => hsupported (isUnsupported_iff.mpr hop)
      have hoperands : f.operands = [] := by simp [operands, hvalue, harray, hvalues]
      rw [condition, if_neg hop, hvalue, harray, hoperands]
      rfl

lemma isFaulty_iff : f.IsFaulty d ↔ ∃ e, Fault d f e := by
  constructor
  · intro h
    by_cases hun : f.IsUnsupported d
    · exact ⟨_, .unsupported hun⟩
    · exact ⟨_, .lacking hun (h.resolve_left hun)⟩
  · rintro ⟨e, h⟩
    cases h with
    | unsupported h => exact .inl h
    | lacking _ h => exact .inr h

/-! ### Lists of filters -/

/-- The error is that of the first filter with a fault. -/
def FirstFault (d : Dialect) (filters : List Filter) (e : QueryError) : Prop :=
  ∃ before f after, filters = before ++ f :: after ∧ (∀ g ∈ before, ¬ g.IsFaulty d) ∧ Fault d f e

lemma not_firstFault_nil : ¬ FirstFault d [] e := by
  rintro ⟨before, f, after, heq, -⟩
  simp at heq

lemma firstFault_cons_iff :
    FirstFault d (f :: filters) e ↔ Fault d f e ∨ ¬ f.IsFaulty d ∧ FirstFault d filters e := by
  constructor
  · rintro ⟨before, g, after, heq, hbefore, hfault⟩
    cases before with
    | nil =>
      cases heq
      exact .inl hfault
    | cons b before =>
      cases heq
      obtain ⟨hb, hbefore⟩ := List.forall_mem_cons.mp hbefore
      exact .inr ⟨hb, before, g, after, rfl, hbefore, hfault⟩
  · rintro (hfault | ⟨hf, before, g, after, rfl, hbefore, hfault⟩)
    · exact ⟨[], f, filters, rfl, by simp, hfault⟩
    · exact ⟨f :: before, g, after, rfl, List.forall_mem_cons.mpr ⟨hf, hbefore⟩, hfault⟩

/-- There is a first fault if there is any. -/
lemma exists_firstFault_iff : (∃ e, FirstFault d filters e) ↔ ∃ f ∈ filters, f.IsFaulty d := by
  constructor
  · rintro ⟨e, before, f, after, rfl, -, hfault⟩
    exact ⟨f, by simp, isFaulty_iff.mpr ⟨e, hfault⟩⟩
  · rintro ⟨f, hmem, hf⟩
    induction filters with
    | nil => cases hmem
    | cons g filters ih =>
      by_cases hg : g.IsFaulty d
      · obtain ⟨e, he⟩ := isFaulty_iff.mp hg
        exact ⟨e, firstFault_cons_iff.mpr (.inl he)⟩
      · have hmem : f ∈ filters := (List.mem_cons.mp hmem).resolve_left fun h => hg (h ▸ hf)
        obtain ⟨e, he⟩ := ih hmem
        exact ⟨e, firstFault_cons_iff.mpr (.inr ⟨hg, he⟩)⟩

/-- The conditions of filters fail with the error of the first fault. -/
lemma mapM_condition_eq_error_iff :
    filters.mapM (condition d) = .error e ↔ FirstFault d filters e := by
  induction filters with
  | nil => exact iff_of_false (by simp [pure, Except.pure]) not_firstFault_nil
  | cons f filters ih =>
    rw [List.mapM_cons, firstFault_cons_iff, ← ih]
    cases hf : f.condition d with
    | error e' =>
      have hfault : Fault d f e' := condition_eq_error_iff.mp hf
      have hfaulty : f.IsFaulty d := isFaulty_iff.mpr ⟨e', hfault⟩
      rw [← condition_eq_error_iff, hf, or_iff_left fun h => h.1 hfaulty, Except.error.injEq]
      exact ⟨fun h => Except.error.inj h, fun h => h ▸ rfl⟩
    | ok expression =>
      have hsound : ¬ f.IsFaulty d := by
        intro hfaulty
        obtain ⟨e', hfault⟩ := isFaulty_iff.mp hfaulty
        rw [condition_eq_error_iff.mpr hfault] at hf
        cases hf
      rw [← condition_eq_error_iff, hf, or_iff_right (by simp), and_iff_right hsound]
      cases filters.mapM (condition d) with
      | error e' => exact Iff.rfl
      | ok expressions => exact iff_of_false (fun h => by cases h) (fun h => by cases h)

end Filter

/-! ### Requests -/

lemma whereTemplate_eq_error_iff :
    whereTemplate d filters connective = .error e ↔ Filter.FirstFault d filters e := by
  rw [whereTemplate, ← Filter.mapM_condition_eq_error_iff]
  split
  · next hempty =>
    rw [List.isEmpty_iff.mp hempty]
    exact iff_of_false (fun h => by cases h) (fun h => by cases h)
  · cases filters.mapM (Filter.condition d) with
    | error e' => exact ⟨fun h => by cases h; rfl, fun h => by cases h; rfl⟩
    | ok conditions => exact iff_of_false (fun h => by cases h) (fun h => by cases h)

lemma exceptMap_eq_error_iff {ε α β : Type} {f : α → β} {x : Except ε α} {e : ε} :
    x.map f = .error e ↔ x = .error e := by
  cases x <;> simp [Except.map]

lemma restrictedTemplate_eq_error_iff {heads : List Template} {tail : List String} :
    restrictedTemplate d filters connective heads tail = .error e
      ↔ Filter.FirstFault d filters e := by
  rw [restrictedTemplate, exceptMap_eq_error_iff, whereTemplate_eq_error_iff]

namespace Request

/-- A request fails with the error of the first fault of its filters; an update that changes nothing
fails before. Nothing is wrong with a new row. -/
inductive FailsWith (d : Dialect) : Request → QueryError → Prop
  | select {r : SelectRequest} {e : QueryError} (h : Filter.FirstFault d r.filters e) :
    FailsWith d (.select r) e
  | count {r : CountRequest} {e : QueryError} (h : Filter.FirstFault d r.filters e) :
    FailsWith d (.count r) e
  | delete {r : DeleteRequest} {e : QueryError} (h : Filter.FirstFault d r.filters e) :
    FailsWith d (.delete r) e
  | emptyUpdate {r : UpdateRequest} (h : r.assignments = []) :
    FailsWith d (.update r) (.emptyUpdate r.table)
  | update {r : UpdateRequest} {e : QueryError} (hset : r.assignments ≠ [])
    (h : Filter.FirstFault d r.filters e) : FailsWith d (.update r) e

end Request

namespace SqlStyle

lemma select_eq_error_iff {r : SelectRequest} :
    style.select r = .error e ↔ Filter.FirstFault style.dialect r.filters e := by
  rw [select_eq_query, exceptMap_eq_error_iff, SelectRequest.template,
    restrictedTemplate_eq_error_iff]

lemma count_eq_error_iff {r : CountRequest} :
    style.count r = .error e ↔ Filter.FirstFault style.dialect r.filters e := by
  rw [count, exceptMap_eq_error_iff, exactCount_eq_query, exceptMap_eq_error_iff,
    CountRequest.template, restrictedTemplate_eq_error_iff]

lemma delete_eq_error_iff {r : DeleteRequest} :
    style.delete r = .error e ↔ Filter.FirstFault style.dialect r.filters e := by
  rw [delete_eq_query, exceptMap_eq_error_iff, DeleteRequest.template,
    restrictedTemplate_eq_error_iff]

lemma update_eq_error_iff {r : UpdateRequest} :
    style.update r = .error e ↔ r.assignments = [] ∧ e = .emptyUpdate r.table ∨
      r.assignments ≠ [] ∧ Filter.FirstFault style.dialect r.filters e := by
  rw [update_eq_query, exceptMap_eq_error_iff, UpdateRequest.template]
  by_cases hset : r.assignments = []
  · rw [if_pos (List.isEmpty_iff.mpr hset), Except.error.injEq]
    simp [hset, eq_comm]
  · rw [if_neg fun hempty => hset (List.isEmpty_iff.mp hempty), restrictedTemplate_eq_error_iff]
    simp [hset]

end SqlStyle

/-- A request is compiled unless it fails with one of the errors that are told by its filters. -/
lemma Request.compile_eq_error_iff (style : SqlStyle) (r : Request) (e : QueryError) :
    r.compile style = .error e ↔ r.FailsWith style.dialect e := by
  cases r with
  | select r =>
    rw [compile, exceptMap_eq_error_iff, SqlStyle.select_eq_error_iff]
    exact ⟨.select, fun | .select h => h⟩
  | count r =>
    rw [compile, exceptMap_eq_error_iff, SqlStyle.count_eq_error_iff]
    exact ⟨.count, fun | .count h => h⟩
  | update r =>
    rw [compile, exceptMap_eq_error_iff, SqlStyle.update_eq_error_iff]
    constructor
    · rintro (⟨hset, rfl⟩ | ⟨hset, h⟩)
      · exact .emptyUpdate hset
      · exact .update hset h
    · rintro (_ | _ | _ | hset | ⟨hset, h⟩)
      · exact .inl ⟨hset, rfl⟩
      · exact .inr ⟨hset, h⟩
  | delete r =>
    rw [compile, exceptMap_eq_error_iff, SqlStyle.delete_eq_error_iff]
    exact ⟨.delete, fun | .delete h => h⟩
  | insert r => exact iff_of_false (fun h => by cases h) (fun h => by cases h)

end SqlWorkbench
