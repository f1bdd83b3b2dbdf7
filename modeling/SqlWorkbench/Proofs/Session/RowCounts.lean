import SqlWorkbench.Proofs.Number.Sign
import SqlWorkbench.Proofs.Query.Requests
import SqlWorkbench.Proofs.Session.Operations
import SqlWorkbench.Proofs.Session.Wordings

/-!
# Numbers of rows

The number of rows of a table is asked of the catalog where an estimate will do, and counted where
the catalog gives none that can be used. Main statement: which queries are sent, in which order,
and what their answers are taken for.
-/

namespace SqlWorkbench

/-! ### Queries of plans -/

/-- The query is one for rows. -/
def Query.IsSelection (q : Query) : Prop :=
  q.sql.toList.head? = some 'S'

/-- Queries for rows are sent as they are. -/
lemma Query.IsSelection.forDispatch_eq {q : Query} (h : q.IsSelection) (d : Dialect) :
    Wording.forDispatch d q.sql = q.sql := by
  obtain ⟨rest, hrest⟩ := List.head?_eq_some_iff.mp h
  exact Wording.forDispatch_of_toList d hrest (by decide) (by decide)

lemma Template.isSelection_query {style : SqlStyle} {sql : String}
    (hsql : sql.toList.head? = some 'S') (t : Template) :
    (Template.query style (.ofText sql ++ t)).IsSelection := by
  rw [Query.IsSelection, Template.query, Template.queryAfter_append, Template.queryAfter_ofText]
  simp [Query.ofSql, hsql]

namespace SqlStyle

variable {style : SqlStyle} {r : CountRequest} {plan : CountPlan}

lemma isSelection_estimate {schema : Option String} {table : String} {q : Query}
    (h : style.estimate schema table = some q) : q.IsSelection := by
  rw [estimate_eq_query, estimateTemplate, Option.map_map, Option.map_eq_some_iff] at h
  obtain ⟨⟨selection, condition⟩, hquestion, rfl⟩ := h
  apply Template.isSelection_query
  have hselection : selection.toList.head? = some 'S' := by
    rw [catalogQuestion.eq_def] at hquestion
    split at hquestion
    · cases hquestion
      rw [String.toList_append, List.head?_append]
      rfl
    · cases hquestion
      rfl
    · cases hquestion
      rfl
    · cases hquestion
    · cases hquestion
  rw [String.toList_append, List.head?_append, hselection]
  rfl

lemma isSelection_exactCount {q : Query} (h : style.exactCount r = .ok q) : q.IsSelection := by
  have hselection : ("SELECT COUNT(*) AS total FROM "
      ++ tableName style.dialect r.schema r.table).toList.head? = some 'S' := by
    rw [String.toList_append, List.head?_append]
    rfl
  rw [exactCount_eq_query] at h
  cases ht : r.template style.dialect with
  | error e =>
    rw [ht] at h
    cases h
  | ok t =>
    rw [ht] at h
    cases h
    obtain ⟨clause, -, rfl⟩ := exists_of_restricted ht
    cases clause with
    | none => exact Template.isSelection_query hselection []
    | some w => exact Template.isSelection_query hselection _

/-- The queries of a plan are for rows. The catalog is asked only about a whole table, and only
where an estimate will do. -/
inductive Plans (style : SqlStyle) (r : CountRequest) : CountPlan → Prop
  | counted {count : Query} (hcount : count.IsSelection) : Plans style r (.counted count)
  | estimated {estimate count : Query} (hestimate : estimate.IsSelection)
    (hcount : count.IsSelection) (hfilters : r.filters = []) (hexact : r.exact = false) :
    Plans style r (.estimated estimate count)

lemma plans_of_count (h : style.count r = .ok plan) : style.Plans r plan := by
  rw [count] at h
  cases hcount : style.exactCount r with
  | error e =>
    rw [hcount] at h
    cases h
  | ok q =>
    rw [hcount] at h
    have hq := isSelection_exactCount hcount
    simp only [Except.map, Except.ok.injEq] at h
    split at h
    · subst h
      exact .counted hq
    · next hwhole =>
      split at h
      · next estimate hestimate =>
        subst h
        rw [Bool.not_eq_true, Bool.or_eq_false_iff, Bool.not_eq_false', List.isEmpty_iff] at hwhole
        exact .estimated (isSelection_estimate hestimate) hq hwhole.2 hwhole.1
      · subst h
        exact .counted hq

end SqlStyle

/-! ### Answers -/

/-- The value is a number, or a text that spells one; blanks around it do not count. -/
inductive Json.Spells : Json → Double → Prop
  | int (i : Int) : Spells (.int i) (Double.ofInt i)
  | float (x : Double) : Spells (.float x) x
  | text {s : String} {x : Double} (h : Double.read? (Text.trim s.toList) = some x) :
    Spells (.string s) x

namespace Session

variable {t : Transport} {c : Connection} {s : Session} {r : CountRequest} {plan : CountPlan}

/-- The first row has the number in the column. -/
def FirstNumber (rows : List Row) (column : String) (x : Double) : Prop :=
  ∃ row rest cell, rows = row :: rest ∧ Keyed.find? row column = some cell ∧ cell.Spells x

lemma firstNumber?_eq_some_iff {rows : List Row} {column : String} {x : Double} :
    firstNumber? rows column = some x ↔ FirstNumber rows column x := by
  cases rows with
  | nil =>
    constructor
    · intro h
      cases h
    · rintro ⟨row, rest, cell, ⟨⟩, -⟩
  | cons row rest =>
    have hcells : FirstNumber (row :: rest) column x ↔
        ∃ cell, Keyed.find? row column = some cell ∧ cell.Spells x := by
      constructor
      · rintro ⟨row', rest', cell, hrows, hcell⟩
        cases hrows
        exact ⟨cell, hcell⟩
      · rintro ⟨cell, hcell⟩
        exact ⟨row, rest, cell, rfl, hcell⟩
    rw [hcells, firstNumber?, List.head?_cons, Option.bind_some]
    cases hcell : Keyed.find? row column with
    | none => simp
    | some cell =>
      simp only [Option.some.injEq, exists_eq_left']
      cases cell with
      | string text =>
        constructor
        · exact .text
        · rintro ⟨⟩
          assumption
      | int i =>
        constructor
        · rintro ⟨⟩
          exact .int i
        · rintro ⟨⟩
          rfl
      | float y =>
        constructor
        · rintro ⟨⟩
          exact .float x
        · rintro ⟨⟩
          rfl
      | _ =>
        constructor
        · rintro ⟨⟩
        · rintro ⟨⟩

/-- The answer of the catalog can be used: it has a number, which is not below zero. -/
def Estimates (outcome : Except TransportError Output) (x : Double) : Prop :=
  ∃ output, outcome = .ok output ∧ FirstNumber output.rows "count" x ∧ x.AtLeastZero

/-- What the answer to the query that counts is taken for. -/
inductive Total : Except TransportError Output → Except SessionError RowCount → Prop
  | failed (e : TransportError) : Total (.error e) (.error (.transport e))
  | counted {output : Output} {x : Double} (h : FirstNumber output.rows "total" x) :
    Total (.ok output) (.ok ⟨x.roundToNat, false⟩)
  | unreadable {output : Output} (h : ∀ x, ¬ FirstNumber output.rows "total" x) :
    Total (.ok output) (.error (.unexpectedShape "count query returned no total"))

/-- The calls that a plan makes behind those before, and the number of rows that comes of them. -/
inductive Counts (t : Transport) (c : Connection) (before : List Call) :
    CountPlan → List Call → Except SessionError RowCount → Prop
  | counted {count : Query} {result : Except SessionError RowCount}
    (h : Total (t before (c.call count)).outcome result) :
    Counts t c before (.counted count) [c.call count] result
  | estimated {estimate count : Query} {x : Double}
    (h : Estimates (t before (c.call estimate)).outcome x) :
    Counts t c before (.estimated estimate count) [c.call estimate] (.ok ⟨x.roundToNat, true⟩)
  | fellBack {estimate count : Query} {result : Except SessionError RowCount}
    (hestimate : ∀ x, ¬ Estimates (t before (c.call estimate)).outcome x)
    (hcount : Total (t (before ++ [c.call estimate]) (c.call count)).outcome result) :
    Counts t c before (.estimated estimate count) [c.call estimate, c.call count] result

/-- A number that is no estimate was counted, though the catalog was asked first. -/
lemma Counts.sent_eq {before sent : List Call} {estimate count : Query} {n : RowCount}
    (h : Counts t c before (.estimated estimate count) sent (.ok n)) (hn : n.isEstimated = false) :
    sent = [c.call estimate, c.call count] := by
  cases h with
  | estimated => cases hn
  | fellBack => rfl

lemma exists_countRows (plan : CountPlan) (hplan : plan.countQuery.IsSelection) (t : Transport)
    (c : Connection) (s : Session) : ∃ result s', countRows t c plan s = (result, s') ∧
      s'.calls = s.calls ++ [c.call plan.countQuery] ∧
      Total (t s.calls (c.call plan.countQuery)).outcome result := by
  obtain ⟨s', hcalls, hexecute⟩ := exists_execute (hplan.forDispatch_eq c.dialect) t s
  rw [countRows]
  cases houtcome : (t s.calls (c.call plan.countQuery)).outcome with
  | error e =>
    rw [houtcome] at hexecute
    rw [bind_of_error hexecute]
    exact ⟨_, s', rfl, hcalls, .failed e⟩
  | ok output =>
    rw [houtcome] at hexecute
    rw [bind_of_ok hexecute]
    cases hnumber : firstNumber? output.rows "total" with
    | some x => exact ⟨_, s', rfl, hcalls, .counted (firstNumber?_eq_some_iff.mp hnumber)⟩
    | none =>
      refine ⟨_, s', rfl, hcalls, .unreadable fun x hx => ?_⟩
      rw [← firstNumber?_eq_some_iff, hnumber] at hx
      cases hx

lemma estimateOf?_eq_some_iff {output : Output} {n : RowCount} :
    estimateOf? output = some n ↔ ∃ x, Estimates (.ok output) x ∧ n = ⟨x.roundToNat, true⟩ := by
  rw [estimateOf?, Option.map_eq_some_iff]
  constructor
  · rintro ⟨x, hx, rfl⟩
    obtain ⟨hx, hsign⟩ := Option.filter_eq_some_iff.mp hx
    exact ⟨x, ⟨output, rfl, firstNumber?_eq_some_iff.mp hx, Double.isNonnegative_iff.mp hsign⟩, rfl⟩
  · rintro ⟨x, ⟨output', houtput, hx, hsign⟩, rfl⟩
    cases houtput
    refine ⟨x, Option.filter_eq_some_iff.mpr ⟨?_, Double.isNonnegative_iff.mpr hsign⟩, rfl⟩
    exact firstNumber?_eq_some_iff.mpr hx

/-- A failure is no estimate. -/
lemma bind_estimateOf?_eq_some_iff {outcome : Except TransportError Output} {n : RowCount} :
    (outcome.mapError SessionError.transport).toOption.bind estimateOf? = some n ↔
      ∃ x, Estimates outcome x ∧ n = ⟨x.roundToNat, true⟩ := by
  cases outcome with
  | error e =>
    constructor
    · intro h
      cases h
    · rintro ⟨x, ⟨output, houtput, -⟩, -⟩
      cases houtput
  | ok output => exact estimateOf?_eq_some_iff

lemma exists_counts (hs : s.IsSound) (h : (SqlStyle.binding c.dialect).count r = .ok plan)
    (t : Transport) : ∃ sent result s', count t c r s = (result, s') ∧
      s'.calls = s.calls ++ sent ∧ Counts t c s.calls plan sent result := by
  have hworded : worded ((SqlStyle.binding c.dialect).count r) (s.asked c)
      = (.ok plan, s.asked c) := by
    rw [h]
    rfl
  rw [count, bind_of_ok (hs.styleOf_eq c), bind_of_ok hworded]
  cases SqlStyle.plans_of_count h with
  | @counted q hcount =>
    obtain ⟨result, s', hrun, hcalls, htotal⟩ :=
      exists_countRows (.counted q) hcount t c (s.asked c)
    exact ⟨_, result, s', hrun, hcalls, .counted htotal⟩
  | @estimated estimate q hestimate hcount =>
    obtain ⟨s₁, hcalls₁, hexecute⟩ :=
      exists_execute (hestimate.forDispatch_eq c.dialect) t (s.asked c)
    -- A failure of the catalog is caught: what is left of its answer is an estimate or nothing.
    have hanswer := tryCatch_none (execute t c estimate) (s.asked c)
    rw [hexecute] at hanswer
    rw [calls_asked] at hcalls₁ hanswer
    dsimp only
    rw [bind_of_ok hanswer]
    cases hn : (Except.mapError SessionError.transport
        (t s.calls (c.call estimate)).outcome).toOption.bind estimateOf? with
    | some n =>
      obtain ⟨x, hx, rfl⟩ := bind_estimateOf?_eq_some_iff.mp hn
      exact ⟨_, _, s₁, rfl, hcalls₁, .estimated hx⟩
    | none =>
      obtain ⟨result, s', hrun, hcalls, htotal⟩ :=
        exists_countRows (.estimated estimate q) hcount t c s₁
      rw [hcalls₁] at hcalls htotal
      rw [List.append_assoc] at hcalls
      refine ⟨_, result, s', hrun, hcalls, .fellBack (fun x hx => ?_) htotal⟩
      rw [bind_estimateOf?_eq_some_iff.mpr ⟨x, hx, rfl⟩] at hn
      cases hn

/-- Over a connection, a request for a number of rows that can be compiled makes the calls of its
plan, behind those that were made before, and is answered with what comes of them. The catalog is
asked only if there are no filters and an estimate will do. -/
theorem exists_counts_and_isEstimated (hs : s.IsSound)
    (h : (SqlStyle.binding c.dialect).count r = .ok plan) :
    (∃ sent result s', count t c r s = (result, s') ∧ s'.calls = s.calls ++ sent ∧
      Counts t c s.calls plan sent result) ∧
    (plan.isEstimated = true → r.filters = [] ∧ r.exact = false) := by
  refine ⟨exists_counts hs h t, fun hestimated => ?_⟩
  cases SqlStyle.plans_of_count h with
  | counted hcount => cases hestimated
  | estimated hestimate hcount hfilters hexact => exact ⟨hfilters, hexact⟩

/-- A catalog that gives an estimate below zero, and an engine that counts in texts. -/
def unsureEngine : Transport := fun before _ =>
  let rows := if before.isEmpty then [[("count", .int (-1))]] else [[("total", .string "42")]]
  { outcome := .ok { rows } }

theorem exists_counts_unsureEngine :
    let c := Connection.ofId "a" .postgres ""
    let s := ofJournal .empty
    s.IsSound ∧ ∃ estimate q s',
      (SqlStyle.binding c.dialect).count { table := "users" } = .ok (.estimated estimate q) ∧
      count unsureEngine c { table := "users" } s = (.ok ⟨42, false⟩, s') ∧
      s'.calls = [c.call estimate, c.call q] := by
  intro c s
  have hsound : s.IsSound := isSound_ofJournal .empty
  have hplan : (SqlStyle.binding c.dialect).count { table := "users" }
      = .ok (.estimated _ _) := rfl
  obtain ⟨⟨sent, result, s', hrun, hcalls, hcounts⟩, -⟩ :=
    exists_counts_and_isEstimated (t := unsureEngine) hsound hplan
  have hresult : (count unsureEngine c { table := "users" } s).1 = .ok ⟨42, false⟩ := rfl
  rw [hrun] at hresult
  obtain rfl := hresult
  refine ⟨hsound, _, _, s', hplan, hrun, ?_⟩
  rw [hcalls, hcounts.sent_eq rfl]
  rfl

end Session

end SqlWorkbench
