import SqlWorkbench.Proofs.Query.Snippets
import SqlWorkbench.Proofs.Session.Wordings

/-!
# Updates for ClickHouse

An update is sent to ClickHouse as an alteration of its table. Main statement: the table, the
assignments and the restriction are kept as they were written, and the words between them are
replaced, exactly if no name of the table has the word SET between blanks and the first column
has a name.
-/

namespace SqlWorkbench

namespace Wording

open Text

variable {s t : List Char} {c : Char}

/-! ### Names with the opening word -/

lemma HasOpener.exists_isBlank (h : HasOpener s) : ∃ b ∈ s, isBlank b = true := by
  obtain ⟨w, hw, hinfix⟩ := h
  obtain ⟨hb, -, -⟩ := hw
  exact ⟨_, hinfix.mem (List.mem_cons_self), hb⟩

@[simp] lemma not_hasOpener_nil : ¬ HasOpener [] := by
  intro h
  obtain ⟨b, hb, -⟩ := h.exists_isBlank
  cases hb

lemma hasOpener_cons_iff (hc : isBlank c = false) : HasOpener (c :: s) ↔ HasOpener s := by
  constructor
  · rintro ⟨w, hw, hinfix⟩
    rcases List.infix_cons_iff.mp hinfix with ⟨u, hu⟩ | hinfix
    · obtain ⟨hb, -, -⟩ := hw
      obtain ⟨rfl, -⟩ := List.cons_eq_cons.mp hu
      rw [hc] at hb
      cases hb
    · exact ⟨w, hw, hinfix⟩
  · exact fun h => h.mono (List.suffix_cons c s).isInfix

lemma hasOpener_append_iff : HasOpener (s ++ '\x60' :: t) ↔ HasOpener s ∨ HasOpener t := by
  constructor
  · rintro ⟨w, hw, hinfix⟩
    rcases infix_of_not_mem hinfix hw.not_mem with h | h
    · exact .inl ⟨w, hw, h⟩
    · exact .inr ⟨w, hw, h⟩
  · rintro (h | h)
    · exact h.mono (List.prefix_append s _).isInfix
    · apply h.mono
      exact (List.suffix_cons '\x60' t).isInfix.trans (List.suffix_append s _).isInfix

lemma hasOpener_replaceChar_iff :
    HasOpener (replaceChar '\x60' ['\x60', '\x60'] s) ↔ HasOpener s := by
  constructor
  · rintro ⟨w, hw, hinfix⟩
    exact ⟨w, hw, (infix_replaceChar_iff hw.not_mem).mp hinfix⟩
  · rintro ⟨w, hw, hinfix⟩
    exact ⟨w, hw, (infix_replaceChar_iff hw.not_mem).mpr hinfix⟩

lemma hasOpener_quotedName_append_iff :
    HasOpener (Dialect.clickhouse.quotedName s ++ t) ↔ HasOpener s ∨ HasOpener t := by
  have hquoted : Dialect.clickhouse.quotedName s ++ t
      = '\x60' :: (replaceChar '\x60' ['\x60', '\x60'] s ++ '\x60' :: t) := by
    simp [Dialect.quotedName, Dialect.openQuote, Dialect.closeQuote]
  rw [hquoted, hasOpener_cons_iff (by decide), hasOpener_append_iff, hasOpener_replaceChar_iff]

/-- The word stands in a path if it stands in one of its names. -/
lemma hasOpener_quotePath_iff {parts : List String} :
    HasOpener (Dialect.clickhouse.quotePath parts).toList ↔
      ∃ part ∈ parts, HasOpener part.toList := by
  have hnames : ∀ names : List String,
      HasOpener (joinWith "." (names.map Dialect.clickhouse.quoteName)).toList ↔
        ∃ name ∈ names, HasOpener name.toList := by
    intro names
    induction names with
    | nil => simp
    | cons name names ih =>
      rw [List.exists_mem_cons_iff, ← ih]
      cases names with
      | nil =>
        have happend := hasOpener_quotedName_append_iff (s := name.toList) (t := [])
        rw [List.append_nil] at happend
        simpa using happend
      | cons next names =>
        rw [List.map_cons, List.map_cons, joinWith_cons_cons, String.toList_append,
          String.toList_append, Dialect.toList_quoteName, List.append_assoc,
          hasOpener_quotedName_append_iff]
        exact or_congr_right (hasOpener_cons_iff (by decide))
  rw [Dialect.quotePath, hnames]
  constructor
  · rintro ⟨part, hpart, h⟩
    exact ⟨part, (List.mem_filter.mp hpart).1, h⟩
  · rintro ⟨part, hpart, h⟩
    refine ⟨part, List.mem_filter.mpr ⟨hpart, ?_⟩, h⟩
    rw [Bool.not_eq_true', ← Bool.not_eq_true, String.isEmpty_iff]
    rintro rfl
    exact not_hasOpener_nil h

lemma isQuoted_quotedName (name : List Char) : IsQuoted (Dialect.clickhouse.quotedName name) :=
  ⟨_, rfl⟩

lemma IsQuoted.append (hs : IsQuoted s) (ht : IsQuoted t) (u : List Char) :
    IsQuoted (s ++ u ++ t) := by
  obtain ⟨x, rfl⟩ := hs
  obtain ⟨y, rfl⟩ := ht
  exact ⟨x ++ '\x60' :: (u ++ '\x60' :: y), by simp⟩

/-- A path with a name in it begins and ends with a quote. -/
lemma isQuoted_quotePath {parts : List String} {name : String} (hmem : name ∈ parts)
    (hname : name ≠ "") : IsQuoted (Dialect.clickhouse.quotePath parts).toList := by
  have hnames : ∀ names : List String, names ≠ [] →
      IsQuoted (joinWith "." (names.map Dialect.clickhouse.quoteName)).toList := by
    intro names hne
    induction names with
    | nil => exact absurd rfl hne
    | cons first names ih =>
      have hfirst := isQuoted_quotedName first.toList
      rw [← Dialect.toList_quoteName] at hfirst
      cases names with
      | nil => exact hfirst
      | cons next names =>
        rw [List.map_cons, List.map_cons, joinWith_cons_cons, String.toList_append,
          String.toList_append]
        exact hfirst.append (ih (by simp)) ".".toList
  apply hnames
  apply List.ne_nil_of_mem (a := name)
  simp [hmem, hname]

end Wording

/-! ### Updates in words -/

namespace UpdateRequest

open Text Wording

variable {r : UpdateRequest} {q : Query}

/-- The table of an update. -/
def tableText (r : UpdateRequest) : String :=
  Dialect.clickhouse.quotePath (r.schema.toList ++ [r.table])

/-- A column with its new value. -/
def assignmentText (a : Assignment) : String :=
  Dialect.clickhouse.quotePath [a.column] ++ " = " ++ Dialect.clickhouse.literal a.value

/-- The assignments of an update. -/
def assignmentsText (r : UpdateRequest) : String :=
  joinWith ", " (r.assignments.map assignmentText)

/-- The table and the assignments of an update with words around the table, and the restriction
behind them. -/
def worded (before between : String) (r : UpdateRequest) (clause : Option String) : String :=
  joinWith " " ((before ++ r.tableText ++ between ++ r.assignmentsText) :: clause.toList)

/-- Nothing in the update is taken for the word that opens its assignments, or for a blank behind
that word. -/
structure ShowsTable (r : UpdateRequest) : Prop where
  schema : ∀ name ∈ r.schema, ¬ HasOpener name.toList
  table : ¬ HasOpener r.table.toList
  column : ∀ a ∈ r.assignments.head?, a.column ≠ ""

lemma tableName_eq (d : Dialect) (schema : Option String) (table : String) :
    tableName d schema table = d.quotePath (schema.toList ++ [table]) := by
  cases schema with
  | none => rfl
  | some name =>
    rw [tableName]
    split
    · next h => simp [Dialect.quotePath, h]
    · rfl

lemma isQuoted_tableText (htable : r.table ≠ "") : IsQuoted r.tableText.toList :=
  isQuoted_quotePath (List.mem_append_right _ (List.mem_singleton_self r.table)) htable

lemma hasOpener_tableText_iff : HasOpener r.tableText.toList ↔
    (∃ name ∈ r.schema, HasOpener name.toList) ∨ HasOpener r.table.toList := by
  rw [tableText, hasOpener_quotePath_iff]
  simp

/-- A blank is in front of the assignments if the first column has no name. -/
lemma head?_assignmentsText (hne : r.assignments ≠ []) (rest : List Char) :
    (∀ c ∈ (r.assignmentsText.toList ++ rest).head?, isBlank c = false) ↔
      ∀ a ∈ r.assignments.head?, a.column ≠ "" := by
  obtain ⟨a, as, has⟩ := List.exists_cons_of_ne_nil hne
  have hcolumn : ∀ u : List Char,
      (∀ c ∈ ((Dialect.clickhouse.quotePath [a.column]).toList ++ ' ' :: u).head?,
        isBlank c = false) ↔ a.column ≠ "" := by
    intro u
    by_cases hname : a.column = ""
    · simp [Dialect.quotePath, hname]
      decide
    · simp [Dialect.quotePath, hname, Dialect.quotedName]
      decide
  obtain ⟨u, hu⟩ : ∃ u, r.assignmentsText.toList ++ rest
      = (Dialect.clickhouse.quotePath [a.column]).toList ++ ' ' :: u := by
    rw [assignmentsText, has]
    cases as with
    | nil => exact ⟨_, by simp [assignmentText]; rfl⟩
    | cons next as => exact ⟨_, by simp [assignmentText, joinWith_cons_cons]; rfl⟩
  rw [hu, hcolumn, has]
  simp

lemma literalSql_assignmentsTemplate (r : UpdateRequest) :
    (assignmentsTemplate .clickhouse r.assignments).literalSql .clickhouse = r.assignmentsText := by
  have htexts : ∀ as : List Assignment, (Expression.templates .clickhouse (as.map fun a =>
      .comparison (.column a.column) "=" (some (.parameter a.value)))).map
        (Template.literalSql .clickhouse) = as.map assignmentText := by
    intro as
    induction as with
    | nil => rfl
    | cons a as ih =>
      rw [List.map_cons, List.map_cons, Expression.templates, List.map_cons, ih,
        Expression.literalSql_comparison, Expression.literalSql_column,
        Expression.literalSql_parameter]
      rfl
  rw [assignmentsTemplate, Template.literalSql_joinWith, htexts, assignmentsText]

/-- The restriction is written with its data in it. -/
lemma run_whereClause {filters : List Filter} {connective : Connective} {clause : Option Template}
    (h : whereTemplate .clickhouse filters connective = .ok clause) :
    (whereClause (.binding .clickhouse) filters connective).run []
      = .ok (clause.map (Template.literalSql .clickhouse), []) := by
  have hclause : whereClause (.binding .clickhouse) filters connective
      = liftM (clause.mapM (Template.write (.binding .clickhouse))) := whereClause_of_ok h
  rw [hclause]
  cases clause <;> rfl

/-- The update in the words of a query. -/
lemma exists_clause (h : (SqlStyle.binding .clickhouse).update r = .ok q) :
    r.assignments ≠ [] ∧ ∃ clause,
      (whereClause (.binding .clickhouse) r.filters r.connective).run [] = .ok (clause, []) ∧
      q.sql = r.worded "UPDATE " " SET " clause := by
  rw [SqlStyle.update_eq_query, SqlStyle.dialect_binding, UpdateRequest.template] at h
  split at h
  · cases h
  · next hne =>
    refine ⟨by simpa using hne, ?_⟩
    cases ht : restrictedTemplate .clickhouse r.filters r.connective
      [.ofText ("UPDATE " ++ tableName .clickhouse r.schema r.table ++ " SET ")
        ++ assignmentsTemplate .clickhouse r.assignments] [] with
    | error e =>
      rw [ht] at h
      cases h
    | ok t =>
      rw [ht] at h
      obtain ⟨clause, hclause, rfl⟩ := exists_of_restricted ht
      refine ⟨_, run_whereClause hclause, ?_⟩
      cases h
      have hsql : ∀ t : Template, (t.query (.binding .clickhouse)).sql
        = t.literalSql .clickhouse := fun _ => rfl
      rw [hsql, Template.literalSql_joinWith, worded, tableText, ← tableName_eq]
      cases clause <;> simp [Template.literalSql_append, literalSql_assignmentsTemplate]

lemma toList_worded (before between : String) (r : UpdateRequest) (clause : Option String) :
    (r.worded before between clause).toList = before.toList ++ r.tableText.toList
      ++ between.toList ++ (r.assignmentsText.toList
        ++ (clause.map fun w => ' ' :: w.toList).getD []) := by
  cases clause <;> simp [worded, joinWith_cons_cons]

/-- An update of a table with a name is written as its table, its assignments and its restriction.
Sent to ClickHouse, these are kept with other words around the table, exactly if nothing in the
table or the first column is taken for the opening of the assignments; and a second rewording
changes nothing. -/
theorem forDispatch_eq_worded_iff (htable : r.table ≠ "")
    (h : (SqlStyle.binding .clickhouse).update r = .ok q) :
    ∃ clause, (whereClause (.binding .clickhouse) r.filters r.connective).run []
        = .ok (clause, []) ∧
      q.sql = r.worded "UPDATE " " SET " clause ∧
      (forDispatch .clickhouse q.sql = r.worded "ALTER TABLE " " UPDATE " clause ↔
        r.ShowsTable) ∧
      forDispatch .clickhouse (forDispatch .clickhouse q.sql) = forDispatch .clickhouse q.sql := by
  obtain ⟨hne, clause, hclause, hsql⟩ := exists_clause h
  refine ⟨clause, hclause, hsql, ?_, ?_⟩
  · rw [hsql, forDispatch, toList_worded, ← String.toList_inj, String.toList_ofList, toList_worded,
      altered_update_eq_iff (isQuoted_tableText htable), head?_assignmentsText hne,
      hasOpener_tableText_iff, not_or]
    constructor
    · rintro ⟨⟨hschema, htable⟩, hcolumn⟩
      exact ⟨fun name hname hopener => hschema ⟨name, hname, hopener⟩, htable, hcolumn⟩
    · rintro ⟨hschema, htable, hcolumn⟩
      refine ⟨⟨?_, htable⟩, hcolumn⟩
      rintro ⟨name, hname, hopener⟩
      exact hschema name hname hopener
  · rw [forDispatch, forDispatch, String.toList_ofList, altered_altered]

/-- The words of an update in a column and a value, and one of them in a name of the table. -/
def updateWithWords : UpdateRequest where
  schema := some "my set"
  table := "events"
  assignments := [⟨"a SET b", .text " set "⟩]
  filters := [⟨"id", .eq, [.int 5]⟩]

theorem forDispatch_updateWithWords :
    updateWithWords.table ≠ "" ∧
    (SqlStyle.binding .clickhouse).update updateWithWords
      = .ok ⟨"UPDATE `my set`.`events` SET `a SET b` = ' set ' WHERE `id` = 5", []⟩ ∧
    updateWithWords.ShowsTable := by
  have htable : updateWithWords.table ≠ "" := by decide
  have hupdate : (SqlStyle.binding .clickhouse).update updateWithWords
      = .ok ⟨"UPDATE `my set`.`events` SET `a SET b` = ' set ' WHERE `id` = 5", []⟩ := rfl
  obtain ⟨clause, hclause, -, hiff, -⟩ := forDispatch_eq_worded_iff htable hupdate
  refine ⟨htable, hupdate, hiff.mp ?_⟩
  have hwhere : (whereClause (.binding .clickhouse) updateWithWords.filters
      updateWithWords.connective).run [] = .ok (some "WHERE `id` = 5", []) := rfl
  rw [hwhere] at hclause
  cases hclause
  decide +kernel

/-- The word SET between blanks in the name of the table. -/
def updateOfCutTable : UpdateRequest where
  table := "a SET b"
  assignments := [⟨"n", .int 1⟩]

/-- The name is cut at the word, and is not the same in the statement that is sent. -/
theorem forDispatch_updateOfCutTable :
    updateOfCutTable.table ≠ "" ∧
    (SqlStyle.binding .clickhouse).update updateOfCutTable
      = .ok ⟨updateOfCutTable.worded "UPDATE " " SET " none, []⟩ ∧
    updateOfCutTable.worded "ALTER TABLE " " UPDATE " none
      = "ALTER TABLE `a SET b` UPDATE `n` = 1" ∧
    forDispatch .clickhouse (updateOfCutTable.worded "UPDATE " " SET " none)
      = "ALTER TABLE `a UPDATE b` SET `n` = 1" := by
  refine ⟨?_, ?_, ?_, ?_⟩
  · decide
  · rfl
  · decide +kernel
  · decide +kernel

end UpdateRequest

end SqlWorkbench
