import SqlWorkbench.Proofs.Schema.LinkedKeys

/-!
# What constraints change in a column

Constraints raise flags, set the edge that leaves a column and add references to it; some of this
overwrites and some accumulates. Main statement: nothing else in a column changes, the last foreign
key on it decides its edge, no reference is there twice because it was added, and once folded in,
the constraints change nothing any more.
-/

namespace SqlWorkbench

/-! ### Rows that make an edge -/

namespace Constraint

variable {rows : List Constraint} {r : Constraint} {schema table column : String}

/-- A foreign key on the column that names a table and a column. -/
def Links (r : Constraint) (schema table column : String) : Prop :=
  r.kind = .foreignKey ∧ r.owns schema table column = true ∧ r.usageTable.isSome ∧
    r.usageColumn.isSome

lemma outgoing?_isSome_iff :
    (r.outgoing? schema table column).isSome = true ↔ r.Links schema table column := by
  rw [Option.isSome_iff_exists]
  simp only [outgoing?_eq_some_iff, Links, Option.isSome_iff_exists]
  constructor
  · rintro ⟨key, hkind, howns, t, u, ht, hu, -⟩
    exact ⟨hkind, howns, ⟨t, ht⟩, ⟨u, hu⟩⟩
  · rintro ⟨hkind, howns, ⟨t, ht⟩, ⟨u, hu⟩⟩
    exact ⟨_, hkind, howns, t, u, ht, hu, rfl⟩

lemma lastEdge?_eq_none_iff : lastEdge? rows schema table column = none ↔
    ∀ r ∈ rows, ¬ r.Links schema table column := by
  simp only [lastEdge?, List.find?_eq_none, List.mem_reverse, outgoing?_isSome_iff]

lemma lastEdge?_eq_some_iff : lastEdge? rows schema table column = some r ↔
    r.Links schema table column ∧ ∃ front back, rows = front ++ r :: back ∧
      ∀ other ∈ back, ¬ other.Links schema table column := by
  rw [lastEdge?, List.find?_eq_some_iff_append, outgoing?_isSome_iff]
  refine and_congr_right fun _ => ?_
  constructor
  · rintro ⟨back, front, hrows, hback⟩
    refine ⟨front.reverse, back.reverse, ?_, fun other hother hlinks => ?_⟩
    · rw [← List.reverse_reverse rows, hrows]
      simp
    · have := hback other (List.mem_reverse.mp hother)
      rw [outgoing?_isSome_iff.mpr hlinks] at this
      cases this
  · rintro ⟨front, back, rfl, hback⟩
    refine ⟨back.reverse, front.reverse, by simp, fun other hother => ?_⟩
    have := hback other (List.mem_reverse.mp hother)
    rw [← outgoing?_isSome_iff] at this
    simpa using this

end Constraint

/-! ### Columns -/

namespace Column

open Constraint

variable {rows steps : List Constraint} {schema table : String} {c d e : Column}

/-- What the constraints make of the first column is the second: only the flags, the edge and the
references are touched. -/
structure Folded (rows : List Constraint) (schema table : String) (c d : Column) : Prop where
  kept : d = { c with
    primaryKey := d.primaryKey, unique := d.unique, foreign := d.foreign,
    references := d.references }
  primaryKey : d.primaryKey = true ↔
    c.primaryKey = true ∨ Covers rows [.primaryKey] schema table c.id
  unique : d.unique = true ↔ c.unique = true ∨ Covers rows [.unique] schema table c.id
  /-- The edge is that of the last foreign key on the column that names a table and a column. -/
  foreign : ∀ front r back, rows = front ++ r :: back → r.Links schema table c.id →
    (∀ other ∈ back, ¬ other.Links schema table c.id) →
      ∃ t u, r.usageTable = some t ∧ r.usageColumn = some u ∧ d.foreign
        = some ⟨r.usageSchema.getD schema, t, u, r.onDelete, r.onUpdate, some r.name⟩
  /-- If there is none, the edge stays. -/
  foreign_eq : (∀ r ∈ rows, ¬ r.Links schema table c.id) → d.foreign = c.foreign
  /-- Behind the references that were there stand, once each, those that were not. -/
  references : ∃ added, d.references = c.references ++ added ∧ added.Nodup ∧
    ∀ ref, ref ∈ added ↔
      ref ∉ c.references ∧ ∃ r ∈ rows, r.incoming? rows schema table c.id = some ref

lemma kept_foldl_constrainBy :
    steps.foldl (constrainBy schema table rows) c = { c with
      primaryKey := (steps.foldl (constrainBy schema table rows) c).primaryKey
      unique := (steps.foldl (constrainBy schema table rows) c).unique
      foreign := (steps.foldl (constrainBy schema table rows) c).foreign
      references := (steps.foldl (constrainBy schema table rows) c).references } := by
  induction steps generalizing c with
  | nil => rfl
  | cons r steps ih =>
    rw [List.foldl_cons, ih, constrainBy_eq]

lemma primaryKey_foldl_constrainBy :
    (steps.foldl (constrainBy schema table rows) c).primaryKey = true ↔
      c.primaryKey = true ∨ Covers steps [.primaryKey] schema table c.id := by
  induction steps generalizing c with
  | nil => simp [Covers]
  | cons r steps ih =>
    rw [List.foldl_cons, ih, constrainBy_eq]
    simp [Covers, or_assoc]

/-- One more reference stands behind the others if it is new. -/
lemma exists_withReference (refs : List Reference) (added : Option Reference) :
    ∃ new, withReference refs added = refs ++ new ∧ new.Nodup ∧
      ∀ ref, ref ∈ new ↔ ref ∉ refs ∧ added = some ref := by
  cases added with
  | none => exact ⟨[], by simp, List.nodup_nil, by simp⟩
  | some ref =>
    by_cases href : ref ∈ refs
    · refine ⟨[], by simp [withReference, href], List.nodup_nil, fun other => ?_⟩
      simp only [List.not_mem_nil, Option.some.injEq, false_iff]
      rintro ⟨hnot, rfl⟩
      exact hnot href
    · refine ⟨[ref], by simp [withReference, href], List.nodup_singleton ref, fun other => ?_⟩
      simp only [List.mem_singleton, Option.some.injEq]
      constructor
      · rintro rfl
        exact ⟨href, rfl⟩
      · exact fun h => h.2.symm

lemma exists_references_foldl_constrainBy :
    ∃ added, (steps.foldl (constrainBy schema table rows) c).references = c.references ++ added ∧
      added.Nodup ∧ ∀ ref, ref ∈ added ↔
        ref ∉ c.references ∧ ∃ r ∈ steps, r.incoming? rows schema table c.id = some ref := by
  induction steps generalizing c with
  | nil => exact ⟨[], by simp, List.nodup_nil, by simp⟩
  | cons r steps ih =>
    obtain ⟨new, hnew, hnodup, hmem⟩ :=
      exists_withReference c.references (r.incoming? rows schema table c.id)
    obtain ⟨added, hadded, hnodup', hmem'⟩ := ih (c := c.constrainBy schema table rows r)
    rw [constrainBy_eq] at hadded hmem'
    simp only [hnew, List.mem_append, not_or] at hadded hmem'
    refine ⟨new ++ added, ?_, ?_, fun ref => ?_⟩
    · rw [List.foldl_cons, constrainBy_eq, ← List.append_assoc, ← hadded, hnew]
    · refine List.nodup_append.mpr ⟨hnodup, hnodup', ?_⟩
      rintro ref href _ hother rfl
      exact ((hmem' ref).mp hother).1.2 href
    · rw [List.mem_append, hmem, hmem', List.exists_mem_cons_iff, hmem]
      tauto

lemma folded_constrain (rows : List Constraint) (schema table : String) (c : Column) :
    Folded rows schema table c (c.constrain schema table rows) := by
  refine ⟨kept_foldl_constrainBy, primaryKey_foldl_constrainBy, unique_foldl_constrainBy, ?_, ?_,
    exists_references_foldl_constrainBy⟩
  · intro front r back hrows hr hback
    obtain ⟨key, hkey⟩ := Option.isSome_iff_exists.mp (outgoing?_isSome_iff.mpr hr)
    obtain ⟨-, -, t, u, ht, hu, rfl⟩ := outgoing?_eq_some_iff.mp hkey
    refine ⟨t, u, ht, hu, ?_⟩
    rw [constrain, foreign_foldl_constrainBy,
      lastEdge?_eq_some_iff.mpr ⟨hr, front, back, hrows, hback⟩, Option.bind_some, hkey,
      Option.some_or]
  · intro hnone
    rw [constrain, foreign_foldl_constrainBy, lastEdge?_eq_none_iff.mpr hnone, Option.bind_none,
      Option.none_or]

lemma Folded.id_eq (h : Folded rows schema table c d) : d.id = c.id := by
  rw [h.kept]

/-- A column into which the constraints are folded has all that they would change. -/
lemma Folded.eq (h : Folded rows schema table c d) (h' : Folded rows schema table d e) : e = d := by
  have hid := h.id_eq
  have hprimary : e.primaryKey = d.primaryKey := by
    rw [Bool.eq_iff_iff, h'.primaryKey, hid, h.primaryKey]
    tauto
  have hunique : e.unique = d.unique := by
    rw [Bool.eq_iff_iff, h'.unique, hid, h.unique]
    tauto
  have hforeign : e.foreign = d.foreign := by
    cases hlast : lastEdge? rows schema table c.id with
    | none => exact h'.foreign_eq (by rwa [hid, ← lastEdge?_eq_none_iff])
    | some r =>
      obtain ⟨hr, front, back, hrows, hback⟩ := lastEdge?_eq_some_iff.mp hlast
      obtain ⟨t, u, ht, hu, hkey⟩ := h.foreign front r back hrows hr hback
      rw [← hid] at hr hback
      obtain ⟨t', u', ht', hu', hkey'⟩ := h'.foreign front r back hrows hr hback
      rw [hkey, hkey', Option.some.inj (ht.symm.trans ht'), Option.some.inj (hu.symm.trans hu')]
  have hreferences : e.references = d.references := by
    obtain ⟨added, hadded, -, hmem⟩ := h.references
    obtain ⟨added', hadded', -, hmem'⟩ := h'.references
    have hnil : added' = [] := by
      refine List.eq_nil_iff_forall_not_mem.mpr fun ref href => ?_
      obtain ⟨hnew, hrow⟩ := (hmem' ref).mp href
      rw [hid] at hrow
      rw [hadded, List.mem_append, not_or] at hnew
      exact hnew.2 ((hmem ref).mpr ⟨hnew.1, hrow⟩)
    rw [hadded', hnil, List.append_nil]
  rw [h'.kept, hprimary, hunique, hforeign, hreferences]

end Column

/-- Constraints change only what they are folded into, column by column, and folded in again they
change nothing. -/
theorem Constraint.apply_apply_and_folded (schema table : String) (columns : List Column)
    (rows : List Constraint) :
    Constraint.apply schema table (Constraint.apply schema table columns rows) rows
        = Constraint.apply schema table columns rows ∧
      List.Forall₂ (Column.Folded rows schema table) columns
        (Constraint.apply schema table columns rows) := by
  constructor
  · rw [Constraint.apply, Constraint.apply, List.map_map]
    refine List.map_congr_left fun c _ => ?_
    exact (Column.folded_constrain rows schema table c).eq (Column.folded_constrain _ _ _ _)
  · rw [Constraint.apply, List.forall₂_map_right_iff, List.forall₂_same]
    exact fun c _ => Column.folded_constrain rows schema table c

/-! ### A table that points at itself -/

namespace Constraint

/-- A primary key, and a foreign key of the table to itself. -/
def managerRows : List Constraint :=
  [onColumn .primaryKey "employees" "employees_pkey" "id",
    { onColumn .foreignKey "employees" "employees_manager_fkey" "manager" with
      usageSchema := some "public", usageTable := some "employees", usageColumn := some "id"
      onDelete := some "CASCADE" }]

/-- The columns of the table before the constraints are folded in. -/
def bareColumns : List Column :=
  [{ id := "id" }, { id := "manager" }, { id := "name" }]

/-- The columns of the table with the constraints folded in. -/
def managedColumns : List Column :=
  [{ id := "id", primaryKey := true, references := [⟨"public", "employees", "manager", false⟩] },
    { id := "manager", foreign := some
        ⟨"public", "employees", "id", some "CASCADE", none, some "employees_manager_fkey"⟩ },
    { id := "name" }]

/-- The foreign key sets the edge of one column and adds a reference to the other, once. -/
theorem apply_managerRows :
    Constraint.apply "public" "employees" bareColumns managerRows = managedColumns ∧
      Constraint.apply "public" "employees" managedColumns managerRows = managedColumns ∧
      List.Forall₂ (Column.Folded managerRows "public" "employees") bareColumns managedColumns := by
  have happly : Constraint.apply "public" "employees" bareColumns managerRows = managedColumns := by
    decide
  obtain ⟨hagain, hfolded⟩ := apply_apply_and_folded "public" "employees" bareColumns managerRows
  rw [happly] at hagain hfolded
  exact ⟨happly, hagain, hfolded⟩

end Constraint

end SqlWorkbench
