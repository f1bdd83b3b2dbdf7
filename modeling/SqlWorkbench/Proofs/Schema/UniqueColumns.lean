import Mathlib.Tactic.Common
import SqlWorkbench.Codegen.Ddl
import SqlWorkbench.Schema.Constraint

/-!
# Unique columns

A key of several columns is listed column by column, and the flags of a column are set from each
row by itself. Main statement: the flags say which columns are unique by themselves exactly if each
column that a key covers is the only column of one, and then the flag leads no generator astray.
-/

namespace SqlWorkbench

namespace Constraint

variable {rows : List Constraint} {kinds : List ConstraintKind} {schema table column : String}

/-! ### Keys and their columns -/

/-- The rows list columns of one constraint. -/
def IsSame (r other : Constraint) : Prop :=
  other.schema = r.schema ∧ other.table = r.table ∧ other.name = r.name ∧ other.kind = r.kind

instance (r other : Constraint) : Decidable (r.IsSame other) :=
  inferInstanceAs (Decidable (_ ∧ _ ∧ _ ∧ _))

/-- A constraint of one of the kinds covers the column. -/
def Covers (rows : List Constraint) (kinds : List ConstraintKind) (schema table column : String) :
    Prop :=
  ∃ r ∈ rows, r.kind ∈ kinds ∧ r.owns schema table column = true

instance : Decidable (Covers rows kinds schema table column) :=
  inferInstanceAs (Decidable (∃ r ∈ rows, _ ∧ _))

/-- A constraint of one of the kinds covers the column and no other. -/
def CoversAlone (rows : List Constraint) (kinds : List ConstraintKind)
    (schema table column : String) : Prop :=
  ∃ r ∈ rows, r.kind ∈ kinds ∧ r.owns schema table column = true ∧
    ∀ other ∈ rows, r.IsSame other → ∀ c ∈ other.column, c = column

instance : Decidable (CoversAlone rows kinds schema table column) :=
  inferInstanceAs (Decidable (∃ r ∈ rows, _ ∧ _ ∧ ∀ other ∈ rows, _ → ∀ c ∈ other.column, _))

/-- The kinds of constraints that are keys. -/
def keyKinds : List ConstraintKind :=
  [.primaryKey, .unique]

lemma CoversAlone.covers (h : CoversAlone rows kinds schema table column) :
    Covers rows kinds schema table column := by
  obtain ⟨r, hr, hkind, howns, -⟩ := h
  exact ⟨r, hr, hkind, howns⟩

lemma isUniqueColumn_iff :
    isUniqueColumn rows schema table column = true ↔ Covers rows keyKinds schema table column := by
  simp [isUniqueColumn, isKey, Covers, keyKinds]

/-! ### What one row does to a column -/

/-- The edge that leaves the column by the row. -/
def outgoing? (r : Constraint) (schema table column : String) : Option ForeignKey :=
  if r.kind = .foreignKey ∧ r.owns schema table column = true then r.edge? schema else none

/-- The edge that arrives at the column by the row. -/
def incoming? (rows : List Constraint) (r : Constraint) (schema table column : String) :
    Option Reference :=
  if r.kind = .foreignKey ∧ r.targets schema table column = true then reference? rows r else none

lemma incoming?_eq_some_iff {r : Constraint} {ref : Reference} :
    incoming? rows r schema table column = some ref ↔
      r.kind = .foreignKey ∧ r.targets schema table column = true ∧
        ∃ source, r.column = some source ∧
          ref = ⟨r.schema, r.table, source, isUniqueColumn rows r.schema r.table source⟩ := by
  rw [incoming?]
  split
  · next h =>
    rw [reference?, Option.map_eq_some_iff]
    simp [h, eq_comm]
  · next h =>
    simp only [reduceCtorEq, false_iff]
    rintro ⟨hkind, htargets, -⟩
    exact h ⟨hkind, htargets⟩

end Constraint

namespace Column

variable {rows steps : List Constraint} {r : Constraint} {schema table : String} {c : Column}
  {ref : Reference}

/-- The references with one more, unless it is there. -/
def withReference (refs : List Reference) : Option Reference → List Reference
  | some ref => if refs.contains ref then refs else refs ++ [ref]
  | none => refs

@[simp] lemma withReference_none (refs : List Reference) : withReference refs none = refs := rfl

lemma mem_withReference {refs : List Reference} {added : Option Reference} :
    ref ∈ withReference refs added ↔ ref ∈ refs ∨ added = some ref := by
  cases added with
  | none => simp [withReference]
  | some other =>
    rw [withReference, Option.some.injEq]
    split
    · next hmem =>
      rw [List.contains_iff_mem] at hmem
      constructor
      · exact Or.inl
      · rintro (h | rfl)
        · exact h
        · exact hmem
    · simp [eq_comm]

/-- All that a row does to a column. -/
lemma constrainBy_eq (schema table : String) (rows : List Constraint) (c : Column)
    (r : Constraint) :
    c.constrainBy schema table rows r =
      { c with
        primaryKey := c.primaryKey || (r.kind == .primaryKey && r.owns schema table c.id)
        unique := c.unique || (r.kind == .unique && r.owns schema table c.id)
        foreign := (r.outgoing? schema table c.id).or c.foreign
        references := withReference c.references (r.incoming? rows schema table c.id) } := by
  have hadd : ∀ d : Column, ((Constraint.reference? rows r).map d.addReference).getD d
      = { d with references := withReference d.references (Constraint.reference? rows r) } := by
    intro d
    cases Constraint.reference? rows r with
    | none => rfl
    | some ref =>
      simp only [Option.map_some, Option.getD_some, addReference, withReference]
      split <;> rfl
  cases hkind : r.kind with
  | primaryKey =>
    by_cases howns : r.owns schema table c.id = true <;>
      simp [constrainBy, Constraint.outgoing?, Constraint.incoming?, hkind, howns]
  | unique =>
    by_cases howns : r.owns schema table c.id = true <;>
      simp [constrainBy, Constraint.outgoing?, Constraint.incoming?, hkind, howns]
  | foreignKey =>
    by_cases howns : r.owns schema table c.id = true <;>
      by_cases htargets : r.targets schema table c.id = true <;>
      simp [constrainBy, Constraint.outgoing?, Constraint.incoming?, hkind, howns, htargets, hadd,
        setForeign]

/-! ### What all rows do to a column -/

@[simp] lemma id_foldl_constrainBy :
    (steps.foldl (constrainBy schema table rows) c).id = c.id := by
  induction steps generalizing c with
  | nil => rfl
  | cons r steps ih => rw [List.foldl_cons, ih, constrainBy_eq]

lemma unique_foldl_constrainBy :
    (steps.foldl (constrainBy schema table rows) c).unique = true ↔
      c.unique = true ∨ Constraint.Covers steps [.unique] schema table c.id := by
  induction steps generalizing c with
  | nil => simp [Constraint.Covers]
  | cons r steps ih =>
    rw [List.foldl_cons, ih, constrainBy_eq]
    simp [Constraint.Covers, or_assoc]

lemma mem_references_foldl_constrainBy :
    ref ∈ (steps.foldl (constrainBy schema table rows) c).references ↔
      ref ∈ c.references ∨ ∃ r ∈ steps, r.incoming? rows schema table c.id = some ref := by
  induction steps generalizing c with
  | nil => simp
  | cons r steps ih =>
    rw [List.foldl_cons, ih, constrainBy_eq, mem_withReference]
    simp [or_assoc]

/-- A column is flagged exactly if a unique constraint covers it, with whatever others. -/
lemma unique_constrain (hflag : c.unique = false) :
    (c.constrain schema table rows).unique = true ↔
      Constraint.Covers rows [.unique] schema table c.id := by
  rw [constrain, unique_foldl_constrainBy, hflag]
  simp

end Column

/-! ### What the generators make of a flag -/

namespace Ddl

lemma unique_mem_keyClauses_iff {m : TableModel} {c : Column} :
    "UNIQUE" ∈ keyClauses m c ↔
      m.dialect ≠ .clickhouse ∧ c.primaryKey = false ∧ c.unique = true := by
  simp only [keyClauses]
  split_ifs <;> simp_all

end Ddl

lemma Index.exists_of_isStated {i : Index} {columns : List Column} (h : i.isStated columns = true) :
    ∃ only, i.columns = [only] ∧ i.isUnique = true ∧
      ∃ c ∈ columns, c.id = only ∧ c.unique = true := by
  unfold isStated at h
  split at h
  · next only honly =>
    simp only [Bool.and_eq_true, List.any_eq_true, beq_iff_eq] at h
    exact ⟨only, honly, h.1, h.2⟩
  · cases h

namespace Constraint

variable {rows : List Constraint} {columns : List Column} {schema table : String}

/-- The flags say which columns are unique by themselves: on the columns of the table, and on the
references that they receive. -/
structure FlagsExact (schema table : String) (columns : List Column) (rows : List Constraint) :
    Prop where
  unique : ∀ c ∈ Constraint.apply schema table columns rows,
    c.unique = true ↔ CoversAlone rows [.unique] schema table c.id
  reference : ∀ p ∈ columns.zip (Constraint.apply schema table columns rows),
    ∀ ref ∈ p.2.references, ref ∉ p.1.references →
      (ref.isUnique = true ↔ CoversAlone rows keyKinds ref.schema ref.table ref.column)

/-- Every column that a key covers is the only column of one: of the columns of the table, and of
the columns that their references come from. -/
structure KeysAlone (schema table : String) (columns : List Column) (rows : List Constraint) :
    Prop where
  unique : ∀ c ∈ columns, Covers rows [.unique] schema table c.id →
    CoversAlone rows [.unique] schema table c.id
  reference : ∀ c ∈ columns, ∀ r ∈ rows, r.kind = .foreignKey →
    r.targets schema table c.id = true → ∀ source ∈ r.column,
      ⟨r.schema, r.table, source, true⟩ ∉ c.references →
        Covers rows keyKinds r.schema r.table source →
          CoversAlone rows keyKinds r.schema r.table source

lemma zip_apply : columns.zip (Constraint.apply schema table columns rows)
    = columns.map fun c => (c, c.constrain schema table rows) := by
  rw [Constraint.apply, ← List.zip_map']
  simp

lemma flagsExact_iff_keysAlone (hflags : ∀ c ∈ columns, c.unique = false) :
    FlagsExact schema table columns rows ↔ KeysAlone schema table columns rows := by
  constructor
  · intro h
    refine ⟨fun c hc hcovers => ?_, fun c hc r hr hkind htargets source hsource hnew hcovers => ?_⟩
    · have hunique := (Column.unique_constrain (hflags c hc)).mpr hcovers
      have hexact := (h.unique _ (List.mem_map_of_mem hc)).mp hunique
      rwa [Column.constrain, Column.id_foldl_constrainBy] at hexact
    · have hflag := isUniqueColumn_iff.mpr hcovers
      have hmem : ⟨r.schema, r.table, source, true⟩
          ∈ (c.constrain schema table rows).references := by
        refine Column.mem_references_foldl_constrainBy.mpr (.inr ⟨r, hr, ?_⟩)
        exact incoming?_eq_some_iff.mpr ⟨hkind, htargets, source, hsource, by rw [hflag]⟩
      have hzip : (c, c.constrain schema table rows)
          ∈ columns.zip (Constraint.apply schema table columns rows) := by
        rw [zip_apply]
        exact List.mem_map_of_mem hc
      exact (h.reference _ hzip _ hmem hnew).mp rfl
  · intro h
    refine ⟨fun d hd => ?_, fun p hp ref href hnew => ?_⟩
    · obtain ⟨c, hc, rfl⟩ := List.mem_map.mp hd
      rw [Column.unique_constrain (hflags c hc), Column.constrain, Column.id_foldl_constrainBy]
      exact ⟨h.unique c hc, CoversAlone.covers⟩
    · rw [zip_apply] at hp
      obtain ⟨c, hc, rfl⟩ := List.mem_map.mp hp
      rcases Column.mem_references_foldl_constrainBy.mp href with hold | ⟨r, hr, hincoming⟩
      · exact absurd hold hnew
      · obtain ⟨hkind, htargets, source, hsource, rfl⟩ := incoming?_eq_some_iff.mp hincoming
        constructor
        · intro hflag
          simp only at hflag
          rw [hflag] at hnew
          exact h.reference c hc r hr hkind htargets source hsource hnew
            (isUniqueColumn_iff.mp hflag)
        · intro halone
          exact isUniqueColumn_iff.mpr halone.covers

/-- The generators take for unique by themselves only columns that are so. -/
structure TakenAlone (schema table : String) (rows : List Constraint) (m : TableModel) : Prop where
  clause : ∀ c ∈ m.columns, "UNIQUE" ∈ Ddl.keyClauses m c →
    CoversAlone rows [.unique] schema table c.id
  index : m.dialect ≠ .clickhouse → ∀ i ∈ Index.group m.indexColumns m.table,
    i.isPrimary = false → i ∉ m.explicitIndexes →
      ∃ only, i.columns = [only] ∧ CoversAlone rows [.unique] schema table only

lemma FlagsExact.takenAlone (h : FlagsExact schema table columns rows) {m : TableModel}
    (hm : m.columns = Constraint.apply schema table columns rows) :
    TakenAlone schema table rows m := by
  refine ⟨fun c hc hclause => ?_, fun hdialect i hi hprimary hexplicit => ?_⟩
  · rw [hm] at hc
    exact (h.unique c hc).mp (Ddl.unique_mem_keyClauses_iff.mp hclause).2.2
  · have hstated : i.isStated m.columns = true := by
      by_contra hstated
      refine hexplicit ?_
      rw [TableModel.explicitIndexes, Index.explicit, if_neg hdialect]
      exact List.mem_filter.mpr ⟨hi, by simp [hprimary, hstated]⟩
    obtain ⟨only, honly, -, c, hc, rfl, hunique⟩ := Index.exists_of_isStated hstated
    rw [hm] at hc
    exact ⟨c.id, honly, (h.unique c hc).mp hunique⟩

/-- The flags that the constraints set are exact if and only if every column that a key covers is
the only column of one, and then the generators take no other columns for unique. -/
theorem flagsExact_iff (schema table : String) (columns : List Column) (rows : List Constraint)
    (hflags : ∀ c ∈ columns, c.unique = false) :
    (FlagsExact schema table columns rows ↔ KeysAlone schema table columns rows) ∧
      (KeysAlone schema table columns rows → ∀ m : TableModel,
        m.columns = Constraint.apply schema table columns rows →
          TakenAlone schema table rows m) := by
  have hiff : FlagsExact schema table columns rows ↔ KeysAlone schema table columns rows :=
    flagsExact_iff_keysAlone hflags
  exact ⟨hiff, fun halone m hm => (hiff.mpr halone).takenAlone hm⟩

/-- A constraint on a column of a table. -/
def onColumn (kind : ConstraintKind) (table name column : String) : Constraint :=
  { schema := "public", table, name, kind, column := some column }

/-- A primary key of two columns, one of which is unique by itself, and a foreign key at the other
end of which stands a unique column. -/
def seatRows : List Constraint :=
  [onColumn .primaryKey "seats" "seats_pkey" "hall",
    onColumn .primaryKey "seats" "seats_pkey" "code",
    onColumn .unique "seats" "seats_code_key" "code",
    onColumn .unique "tickets" "tickets_seat_key" "seat",
    { onColumn .foreignKey "tickets" "tickets_seat_fkey" "seat" with
      usageSchema := some "public", usageTable := some "seats", usageColumn := some "code" }]

theorem flagsExact_seats :
    FlagsExact "public" "seats" [.ofType "hall" "int", .ofType "code" "text"] seatRows ∧
      (Constraint.apply "public" "seats" [.ofType "hall" "int", .ofType "code" "text"]
        seatRows).map (fun c => (c.unique, c.references))
          = [(false, []), (true, [⟨"public", "tickets", "seat", true⟩])] := by
  have hflags : ∀ c ∈ [Column.ofType "hall" "int", .ofType "code" "text"], c.unique = false := by
    decide
  have halone : KeysAlone "public" "seats" [.ofType "hall" "int", .ofType "code" "text"] seatRows :=
    ⟨by decide, by decide⟩
  exact ⟨(flagsExact_iff "public" "seats" _ seatRows hflags).1.mpr halone, by decide⟩

/-- A key of two columns, listed column by column. -/
def placeRows : List Constraint :=
  [onColumn .unique "places" "places_key" "row", onColumn .unique "places" "places_key" "number"]

/-- Both columns of a key are flagged, and each is declared unique. -/
theorem not_flagsExact_places :
    (Constraint.apply "public" "places" [.ofType "row" "int", .ofType "number" "int"]
        placeRows).map (fun c => (c.unique, Ddl.keyClauses {} c))
          = [(true, ["UNIQUE"]), (true, ["UNIQUE"])] ∧
      ¬ CoversAlone placeRows [.unique] "public" "places" "row" ∧
      ¬ CoversAlone placeRows [.unique] "public" "places" "number" ∧
      ¬ FlagsExact "public" "places" [.ofType "row" "int", .ofType "number" "int"] placeRows := by
  have hrow : ¬ CoversAlone placeRows [.unique] "public" "places" "row" := by decide
  refine ⟨by decide, hrow, by decide, fun h => hrow ?_⟩
  exact (h.unique _ List.mem_cons_self).mp (by decide)

end Constraint

end SqlWorkbench
