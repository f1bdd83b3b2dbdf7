import Mathlib.Algebra.Ring.Nat
import Mathlib.Data.List.Nodup
import Mathlib.Tactic.Common
import SqlWorkbench.Proofs.Schema.Gathering
import SqlWorkbench.Schema.Index

/-!
# Indexes from listed columns

The columns of the indexes of a table are listed row by row, in any mixture of indexes and tables.
Main statement: the rows of the table are parted by name. Each name has one index, in order of first
appearance, with all that the first row of the name says of it and the columns of exactly the rows
of the name; no row is lost, no row of another table counts, and grouping the rows of the result
gives the result.
-/

namespace SqlWorkbench.Index

variable {rows : List IndexColumn} {indexes before : List Index} {table : String}

/-- A listed column joins the others of its index. -/
def addColumn (i : Index) (c : IndexColumn) : Index :=
  { i with columns := i.columns ++ [c.column] }

/-- An index as the catalog lists it, one row for each column. -/
def listing (i : Index) : List IndexColumn :=
  i.columns.map fun column =>
    { schema := i.schema, table := i.table, name := i.name, column, isUnique := i.isUnique,
      isPrimary := i.isPrimary }

/-! ### Entering a row -/

lemma gathers_enter : Gathers IndexColumn.name name ofColumn addColumn enter where
  enter_nil _ := rfl
  enter_cons_of_eq _ _ _ h := if_pos h
  enter_cons_of_ne _ _ _ h := if_neg h
  key_first _ := rfl
  key_add _ _ := rfl

lemma foldl_addColumn (i : Index) (rows : List IndexColumn) :
    rows.foldl addColumn i = { i with columns := i.columns ++ rows.map IndexColumn.column } := by
  induction rows generalizing i with
  | nil => simp
  | cons c rows ih => simp [ih, addColumn]

lemma sum_length_enter (indexes : List Index) (c : IndexColumn) :
    ((enter indexes c).map fun i => i.columns.length).sum
      = (indexes.map fun i => i.columns.length).sum + 1 := by
  induction indexes with
  | nil => rfl
  | cons i indexes ih =>
    rw [enter]
    split
    · simp only [List.map_cons, List.sum_cons, List.length_append, List.length_singleton]
      omega
    · rw [List.map_cons, List.sum_cons, ih, List.map_cons, List.sum_cons]
      omega

/-! ### Entering all rows -/

/-- The rows are parted by name: each name has one index, in order of first appearance, that says
of schema, table, uniqueness and primary key what the first of its rows says and has the columns of
all of them. -/
structure Parts (rows : List IndexColumn) (indexes : List Index) : Prop where
  names : indexes.map name = (rows.map IndexColumn.name).eraseDups
  index : ∀ i ∈ indexes, ∃ r, rows.find? (fun c => c.name = i.name) = some r ∧
    i = { schema := r.schema, table := r.table, name := r.name
          columns := (rows.filter fun c => c.name = i.name).map IndexColumn.column
          isUnique := r.isUnique, isPrimary := r.isPrimary }

lemma parts_foldl_enter (rows : List IndexColumn) : Parts rows (rows.foldl enter []) := by
  have hgathered := Gathered.of_rows gathers_enter rows
  refine ⟨hgathered.keys, fun i hi => ?_⟩
  obtain ⟨r, rest, hrows, hmade⟩ := hgathered.group i hi
  refine ⟨r, by rw [← List.head?_filter, hrows, List.head?_cons], ?_⟩
  rw [hrows, hmade, foldl_addColumn, List.map_cons]
  rfl

lemma sum_length_foldl_enter (rows : List IndexColumn) (indexes : List Index) :
    ((rows.foldl enter indexes).map fun i => i.columns.length).sum
      = (indexes.map fun i => i.columns.length).sum + rows.length := by
  induction rows generalizing indexes with
  | nil => rfl
  | cons c rows ih =>
    rw [List.foldl_cons, ih, sum_length_enter, List.length_cons]
    omega

lemma Parts.columns_ne_nil (h : Parts rows indexes) {i : Index} (hi : i ∈ indexes) :
    i.columns ≠ [] := by
  obtain ⟨r, hfind, hmade⟩ := h.index i hi
  have hname : decide (r.name = i.name) = true := by simpa using List.find?_some hfind
  have hr : r ∈ rows.filter fun c => c.name = i.name :=
    List.mem_filter.mpr ⟨List.mem_of_find?_eq_some hfind, hname⟩
  rw [hmade]
  exact List.ne_nil_of_mem (List.mem_map_of_mem hr)

lemma Parts.table_eq (h : Parts rows indexes) (hrows : ∀ r ∈ rows, r.table = table) {i : Index}
    (hi : i ∈ indexes) : i.table = table := by
  obtain ⟨r, hfind, hmade⟩ := h.index i hi
  rw [hmade]
  exact hrows r (List.mem_of_find?_eq_some hfind)

/-! ### The rows of the result -/

lemma foldl_enter_listing {i : Index} (hi : i.name ∉ before.map name) (hcolumns : i.columns ≠ []) :
    i.listing.foldl enter before = before ++ [i] := by
  obtain ⟨column, columns, heq⟩ := List.exists_cons_of_ne_nil hcolumns
  rw [listing, heq, List.map_cons, gathers_enter.foldl_cons_of_not_mem hi, foldl_addColumn]
  · simp [ofColumn, ← heq, Function.comp_def]
  · simp

/-- Indexes with different names are gathered again from their rows. -/
lemma foldl_enter_flatMap_listing (hnames : ((before ++ indexes).map name).Nodup)
    (hcolumns : ∀ i ∈ indexes, i.columns ≠ []) :
    (indexes.flatMap listing).foldl enter before = before ++ indexes := by
  induction indexes generalizing before with
  | nil => simp
  | cons i indexes ih =>
    obtain ⟨hi, hrest⟩ := List.forall_mem_cons.mp hcolumns
    have hnew : i.name ∉ before.map name := by
      rw [List.map_append, List.map_cons, List.nodup_middle, List.nodup_cons, List.mem_append,
        not_or] at hnames
      exact hnames.1.1
    rw [← List.singleton_append, ← List.append_assoc] at hnames
    rw [List.flatMap_cons, List.foldl_append, foldl_enter_listing hnew hi, ih hnames hrest,
      List.append_assoc, List.singleton_append]

/-- The listed columns of a table are parted by name into its indexes. Their numbers of columns add
up to the number of the rows, only the rows of the table count, and from the rows of the result the
result is gathered again. -/
theorem parts_group (listed : List IndexColumn) (table : String) :
    Parts (listed.filter fun c => c.table = table) (group listed table) ∧
      ((group listed table).map fun i => i.columns.length).sum
        = (listed.filter fun c => c.table = table).length ∧
      group (listed.filter fun c => c.table = table) table = group listed table ∧
      group ((group listed table).flatMap listing) table = group listed table := by
  have hgroup (listed : List IndexColumn) :
      group listed table = (listed.filter fun c => c.table = table).foldl enter [] := rfl
  have hparts := parts_foldl_enter (listed.filter fun c => c.table = table)
  have htable : ∀ c ∈ listed.filter fun c => c.table = table, c.table = table := by simp
  refine ⟨hparts, ?_, ?_, ?_⟩
  · rw [hgroup, sum_length_foldl_enter]
    simp
  · rw [hgroup, hgroup, List.filter_filter]
    simp
  · have hown : ∀ c ∈ (group listed table).flatMap listing, c.table = table := by
      intro c hc
      obtain ⟨i, hi, hc⟩ := List.mem_flatMap.mp hc
      obtain ⟨column, -, rfl⟩ := List.mem_map.mp hc
      exact hparts.table_eq htable hi
    have hnames : (([] ++ group listed table).map name).Nodup := by
      rw [List.nil_append, hgroup, hparts.names]
      exact nodup_eraseDups _
    rw [hgroup (List.flatMap _ _), List.filter_eq_self.mpr (by simpa using hown)]
    exact foldl_enter_flatMap_listing hnames fun i hi => hparts.columns_ne_nil hi

/-- Columns of three indexes, one of them a primary key and one unique by its first row, with a row
of another table between them that has the name of an index. -/
def interleaved : List IndexColumn :=
  [{ schema := "hr", table := "staff", name := "staff_pkey", column := "firm", isUnique := true,
     isPrimary := true },
   { schema := "hr", table := "staff", name := "staff_badge", column := "badge", isUnique := true },
   { schema := "pay", table := "wages", name := "staff_badge", column := "amount" },
   { schema := "hr", table := "staff", name := "staff_pkey", column := "number", isUnique := true,
     isPrimary := true },
   { schema := "hr", table := "staff", name := "staff_name", column := "name" },
   { schema := "hr", table := "staff", name := "staff_badge", column := "firm" }]

/-- The indexes of the one table, in order of their first columns. -/
def gathered : List Index :=
  [{ schema := "hr", table := "staff", name := "staff_pkey", columns := ["firm", "number"],
     isUnique := true, isPrimary := true },
   { schema := "hr", table := "staff", name := "staff_badge", columns := ["badge", "firm"],
     isUnique := true, isPrimary := false },
   { schema := "hr", table := "staff", name := "staff_name", columns := ["name"],
     isUnique := false, isPrimary := false }]

theorem group_interleaved : group interleaved "staff" = gathered ∧
    Parts (interleaved.filter fun c => c.table = "staff") gathered ∧
      group (gathered.flatMap listing) "staff" = gathered := by
  have hgroup : group interleaved "staff" = gathered := by decide
  obtain ⟨hparts, -, -, hagain⟩ := parts_group interleaved "staff"
  rw [hgroup] at hparts hagain
  exact ⟨hgroup, hparts, hagain⟩

end SqlWorkbench.Index
