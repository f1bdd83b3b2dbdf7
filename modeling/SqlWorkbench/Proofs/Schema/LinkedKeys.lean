import Mathlib.Data.List.Nodup
import Mathlib.Tactic.Common
import SqlWorkbench.Proofs.Schema.UniqueColumns

/-!
# Foreign keys at both ends

A foreign key leaves a column as an edge and arrives at another as a reference. A row that does not
name the schema it points to leaves an edge to a table of its own schema, but a reference needs the
schema in the row. Main statement: every edge arrives exactly if, where the last row of a column
does not name the schema, another row of the column does; no reference arrives twice, and each comes
from a row that names both of its ends.
-/

namespace SqlWorkbench

/-- The column that the foreign key points to. -/
def ForeignKey.target (key : ForeignKey) : String × String × String :=
  (key.schema, key.table, key.column)

/-- The column that the reference comes from. -/
def Reference.source (ref : Reference) : String × String × String :=
  (ref.schema, ref.table, ref.column)

namespace Constraint

variable {rows : List Constraint} {r other : Constraint} {schema table column : String}
  {key : ForeignKey}

/-! ### Edges of a row -/

lemma owns_iff : r.owns schema table column = true ↔
    r.schema = schema ∧ r.table = table ∧ r.column = some column := by
  simp [owns, and_assoc]

lemma targets_iff : r.targets schema table column = true ↔
    r.usageSchema = some schema ∧ r.usageTable = some table ∧ r.usageColumn = some column := by
  simp [targets, and_assoc]

/-- An edge leaves the column of a foreign key that names a table and a column, in its own schema if
it names none. -/
lemma outgoing?_eq_some_iff : r.outgoing? schema table column = some key ↔
    r.kind = .foreignKey ∧ r.owns schema table column = true ∧
      ∃ t u, r.usageTable = some t ∧ r.usageColumn = some u ∧
        key = ⟨r.usageSchema.getD schema, t, u, r.onDelete, r.onUpdate, some r.name⟩ := by
  rw [outgoing?]
  split
  · next h =>
    rw [edge?]
    cases r.usageTable <;> cases r.usageColumn <;> simp [h, eq_comm]
  · next h =>
    simp only [reduceCtorEq, false_iff]
    rintro ⟨hkind, howns, -⟩
    exact h ⟨hkind, howns⟩

/-- The last row by which an edge leaves the column. -/
def lastEdge? (rows : List Constraint) (schema table column : String) : Option Constraint :=
  rows.reverse.find? fun r => (r.outgoing? schema table column).isSome

lemma lastEdge?_cons : lastEdge? (r :: rows) schema table column =
    (lastEdge? rows schema table column).or
      (if (r.outgoing? schema table column).isSome then some r else none) := by
  rw [lastEdge?, List.reverse_cons, List.find?_append, ← lastEdge?, List.find?_singleton]

lemma of_lastEdge?_eq_some (h : lastEdge? rows schema table column = some r) :
    r ∈ rows ∧ ∃ key, r.outgoing? schema table column = some key := by
  rw [lastEdge?] at h
  have hedge := List.find?_some h
  exact ⟨List.mem_reverse.mp (List.mem_of_find?_eq_some h), Option.isSome_iff_exists.mp hedge⟩

/-- A foreign key leaves the column of `owner` and names, with its schema, what `owner` points to in
its own schema. -/
def Completes (owner other : Constraint) : Prop :=
  other.kind = .foreignKey ∧
    (other.schema, other.table, other.column) = (owner.schema, owner.table, owner.column) ∧
    (other.usageSchema, other.usageTable, other.usageColumn)
      = (some owner.schema, owner.usageTable, owner.usageColumn)

instance (owner other : Constraint) : Decidable (Completes owner other) :=
  inferInstanceAs (Decidable (_ ∧ _ ∧ _))

/-- Where the last row of a column does not name the schema, another row does. -/
def NamesSchemas (rows : List Constraint) : Prop :=
  ∀ r ∈ rows, r.usageSchema = none →
    (∃ column ∈ r.column, lastEdge? rows r.schema r.table column = some r) →
      ∃ other ∈ rows, r.Completes other

end Constraint

namespace Column

open Constraint

variable {rows steps : List Constraint} {r : Constraint} {schema table : String} {c : Column}

/-! ### Edges of a column -/

/-- The edge that stays is that of the last row that has one. -/
lemma foreign_foldl_constrainBy : (steps.foldl (constrainBy schema table rows) c).foreign =
    ((lastEdge? steps schema table c.id).bind (·.outgoing? schema table c.id)).or c.foreign := by
  induction steps generalizing c with
  | nil => rfl
  | cons r steps ih =>
    rw [List.foldl_cons, ih, constrainBy_eq, lastEdge?_cons]
    cases hlast : lastEdge? steps schema table c.id with
    | some last =>
      obtain ⟨-, key, hkey⟩ := of_lastEdge?_eq_some hlast
      simp [hkey]
    | none => cases hkey : r.outgoing? schema table c.id <;> simp [hkey]

lemma foreign_constrain (hedge : c.foreign = none) : (c.constrain schema table rows).foreign =
    (lastEdge? rows schema table c.id).bind (·.outgoing? schema table c.id) := by
  rw [constrain, foreign_foldl_constrainBy, hedge, Option.or_none]

lemma nodup_withReference {refs : List Reference} {added : Option Reference} (h : refs.Nodup) :
    (withReference refs added).Nodup := by
  cases added with
  | none => exact h
  | some ref =>
    rw [withReference]
    split
    · exact h
    · next hnot =>
      rw [List.contains_iff_mem] at hnot
      exact List.nodup_append.mpr ⟨h, by simp, fun a ha b hb hab => hnot (by simp_all)⟩

/-- No reference is there twice. -/
lemma nodup_references_foldl_constrainBy (h : c.references.Nodup) :
    (steps.foldl (constrainBy schema table rows) c).references.Nodup := by
  induction steps generalizing c with
  | nil => exact h
  | cons r steps ih =>
    rw [List.foldl_cons]
    apply ih
    rw [constrainBy_eq]
    exact nodup_withReference h

lemma mem_references_constrain {ref : Reference} (hrefs : c.references = []) :
    ref ∈ (c.constrain schema table rows).references ↔
      ∃ r ∈ rows, r.incoming? rows schema table c.id = some ref := by
  rw [constrain, mem_references_foldl_constrainBy, hrefs]
  simp

end Column

namespace Constraint

variable {rows : List Constraint} {cs ds : List Column}

/-! ### Edges of a table -/

/-- No edge leaves the columns or arrives at them. -/
def Edgeless (columns : List Column) : Prop :=
  ∀ c ∈ columns, c.foreign = none ∧ c.references = []

/-- Every edge from a column of the first table to a column of the second arrives there. -/
def Arrive (rows : List Constraint) (schema table : String) (cs : List Column)
    (schema' table' : String) (ds : List Column) : Prop :=
  ∀ c ∈ Constraint.apply schema table cs rows, ∀ d ∈ Constraint.apply schema' table' ds rows,
    ∀ key ∈ c.foreign, key.target = (schema', table', d.id) →
      ∃ ref ∈ d.references, ref.source = (schema, table, c.id)

/-- The references of the columns differ in where they come from, and each comes from a row that is
on its source and points to the column. -/
structure References (rows : List Constraint) (schema table : String) (ds : List Column) :
    Prop where
  nodup : ∀ d ∈ Constraint.apply schema table ds rows, (d.references.map Reference.source).Nodup
  exists_row : ∀ d ∈ Constraint.apply schema table ds rows, ∀ ref ∈ d.references,
    ∃ r ∈ rows, r.kind = .foreignKey ∧ r.owns ref.schema ref.table ref.column = true ∧
      r.targets schema table d.id = true

lemma references_of_edgeless (schema table : String) (hds : Edgeless ds) :
    References rows schema table ds := by
  refine ⟨fun d hd => ?_, fun d hd ref href => ?_⟩
  · obtain ⟨c, hc, rfl⟩ := List.mem_map.mp hd
    have hrefs := (hds c hc).2
    have hnodup : (c.constrain schema table rows).references.Nodup :=
      Column.nodup_references_foldl_constrainBy (by simp [hrefs])
    -- The flag of a reference hangs on its source.
    refine List.Nodup.map_on (fun ref href ref' href' hsource => ?_) hnodup
    obtain ⟨r, -, hr⟩ := (Column.mem_references_constrain hrefs).mp href
    obtain ⟨r', -, hr'⟩ := (Column.mem_references_constrain hrefs).mp href'
    obtain ⟨-, -, source, -, rfl⟩ := incoming?_eq_some_iff.mp hr
    obtain ⟨-, -, source', -, rfl⟩ := incoming?_eq_some_iff.mp hr'
    simp only [Reference.source, Prod.mk.injEq] at hsource
    obtain ⟨hschema, htable, hcolumn⟩ := hsource
    rw [hschema, htable, hcolumn]
  · obtain ⟨c, hc, rfl⟩ := List.mem_map.mp hd
    obtain ⟨r, hr, hincoming⟩ := (Column.mem_references_constrain (hds c hc).2).mp href
    obtain ⟨hkind, htargets, source, hsource, rfl⟩ := incoming?_eq_some_iff.mp hincoming
    refine ⟨r, hr, hkind, owns_iff.mpr ⟨rfl, rfl, hsource⟩, ?_⟩
    rwa [Column.constrain, Column.id_foldl_constrainBy]

/-- A row that points to the column leaves a reference there. -/
lemma exists_reference {d : Column} {r : Constraint} {schema table column : String}
    (hrefs : d.references = []) (hr : r ∈ rows) (hkind : r.kind = .foreignKey)
    (hcolumn : r.column = some column) (htargets : r.targets schema table d.id = true) :
    ∃ ref ∈ (d.constrain schema table rows).references,
      ref.source = (r.schema, r.table, column) :=
  ⟨⟨r.schema, r.table, column, isUniqueColumn rows r.schema r.table column⟩,
    (Column.mem_references_constrain hrefs).mpr
      ⟨r, hr, incoming?_eq_some_iff.mpr ⟨hkind, htargets, column, hcolumn, rfl⟩⟩, rfl⟩

lemma arrive_of_namesSchemas (h : NamesSchemas rows) (schema table schema' table' : String)
    (hcs : Edgeless cs) (hds : Edgeless ds) : Arrive rows schema table cs schema' table' ds := by
  intro c' hc' d' hd' key hkey htarget
  obtain ⟨c, hc, rfl⟩ := List.mem_map.mp hc'
  obtain ⟨d, hd, rfl⟩ := List.mem_map.mp hd'
  have hrefs := (hds d hd).2
  have hid : (c.constrain schema table rows).id = c.id := Column.id_foldl_constrainBy
  rw [Option.mem_def, Column.foreign_constrain (hcs c hc).1, Option.bind_eq_some_iff] at hkey
  obtain ⟨r, hlast, hout⟩ := hkey
  obtain ⟨hr, -⟩ := of_lastEdge?_eq_some hlast
  obtain ⟨hkind, howns, t, u, ht, hu, rfl⟩ := outgoing?_eq_some_iff.mp hout
  obtain ⟨rfl, rfl, hcolumn⟩ := owns_iff.mp howns
  simp only [ForeignKey.target, Column.constrain, Column.id_foldl_constrainBy, Prod.mk.injEq]
    at htarget
  obtain ⟨hschema, rfl, rfl⟩ := htarget
  rw [hid]
  cases husage : r.usageSchema with
  | some usage =>
    obtain rfl : usage = schema' := by simpa [husage] using hschema
    exact exists_reference hrefs hr hkind hcolumn (targets_iff.mpr ⟨husage, ht, hu⟩)
  | none =>
    obtain rfl : r.schema = schema' := by simpa [husage] using hschema
    obtain ⟨other, hother, hkind', howner, husage'⟩ := h r hr husage ⟨c.id, hcolumn, hlast⟩
    simp only [Prod.mk.injEq] at howner husage'
    obtain ⟨hschema', htable', hcolumn'⟩ := howner
    obtain ⟨hs, ht', hu'⟩ := husage'
    rw [← hschema', ← htable']
    refine exists_reference hrefs hother hkind' (hcolumn'.trans hcolumn) ?_
    exact targets_iff.mpr ⟨by rw [hs, hschema'], ht'.trans ht, hu'.trans hu⟩

lemma namesSchemas_of_arrive (h : ∀ schema table cs schema' table' ds, Edgeless cs → Edgeless ds →
    Arrive rows schema table cs schema' table' ds) : NamesSchemas rows := by
  rintro r hr husage ⟨column, hcolumn, hlast⟩
  obtain ⟨-, key, hout⟩ := of_lastEdge?_eq_some hlast
  obtain ⟨hkind, -, t, u, ht, hu, hkey⟩ := outgoing?_eq_some_iff.mp hout
  -- The column of the row and the one that it points to, each in a table of its own.
  have hedgeless (id : String) : Edgeless [{ id }] := by simp [Edgeless]
  have hforeign : key ∈ (Column.constrain r.schema r.table rows { id := column }).foreign := by
    rw [Option.mem_def, Column.foreign_constrain rfl, hlast, Option.bind_some, hout]
  have htarget : key.target = (r.schema, t, u) := by
    rw [hkey, husage]
    rfl
  have hid (schema table id : String) : (Column.constrain schema table rows { id }).id = id :=
    Column.id_foldl_constrainBy
  obtain ⟨ref, href, hsource⟩ := h r.schema r.table [{ id := column }] r.schema t [{ id := u }]
    (hedgeless column) (hedgeless u) _ List.mem_cons_self _ List.mem_cons_self key hforeign
    (by rw [htarget, hid])
  obtain ⟨other, hother, hincoming⟩ := (Column.mem_references_constrain rfl).mp href
  obtain ⟨hkind', htargets, source, hsource', rfl⟩ := incoming?_eq_some_iff.mp hincoming
  obtain ⟨hs, ht', hu'⟩ := targets_iff.mp htargets
  simp only [Reference.source, hid, Prod.mk.injEq] at hsource
  obtain ⟨hschema, htable, rfl⟩ := hsource
  refine ⟨other, hother, hkind', ?_, ?_⟩
  · rw [hschema, htable, hsource', Option.mem_def.mp hcolumn]
  · rw [hs, ht', hu', ht, hu]

/-- Whatever the constraints, no reference arrives twice and each comes from a row on its source
that points to the column; and every edge between two tables arrives if and only if, where the last
row of a column does not name the schema, another row of the column does. -/
theorem arrive_iff_namesSchemas (rows : List Constraint) :
    (∀ schema table ds, Edgeless ds → References rows schema table ds) ∧
      ((∀ schema table cs schema' table' ds, Edgeless cs → Edgeless ds →
        Arrive rows schema table cs schema' table' ds) ↔ NamesSchemas rows) :=
  ⟨fun schema table _ hds => references_of_edgeless schema table hds,
    namesSchemas_of_arrive, fun h schema table _ schema' table' _ hcs hds =>
      arrive_of_namesSchemas h schema table schema' table' hcs hds⟩

/-- Two rows on one column, of which the one that stays does not name the schema. -/
def deskRows : List Constraint :=
  [{ onColumn .foreignKey "desks" "desks_room_fkey" "room" with
      usageSchema := some "public", usageTable := some "rooms", usageColumn := some "id" },
    { onColumn .foreignKey "desks" "desks_room_again_fkey" "room" with
      usageTable := some "rooms", usageColumn := some "id" }]

theorem arrive_desks :
    (Constraint.apply "public" "desks" [{ id := "room" }] deskRows).map (·.foreign)
        = [some ⟨"public", "rooms", "id", none, none, some "desks_room_again_fkey"⟩] ∧
      Arrive deskRows "public" "desks" [{ id := "room" }] "public" "rooms" [{ id := "id" }] := by
  have hnames : NamesSchemas deskRows := by
    intro r hr _ _
    refine ⟨_, List.mem_cons_self, ?_⟩
    revert r
    decide
  exact ⟨by decide, (arrive_iff_namesSchemas deskRows).2.mpr hnames _ _ _ _ _ _
    (by simp [Edgeless]) (by simp [Edgeless])⟩

/-- A foreign key of a table to itself that does not name the schema. -/
def employeeRows : List Constraint :=
  [{ onColumn .foreignKey "employees" "employees_manager_id_fkey" "manager_id" with
      usageTable := some "employees", usageColumn := some "id" }]

/-- The edge leaves one column and does not arrive at the other. -/
theorem not_arrive_employees :
    (Constraint.apply "public" "employees" [{ id := "id" }, { id := "manager_id" }]
        employeeRows).map (fun c => (c.foreign.map ForeignKey.target, c.references))
          = [(none, []), (some ("public", "employees", "id"), [])] ∧
      ¬ Arrive employeeRows "public" "employees" [{ id := "id" }, { id := "manager_id" }]
        "public" "employees" [{ id := "id" }, { id := "manager_id" }] := by
  refine ⟨by decide, fun h => ?_⟩
  obtain ⟨ref, href, -⟩ := h _ (List.mem_cons_of_mem _ List.mem_cons_self) _ List.mem_cons_self
    ⟨"public", "employees", "id", none, none, some "employees_manager_id_fkey"⟩ (by decide)
    (by decide)
  have hnone : (Column.constrain "public" "employees" employeeRows { id := "id" }).references
      = [] := by
    decide
  rw [hnone] at href
  cases href

end Constraint

end SqlWorkbench
