import SqlWorkbench.Proofs.Codegen.WrittenModules
import SqlWorkbench.Proofs.Schema.Gathering

/-!
# Modules are closed

What a module uses and what it imports are gathered apart from each other. Main statement: in the
text of a module every function that is called and every table that is linked to is imported or
declared above, nothing is imported that is not used, and nothing is imported twice.
-/

namespace SqlWorkbench.Drizzle

open Naming

/-! ### Closed outlines -/

/-- The names that are imported from a path. -/
def Outline.namesFrom (o : Outline) (path : String) : List String :=
  (o.imports.filter fun i => i.path == path).flatMap Import.names

/-- What is used is imported or declared, and what is imported is used, once. -/
structure Outline.Closed (d : Dialect) (o : Outline) : Prop where
  /-- What makes an enum or a table comes from the dialect. -/
  function_mem : ∀ x ∈ o.definitions, x.function ≠ "relations" →
    x.function ∈ o.namesFrom (corePath d)
  /-- So does what is called in it, except for the enums that are declared above. -/
  calls_mem : ∀ before x after, o.definitions = before ++ x :: after → x.function ≠ "relations" →
    ∀ f ∈ x.calls, f ∈ o.namesFrom (corePath d) ∨
      ∃ e ∈ before, e.var = f ∧ enumStyle d = .declared e.function
  /-- Relations take their functions as arguments. -/
  relations_calls : ∀ x ∈ o.definitions, x.function = "relations" →
    ∀ f ∈ x.calls, f = "one" ∨ f = "many"
  /-- A table that is linked to is the one of the module, or comes from a module of its own. -/
  targets_mem : ∀ x ∈ o.definitions, ∀ v ∈ x.targets,
    (∃ y ∈ o.definitions, y.function = tableFunction d ∧ y.var = v) ∨
      ∃ t, v = tableVariable t ∧ v ∈ o.namesFrom ("./" ++ t)
  relations_mem_iff : "relations" ∈ o.namesFrom "drizzle-orm" ↔
    ∃ x ∈ o.definitions, x.function = "relations"
  /-- What comes from the dialect makes an enum or a table, or is called in it. -/
  core_used : ∀ f ∈ o.namesFrom (corePath d),
    ∃ x ∈ o.definitions, x.function ≠ "relations" ∧ (x.function = f ∨ f ∈ x.calls)
  /-- What comes from anywhere else are the relations, or tables that are linked to. -/
  imports_used : ∀ i ∈ o.imports, i.path ≠ corePath d → ∀ n ∈ i.names,
    i.path = "drizzle-orm" ∧ n = "relations" ∨ ∃ x ∈ o.definitions, n ∈ x.targets
  nodup_core : (o.namesFrom (corePath d)).Nodup
  /-- No module is imported from twice, so that no line is repeated. -/
  nodup_paths : (o.imports.map Import.path).Nodup

/-! ### Imports of modules -/

variable {p t n f : String}

lemma corePath_head? (d : Dialect) : (corePath d).toList.head? = some 'd' := by
  cases d <;> rfl

lemma corePath_ne (d : Dialect) : corePath d ≠ "drizzle-orm" := by
  cases d <;> decide

lemma tablePath_ne (hp : p.toList.head? = some 'd') (t : String) : "./" ++ t ≠ p := by
  rintro rfl
  rw [String.toList_append] at hp
  exact absurd hp (by simp)

namespace Module

lemma namesFrom_corePath (m : Module) :
    m.outline.namesFrom (corePath m.dialect) = m.coreImports := by
  have htables : (m.tableImports.map fun t => (⟨[tableVariable t], "./" ++ t⟩ : Import)).filter
      (fun i => i.path == corePath m.dialect) = [] := by
    simp [List.filter_eq_nil_iff, tablePath_ne (corePath_head? m.dialect)]
  have hrelations : (if m.relations.isEmpty then [] else
      [(⟨["relations"], "drizzle-orm"⟩ : Import)]).filter (fun i => i.path == corePath m.dialect)
        = [] := by
    split <;> simp [(corePath_ne m.dialect).symm]
  rw [Outline.namesFrom, outline, imports, List.filter_append, List.filter_append, htables,
    hrelations]
  simp

lemma mem_namesFrom {m : Module} : n ∈ m.outline.namesFrom p ↔
    ∃ i ∈ m.imports, i.path = p ∧ n ∈ i.names := by
  simp [Outline.namesFrom, outline, and_assoc]

lemma mem_imports {m : Module} {i : Import} : i ∈ m.imports ↔
    m.relations ≠ [] ∧ i = ⟨["relations"], "drizzle-orm"⟩ ∨
      (∃ t ∈ m.tableImports, i = ⟨[tableVariable t], "./" ++ t⟩) ∨
      i = ⟨m.coreImports, corePath m.dialect⟩ := by
  rw [imports]
  cases m.relations <;> simp [eq_comm]

lemma relations_mem_namesFrom_iff (m : Module) :
    "relations" ∈ m.outline.namesFrom "drizzle-orm" ↔ m.relations ≠ [] := by
  rw [mem_namesFrom]
  constructor
  · rintro ⟨i, hi, hpath, -⟩
    obtain ⟨hne, -⟩ | ⟨t, -, rfl⟩ | rfl := mem_imports.mp hi
    · exact hne
    · exact absurd hpath (tablePath_ne rfl t)
    · exact absurd hpath (corePath_ne m.dialect)
  · exact fun hne => ⟨_, mem_imports.mpr (.inl ⟨hne, rfl⟩), rfl, List.mem_singleton_self _⟩

lemma nodup_paths (m : Module) (htables : m.tableImports.Nodup) :
    (m.imports.map Import.path).Nodup := by
  have hpaths : (m.tableImports.map fun t => "./" ++ t).Nodup := by
    refine htables.map fun s t hst => ?_
    rwa [String.append_right_inj] at hst
  have hcore : ∀ t, "./" ++ t ≠ corePath m.dialect := tablePath_ne (corePath_head? m.dialect)
  have hlinks : ∀ t, "./" ++ t ≠ "drizzle-orm" := tablePath_ne rfl
  have hboth : "drizzle-orm" ≠ corePath m.dialect := (corePath_ne m.dialect).symm
  rw [imports]
  cases m.relations <;>
    simp [List.nodup_append, Function.comp_def, hpaths, hcore, hlinks, hboth]

end Module

/-! ### What the columns link to -/

/-- The tables that a column points at or is pointed at from. -/
def linkedTables (c : Column) : List String :=
  (c.foreign.map ForeignKey.table).toList ++ c.references.map Reference.table

lemma map_var_ofReferences (used : List String) (rs : List Reference) :
    (Relation.ofReferences used rs).1.map Relation.var
      = rs.map fun r => tableVariable r.table := by
  induction rs generalizing used with
  | nil => rfl
  | cons r rest ih =>
    rw [Relation.ofReferences, List.map_cons, List.map_cons, ih]
    rfl

/-- Each link of a column has its relation. -/
lemma map_var_ofColumns (used : List String) (cs : List Column) :
    (Relation.ofColumns used cs).map Relation.var
      = (cs.flatMap linkedTables).map tableVariable := by
  induction cs generalizing used with
  | nil => rfl
  | cons c rest ih =>
    rw [Relation.ofColumns, List.flatMap_cons, List.map_append]
    cases hforeign : c.foreign with
    | none => simp [linkedTables, hforeign, map_var_ofReferences, ih]
    | some k => simp [linkedTables, hforeign, map_var_ofReferences, ih, Relation.var, Target.var]

lemma mem_importedTables {m : TableModel} : t ∈ importedTables m ↔
    hasLinks m.dialect = true ∧ t ≠ m.table ∧ t ∈ m.columns.flatMap linkedTables := by
  rw [importedTables]
  split
  · next h =>
    simp [h, linkedTables, List.mem_eraseDups, and_or_left, exists_or, and_comm]
  · next h => simp [h]

variable {m : TableModel} {c : Column}

lemma map_var_relations (m : TableModel) :
    (Module.ofTable m).relations.map Relation.var = if hasLinks m.dialect then
      (m.columns.flatMap linkedTables).map tableVariable else [] := by
  rw [Module.ofTable]
  split
  · exact map_var_ofColumns [] m.columns
  · rfl

lemma mem_definitions {m : Module} {x : Definition} : x ∈ m.outline.definitions ↔
    (∃ e ∈ m.enums, x = Module.enumOutline e) ∨ x = m.tableOutline ∨
      m.relations ≠ [] ∧ x = m.relationsOutline := by
  rw [Module.outline]
  cases m.relations <;> simp [eq_comm]

lemma exists_of_mem_linked {v : String} (hv : v ∈ (ColumnField.ofColumn m c).linked) :
    hasLinks m.dialect = true ∧ ∃ t ∈ linkedTables c, v = tableVariable t := by
  rw [ColumnField.linked, ColumnField.ofColumn] at hv
  dsimp only at hv
  split at hv
  · next h =>
    cases hforeign : c.foreign with
    | none => simp [hforeign] at hv
    | some k =>
      rw [hforeign, Option.map_some, Option.map_some, Option.toList_some, List.mem_singleton] at hv
      exact ⟨h, k.table, by simp [linkedTables, hforeign], hv⟩
  · cases hv

/-- A table is linked to where a column points at it or is pointed at from it. -/
lemma exists_of_mem_targets {x : Definition} {v : String}
    (hx : x ∈ (Module.ofTable m).outline.definitions) (hv : v ∈ x.targets) :
    hasLinks m.dialect = true ∧ ∃ t ∈ m.columns.flatMap linkedTables, v = tableVariable t := by
  obtain ⟨e, -, rfl⟩ | rfl | ⟨-, rfl⟩ := mem_definitions.mp hx
  · cases hv
  · obtain ⟨field, hfield, hv⟩ := List.mem_flatMap.mp hv
    obtain ⟨c, hc, rfl⟩ := List.mem_map.mp hfield
    obtain ⟨h, t, ht, hvar⟩ := exists_of_mem_linked hv
    exact ⟨h, t, List.mem_flatMap.mpr ⟨c, hc, ht⟩, hvar⟩
  · have hvars := map_var_relations m
    rw [Module.relationsOutline, hvars] at hv
    split at hv
    · next h =>
      obtain ⟨t, ht, rfl⟩ := List.mem_map.mp hv
      exact ⟨h, t, ht, rfl⟩
    · cases hv

/-! ### What is called -/

lemma called_of_declaration?_eq_none {b : Builder} (h : b.declaration? = none) :
    b.called = b.coreFunction := by
  cases b with
  | core function options narrowed => rfl
  | declared e => cases h

/-- A function that the module calls in its table comes from the dialect, or is a declared enum. -/
lemma mem_coreImports_or_enums {f : String} (hf : f ∈ (Module.ofTable m).tableOutline.calls) :
    f ∈ (Module.ofTable m).coreImports ∨ ∃ e ∈ (Module.ofTable m).enums, e.var = f := by
  rcases List.mem_append.mp hf with hf | hf
  · obtain ⟨field, hfield, rfl⟩ := List.mem_map.mp hf
    obtain ⟨c, hc, rfl⟩ := List.mem_map.mp hfield
    cases hdeclared : (Builder.ofColumn m c).declaration? with
    | none =>
      exact .inl (mem_coreImports.mpr
        (.inl ⟨c, hc, (called_of_declaration?_eq_none hdeclared).symm⟩))
    | some e =>
      refine .inr ⟨e, mem_enums.mpr ⟨c, hc, hdeclared⟩, ?_⟩
      rw [ColumnField.ofColumn, Builder.declaration?_eq_some hdeclared]
      rfl
  · obtain ⟨i, hi, rfl⟩ := List.mem_map.mp hf
    exact .inl (mem_coreImports.mpr (.inr (.inl ⟨i, hi, rfl⟩)))

/-- A function from the dialect makes an enum or the table, or is called in the table. -/
lemma used_of_mem_coreImports {f : String} (hf : f ∈ (Module.ofTable m).coreImports) :
    (∃ e ∈ (Module.ofTable m).enums, e.function = f) ∨ tableFunction m.dialect = f ∨
      f ∈ (Module.ofTable m).tableOutline.calls := by
  obtain ⟨c, hc, rfl⟩ | ⟨i, hi, rfl⟩ | rfl := mem_coreImports.mp hf
  · cases hdeclared : (Builder.ofColumn m c).declaration? with
    | none =>
      refine .inr (.inr (List.mem_append_left _ ?_))
      rw [← called_of_declaration?_eq_none hdeclared]
      exact List.mem_map.mpr ⟨_, List.mem_map_of_mem hc, rfl⟩
    | some e =>
      refine .inl ⟨e, mem_enums.mpr ⟨c, hc, hdeclared⟩, ?_⟩
      rw [Builder.declaration?_eq_some hdeclared]
      rfl
  · exact .inr (.inr (List.mem_append_right _ (List.mem_map_of_mem hi)))
  · exact .inr (.inl rfl)

lemma tableFunction_ne (d : Dialect) : tableFunction d ≠ "relations" := by
  cases d <;> decide

lemma enumFunction_ne {d : Dialect} {f : String} (h : enumStyle d = .declared f) :
    f ≠ "relations" := by
  cases d <;> cases h
  decide

/-- What is in front of an item that it does not have, is in front of all its items. -/
lemma subset_of_append_eq {α : Type} {l rest before after : List α} {a : α}
    (h : l ++ rest = before ++ a :: after) (ha : a ∉ l) : l ⊆ before := by
  obtain ⟨l', rfl, -⟩ | ⟨l', hl, hrest⟩ := List.append_eq_append_iff.mp h
  · exact List.subset_append_left l l'
  · cases l' with
    | nil => rw [hl, List.append_nil]; exact List.Subset.refl _
    | cons b l' =>
      cases hrest
      exact absurd (by simp [hl]) ha

lemma exists_function_relations_iff (m : TableModel) :
    (∃ x ∈ (Module.ofTable m).outline.definitions, x.function = "relations") ↔
      (Module.ofTable m).relations ≠ [] := by
  constructor
  · rintro ⟨x, hx, hfunction⟩
    obtain ⟨e, he, rfl⟩ | rfl | ⟨hne, -⟩ := mem_definitions.mp hx
    · obtain ⟨c, -, hc⟩ := mem_enums.mp he
      exact absurd hfunction (enumFunction_ne (enumStyle_of_declaration? hc))
    · exact absurd hfunction (tableFunction_ne m.dialect)
    · exact hne
  · exact fun hne => ⟨_, mem_definitions.mpr (.inr (.inr ⟨hne, rfl⟩)), rfl⟩

lemma nodup_importedTables (m : TableModel) : (importedTables m).Nodup := by
  rw [importedTables]
  split
  · exact nodup_eraseDups _
  · exact List.nodup_nil

/-- An imported table is linked to by a relation. -/
lemma exists_relation_of_mem_importedTables (ht : t ∈ importedTables m) :
    (Module.ofTable m).relations ≠ [] ∧
      tableVariable t ∈ (Module.ofTable m).relationsOutline.targets := by
  obtain ⟨hlinks, -, hlinked⟩ := mem_importedTables.mp ht
  have hvars := map_var_relations m
  rw [if_pos hlinks] at hvars
  have hmem : tableVariable t ∈ (Module.ofTable m).relations.map Relation.var := by
    rw [hvars]
    exact List.mem_map_of_mem hlinked
  exact ⟨List.ne_nil_of_mem (List.mem_map.mp hmem).choose_spec.1, hmem⟩

lemma mem_coreImports_of_mem_enums {e : EnumDeclaration} (he : e ∈ (Module.ofTable m).enums) :
    e.function ∈ (Module.ofTable m).coreImports := by
  obtain ⟨c, hc, hdeclared⟩ := mem_enums.mp he
  refine mem_coreImports.mpr (.inl ⟨c, hc, ?_⟩)
  rw [Builder.declaration?_eq_some hdeclared, Builder.coreFunction]

lemma enumStyle_of_mem_enums {e : EnumDeclaration} (he : e ∈ (Module.ofTable m).enums) :
    enumStyle m.dialect = .declared e.function := by
  obtain ⟨c, -, hdeclared⟩ := mem_enums.mp he
  exact enumStyle_of_declaration? hdeclared

/-- The definition of the table is none of an enum, if it calls anything, and so the enums are
declared in front of it. -/
lemma enums_subset_of_append_eq {before after : List Definition} {f : String}
    (hf : f ∈ (Module.ofTable m).tableOutline.calls)
    (hsplit : (Module.ofTable m).outline.definitions
      = before ++ (Module.ofTable m).tableOutline :: after) :
    (Module.ofTable m).enums.map Module.enumOutline ⊆ before := by
  have hnot : (Module.ofTable m).tableOutline ∉
      (Module.ofTable m).enums.map Module.enumOutline := by
    intro hmem
    obtain ⟨e, -, he⟩ := List.mem_map.mp hmem
    rw [← he] at hf
    cases hf
  rw [Module.outline, List.append_assoc] at hsplit
  exact subset_of_append_eq hsplit hnot

lemma var_tableOutline (m : TableModel) :
    (Module.ofTable m).tableOutline.var = tableVariable m.table := by
  rw [Module.tableOutline, Module.var, Module.ofTable]

lemma own_or_imported {x : Definition} {v : String}
    (hx : x ∈ (Module.ofTable m).outline.definitions) (hv : v ∈ x.targets) :
    (Module.ofTable m).tableOutline.var = v ∨
      ∃ t, v = tableVariable t ∧ v ∈ (Module.ofTable m).outline.namesFrom ("./" ++ t) := by
  obtain ⟨hlinks, t, ht, hvar⟩ := exists_of_mem_targets hx hv
  rw [hvar]
  by_cases hown : t = m.table
  · rw [hown]
    exact .inl (var_tableOutline m)
  · have himported : t ∈ importedTables m := mem_importedTables.mpr ⟨hlinks, hown, ht⟩
    have himport := (Module.mem_imports (m := Module.ofTable m)).mpr
      (.inr (.inl ⟨t, himported, rfl⟩))
    exact .inr ⟨t, rfl, Module.mem_namesFrom.mpr ⟨_, himport, rfl, List.mem_singleton_self _⟩⟩

/-- The parts of a module, each with what it uses: what is used and what is imported agree. -/
lemma closed_outline (m : TableModel) : (Module.ofTable m).outline.Closed m.dialect := by
  have hcore : (Module.ofTable m).outline.namesFrom (corePath m.dialect)
      = (Module.ofTable m).coreImports := Module.namesFrom_corePath (Module.ofTable m)
  have htable : (Module.ofTable m).tableOutline ∈ (Module.ofTable m).outline.definitions :=
    mem_definitions.mpr (.inr (.inl rfl))
  constructor
  case function_mem =>
    intro x hx hfunction
    rw [hcore]
    obtain ⟨e, he, rfl⟩ | rfl | ⟨-, rfl⟩ := mem_definitions.mp hx
    · exact mem_coreImports_of_mem_enums he
    · exact mem_coreImports.mpr (.inr (.inr rfl))
    · exact absurd rfl hfunction
  case calls_mem =>
    intro before x after hsplit hfunction f hf
    rw [hcore]
    have hx : x ∈ (Module.ofTable m).outline.definitions := by simp [hsplit]
    obtain ⟨e, -, rfl⟩ | rfl | ⟨-, rfl⟩ := mem_definitions.mp hx
    · cases hf
    · have habove := enums_subset_of_append_eq hf hsplit
      refine (mem_coreImports_or_enums hf).imp_right fun ⟨e, he, hvar⟩ => ?_
      exact ⟨Module.enumOutline e, habove (List.mem_map_of_mem he), hvar,
        enumStyle_of_mem_enums he⟩
    · exact absurd rfl hfunction
  case relations_calls =>
    intro x hx hfunction f hf
    obtain ⟨e, he, rfl⟩ | rfl | ⟨-, rfl⟩ := mem_definitions.mp hx
    · exact absurd hfunction (enumFunction_ne (enumStyle_of_mem_enums he))
    · exact absurd hfunction (tableFunction_ne m.dialect)
    · obtain ⟨r, -, rfl⟩ := List.mem_map.mp hf
      cases r with
      | one => exact .inl rfl
      | many => exact .inr rfl
  case targets_mem =>
    intro x hx v hv
    refine (own_or_imported hx hv).imp_left fun hown => ?_
    exact ⟨(Module.ofTable m).tableOutline, htable, rfl, hown⟩
  case relations_mem_iff =>
    rw [Module.relations_mem_namesFrom_iff, exists_function_relations_iff]
  case core_used =>
    intro f hf
    rw [hcore] at hf
    obtain ⟨e, he, rfl⟩ | rfl | hcalls := used_of_mem_coreImports hf
    · exact ⟨Module.enumOutline e, mem_definitions.mpr (.inl ⟨e, he, rfl⟩),
        enumFunction_ne (enumStyle_of_mem_enums he), .inl rfl⟩
    · exact ⟨_, htable, tableFunction_ne m.dialect, .inl rfl⟩
    · exact ⟨_, htable, tableFunction_ne m.dialect, .inr hcalls⟩
  case imports_used =>
    intro i hi hpath n hn
    obtain ⟨-, rfl⟩ | ⟨t, ht, rfl⟩ | rfl := Module.mem_imports.mp hi
    · exact .inl ⟨rfl, List.mem_singleton.mp hn⟩
    · obtain ⟨hne, hmem⟩ := exists_relation_of_mem_importedTables ht
      rw [List.mem_singleton.mp hn]
      exact .inr ⟨_, mem_definitions.mpr (.inr (.inr ⟨hne, rfl⟩)), hmem⟩
    · exact absurd rfl hpath
  case nodup_core =>
    rw [hcore]
    exact nodup_eraseDups _
  case nodup_paths =>
    exact Module.nodup_paths (Module.ofTable m) (nodup_importedTables m)

/-- The text of a table as a module can be read, and what it uses and what it imports agree. -/
theorem exists_closed_outline (m : TableModel) :
    ∃ o, Outline.read? (text m) = some o ∧ o.Closed m.dialect :=
  ⟨_, outline_read?_text m, closed_outline m⟩

end SqlWorkbench.Drizzle
