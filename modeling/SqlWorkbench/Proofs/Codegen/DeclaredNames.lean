import SqlWorkbench.Codegen.Drizzle
import SqlWorkbench.Proofs.Codegen.EnumMembers
import SqlWorkbench.Proofs.Codegen.FreshNames
import SqlWorkbench.Proofs.Schema.Gathering

/-!
# Names in generated models

The fields of a Prisma model and the keys of a Drizzle table are the names of columns as values, the
blocks of a Prisma schema the names of its table and its enums as types. Only relations and members
of enums are kept apart from other names. Main statement: everything is declared once exactly if the
names of columns and enums do not fall together when they are brought into the case of values and
types.
-/

namespace SqlWorkbench

/-! ### Keys -/

namespace Naming

lemma singleQuoted_injective : Function.Injective singleQuoted := by
  have hread : ∀ v : String, literal (singleQuoted v).toList = some (v, []) := fun v =>
    (takes_singleQuoted v (by simp)).read_eq
  intro a b h
  have hboth := hread a
  rw [h, hread b] at hboth
  cases hboth
  rfl

lemma not_isBare_singleQuoted (name : String) : isBare (singleQuoted name) = false := by
  rw [isBare, singleQuoted, String.toList_ofList]
  rfl

/-- Different names are different keys. -/
lemma key_injective : Function.Injective key := by
  intro a b h
  rw [key, key] at h
  split at h
  · next ha =>
    split at h
    · exact h
    · rw [h, not_isBare_singleQuoted] at ha
      cases ha
  · split at h
    · next hb =>
      rw [← h, not_isBare_singleQuoted] at hb
      cases hb
    · exact singleQuoted_injective h

end Naming

/-! ### Enums -/

/-- Names that are declared once tell what is declared. -/
lemma nodup_map_eraseDups_iff {α β : Type} [DecidableEq α] {f : α → β} {l : List α} :
    (l.eraseDups.map f).Nodup ↔ ∀ a ∈ l, ∀ b ∈ l, f a = f b → a = b := by
  rw [List.nodup_map_iff_inj_on (nodup_eraseDups l)]
  simp only [List.mem_eraseDups]

namespace Prisma

lemma name_ofType (name : String) (e : EnumType) : (EnumBlock.ofType name e).name = name := by
  rw [EnumBlock.ofType]

lemma enumBlock_eq_iff {name : String} {e e' : EnumType} :
    EnumBlock.ofType name e = EnumBlock.ofType name e' ↔ e.values = e'.values := by
  constructor
  · intro h
    have hmembers := congrArg EnumBlock.members h
    rw [← (ofValues_spec (e.values.filter isIdentifier) e.values).1,
      ← (ofValues_spec (e'.values.filter isIdentifier) e'.values).1]
    exact congrArg (List.map Member.meant) hmembers
  · intro h
    rw [EnumBlock.ofType, EnumBlock.ofType, h]

end Prisma

/-! ### Tables -/

namespace TableModel

open Prisma

variable {m : TableModel}

/-- Everything is declared once: the fields of the model, the model and the enums, and the keys of
the table object. -/
structure DeclaresOnce (m : TableModel) : Prop where
  fields : ((Model.ofTable m).fields.map Field.name).Nodup
  blocks : ((Model.ofTable m).name :: (Model.ofTable m).enums.map EnumBlock.name).Nodup
  keys : ((Drizzle.Module.ofTable m).columns.map fun c => Naming.key (Naming.camelCase c.id)).Nodup

/-- The names of columns and enums stay apart in the case of values and types. -/
structure KeepsApart (m : TableModel) : Prop where
  /-- No two columns have one name as values. -/
  columns : (m.columns.map fun c => Naming.camelCase c.id).Nodup
  /-- No enum has the name of the table as types. -/
  table : ∀ c ∈ m.columns, ∀ e, m.enumOf? c = some e →
    enumName m.table c e ≠ Naming.pascalCase m.table
  /-- Enums with one name as types have the same values. -/
  enums : ∀ c ∈ m.columns, ∀ e, m.enumOf? c = some e → ∀ c' ∈ m.columns, ∀ e',
    m.enumOf? c' = some e' → enumName m.table c e = enumName m.table c' e' → e.values = e'.values

lemma nodup_fields_iff : ((Model.ofTable m).fields.map Field.name).Nodup ↔
    (m.columns.map fun c => Naming.camelCase c.id).Nodup := by
  have hrelations := fresh_relationFields (m.columns.map fun c => Naming.camelCase c.id) m.columns
  have hnames : (m.columns.map (columnField m)).map Field.name
      = m.columns.map fun c => Naming.camelCase c.id := by
    rw [List.map_map]
    rfl
  rw [Model.ofTable, List.map_append, hnames, List.nodup_append]
  constructor
  · exact fun h => h.1
  · intro h
    refine ⟨h, hrelations.nodup, ?_⟩
    rintro name hname _ hother rfl
    exact hrelations.not_mem name hother hname

lemma nodup_keys_iff : ((Drizzle.Module.ofTable m).columns.map fun c =>
      Naming.key (Naming.camelCase c.id)).Nodup ↔
    (m.columns.map fun c => Naming.camelCase c.id).Nodup := by
  have hkeys : ((Drizzle.Module.ofTable m).columns.map fun c => Naming.key (Naming.camelCase c.id))
      = (m.columns.map fun c => Naming.camelCase c.id).map Naming.key := by
    rw [Drizzle.Module.ofTable, List.map_map, List.map_map]
    rfl
  rw [hkeys, List.nodup_map_iff Naming.key_injective]

lemma mem_enums_iff {b : EnumBlock} : b ∈ m.columns.filterMap (enumBlock? m) ↔
    ∃ c ∈ m.columns, ∃ e, m.enumOf? c = some e ∧ .ofType (enumName m.table c e) e = b := by
  simp only [List.mem_filterMap, enumBlock?, Option.map_eq_some_iff]

lemma table_mem_enums_iff :
    Naming.pascalCase m.table ∈ (m.columns.filterMap (enumBlock? m)).eraseDups.map EnumBlock.name ↔
      ∃ c ∈ m.columns, ∃ e, m.enumOf? c = some e ∧
        enumName m.table c e = Naming.pascalCase m.table := by
  rw [List.mem_map]
  constructor
  · rintro ⟨b, hb, hname⟩
    obtain ⟨c, hc, e, he, rfl⟩ := mem_enums_iff.mp (List.mem_eraseDups.mp hb)
    rw [name_ofType] at hname
    exact ⟨c, hc, e, he, hname⟩
  · rintro ⟨c, hc, e, he, hname⟩
    have hb := List.mem_eraseDups.mpr (mem_enums_iff.mpr ⟨c, hc, e, he, rfl⟩)
    exact ⟨_, hb, by rw [name_ofType, hname]⟩

lemma nodup_enums_iff :
    ((m.columns.filterMap (enumBlock? m)).eraseDups.map EnumBlock.name).Nodup ↔
      ∀ c ∈ m.columns, ∀ e, m.enumOf? c = some e → ∀ c' ∈ m.columns, ∀ e',
        m.enumOf? c' = some e' → enumName m.table c e = enumName m.table c' e' →
          e.values = e'.values := by
  rw [nodup_map_eraseDups_iff]
  constructor
  · intro h c hc e he c' hc' e' he' hname
    have hblock := h _ (mem_enums_iff.mpr ⟨c, hc, e, he, rfl⟩) _
      (mem_enums_iff.mpr ⟨c', hc', e', he', rfl⟩) (by rw [name_ofType, name_ofType, hname])
    rw [hname, enumBlock_eq_iff] at hblock
    exact hblock
  · intro h b hb b' hb' hname
    obtain ⟨c, hc, e, he, rfl⟩ := mem_enums_iff.mp hb
    obtain ⟨c', hc', e', he', rfl⟩ := mem_enums_iff.mp hb'
    rw [name_ofType, name_ofType] at hname
    rw [hname, enumBlock_eq_iff]
    exact h c hc e he c' hc' e' he' hname

/-- Everything is declared once exactly if the names of columns and enums stay apart in the case of
values and types. -/
theorem declaresOnce_iff_keepsApart (m : TableModel) : m.DeclaresOnce ↔ m.KeepsApart := by
  constructor
  · rintro ⟨hfields, hblocks, -⟩
    rw [Model.ofTable, List.nodup_cons, table_mem_enums_iff, nodup_enums_iff] at hblocks
    refine ⟨nodup_fields_iff.mp hfields, ?_, hblocks.2⟩
    intro c hc e he hname
    exact hblocks.1 ⟨c, hc, e, he, hname⟩
  · rintro ⟨hcolumns, htable, henums⟩
    refine ⟨nodup_fields_iff.mpr hcolumns, ?_, nodup_keys_iff.mpr hcolumns⟩
    rw [Model.ofTable, List.nodup_cons, table_mem_enums_iff, nodup_enums_iff]
    refine ⟨?_, henums⟩
    rintro ⟨c, hc, e, he, hname⟩
    exact htable c hc e he hname

/-- Two columns with one name as values, and an enum with the name of the table as types. -/
def userMoods : TableModel where
  table := "mood"
  columns := [.ofType "user_mood" "mood", .ofType "userMood" "text"]
  enums := [{ schema := "", name := "mood", values := ["sad", "glad"] }]

/-- Both columns, and both the table and the enum, are declared under one name. -/
theorem not_declaresOnce_userMoods :
    (userMoods.columns.map Column.id).Nodup ∧
    (∀ c ∈ userMoods.columns, c.id ≠ "") ∧
    (Model.ofTable userMoods).fields.map Field.name = ["userMood", "userMood"] ∧
    (Model.ofTable userMoods).name :: (Model.ofTable userMoods).enums.map EnumBlock.name
      = ["Mood", "Mood"] ∧
    ((Drizzle.Module.ofTable userMoods).columns.map fun c => Naming.key (Naming.camelCase c.id))
      = ["userMood", "userMood"] ∧
    ¬ userMoods.DeclaresOnce := by
  have hfields : (Model.ofTable userMoods).fields.map Field.name = ["userMood", "userMood"] := by
    decide +kernel
  refine ⟨?_, ?_, hfields, ?_, ?_, fun h => ?_⟩
  · decide
  · decide
  · decide +kernel
  · decide +kernel
  · have hnodup := h.fields
    rw [hfields] at hnodup
    exact absurd hnodup (by decide)

end TableModel

end SqlWorkbench
