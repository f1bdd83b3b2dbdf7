import SqlWorkbench.Proofs.Codegen.EnumMembers
import SqlWorkbench.Proofs.Codegen.FreshNames

/-!
# Names of the members of Prisma enums

The values that are identifiers are in use before any other value takes a name, and each name that
is taken is in use for the values behind it. Main statement: the members of different values have
different names, all of them identifiers, and an identifier is its own member.
-/

namespace SqlWorkbench.Prisma

open Naming

variable {used values : List String}

/-- The line of a member; only a value that is no identifier is told behind its name. -/
def memberLine (name value : String) : String :=
  if isIdentifier value then "  " ++ name
  else "  " ++ name ++ " @map(" ++ doubleQuoted value ++ ")"

/-- The names can stand for the values in an enum: they are as many, different from each other and
identifiers, and each identifier among the values is its own name. -/
structure NamesMembers (values names : List String) : Prop where
  length_eq : names.length = values.length
  nodup : names.Nodup
  identifiers : ∀ name ∈ names, isIdentifier name = true
  keeps : ∀ p ∈ names.zip values, isIdentifier p.2 = true → p.1 = p.2

lemma claim_not_mem (used : List String) (candidate : String) :
    (claim used candidate).1 ∉ used :=
  free_not_mem used candidate

lemma claim_snd (used : List String) (candidate : String) :
    (claim used candidate).2 = (claim used candidate).1 :: used := rfl

/-- The names are no two the same, and each is new or is an identifier among the values. -/
lemma nodup_names_ofValues (hvalues : values.Nodup)
    (hused : ∀ v ∈ values, isIdentifier v = true → v ∈ used) :
    ((Member.ofValues used values).map Member.name).Nodup ∧
      ∀ m ∈ Member.ofValues used values,
        m.name ∉ used ∨ m.name ∈ values ∧ isIdentifier m.name = true := by
  fun_induction Member.ofValues used values with
  | case1 => simp
  | case2 used value rest hvalue ih =>
    obtain ⟨hnot, hrest⟩ := List.nodup_cons.mp hvalues
    obtain ⟨hmem, hused⟩ := List.forall_mem_cons.mp hused
    obtain ⟨hnodup, hnames⟩ := ih hrest hused
    refine ⟨List.nodup_cons.mpr ⟨fun hname => ?_, hnodup⟩, List.forall_mem_cons.mpr ⟨?_, ?_⟩⟩
    · obtain ⟨m, hm, rfl : m.name = value⟩ := List.mem_map.mp hname
      rcases hnames m hm with hnew | ⟨hmem', -⟩
      · exact hnew (hmem hvalue)
      · exact hnot hmem'
    · exact .inr ⟨List.mem_cons_self, hvalue⟩
    · exact fun m hm => (hnames m hm).imp_right (.imp_left (List.mem_cons_of_mem value))
  | case3 used value rest hvalue name used' hclaim ih =>
    have hnew : name ∉ used := by
      have := claim_not_mem used (memberName value)
      rwa [hclaim] at this
    obtain rfl : name :: used = used' := by
      have := claim_snd used (memberName value)
      rw [hclaim] at this
      exact this.symm
    obtain ⟨-, hrest⟩ := List.nodup_cons.mp hvalues
    obtain ⟨-, hused⟩ := List.forall_mem_cons.mp hused
    obtain ⟨hnodup, hnames⟩ :=
      ih hrest fun v hv hidentifier => List.mem_cons_of_mem name (hused v hv hidentifier)
    refine ⟨List.nodup_cons.mpr ⟨fun hname => ?_, hnodup⟩, List.forall_mem_cons.mpr ⟨?_, ?_⟩⟩
    · obtain ⟨m, hm, rfl : m.name = name⟩ := List.mem_map.mp hname
      rcases hnames m hm with hnew' | ⟨hmem, hidentifier⟩
      · exact hnew' List.mem_cons_self
      · exact hnew (hused m.name hmem hidentifier)
    · exact .inl hnew
    · intro m hm
      exact (hnames m hm).imp (fun h hmem => h (List.mem_cons_of_mem name hmem))
        (.imp_left (List.mem_cons_of_mem value))

lemma map_text_ofValues (used values : List String) :
    (Member.ofValues used values).map Member.text
      = List.zipWith memberLine ((Member.ofValues used values).map Member.name) values := by
  fun_induction Member.ofValues used values with
  | case1 => rfl
  | case2 used value rest hvalue ih =>
    rw [List.map_cons, List.map_cons, List.zipWith_cons_cons, ih, memberLine, if_pos hvalue]
    simp [Member.text]
  | case3 used value rest hvalue name used' hclaim ih =>
    rw [List.map_cons, List.map_cons, List.zipWith_cons_cons, ih, memberLine, if_neg hvalue]
    simp [Member.text, String.append_assoc]

lemma name_eq_of_isIdentifier (used values : List String) :
    ∀ p ∈ ((Member.ofValues used values).map Member.name).zip values,
      isIdentifier p.2 = true → p.1 = p.2 := by
  fun_induction Member.ofValues used values with
  | case1 => simp
  | case2 used value rest hvalue ih =>
    rw [List.map_cons, List.zip_cons_cons]
    exact List.forall_mem_cons.mpr ⟨fun _ => rfl, ih⟩
  | case3 used value rest hvalue name used' hclaim ih =>
    rw [List.map_cons, List.zip_cons_cons]
    exact List.forall_mem_cons.mpr ⟨fun h => absurd h hvalue, ih⟩

/-- An enum of different values has a member for each of them, in their order, and the members have
different names, which are identifiers; an identifier is its own name, whatever stands before it. -/
theorem exists_names_enumBlock (name : String) (e : EnumType) (hvalues : e.values.Nodup) :
    ∃ names, NamesMembers e.values names ∧
      (EnumBlock.ofType name e).text = "enum " ++ name ++ " \x7b\n"
        ++ Text.joinWith "\n" (List.zipWith memberLine names e.values) ++ "\n\x7d" := by
  have hused : ∀ v ∈ e.values, isIdentifier v = true → v ∈ e.values.filter isIdentifier :=
    fun v hv hidentifier => List.mem_filter.mpr ⟨hv, hidentifier⟩
  obtain ⟨hnodup, -⟩ := nodup_names_ofValues hvalues hused
  obtain ⟨hmeant, hidentifiers⟩ := ofValues_spec (e.values.filter isIdentifier) e.values
  refine ⟨(Member.ofValues (e.values.filter isIdentifier) e.values).map Member.name,
    ⟨?_, hnodup, ?_, name_eq_of_isIdentifier _ _⟩, ?_⟩
  · have hlength := congrArg List.length hmeant
    rwa [List.length_map] at hlength ⊢
  · intro n hn
    obtain ⟨m, hm, rfl⟩ := List.mem_map.mp hn
    exact hidentifiers m hm
  · rw [EnumBlock.text, EnumBlock.ofType, map_text_ofValues]

/-- Values whose made-up names are identifiers among the values, in front of these and behind. -/
def crowdedMood : EnumType :=
  { schema := "", name := "mood", values := ["a b", "a_b", "a-b", "a_b2", "", "value_"] }

theorem exists_names_crowdedMood :
    crowdedMood.values.Nodup ∧
      (∃ names, NamesMembers crowdedMood.values names ∧
        (EnumBlock.ofType "Mood" crowdedMood).text = "enum Mood \x7b\n"
          ++ Text.joinWith "\n" (List.zipWith memberLine names crowdedMood.values) ++ "\n\x7d") ∧
      (EnumBlock.ofType "Mood" crowdedMood).members.map Member.name
        = ["a_b3", "a_b", "a_b4", "a_b2", "value_2", "value_"] := by
  have hvalues : crowdedMood.values.Nodup := by decide
  exact ⟨hvalues, exists_names_enumBlock "Mood" crowdedMood hvalues, by decide +kernel⟩

end SqlWorkbench.Prisma
