import Mathlib.Data.List.Perm.Subperm
import SqlWorkbench.Codegen.Prisma
import SqlWorkbench.Proofs.Query.Tokens

/-!
# Fresh names

A name that is taken is followed by numbers until it is free. As many numbers are tried as names are
in use, and one more, so that one of them is free. Main statement: the relations of a model have
names that are none of those in use, and that differ from each other.
-/

namespace SqlWorkbench

namespace Naming

variable {used names more : List String} {name candidate : String}

/-! ### Free names -/

lemma append_toString_injective (candidate : String) :
    Function.Injective fun n : Nat => candidate ++ toString n := fun _ _ h =>
  toString_nat_injective ((String.append_right_inj candidate).mp h)

/-- If the name that is found is in use, so are all that were tried. -/
lemma mem_of_numbered_mem {number fuel : Nat} (h : numbered used candidate number fuel ∈ used) :
    ∀ i ≤ fuel, candidate ++ toString (number + i) ∈ used := by
  fun_induction numbered used candidate number fuel with
  | case1 number =>
    intro i hi
    obtain rfl := Nat.le_zero.mp hi
    exact h
  | case2 number fuel hused ih =>
    intro i hi
    cases i with
    | zero => simpa using hused
    | succ i =>
      rw [← Nat.add_assoc, Nat.add_right_comm]
      exact ih h i (Nat.le_of_succ_le_succ hi)
  | case3 number fuel hused =>
    rw [List.contains_iff_mem] at hused
    exact absurd h hused

/-- One name too many was tried for all of them to be in use. -/
lemma numbered_not_mem (number : Nat) : numbered used candidate number used.length ∉ used := by
  intro h
  let tried := (List.range (used.length + 1)).map fun i => candidate ++ toString (number + i)
  have hnodup : tried.Nodup := by
    refine List.nodup_range.map fun i j hij => ?_
    exact Nat.add_left_cancel (append_toString_injective candidate hij)
  have hsubset : tried ⊆ used := by
    intro name hname
    obtain ⟨i, hi, rfl⟩ := List.mem_map.mp hname
    exact mem_of_numbered_mem h i (Nat.le_of_lt_succ (List.mem_range.mp hi))
  have hlength := (hnodup.subperm hsubset).length_le
  simp only [tried, List.length_map, List.length_range] at hlength
  omega

lemma free_not_mem (used : List String) (candidate : String) : free used candidate ∉ used := by
  rw [free]
  split
  · exact numbered_not_mem 2
  · next h => simpa using h

/-! ### Names taken one after the other -/

/-- The names are none of those in use, and differ from each other. -/
structure Fresh (used names : List String) : Prop where
  nodup : names.Nodup
  not_mem : ∀ name ∈ names, name ∉ used

lemma fresh_nil (used : List String) : Fresh used [] :=
  ⟨List.nodup_nil, by simp⟩

lemma Fresh.append (h : Fresh used names) (hmore : Fresh (names.reverse ++ used) more) :
    Fresh used (names ++ more) := by
  constructor
  · refine List.nodup_append.mpr ⟨h.nodup, hmore.nodup, ?_⟩
    rintro name hname _ hother rfl
    exact hmore.not_mem name hother (by simp [hname])
  · intro name hname hused
    rcases List.mem_append.mp hname with hname | hname
    · exact h.not_mem name hname hused
    · exact hmore.not_mem name hname (by simp [hused])

lemma fresh_singleton (h : name ∉ used) : Fresh used [name] :=
  ⟨List.nodup_singleton name, by simpa using h⟩

/-- A relation takes a fresh name. -/
lemma claimRelation_spec (used : List String) (base source : String) :
    Fresh used [(claimRelation used base source).1] ∧
      (claimRelation used base source).2 = (claimRelation used base source).1 :: used := by
  rw [claimRelation]
  split
  · exact ⟨fresh_singleton (free_not_mem used _), rfl⟩
  · next h => exact ⟨fresh_singleton (by simpa using h), rfl⟩

end Naming

/-! ### Relations -/

namespace Prisma

open Naming

/-- The names of the fields are fresh, and those in use afterwards are these and the ones before. -/
def TakesNames (used : List String) (taken : List Field × List String) : Prop :=
  Fresh used (taken.1.map Field.name) ∧ taken.2 = (taken.1.map Field.name).reverse ++ used

lemma takesNames_nil (used : List String) : TakesNames used ([], used) :=
  ⟨fresh_nil used, rfl⟩

lemma TakesNames.append {used : List String} {first second : List Field × List String}
    (hfirst : TakesNames used first) (hsecond : TakesNames first.2 second) :
    TakesNames used (first.1 ++ second.1, second.2) := by
  obtain ⟨hfresh, hused⟩ := hfirst
  obtain ⟨hfresh', hused'⟩ := hsecond
  rw [hused] at hfresh' hused'
  constructor
  · rw [List.map_append]
    exact hfresh.append hfresh'
  · rw [hused']
    simp

lemma takesNames_foreignField (used : List String) (c : Column) (k : ForeignKey) :
    TakesNames used ([(foreignField used c k).1], (foreignField used c k).2) :=
  claimRelation_spec used k.table c.id

lemma takesNames_referenceFields (used : List String) (references : List Reference) :
    TakesNames used (referenceFields used references) := by
  induction references generalizing used with
  | nil => exact takesNames_nil used
  | cons r rest ih =>
    have hfirst : TakesNames used ([⟨(claimRelation used r.table r.column).1,
        pascalCase r.table ++ "[]", []⟩], (claimRelation used r.table r.column).2) :=
      claimRelation_spec used r.table r.column
    exact hfirst.append (ih _)

/-- The relations of a model take names that are not in use, and none of them twice. -/
theorem fresh_relationFields (used : List String) (columns : List Column) :
    Fresh used ((relationFields used columns).map Field.name) := by
  induction columns generalizing used with
  | nil => exact fresh_nil used
  | cons c rest ih =>
    have hstep : ∀ own : List Field × List String, TakesNames used own →
        let others := referenceFields own.2 c.references
        Fresh used ((own.1 ++ others.1 ++ relationFields others.2 rest).map Field.name) := by
      intro own hown others
      obtain ⟨hfresh, hused⟩ := hown.append (takesNames_referenceFields own.2 c.references)
      rw [List.map_append]
      apply hfresh.append
      rw [← hused]
      exact ih others.2
    rw [relationFields.eq_def]
    cases hforeign : c.foreign with
    | none =>
      simp only [hforeign]
      exact hstep ([], used) (takesNames_nil used)
    | some k =>
      simp only [hforeign]
      exact hstep _ (takesNames_foreignField used c k)

end Prisma

end SqlWorkbench
