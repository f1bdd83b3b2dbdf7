import Mathlib.Order.Bounds.Basic
import SqlWorkbench.Proofs.Codegen.FreshNames

/-!
# Names that are claimed one after the other

A candidate that is taken is followed by numbers until it is free. The search has no measure that
falls: it ends because candidates with different numbers differ, while only finitely many names are
in use. Main statement: every call for a name ends, with a name that was not in use and is the
candidate or the candidate with the least number that is free, and calls one after the other take
names that are all different.
-/

namespace SqlWorkbench.Naming

variable {used : List String} {candidate name found other : String} {number fuel : Nat}

/-! ### The search for a free name -/

/-- The search that holds a name, and the number that is tried after it, ends with a name. -/
inductive Ends (used : List String) (candidate : String) : String → Nat → String → Prop
  | free {name : String} {number : Nat} (h : name ∉ used) : Ends used candidate name number name
  | taken {name found : String} {number : Nat} (h : name ∈ used)
      (hnext : Ends used candidate (candidate ++ toString number) (number + 1) found) :
      Ends used candidate name number found

lemma Ends.unique (h : Ends used candidate name number found)
    (h' : Ends used candidate name number other) : found = other := by
  induction h with
  | free hfree =>
    cases h' with
    | free => rfl
    | taken htaken => exact absurd htaken hfree
  | taken htaken _ ih =>
    cases h' with
    | free hfree => exact absurd htaken hfree
    | taken _ hnext => exact ih hnext

lemma Ends.not_mem (h : Ends used candidate name number found) : found ∉ used := by
  induction h with
  | free h => exact h
  | taken _ _ ih => exact ih

/-- The numbers that the search passes over make names that are in use. -/
lemma Ends.eq_or_exists (h : Ends used candidate name number found) :
    found = name ∨ ∃ n, number ≤ n ∧ found = candidate ++ toString n ∧
      ∀ k, number ≤ k → k < n → candidate ++ toString k ∈ used := by
  induction h with
  | free => exact .inl rfl
  | @taken name found number _ hnext ih =>
    refine .inr ?_
    obtain rfl | ⟨n, hn, rfl, hbelow⟩ := ih
    · exact ⟨number, Nat.le_refl number, rfl, fun k hk hlt => absurd hk (Nat.not_le.mpr hlt)⟩
    have hused : candidate ++ toString number ∈ used := by
      by_contra hfree
      have hsame := append_toString_injective candidate (hnext.unique (.free hfree))
      omega
    refine ⟨n, by omega, rfl, fun k hk hlt => ?_⟩
    rcases Nat.eq_or_lt_of_le hk with rfl | hk
    · exact hused
    · exact hbelow k hk hlt

/-- The numbers that are tried are enough if the last one is free. -/
lemma ends_numbered (h : numbered used candidate number fuel ∉ used) :
    Ends used candidate (candidate ++ toString number) (number + 1)
      (numbered used candidate number fuel) := by
  fun_induction numbered used candidate number fuel with
  | case1 number => exact .free h
  | case2 number fuel hused ih => exact .taken (List.contains_iff_mem.mp hused) (ih h)
  | case3 number fuel hused => exact .free h

lemma ends_free (used : List String) (candidate : String) :
    Ends used candidate candidate 2 (free used candidate) := by
  rw [free]
  split
  · next h => exact .taken (List.contains_iff_mem.mp h) (ends_numbered (numbered_not_mem 2))
  · next h => exact .free (by simpa using h)

/-! ### Calls for names -/

/-- A call for a name: for a candidate, or for a relation by its base and the column it comes
from. -/
inductive NameCall where
  | candidate (name : String)
  | relation (base sourceColumn : String)

/-- The name that a call takes, and the names that are in use after it. -/
def NameCall.take (used : List String) : NameCall → String × List String
  | .candidate name => claim used name
  | .relation base sourceColumn => claimRelation used base sourceColumn

/-- The names that calls take one after the other, and the names that are in use after them. -/
def takeAll (used : List String) : List NameCall → List String × List String
  | [] => ([], used)
  | call :: rest =>
    let (name, used) := call.take used
    let (names, used) := takeAll used rest
    (name :: names, used)

@[simp] lemma takeAll_nil (used : List String) : takeAll used [] = ([], used) := rfl

@[simp] lemma takeAll_cons (used : List String) (call : NameCall) (rest : List NameCall) :
    takeAll used (call :: rest) = ((call.take used).1 :: (takeAll (call.take used).2 rest).1,
      (takeAll (call.take used).2 rest).2) := rfl

/-- The search for the candidate ends with the name and no other: with the candidate if that is
free, and otherwise with the candidate and the least number from two on that makes it free. -/
structure Settles (used : List String) (candidate name : String) : Prop where
  ends_iff : ∀ found, Ends used candidate candidate 2 found ↔ found = name
  of_not_mem : candidate ∉ used → name = candidate
  of_mem : candidate ∈ used →
    ∃ n, IsLeast {n : Nat | 2 ≤ n ∧ candidate ++ toString n ∉ used} n ∧
      name = candidate ++ toString n

/-- The name is the one that the call is for: a relation is called like its base, and only if that
is taken, it settles for its base with the column. -/
def NameCall.Chooses (used : List String) (name : String) : NameCall → Prop
  | .candidate candidate => Settles used candidate name
  | .relation base sourceColumn =>
    if camelCase base ∈ used then Settles used (camelCase (base ++ "_" ++ sourceColumn)) name
    else name = camelCase base

/-- A call takes a name that was not in use, the one that it is for, and no name but this one comes
into use. -/
structure NameCall.Takes (used : List String) (call : NameCall) (taken : String × List String) :
    Prop where
  fresh : taken.1 ∉ used
  mem_iff : ∀ name, name ∈ taken.2 ↔ name = taken.1 ∨ name ∈ used
  chooses : call.Chooses used taken.1

lemma settles_free (used : List String) (candidate : String) :
    Settles used candidate (free used candidate) := by
  have hends := ends_free used candidate
  refine ⟨fun found => ⟨fun h => h.unique hends, fun h => h ▸ hends⟩, fun h => ?_, fun h => ?_⟩
  · exact hends.unique (.free h)
  · obtain hsame | ⟨n, hn, hname, hbelow⟩ := hends.eq_or_exists
    · exact absurd h (hsame ▸ hends.not_mem)
    · refine ⟨n, ⟨⟨hn, hname ▸ hends.not_mem⟩, fun k hk => ?_⟩, hname⟩
      by_contra hlt
      exact hk.2 (hbelow k hk.1 (Nat.lt_of_not_le hlt))

lemma takes_take (used : List String) (call : NameCall) : call.Takes used (call.take used) := by
  cases call with
  | candidate name =>
    exact ⟨free_not_mem used name, fun _ => List.mem_cons, settles_free used name⟩
  | relation base sourceColumn =>
    obtain ⟨hfresh, hused⟩ := claimRelation_spec used base sourceColumn
    refine ⟨hfresh.not_mem _ List.mem_cons_self, fun name => ?_, ?_⟩
    · rw [NameCall.take, hused, List.mem_cons]
    · rw [NameCall.Chooses, NameCall.take, claimRelation]
      simp only [List.contains_iff_mem]
      split
      · exact settles_free used _
      · rfl

lemma snd_take (used : List String) (call : NameCall) :
    (call.take used).2 = (call.take used).1 :: used := by
  cases call with
  | candidate name => rfl
  | relation base sourceColumn => exact (claimRelation_spec used base sourceColumn).2

lemma fresh_takeAll (used : List String) (calls : List NameCall) :
    Fresh used (takeAll used calls).1 := by
  induction calls generalizing used with
  | nil => exact fresh_nil used
  | cons call rest ih =>
    rw [takeAll_cons, snd_take]
    have hrest := ih ((call.take used).1 :: used)
    exact (fresh_singleton (takes_take used call).fresh).append hrest

lemma mem_takeAll (used : List String) (calls : List NameCall) (name : String) :
    name ∈ (takeAll used calls).2 ↔ name ∈ (takeAll used calls).1 ∨ name ∈ used := by
  induction calls generalizing used with
  | nil => simp
  | cons call rest ih =>
    simp only [takeAll_cons, ih, (takes_take used call).mem_iff, List.mem_cons]
    tauto

/-- Whatever names are in use, a call ends and takes a new name, and the names that a run of calls
takes differ from each other and from those in use before it. -/
theorem takes_and_fresh (used : List String) (calls : List NameCall) :
    (∀ call : NameCall, call.Takes used (call.take used)) ∧
      Fresh used (takeAll used calls).1 ∧
      (takeAll used calls).1.length = calls.length ∧
      ∀ name, name ∈ (takeAll used calls).2 ↔ name ∈ (takeAll used calls).1 ∨ name ∈ used := by
  refine ⟨takes_take used, fresh_takeAll used calls, ?_, mem_takeAll used calls⟩
  induction calls generalizing used with
  | nil => rfl
  | cons call rest ih => exact congrArg (· + 1) (ih (call.take used).2)

example : (takeAll ["usersEditorId"] [.relation "users" "author_id", .relation "users" "editor_id",
    .relation "users" "editor_id", .candidate "posts", .candidate "posts"]).1
      = ["users", "usersEditorId2", "usersEditorId3", "posts", "posts2"] := by
  decide +kernel

end SqlWorkbench.Naming
