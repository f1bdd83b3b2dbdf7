import Mathlib.Data.List.Induction
import Mathlib.Data.List.Nodup
import Mathlib.Tactic.Common

/-!
# Gathering rows under keys

The catalog tells in many rows what belongs together. The rows are entered one by one, each into the
group of its key or as a new group behind all others. After any number of rows the groups have the
keys of the rows in order of first appearance, and each is made from exactly the rows with its key.
-/

namespace SqlWorkbench

/-! ### Lists without repetitions -/

section Repetitions

variable {α β : Type} [BEq α] [LawfulBEq α]

lemma nodup_eraseDups (l : List α) : l.eraseDups.Nodup := by
  match l with
  | [] => simp
  | a :: l =>
    rw [List.eraseDups_cons, List.nodup_cons]
    refine ⟨?_, nodup_eraseDups (l.filter fun b => !b == a)⟩
    simp
termination_by l.length
decreasing_by
  exact Nat.lt_succ_of_le (List.length_filter_le _ _)

/-- Only an element that was not there before is seen at the end. -/
lemma eraseDups_concat (l : List α) (a : α) :
    (l ++ [a]).eraseDups = if a ∈ l then l.eraseDups else l.eraseDups ++ [a] := by
  rw [List.eraseDups_append]
  split
  · next ha => simp [List.removeAll, ha]
  · next ha => simp [List.removeAll, ha, List.eraseDups_cons]

/-- Where a function tells the elements apart it keeps their order of first appearance. -/
lemma eraseDups_map_of_inj_on [BEq β] [LawfulBEq β] {f : α → β} {l : List α}
    (hf : ∀ a ∈ l, ∀ b ∈ l, f a = f b → a = b) : (l.map f).eraseDups = l.eraseDups.map f := by
  induction l using List.reverseRecOn with
  | nil => rfl
  | append_singleton l a ih =>
    have hl : ∀ b ∈ l, ∀ c ∈ l, f b = f c → b = c := fun b hb c hc =>
      hf b (List.mem_append_left _ hb) c (List.mem_append_left _ hc)
    have hmem : f a ∈ l.map f ↔ a ∈ l := by
      refine ⟨fun h => ?_, List.mem_map_of_mem⟩
      obtain ⟨b, hb, heq⟩ := List.mem_map.mp h
      exact hf b (List.mem_append_left _ hb) a (by simp) heq ▸ hb
    rw [List.map_append, List.map_singleton, eraseDups_concat, eraseDups_concat, ih hl]
    simp only [hmem]
    split <;> simp

end Repetitions

/-! ### Entering a row -/

variable {α β κ : Type} {rowKey : α → κ} {groupKey : β → κ} {first : α → β}
  {add : β → α → β} {enter : List β → α → List β} {rows rest : List α}
  {groups before after : List β} {r : α} {g : β}

/-- A row is added to the group of its key, or it begins a group at the end. -/
structure Gathers (rowKey : α → κ) (groupKey : β → κ) (first : α → β) (add : β → α → β)
    (enter : List β → α → List β) : Prop where
  enter_nil : ∀ r, enter [] r = [first r]
  enter_cons_of_eq : ∀ g groups r, groupKey g = rowKey r →
    enter (g :: groups) r = add g r :: groups
  enter_cons_of_ne : ∀ g groups r, groupKey g ≠ rowKey r →
    enter (g :: groups) r = g :: enter groups r
  key_first : ∀ r, groupKey (first r) = rowKey r
  key_add : ∀ g r, groupKey (add g r) = groupKey g

namespace Gathers

lemma enter_of_not_mem (h : Gathers rowKey groupKey first add enter)
    (hr : rowKey r ∉ groups.map groupKey) : enter groups r = groups ++ [first r] := by
  induction groups with
  | nil => exact h.enter_nil r
  | cons g groups ih =>
    rw [List.map_cons, List.mem_cons, not_or] at hr
    rw [h.enter_cons_of_ne g groups r (Ne.symm hr.1), ih hr.2, List.cons_append]

lemma enter_append_cons (h : Gathers rowKey groupKey first add enter)
    (hbefore : rowKey r ∉ before.map groupKey) (hg : groupKey g = rowKey r) :
    enter (before ++ g :: after) r = before ++ add g r :: after := by
  induction before with
  | nil => exact h.enter_cons_of_eq g after r hg
  | cons b before ih =>
    rw [List.map_cons, List.mem_cons, not_or] at hbefore
    rw [List.cons_append, h.enter_cons_of_ne b _ r (Ne.symm hbefore.1), ih hbefore.2,
      List.cons_append]

/-- Rows with a key of their own, one behind the other, make one group at the end. -/
lemma foldl_cons_of_not_mem (h : Gathers rowKey groupKey first add enter)
    (hr : rowKey r ∉ groups.map groupKey) (hrest : ∀ s ∈ rest, rowKey s = rowKey r) :
    (r :: rest).foldl enter groups = groups ++ [rest.foldl add (first r)] := by
  have hadd {g : β} (hg : groupKey g = rowKey r) :
      rest.foldl enter (groups ++ [g]) = groups ++ [rest.foldl add g] := by
    induction rest generalizing g with
    | nil => rfl
    | cons s rest ih =>
      obtain ⟨hs, hrest⟩ := List.forall_mem_cons.mp hrest
      rw [← hs] at hr hg
      rw [List.foldl_cons, List.foldl_cons, h.enter_append_cons hr hg]
      exact ih hrest (by rw [h.key_add, hg, hs])
  rw [List.foldl_cons, h.enter_of_not_mem hr, hadd (h.key_first r)]

end Gathers

/-! ### What has been gathered -/

variable [DecidableEq κ]

/-- The groups have the keys of the rows, and each is made from the rows with its key. -/
structure Gathered (rowKey : α → κ) (groupKey : β → κ) (first : α → β) (add : β → α → β)
    (rows : List α) (groups : List β) : Prop where
  keys : groups.map groupKey = (rows.map rowKey).eraseDups
  group : ∀ g ∈ groups, ∃ r rest,
    rows.filter (fun s => rowKey s = groupKey g) = r :: rest ∧ g = rest.foldl add (first r)

namespace Gathered

lemma nodup_keys (h : Gathered rowKey groupKey first add rows groups) :
    (groups.map groupKey).Nodup := by
  rw [h.keys]
  exact nodup_eraseDups _

/-- A group of another key does not see the row. -/
lemma group_concat_of_ne (h : Gathered rowKey groupKey first add rows groups) (hg : g ∈ groups)
    (hne : groupKey g ≠ rowKey r) : ∃ s rest,
      (rows ++ [r]).filter (fun s => rowKey s = groupKey g) = s :: rest ∧
        g = rest.foldl add (first s) := by
  obtain ⟨s, rest, hrows, hmade⟩ := h.group g hg
  refine ⟨s, rest, ?_, hmade⟩
  rw [List.filter_append, hrows]
  simp [Ne.symm hne]

/-- One more row. -/
lemma concat (h : Gathers rowKey groupKey first add enter)
    (hrows : Gathered rowKey groupKey first add rows groups) (r : α) :
    Gathered rowKey groupKey first add (rows ++ [r]) (enter groups r) := by
  have hseen : rowKey r ∈ rows.map rowKey ↔ rowKey r ∈ groups.map groupKey := by
    rw [hrows.keys, List.mem_eraseDups]
  by_cases hr : rowKey r ∈ groups.map groupKey
  · obtain ⟨g, hg, hkey⟩ := List.mem_map.mp hr
    obtain ⟨s, rest, hmade, rfl⟩ := hrows.group g hg
    obtain ⟨before, after, rfl⟩ := List.append_of_mem hg
    have hnodup := hrows.nodup_keys
    rw [List.map_append, List.map_cons, List.nodup_middle, List.nodup_cons, hkey,
      List.mem_append, not_or] at hnodup
    have hne : ∀ g ∈ before ++ after, groupKey g ≠ rowKey r := by
      rintro g hg heq
      rcases List.mem_append.mp hg with hg | hg
      · exact hnodup.1.1 (heq ▸ List.mem_map_of_mem hg)
      · exact hnodup.1.2 (heq ▸ List.mem_map_of_mem hg)
    rw [h.enter_append_cons hnodup.1.1 hkey]
    refine ⟨?_, fun g hg => ?_⟩
    · have hkeys := hrows.keys
      rw [List.map_append, List.map_cons] at hkeys
      rw [List.map_append, List.map_cons, h.key_add, hkeys, List.map_append, List.map_singleton,
        eraseDups_concat, if_pos (hseen.mpr hr)]
    · rw [List.mem_append, List.mem_cons] at hg
      rcases hg with hg | rfl | hg
      · exact hrows.group_concat_of_ne (by simp [hg]) (hne g (by simp [hg]))
      · refine ⟨s, rest ++ [r], ?_, by rw [List.foldl_append]; rfl⟩
        rw [List.filter_append, h.key_add, hmade]
        simp [hkey]
      · exact hrows.group_concat_of_ne (by simp [hg]) (hne g (by simp [hg]))
  · rw [h.enter_of_not_mem hr]
    refine ⟨?_, fun g hg => ?_⟩
    · rw [List.map_append, List.map_singleton, h.key_first, hrows.keys, List.map_append,
        List.map_singleton, eraseDups_concat, if_neg (mt hseen.mp hr)]
    · rw [List.mem_append, List.mem_singleton] at hg
      rcases hg with hg | rfl
      · exact hrows.group_concat_of_ne hg (ne_of_mem_of_not_mem (List.mem_map_of_mem hg) hr)
      · have hnone : ∀ s ∈ rows, rowKey s ≠ rowKey r := fun s hs heq =>
          mt hseen.mp hr (heq ▸ List.mem_map_of_mem hs)
        refine ⟨r, [], ?_, rfl⟩
        rw [h.key_first, List.filter_append,
          List.filter_eq_nil_iff.mpr fun s hs => by simpa using hnone s hs]
        simp

/-- All rows. -/
lemma of_rows (h : Gathers rowKey groupKey first add enter) (rows : List α) :
    Gathered rowKey groupKey first add rows (rows.foldl enter []) := by
  induction rows using List.reverseRecOn with
  | nil => exact ⟨rfl, by simp⟩
  | append_singleton rows r ih =>
    rw [List.foldl_append]
    exact ih.concat h r

end Gathered

end SqlWorkbench
