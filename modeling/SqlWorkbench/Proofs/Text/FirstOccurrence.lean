import Mathlib.Data.List.Infix
import Mathlib.Tactic.Common
import SqlWorkbench.Text.Join

/-!
# First occurrences

A text is split at the first occurrence of a mark. What stands before it, with all of the mark but
its last character behind, does not contain the mark, and this tells the first occurrence from the
later ones.
-/

namespace SqlWorkbench.Text

variable {mark s before after : List Char}

/-- The mark does not occur in the text, nor across its end when the mark itself follows. -/
def FreeOf (mark s : List Char) : Prop :=
  ¬ mark <:+: s ++ mark.dropLast

lemma dropPrefix?_eq_none_iff : dropPrefix? mark s = none ↔ ¬ mark <+: s := by
  rw [Option.eq_none_iff_forall_ne_some]
  constructor
  · rintro h ⟨rest, rfl⟩
    exact h rest (dropPrefix?_eq_some_iff.mpr rfl)
  · intro h rest hrest
    exact h ⟨rest, (dropPrefix?_eq_some_iff.mp hrest).symm⟩

lemma freeOf_nil (hm : mark ≠ []) : FreeOf mark [] := by
  intro h
  have hlen := h.length_le
  have hpos := List.length_pos_iff.mpr hm
  simp only [List.nil_append, List.length_dropLast] at hlen
  omega

/-- A mark in front of a text that goes on with the mark stands there in the free part as well. -/
lemma not_freeOf_cons {c : Char}
    (h : mark <+: c :: (s ++ mark ++ after)) : ¬ FreeOf mark (c :: s) := by
  have hp : c :: s ++ mark.dropLast <+: c :: (s ++ mark ++ after) := by
    have hd : mark.dropLast <+: mark ++ after :=
      (List.dropLast_prefix mark).trans (List.prefix_append mark after)
    simpa using List.prefix_append_right_inj (c :: s) |>.mpr hd
  have hl : mark.length ≤ (c :: s ++ mark.dropLast).length := by
    simp only [List.length_append, List.length_cons, List.length_dropLast]
    omega
  exact fun hfree => hfree (List.prefix_of_prefix_length_le h hp hl).isInfix

lemma freeOf_cons_iff {c : Char} :
    FreeOf mark (c :: s) ↔ ¬ mark <+: c :: (s ++ mark.dropLast) ∧ FreeOf mark s := by
  rw [FreeOf, FreeOf, List.cons_append, List.infix_cons_iff, not_or]

/-- The split is at an occurrence with none before it. -/
lemma splitAt?_eq_some_iff (hm : mark ≠ []) :
    splitAt? mark s = some (before, after) ↔ s = before ++ mark ++ after ∧ FreeOf mark before := by
  induction s generalizing before with
  | nil =>
    have hn : dropPrefix? mark [] = none := by
      rw [dropPrefix?_eq_none_iff]
      simpa using hm
    simp [splitAt?, hn, hm]
  | cons c s ih =>
    rw [splitAt?]
    split
    · next rest hrest =>
      have hs := dropPrefix?_eq_some_iff.mp hrest
      constructor
      · rintro ⟨⟩
        exact ⟨by simpa using hs, freeOf_nil hm⟩
      · rintro ⟨heq, hfree⟩
        cases before with
        | nil =>
          rw [heq] at hs
          simpa [eq_comm] using hs
        | cons b before =>
          rw [List.cons_append, List.cons_append] at heq
          exact absurd hfree (not_freeOf_cons ⟨rest, by rw [← heq, hs]⟩)
    · next hnone =>
      rw [dropPrefix?_eq_none_iff] at hnone
      simp only [Option.map_eq_some_iff, Prod.mk.injEq, Prod.exists]
      constructor
      · rintro ⟨b, a, hsplit, rfl, rfl⟩
        obtain ⟨rfl, hfree⟩ := ih.mp hsplit
        refine ⟨rfl, freeOf_cons_iff.mpr ⟨fun hp => hnone (hp.trans ?_), hfree⟩⟩
        have hd : mark.dropLast <+: mark ++ a :=
          (List.dropLast_prefix mark).trans (List.prefix_append mark a)
        simpa using hd
      · rintro ⟨heq, hfree⟩
        cases before with
        | nil => exact absurd ⟨after, heq.symm⟩ hnone
        | cons b before =>
          rw [List.cons_append, List.cons_append, List.cons.injEq] at heq
          obtain ⟨rfl, heq⟩ := heq
          exact ⟨before, after, ih.mpr ⟨heq, (freeOf_cons_iff.mp hfree).2⟩, rfl, rfl⟩

/-- There is no split exactly if the mark does not occur. -/
lemma splitAt?_eq_none_iff (hm : mark ≠ []) : splitAt? mark s = none ↔ ¬ mark <:+: s := by
  induction s with
  | nil =>
    have hn : dropPrefix? mark [] = none := by
      rw [dropPrefix?_eq_none_iff]
      simpa using hm
    simp [splitAt?, hn, hm]
  | cons c s ih =>
    rw [splitAt?, List.infix_cons_iff, not_or]
    split
    · next rest hrest =>
      have hp : mark <+: c :: s := ⟨rest, (dropPrefix?_eq_some_iff.mp hrest).symm⟩
      simp [hp]
    · next hnone =>
      rw [dropPrefix?_eq_none_iff] at hnone
      simp [hnone, ih]

end SqlWorkbench.Text
