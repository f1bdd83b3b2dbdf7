import Mathlib.Tactic.Common
import SqlWorkbench.Postgres.Exchange
import SqlWorkbench.Proofs.Script.Cuts

/-!
# Texts of one statement

A text on one line, comments aside, is its own statement up to the blanks around it, if every
terminator in it stands inside a block. Main statement: such a text is a script of one group with
one statement, and a server gets it as one statement.
-/

namespace SqlWorkbench

open Text

namespace Lexeme

variable {l : Lexeme} {ls gap : List Lexeme}

/-! ### The layout of a text -/

/-- The gaps are blanks, without a line break or a comment. -/
def BlankGaps (ls : List Lexeme) : Prop :=
  ∀ l ∈ ls, l.isGap = true → ∃ c, l = blank c

lemma BlankGaps.of_subset {ks : List Lexeme} (h : BlankGaps ls) (hsub : ks ⊆ ls) : BlankGaps ks :=
  fun k hk => h k (hsub hk)

/-- Blanks show as they are. -/
lemma gapText_of_blank (hgap : ∀ g ∈ gap, ∃ c, g = blank c) : gapText gap = gap.flatMap text := by
  have hbreak : gap.any isBreak = false := by
    rw [List.any_eq_false]
    intro g hg
    obtain ⟨c, rfl⟩ := hgap g hg
    simp
  rw [gapText, hbreak, if_neg (by simp)]
  refine List.flatMap_congr fun g hg => ?_
  obtain ⟨c, rfl⟩ := hgap g hg
  rfl

/-- The layout leaves out the last blanks only. -/
lemma exists_layoutAfter_append (gap : List Lexeme) (hs : ∀ l ∈ gap ++ ls, l.Sound)
    (hgap : ∀ g ∈ gap, ∃ c, g = blank c) (hls : BlankGaps ls) :
    ∃ blanks, (gap ++ ls).flatMap text = layoutAfter gap ls ++ blanks ∧ IsBlanks blanks := by
  induction ls generalizing gap with
  | nil =>
    refine ⟨gapText gap, by simp [gapText_of_blank hgap], isBlanks_gapText fun g hg => ?_⟩
    exact hs g (by simp [hg])
  | cons l ls ih =>
    have htail : BlankGaps ls := hls.of_subset (List.subset_cons_self l ls)
    cases hl : l.isGap with
    | true =>
      obtain ⟨blanks, htext, hblanks⟩ := ih (gap ++ [l]) (by simpa using hs)
        (List.forall_mem_append.mpr ⟨hgap, by simpa using hls l (by simp) hl⟩) htail
      refine ⟨blanks, ?_, hblanks⟩
      rw [layoutAfter_of_isGap hl, ← htext, List.append_assoc, List.singleton_append]
    | false =>
      obtain ⟨blanks, htext, hblanks⟩ := ih []
        (fun k hk => hs k (by simp at hk; simp [hk])) (by simp) htail
      refine ⟨blanks, ?_, hblanks⟩
      rw [List.nil_append] at htext
      rw [layoutAfter_of_not_isGap hl, List.flatMap_append, List.flatMap_cons, htext,
        gapText_of_blank hgap]
      simp only [List.append_assoc]

/-- The blanks in front are the first gap. -/
lemma trimStart_flatMap_text (hs : ∀ l ∈ ls, l.Sound) (hls : BlankGaps ls) :
    trimStart (ls.flatMap text) = (ls.dropWhile isGap).flatMap text := by
  induction ls with
  | nil => rfl
  | cons l ls ih =>
    have hl := hs l (by simp)
    cases hgap : l.isGap with
    | true =>
      obtain ⟨c, rfl⟩ := hls l (by simp) hgap
      rw [List.dropWhile_cons_of_pos hgap, ← ih (fun k hk => hs k (by simp [hk]))
        (hls.of_subset (List.subset_cons_self _ ls))]
      exact List.dropWhile_cons_of_pos (hl.isBlank_of_blank c rfl)
    | false =>
      rw [List.dropWhile_cons_of_neg (by simp [hgap]), trimStart_eq_self]
      rw [List.flatMap_cons, List.head?_append_of_ne_nil _ hl.text_ne_nil]
      exact hl.starts hgap

lemma statement_eq_trim (hs : ∀ l ∈ ls, l.Sound) (hls : BlankGaps ls) :
    statement ls = trim (ls.flatMap text) := by
  have hsub : ls.dropWhile isGap ⊆ ls := (List.dropWhile_suffix isGap).subset
  obtain ⟨blanks, htext, hblanks⟩ := exists_layoutAfter_append []
    (fun l hl => hs l (hsub hl)) (by simp) (hls.of_subset hsub)
  rw [List.nil_append] at htext
  rw [trim, trimStart_flatMap_text hs hls, htext, trimEnd_append_of_isBlanks hblanks, statement,
    layout]

end Lexeme

namespace Script

open Lexeme

variable {text s : String}

/-- A script of one statement is one group. -/
lemma exists_groups_eq (h : statements text = [s]) :
    ∃ g, groups text = [g] ∧ g.statements = [s] := by
  have hsingle : IsSingle text := by
    rw [isSingle_iff]
    simpa [h] using congrArg List.length (toList_statements text).symm
  obtain ⟨g, hgroups, -⟩ := hsingle
  refine ⟨g, hgroups, ?_⟩
  simpa [statements, hgroups] using h

/-- Without a cut, a text on one line is its own statement. -/
theorem statements_of_uncut (hgaps : BlankGaps (ofText text.toList))
    (huncut : Scan.Uncut [] {} (ofText text.toList)) (hne : trim text.toList ≠ []) :
    statements text = [String.ofList (trim text.toList)] := by
  have hparts : parts text = [ofText text.toList] := by
    obtain ⟨s, hs⟩ := Scan.parts_of_uncut [] huncut
    simpa [parts] using hs
  have hstatement := statement_eq_trim (fitting_ofText text.toList).sound hgaps
  rw [flatMap_text_ofText] at hstatement
  rw [statements_eq, hparts, Scan.statementsOf]
  simp [hstatement, hne]

lemma hasSeveralStatements_of_groups {g : StatementGroup} (hgroups : groups text = [g])
    (hg : g.statements = [s]) : Postgres.Exchange.hasSeveralStatements text = false := by
  simp [Postgres.Exchange.hasSeveralStatements, statements, hgroups, hg]

end Script

end SqlWorkbench
