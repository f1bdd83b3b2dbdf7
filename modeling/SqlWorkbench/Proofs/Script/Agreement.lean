import Mathlib.Data.List.Forall2
import Mathlib.Tactic.Common
import SqlWorkbench.Proofs.Script.Cuts
import SqlWorkbench.Proofs.Script.Relexing
import SqlWorkbench.Proofs.Script.Spans

/-!
# Scripts that say the same

The groups of two scripts say the same if they span the same lines and have, white space aside, the
same lexemes in their statements. Parts that differ in the gaps between their lines only give such
groups. Main statement: statements with the same lexemes are cut at the same terminators.
-/

namespace SqlWorkbench

open Lexeme

/-! ### Parts on the same lines -/

/-- White space aside, two statements have the same lexemes. -/
def SameTokens (s t : String) : Prop :=
  tokens s = tokens t

/-- Two scripts say the same on the same lines. -/
def SameGroups (gs hs : List StatementGroup) : Prop :=
  List.Forall₂ (StatementGroup.Matches 0 SameTokens) gs hs

namespace Lexeme

variable {l : Lexeme} {p q x y : List Lexeme} {ps qs : List (List Lexeme)}

/-- Two parts hold the same on the same lines. -/
structure Alike (p q : List Lexeme) : Prop where
  ink_eq : ink p = ink q
  breaks_eq : breaks p = breaks q
  leading_eq : breaks (leading p) = breaks (leading q)
  inked_eq : inkedBreaks p = inkedBreaks q

lemma Alike.refl (p : List Lexeme) : Alike p p :=
  ⟨rfl, rfl, rfl, rfl⟩

lemma Alike.all_eq (h : Alike p q) : p.all isGap = q.all isGap := by
  rw [Bool.eq_iff_iff, List.all_eq_true, List.all_eq_true, ← ink_eq_nil_iff, ← ink_eq_nil_iff,
    h.ink_eq]

/-- One gap is as good as another with as many line breaks. -/
lemma alike_of_gap {gap gap' : List Lexeme} (hgap : gap.all isGap = true)
    (hgap' : gap'.all isGap = true) (hbreaks : breaks gap = breaks gap') :
    Alike (x ++ gap ++ y) (x ++ gap' ++ y) := by
  have hink {g : List Lexeme} (hg : g.all isGap = true) : ink g = [] :=
    ink_eq_nil_iff.mpr (List.all_eq_true.mp hg)
  refine ⟨?_, ?_, ?_, ?_⟩
  · simp [hink hgap, hink hgap']
  · simp [hbreaks]
  · cases hx : x.all isGap with
    | true =>
      have hall {g : List Lexeme} (hg : g.all isGap = true) : (x ++ g).all isGap = true := by
        rw [List.all_append, hx, hg, Bool.and_true]
      rw [leading_append_of_all (hall hgap), leading_append_of_all (hall hgap')]
      simp [hbreaks]
    | false => rw [List.append_assoc, List.append_assoc, leading_append hx, leading_append hx]
  · cases hy : y.all isGap with
    | true =>
      rw [inkedBreaks_append_gap hy, inkedBreaks_append_gap hy, inkedBreaks_append_gap hgap,
        inkedBreaks_append_gap hgap']
    | false =>
      rw [inkedBreaks_append hy, inkedBreaks_append hy]
      simp [hbreaks]

lemma spans_matches (h : List.Forall₂ Alike ps qs) (line : Nat) (apart : Bool)
    (hps : ∀ p ∈ ps, tokens (String.ofList (statement p)) = ink p)
    (hqs : ∀ q ∈ qs, tokens (String.ofList (statement q)) = ink q) :
    List.Forall₂ (fun s t => s.apart = t.apart ∧ Span.Matches 0 SameTokens s t)
      (spans line apart ps) (spans line apart qs) := by
  induction h generalizing line apart with
  | nil => exact .nil
  | @cons p q ps qs hpq h ih =>
    rw [List.forall_mem_cons] at hps hqs
    have hend : ps.isEmpty = qs.isEmpty := by cases h <;> rfl
    rw [spans, spans, hpq.all_eq, hpq.breaks_eq, hpq.leading_eq, hpq.inked_eq, hend]
    split
    · exact ih _ _ hps.2 hqs.2
    · refine .cons ⟨rfl, rfl, rfl, ?_⟩ (ih _ _ hps.2 hqs.2)
      rw [SameTokens, hps.1, hqs.1, hpq.ink_eq]

/-! ### What the statements hold -/

/-- What the statements of parts hold. -/
def inks (ps : List (List Lexeme)) : List (List Lexeme) :=
  (ps.map ink).filter (!·.isEmpty)

lemma inks_append (ps qs : List (List Lexeme)) : inks (ps ++ qs) = inks ps ++ inks qs := by
  simp [inks]

lemma inks_cons_of_nil (hp : ink p = []) : inks (p :: ps) = inks ps := by
  simp [inks, hp]

lemma inks_cons_of_ne (hp : ink p ≠ []) : inks (p :: ps) = ink p :: inks ps := by
  simp [inks, hp]

/-- A lexeme that stands as a terminator in a statement is one. -/
lemma eq_semicolon_of_head?_ink (h : (ink [l]).head? = some semicolon) : l = semicolon := by
  cases hl : l.isGap with
  | true =>
    rw [ink_eq_nil_iff.mpr (by simpa using hl)] at h
    simp at h
  | false =>
    have htrimmed : l.trimmed = semicolon := by simpa [ink_cons hl] using h
    cases l with
    | quoted quote body closed | dollarQuoted tag body closed =>
      cases closed <;> simp [trimmed] at htrimmed
    | _ => exact htrimmed

end Lexeme

namespace Scan

variable {s s' : Scan} {part part' ls : List Lexeme}

/-- No statement begins with a terminator: outside blocks it ends the part in front of it. -/
lemma head?_ne_of_mem_inks (part : List Lexeme) (hblocks : ink part = [] → s.blocks = [])
    (hpart : (ink part).head? ≠ some .semicolon) :
    ∀ i ∈ inks (s.parts part ls), i.head? ≠ some .semicolon := by
  induction ls generalizing s part with
  | nil =>
    intro i hi
    obtain rfl : i = ink part := by simpa using (List.mem_filter.mp hi).1
    exact hpart
  | cons l ls ih =>
    rw [parts]
    split
    · next hcut =>
      obtain ⟨rfl, hnil⟩ := hcut
      -- A new part begins outside blocks, and so does the scan behind it.
      have hrest := ih (s := s.step .semicolon ls) [] (fun _ => hnil) (by simp [ink])
      intro i hi
      rcases eq_or_ne (ink part) [] with hempty | hne
      · rw [inks_cons_of_nil hempty] at hi
        exact hrest i hi
      · rw [inks_cons_of_ne hne, List.mem_cons] at hi
        rcases hi with rfl | hi
        · exact hpart
        · exact hrest i hi
    · next hcut =>
      apply ih
      · intro hempty
        rw [ink_append, List.append_eq_nil_iff] at hempty
        have hgap : l.isGap = true := ink_eq_nil_iff.mp hempty.2 l List.mem_cons_self
        cases l with
        | word letters => simp [isGap] at hgap
        | _ => exact hblocks hempty.1
      · rw [ink_append]
        rcases eq_or_ne (ink part) [] with hempty | hne
        · intro hhead
          rw [hempty, List.nil_append] at hhead
          exact hcut ⟨eq_semicolon_of_head?_ink hhead, hblocks hempty⟩
        · rwa [List.head?_append_of_ne_nil _ hne]

/-- The statements show whether a terminator ends one: otherwise it stands in it. -/
lemma inks_parts_ne (hblocks : s.blocks = []) (hblocks' : s'.blocks ≠ [])
    (hink : ink part = ink part') :
    inks (s.parts part (.semicolon :: ls)) ≠ inks (s'.parts part' (.semicolon :: ls)) := by
  intro heq
  rw [parts, parts, if_pos ⟨rfl, hblocks⟩, if_neg fun hcut => hblocks' hcut.2] at heq
  obtain ⟨more, rest, hmore⟩ :=
    exists_parts_eq (s'.step .semicolon ls) (part' ++ [.semicolon]) ls
  have hlong : ink (part' ++ [.semicolon] ++ more) = ink part ++ .semicolon :: ink more := by
    rw [ink_append, ink_append, hink, List.append_assoc]
    rfl
  have hne : ink (part' ++ [.semicolon] ++ more) ≠ [] := by
    rw [hlong]
    simp
  -- The second scan has the terminator in a statement, behind what the first one has before it.
  rw [hmore, inks_cons_of_ne hne, hlong] at heq
  rcases eq_or_ne (ink part) [] with hempty | hne
  · rw [inks_cons_of_nil hempty, hempty] at heq
    exact head?_ne_of_mem_inks (s := s.step .semicolon ls) [] (fun _ => hblocks)
      (by simp [ink]) _ (heq ▸ List.mem_cons_self) rfl
  · rw [inks_cons_of_ne hne, List.cons_eq_cons] at heq
    simpa using congrArg List.length heq.1

/-- Statements that hold the same are cut at the same terminators. -/
lemma sameCuts_of_inks_eq (part part' : List Lexeme) (hink : ink part = ink part')
    (h : inks (s.parts part ls) = inks (s'.parts part' ls)) : SameCuts [] [] s s' ls := by
  induction ls generalizing s s' part part' with
  | nil => trivial
  | cons l ls ih =>
    rw [SameCuts, List.append_nil]
    by_cases hcut : l = .semicolon ∧ s.blocks = []
    · obtain ⟨rfl, hblocks⟩ := hcut
      have hblocks' : s'.blocks = [] := by
        by_contra hne
        exact inks_parts_ne hblocks hne hink h
      refine ⟨fun _ => by simp [hblocks, hblocks'], ih [] [] rfl ?_⟩
      rw [parts, parts, if_pos ⟨rfl, hblocks⟩, if_pos ⟨rfl, hblocks'⟩] at h
      rcases eq_or_ne (ink part) [] with hempty | hne
      · rwa [inks_cons_of_nil hempty, inks_cons_of_nil (hink ▸ hempty)] at h
      · rw [inks_cons_of_ne hne, inks_cons_of_ne (hink ▸ hne)] at h
        exact (List.cons_eq_cons.mp h).2
    · have hcut' : ¬ (l = .semicolon ∧ s'.blocks = []) := by
        rintro ⟨rfl, hblocks'⟩
        exact inks_parts_ne hblocks' (fun hblocks => hcut ⟨rfl, hblocks⟩) hink.symm h.symm
      rw [parts, parts, if_neg hcut, if_neg hcut'] at h
      refine ⟨fun hl => ?_, ih _ _ (by rw [ink_append, ink_append, hink]) h⟩
      exact iff_of_false (fun hnil => hcut ⟨hl, hnil⟩) fun hnil => hcut' ⟨hl, hnil⟩

end Scan

namespace Script

variable {a b : String}

lemma sameGroups_of_alike (h : List.Forall₂ Alike (parts a) (parts b)) :
    SameGroups (groups a) (groups b) := by
  rw [groups_eq_gather, groups_eq_gather]
  exact StatementGroup.gather_matches .nil
    (spans_matches h 1 false (fun _ => tokens_statement) fun _ => tokens_statement)

/-- White space aside, the statements of a script hold what its parts hold. -/
lemma map_tokens_statements (text : String) :
    (statements text).map tokens = inks (parts text) := by
  have hnil (p : List Lexeme) (hp : p ∈ parts text) :
      (!(statement p).isEmpty) = !(ink p).isEmpty := by
    rw [Bool.not_inj_iff, Bool.eq_iff_iff, List.isEmpty_iff, List.isEmpty_iff,
      statement_eq_nil_iff (sound_of_mem_parts hp).1, List.all_eq_true, ink_eq_nil_iff]
  rw [statements_eq, Scan.statementsOf, inks, List.filter_map, List.filter_map, List.map_map,
    List.map_map]
  simp only [Function.comp_def]
  rw [List.filter_congr hnil]
  exact List.map_congr_left fun p hp => tokens_statement (List.mem_filter.mp hp).1

lemma forall₂_sameTokens (h : SameGroups (groups a) (groups b)) :
    List.Forall₂ SameTokens (statements a) (statements b) :=
  List.rel_flatMap h fun _ _ hg => hg.statements

lemma inks_eq_of_sameGroups (h : SameGroups (groups a) (groups b)) :
    inks (parts a) = inks (parts b) := by
  rw [← map_tokens_statements, ← map_tokens_statements, ← List.forall₂_eq_eq_eq,
    List.forall₂_map_left_iff, List.forall₂_map_right_iff]
  exact forall₂_sameTokens h

end Script

end SqlWorkbench
