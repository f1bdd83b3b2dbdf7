import Mathlib.Tactic.Common
import SqlWorkbench.Proofs.Script.Fidelity
import SqlWorkbench.Proofs.Script.Words

/-!
# Places in statements

Statements bring together what gaps hold apart, but never so close that a new word arises, and no
line of theirs begins anywhere but at their start and inside regions. Main statement: what stands in
a statement, blanks aside, stands at a place of the script that is in no gap, and the other way
round. The same word goes on there, a word may end in front of it in both or in neither, and its
line in the statement reads like a comment exactly if it does with a blank for each gap.
-/

namespace SqlWorkbench

open Text

namespace Lexeme

variable {l k : Lexeme} {ls ks gap rest : List Lexeme} {s t : List Char}

/-! ### Lexemes of a script -/

/-- The lexemes follow one another in some script. -/
def InScript (ls : List Lexeme) : Prop :=
  ∃ s, ls <:+: ofText s

lemma InScript.infix (h : InScript ls) (hks : ks <:+: ls) : InScript ks := by
  obtain ⟨s, hs⟩ := h
  exact ⟨s, hks.trans hs⟩

lemma InScript.sound (h : InScript ls) : ∀ l ∈ ls, l.Sound := by
  obtain ⟨s, hs⟩ := h
  exact fun l hl => (fitting_ofText s).sound l (hs.subset hl)

lemma InScript.isChain (h : InScript ls) : ls.IsChain Precedes := by
  obtain ⟨s, hs⟩ := h
  exact List.IsChain.infix (fitting_ofText s).isChain hs

lemma InScript.ne_lineBreak {c : Char} (h : InScript ls) (hc : blank c ∈ ls) : c ≠ '\n' := by
  obtain ⟨s, hs⟩ := h
  obtain ⟨_, _, hfits⟩ := (fitting_ofText s).placed _ (hs.subset hc)
  exact hfits.2

/-! ### Edges of gaps -/

lemma Sound.startsWord (hs : l.Sound) (hl : l.isGap = true ∨ l = semicolon) :
    StartsWord l.text := by
  cases l with
  | blank c => exact startsWord_cons (isWordChar_of_isBlank (hs.isBlank_of_blank c rfl))
  | lineBreak | lineComment _ | blockComment _ _ | semicolon => exact startsWord_cons (by decide)
  | _ => simp [isGap] at hl

lemma Sound.endsWord (hs : l.Sound) (hl : l.isGap = true ∨ l = semicolon)
    (hprecedes : l.Precedes k) (hk : k.isGap = false) : EndsWord l.text := by
  cases l with
  | blank c => exact endsWord_singleton (isWordChar_of_isBlank (hs.isBlank_of_blank c rfl))
  | lineBreak | semicolon => exact endsWord_singleton (by decide)
  | lineComment comment =>
    rw [hprecedes.2 comment rfl] at hk
    exact absurd hk (by simp [isGap])
  | blockComment comment closed =>
    obtain rfl : closed = true := by simpa [isOpen] using hprecedes.1
    rw [text, if_pos rfl]
    exact .append (by simp) (.append (s := ['*']) (by simp) (endsWord_singleton (by decide)))
  | _ => simp [isGap] at hl

lemma flatMap_text_ne_nil (hs : ∀ l ∈ ls, l.Sound) (hne : ls ≠ []) : ls.flatMap text ≠ [] := by
  obtain ⟨l, ls, rfl⟩ := List.exists_cons_of_ne_nil hne
  simp [(hs l (by simp)).text_ne_nil]

/-- A word may stand in front of what begins with a gap or a terminator. -/
lemma InScript.startsWord (h : InScript ls)
    (hhead : ∀ l ∈ ls.head?, l.isGap = true ∨ l = semicolon) : StartsWord (ls.flatMap text) := by
  cases ls with
  | nil => exact startsWord_nil
  | cons l ls =>
    have hl := h.sound l (by simp)
    rw [List.flatMap_cons]
    exact (hl.startsWord (hhead l (by simp))).append fun h => absurd h hl.text_ne_nil

/-- A word may stand behind what ends with a gap or a terminator and is followed by no gap. -/
lemma InScript.endsWord (h : InScript (ls ++ k :: rest))
    (hlast : ∀ l ∈ ls.getLast?, l.isGap = true ∨ l = semicolon) (hk : k.isGap = false) :
    EndsWord (ls.flatMap text) := by
  rcases List.eq_nil_or_concat ls with rfl | ⟨init, l, rfl⟩
  · exact endsWord_nil
  · have hl := h.sound l (by simp)
    have hprecedes : Precedes l k := by
      simpa using h.isChain.rel_getLast_head_of_append (by simp) (by simp)
    rw [List.concat_eq_append, List.flatMap_append, List.flatMap_singleton]
    exact .append (fun h => absurd h hl.text_ne_nil) (hl.endsWord (hlast l (by simp)) hprecedes hk)

/-- A gap in front of a lexeme shows as blanks that break no line. -/
lemma InScript.isSpace_gapText (h : InScript (gap ++ k :: rest))
    (hgap : ∀ g ∈ gap, g.isGap = true) (hne : gap ≠ []) (hk : k.isGap = false) :
    Script.IsSpace (gapText gap) where
  isBlanks := isBlanks_gapText fun g hg => h.sound g (by simp [hg])
  ne_nil := by
    have hchain : (gap ++ [k]).IsChain Precedes := List.IsChain.infix h.isChain ⟨[], rest, by simp⟩
    exact gapText_ne_nil hgap hne hk hchain
  not_mem := by
    rw [gapText]
    split
    · simp
    · intro hbreak
      obtain ⟨g, hg, hc⟩ := List.mem_flatMap.mp hbreak
      cases g with
      | blank b =>
        obtain rfl : '\n' = b := by simpa using hc
        exact h.ne_lineBreak (List.mem_append_left _ hg) rfl
      | _ => simp [shown] at hc

/-! ### The layout up to a lexeme -/

/-- What a layout has in front of a lexeme that is no gap, from a gap on. -/
def layoutTo (gap : List Lexeme) : List Lexeme → List Char
  | [] => gapText gap
  | l :: ls => if l.isGap then layoutTo (gap ++ [l]) ls else gapText gap ++ l.text ++ layoutTo [] ls

@[simp] lemma layoutTo_nil : layoutTo gap [] = gapText gap := rfl

lemma layoutTo_of_isGap (h : l.isGap = true) :
    layoutTo gap (l :: ls) = layoutTo (gap ++ [l]) ls := by
  simp [layoutTo, h]

lemma layoutTo_of_not_isGap (h : l.isGap = false) :
    layoutTo gap (l :: ls) = gapText gap ++ l.text ++ layoutTo [] ls := by
  simp [layoutTo, h]

/-- A layout around a lexeme that is no gap. -/
lemma layoutAfter_append_cons (gap ks rest : List Lexeme) (hk : k.isGap = false) :
    layoutAfter gap (ks ++ k :: rest) = layoutTo gap ks ++ (k.text ++ layoutAfter [] rest) := by
  induction ks generalizing gap with
  | nil => simp [layoutAfter_of_not_isGap hk]
  | cons l ks ih =>
    cases hl : l.isGap with
    | true => rw [List.cons_append, layoutAfter_of_isGap hl, ih, layoutTo_of_isGap hl]
    | false =>
      rw [List.cons_append, layoutAfter_of_not_isGap hl, ih, layoutTo_of_not_isGap hl]
      simp only [List.append_assoc]

/-- What is no blank in a layout stands in a lexeme that is no gap. -/
lemma exists_of_layoutAfter_eq {u : List Char} {c : Char} (hs : ∀ l ∈ gap ++ ls, l.Sound)
    (h : layoutAfter gap ls = u ++ c :: t) (hc : isBlank c = false) :
    ∃ ks k rest x y, ls = ks ++ k :: rest ∧ k.isGap = false ∧ k.text = x ++ c :: y ∧
      u = layoutTo gap ks ++ x ∧ t = y ++ layoutAfter [] rest := by
  induction ls generalizing gap u with
  | nil => simp at h
  | cons l ls ih =>
    cases hl : l.isGap with
    | true =>
      rw [layoutAfter_of_isGap hl] at h
      obtain ⟨ks, k, rest, x, y, rfl, hk, htext, rfl, ht⟩ := ih (by simpa using hs) h
      exact ⟨l :: ks, k, rest, x, y, rfl, hk, htext, by rw [layoutTo_of_isGap hl], ht⟩
    | false =>
      rw [layoutAfter_of_not_isGap hl] at h
      rcases append_cases h with ⟨x, rfl, hx⟩ | ⟨x, hne, hx, ht⟩
      · have hs' : ∀ k ∈ [] ++ ls, k.Sound := fun k hk => hs k (by simp [show k ∈ ls from hk])
        obtain ⟨ks, k, rest, x, y, rfl, hk, htext, rfl, ht⟩ := ih hs' hx
        refine ⟨l :: ks, k, rest, x, y, rfl, hk, htext, ?_, ht⟩
        rw [layoutTo_of_not_isGap hl, List.append_assoc _ _ x]
      · obtain ⟨d, x, rfl⟩ := List.exists_cons_of_ne_nil hne
        obtain ⟨rfl, rfl⟩ := List.cons_eq_cons.mp ht
        rcases append_cases hx with ⟨z, rfl, hz⟩ | ⟨z, hzne, hz, htext⟩
        · exact ⟨[], l, ls, z, x, rfl, hl, hz, rfl, rfl⟩
        · -- The gap shows as blanks.
          obtain ⟨d, z, rfl⟩ := List.exists_cons_of_ne_nil hzne
          obtain ⟨rfl, -⟩ := List.cons_eq_cons.mp htext
          have hblanks := isBlanks_gapText fun g hg => hs g (List.mem_append_left _ hg)
          rw [hblanks c (by simp [hz])] at hc
          exact absurd hc (by simp)

/-! ### What the layout keeps -/

/-- Edges of words are kept in front of a lexeme. -/
lemma InScript.endsWord_layoutTo (gap : List Lexeme) (h : InScript (gap ++ (ks ++ k :: rest)))
    (hgap : ∀ g ∈ gap, g.isGap = true) (hk : k.isGap = false) (hst : EndsWord s ↔ EndsWord t) :
    EndsWord (s ++ layoutTo gap ks) ↔ EndsWord (t ++ (gap ++ ks).flatMap text) := by
  induction ks generalizing gap s t with
  | nil =>
    rcases eq_or_ne gap [] with rfl | hne
    · simpa using hst
    · have hspace := h.isSpace_gapText hgap hne hk
      have hends := h.endsWord (fun g hg => Or.inl (hgap g (List.mem_of_getLast? hg))) hk
      have hne' : gap.flatMap text ≠ [] :=
        flatMap_text_ne_nil (fun g hg => h.sound g (by simp [hg])) hne
      rw [layoutTo_nil, List.append_nil, endsWord_append_of_ne_nil hspace.ne_nil,
        endsWord_append_of_ne_nil hne']
      exact iff_of_true hspace.isBlanks.endsWord hends
  | cons l ks ih =>
    cases hl : l.isGap with
    | true =>
      have hgap' := forall_isGap_concat hgap hl
      rw [layoutTo_of_isGap hl, ih _ (by simpa using h) hgap' hst, List.append_assoc,
        List.singleton_append]
    | false =>
      have htext := (h.sound l (by simp)).text_ne_nil
      have hks : InScript (ks ++ k :: rest) := h.infix ⟨gap ++ [l], [], by simp⟩
      have hedge : EndsWord (s ++ gapText gap ++ l.text) ↔
          EndsWord (t ++ gap.flatMap text ++ l.text) := by
        rw [endsWord_append_of_ne_nil htext, endsWord_append_of_ne_nil htext]
      have hnext := ih [] hks (by simp) hedge
      rw [layoutTo_of_not_isGap hl]
      simpa using hnext

/-- A lexeme as statements show it, with one blank for a gap. -/
def spaced (l : Lexeme) : List Char :=
  if l.isGap then [' '] else l.text

lemma isSpace_flatMap_spaced (hgap : ∀ g ∈ gap, g.isGap = true) (hne : gap ≠ []) :
    Script.IsSpace (gap.flatMap spaced) := by
  have hspaced : ∀ g ∈ gap, g.spaced = [' '] := fun g hg => if_pos (hgap g hg)
  have hall : ∀ c ∈ gap.flatMap spaced, c = ' ' := by
    intro c hc
    obtain ⟨g, hg, hc⟩ := List.mem_flatMap.mp hc
    rw [hspaced g hg] at hc
    exact List.mem_singleton.mp hc
  obtain ⟨g, gap, rfl⟩ := List.exists_cons_of_ne_nil hne
  refine ⟨fun c hc => ?_, by simp [hspaced g], fun hbreak => absurd (hall _ hbreak) (by decide)⟩
  rw [hall c hc]
  decide

lemma InScript.isCommentLine_gapText (h : InScript (gap ++ k :: rest))
    (hgap : ∀ g ∈ gap, g.isGap = true) (hk : k.isGap = false) :
    Script.isCommentLine (lineFront (s ++ (gapText gap ++ t)))
      = Script.isCommentLine (lineFront (s ++ (gap.flatMap spaced ++ t))) := by
  rcases eq_or_ne gap [] with rfl | hne
  · rfl
  · exact Script.isCommentLine_lineFront_space (h.isSpace_gapText hgap hne hk)
      (isSpace_flatMap_spaced hgap hne)

/-- Whether a line reads like a comment is kept in front of a lexeme, whatever blanks show for the
gaps. -/
lemma InScript.isCommentLine_layoutTo (gap : List Lexeme) (h : InScript (gap ++ (ks ++ k :: rest)))
    (hgap : ∀ g ∈ gap, g.isGap = true) (hk : k.isGap = false) :
    Script.isCommentLine (lineFront (s ++ (layoutTo gap ks ++ t)))
      = Script.isCommentLine (lineFront (s ++ ((gap ++ ks).flatMap spaced ++ t))) := by
  induction ks generalizing gap s with
  | nil =>
    rw [layoutTo_nil, List.append_nil]
    exact h.isCommentLine_gapText hgap hk
  | cons l ks ih =>
    cases hl : l.isGap with
    | true =>
      have hgap' := forall_isGap_concat hgap hl
      rw [layoutTo_of_isGap hl, ih _ (by simpa using h) hgap', List.append_assoc,
        List.singleton_append]
    | false =>
      have hks : InScript (ks ++ k :: rest) := h.infix ⟨gap ++ [l], [], by simp⟩
      have hnext := ih [] (s := s ++ (gap.flatMap spaced ++ l.text)) hks (by simp)
      have hspaced : l.spaced = l.text := if_neg (by simp [hl])
      rw [layoutTo_of_not_isGap hl, List.append_assoc, List.append_assoc,
        h.isCommentLine_gapText hgap hl]
      simpa [hspaced] using hnext

/-- The word at a place behind a gap is kept. -/
lemma InScript.takeWhile_layoutAfter (gap : List Lexeme) (h : InScript (gap ++ ls))
    (hgap : ∀ g ∈ gap, g.isGap = true) (ht : StartsWord t) :
    (layoutAfter gap ls).takeWhile isWordChar
      = ((gap ++ ls).flatMap text ++ t).takeWhile isWordChar := by
  have hnone {gap more : List Lexeme} (h : InScript (gap ++ more)) (hne : gap ≠ [])
      (hgap : ∀ g ∈ gap, g.isGap = true) :
      ((gap ++ more).flatMap text ++ t).takeWhile isWordChar = [] := by
    rw [← startsWord_iff]
    refine .append (h.startsWord fun l hl => Or.inl (hgap l ?_)) fun _ => ht
    rw [List.head?_append_of_ne_nil _ hne] at hl
    exact List.mem_of_mem_head? hl
  induction ls generalizing gap with
  | nil =>
    rcases eq_or_ne gap [] with rfl | hne
    · simpa using (startsWord_iff.mp ht).symm
    · rw [hnone h hne hgap]
      rfl
  | cons l ls ih =>
    cases hl : l.isGap with
    | true =>
      have hgap' := forall_isGap_concat hgap hl
      rw [layoutAfter_of_isGap hl, ih _ (by simpa using h) hgap', List.append_assoc,
        List.singleton_append]
    | false =>
      rw [layoutAfter_of_not_isGap hl]
      rcases eq_or_ne gap [] with rfl | hne
      · have hls : InScript ls := h.infix ⟨[l], [], by simp⟩
        have hnext := ih [] hls (by simp)
        rw [gapText_nil, List.nil_append, List.nil_append, List.flatMap_cons, List.append_assoc,
          List.takeWhile_append, List.takeWhile_append, hnext, List.nil_append]
      · have hspace := h.isSpace_gapText hgap hne hl
        rw [hnone h hne hgap, ← startsWord_iff, List.append_assoc]
        exact hspace.isBlanks.startsWord.append fun h => absurd h hspace.ne_nil

end Lexeme

namespace Script

open Lexeme

variable {text : String} {s : String} {u t : List Char} {c : Char}

/-! ### Around a part -/

/-- In front of a part stand terminators or nothing. -/
lemma exists_intercalate_concat (init : List (List Lexeme)) (part : List Lexeme) :
    ∃ before, [semicolon].intercalate (init ++ [part]) = before ++ part ∧
      ∀ l ∈ before.getLast?, l = semicolon := by
  induction init with
  | nil => exact ⟨[], by simp, by simp⟩
  | cons first init ih =>
    obtain ⟨before, hbefore, hlast⟩ := ih
    refine ⟨first ++ semicolon :: before, ?_, fun l hl => ?_⟩
    · rw [List.cons_append, List.intercalate_cons_of_ne_nil (by simp), hbefore]
      simp
    · rw [List.getLast?_append_of_ne_nil _ (by simp), List.getLast?_cons] at hl
      cases hbefore : before.getLast? with
      | none => simpa [hbefore, eq_comm] using hl
      | some k =>
        rw [hbefore] at hl
        exact hlast l (hbefore ▸ hl)

/-- Behind a part stands a terminator or nothing. -/
lemma exists_intercalate_cons (part : List Lexeme) (rest : List (List Lexeme)) :
    ∃ after, [semicolon].intercalate (part :: rest) = part ++ after ∧
      ∀ l ∈ after.head?, l = semicolon := by
  rcases eq_or_ne rest [] with rfl | hne
  · exact ⟨[], by simp, by simp⟩
  · exact ⟨semicolon :: [semicolon].intercalate rest,
      by simp [List.intercalate_cons_of_ne_nil hne], by simp⟩

/-! ### Places -/

/-- A place in a script that is in no gap: the parts in front of its own, the lexemes and the
characters of a lexeme that stand in front of it in its own part, and what follows. -/
structure Place (text : String) where
  earlier : List (List Lexeme)
  front : List Lexeme
  lexeme : Lexeme
  rest : List Lexeme
  later : List (List Lexeme)
  head : List Char
  tail : List Char
  parts_eq : parts text = earlier ++ (front ++ lexeme :: rest) :: later
  isGap_lexeme : lexeme.isGap = false
  text_lexeme : lexeme.text = head ++ tail
  tail_ne_nil : tail ≠ []

namespace Place

/-- The lexemes of the script in front of that of the place. -/
def preceding (p : Place text) : List Lexeme :=
  [semicolon].intercalate (p.earlier ++ [p.front])

/-- The lexemes of the script behind that of the place. -/
def following (p : Place text) : List Lexeme :=
  [semicolon].intercalate (p.rest :: p.later)

/-- What the script has in front of the place. -/
def upTo (p : Place text) : List Char :=
  p.preceding.flatMap Lexeme.text ++ p.head

/-- What the script has from the place on. -/
def onward (p : Place text) : List Char :=
  p.tail ++ p.following.flatMap Lexeme.text

/-- What the statement of the place has in front of it, with one blank for each lexeme of a gap. -/
def written (p : Place text) : List Char :=
  p.front.flatMap spaced ++ p.head

lemma ofText_eq (p : Place text) : ofText text.toList = p.preceding ++ p.lexeme :: p.following := by
  rw [← intercalate_parts, p.parts_eq, intercalate_append_cons, preceding, following]
  rcases eq_or_ne p.later [] with h | h
  · simp [h]
  · simp [List.intercalate_cons_of_ne_nil h]

lemma toList_eq (p : Place text) : text.toList = p.upTo ++ p.onward := by
  rw [← flatMap_text_ofText text.toList, p.ofText_eq, List.flatMap_append, List.flatMap_cons,
    p.text_lexeme, upTo, onward]
  simp only [List.append_assoc]

/-- A place of a statement is that of the script: a word in front of it ends alike, its line reads
alike, and the same word follows. -/
structure Matches (p : Place text) (u t : List Char) : Prop where
  endsWord_iff : EndsWord u ↔ EndsWord p.upTo
  isCommentLine_eq : isCommentLine (lineFront u) = isCommentLine (lineFront p.written)
  takeWhile_eq : t.takeWhile isWordChar = p.onward.takeWhile isWordChar

variable {p : Place text}

lemma Matches.of_blanks {blanks : List Char} (h : p.Matches u (t ++ blanks))
    (hblanks : IsBlanks blanks) : p.Matches u t where
  endsWord_iff := h.endsWord_iff
  isCommentLine_eq := h.isCommentLine_eq
  takeWhile_eq := by
    rw [← h.takeWhile_eq, takeWhile_append_of_startsWord hblanks.startsWord]

/-- The layout of the part around the place. -/
lemma layout_eq (p : Place text) : layout (p.front ++ p.lexeme :: p.rest)
    = layoutTo [] (p.front.dropWhile isGap) ++ p.head ++ (p.tail ++ layoutAfter [] p.rest) := by
  have hdrop : (p.front ++ p.lexeme :: p.rest).dropWhile isGap
      = p.front.dropWhile isGap ++ p.lexeme :: p.rest := by
    rw [List.dropWhile_append, List.dropWhile_cons_of_neg (by simp [p.isGap_lexeme])]
    split
    · next h => rw [List.isEmpty_iff.mp h, List.nil_append]
    · rfl
  rw [layout, hdrop, layoutAfter_append_cons [] _ _ p.isGap_lexeme, p.text_lexeme]
  simp only [List.append_assoc]

lemma inScript (p : Place text) : InScript (p.preceding ++ p.lexeme :: p.following) :=
  ⟨text.toList, p.ofText_eq ▸ List.infix_rfl⟩

/-- The gap that a part begins with does not show: a word may end in it. -/
lemma exists_preceding_eq (p : Place text) : ∃ before, p.preceding
    = before ++ p.front.dropWhile isGap ∧ EndsWord (before.flatMap Lexeme.text) := by
  obtain ⟨before, hbefore, hlast⟩ := exists_intercalate_concat p.earlier p.front
  have hpreceding : p.preceding
      = before ++ p.front.takeWhile isGap ++ p.front.dropWhile isGap := by
    rw [preceding, hbefore, List.append_assoc, List.takeWhile_append_dropWhile]
  have hscript := p.inScript
  rw [hpreceding, List.append_assoc] at hscript
  -- The part goes on with a lexeme that is no gap, its own or that of the place.
  obtain ⟨k, rest, hrest, hk⟩ : ∃ k rest,
      p.front.dropWhile isGap ++ p.lexeme :: p.following = k :: rest ∧ k.isGap = false := by
    cases hdrop : p.front.dropWhile isGap with
    | nil => exact ⟨p.lexeme, p.following, rfl, p.isGap_lexeme⟩
    | cons k ks => exact ⟨k, _, rfl, isGap_of_mem_head?_dropWhile p.front k (by simp [hdrop])⟩
  rw [hrest] at hscript
  refine ⟨_, hpreceding, hscript.endsWord (fun l hl => ?_) hk⟩
  rcases eq_or_ne (p.front.takeWhile isGap) [] with hnil | hne
  · exact Or.inr (hlast l (by simpa [hnil] using hl))
  · rw [List.getLast?_append_of_ne_nil _ hne] at hl
    exact Or.inl (List.mem_takeWhile_imp (List.mem_of_getLast? hl))

lemma inScript_part (p : Place text) :
    InScript (p.front.dropWhile isGap ++ p.lexeme :: p.following) := by
  obtain ⟨before, hpreceding, -⟩ := p.exists_preceding_eq
  exact p.inScript.infix ⟨before, [], by simp [hpreceding]⟩

/-- The layout has the place where the script has it. -/
lemma matches_layout (p : Place text) : p.Matches
    (layoutTo [] (p.front.dropWhile isGap) ++ p.head) (p.tail ++ layoutAfter [] p.rest) where
  endsWord_iff := by
    obtain ⟨before, hpreceding, hbefore⟩ := p.exists_preceding_eq
    have hkept := p.inScript_part.endsWord_layoutTo [] (s := [])
      (t := before.flatMap Lexeme.text) (by simp) p.isGap_lexeme
      (iff_of_true endsWord_nil hbefore)
    rw [upTo, hpreceding]
    rcases eq_or_ne p.head [] with hnil | hne
    · simpa [hnil] using hkept
    · rw [endsWord_append_of_ne_nil hne, endsWord_append_of_ne_nil hne]
  isCommentLine_eq := by
    have hkept := p.inScript_part.isCommentLine_layoutTo [] (s := []) (t := p.head)
      (by simp) p.isGap_lexeme
    simp only [List.nil_append] at hkept
    rw [hkept, written]
    conv_rhs => rw [← List.takeWhile_append_dropWhile (p := isGap) (l := p.front)]
    rw [List.flatMap_append, List.append_assoc]
    rcases eq_or_ne (p.front.takeWhile isGap) [] with hnil | hne
    · rw [hnil]
      rfl
    · have hspace := isSpace_flatMap_spaced
        (fun g hg => List.mem_takeWhile_imp (p := isGap) hg) hne
      rw [isCommentLine_lineFront_blanks hspace.isBlanks hspace.not_mem]
  takeWhile_eq := by
    obtain ⟨after, hfollowing, hafter⟩ := exists_intercalate_cons p.rest p.later
    have hscript := p.inScript
    rw [following, hfollowing] at hscript
    have hrest : InScript p.rest := hscript.infix ⟨p.preceding ++ [p.lexeme], after, by simp⟩
    have hmore : InScript after := hscript.infix ⟨p.preceding ++ p.lexeme :: p.rest, [], by simp⟩
    have hkept := hrest.takeWhile_layoutAfter [] (by simp)
      (hmore.startsWord fun l hl => Or.inr (hafter l hl))
    rw [onward, following, hfollowing, List.takeWhile_append, List.takeWhile_append, hkept]
    simp

end Place

/-- What is no blank in a statement stands at a place of the script. -/
lemma exists_place (hs : s ∈ statements text) (heq : s.toList = u ++ c :: t)
    (hc : isBlank c = false) : ∃ p : Place text, p.Matches u (c :: t) := by
  obtain ⟨part, hfull, hstatement⟩ : ∃ part ∈ fullParts text, statement part = s.toList := by
    have hmem : s.toList ∈ (statements text).map String.toList := List.mem_map_of_mem hs
    rw [toList_statements] at hmem
    exact List.mem_map.mp hmem
  have hpart := (List.mem_filter.mp hfull).1
  obtain ⟨earlier, later, hparts⟩ := List.append_of_mem hpart
  obtain ⟨blanks, hlayout, hblanks⟩ := exists_eq_trimEnd_append (layout part)
  rw [← statement, hstatement, heq, List.append_assoc, List.cons_append] at hlayout
  have hsound : ∀ l ∈ [] ++ part.dropWhile isGap, l.Sound := fun l hl =>
    (sound_of_mem_parts hpart).1 l ((List.dropWhile_suffix isGap).subset hl)
  obtain ⟨ks, k, rest, x, y, hdrop, hk, htext, rfl, ht⟩ :=
    exists_of_layoutAfter_eq hsound hlayout hc
  have hwhole : part = part.takeWhile isGap ++ ks ++ k :: rest := by
    rw [List.append_assoc, ← hdrop, List.takeWhile_append_dropWhile]
  have hfront : (part.takeWhile isGap ++ ks).dropWhile isGap = ks := by
    rw [List.dropWhile_append_of_pos fun g hg => List.mem_takeWhile_imp hg]
    cases ks with
    | nil => rfl
    | cons l ks =>
      have hl := isGap_of_mem_head?_dropWhile part l (by simp [hdrop])
      exact List.dropWhile_cons_of_neg (by simp [hl])
  have hmatches := Place.matches_layout
    { earlier, front := part.takeWhile isGap ++ ks, lexeme := k, rest, later, head := x
      tail := c :: y, parts_eq := hwhole ▸ hparts, isGap_lexeme := hk, text_lexeme := htext
      tail_ne_nil := by simp }
  rw [hfront, List.cons_append, ← ht, ← List.cons_append] at hmatches
  exact ⟨_, hmatches.of_blanks hblanks⟩

/-- What is no blank and in no gap stands in a statement. -/
lemma Place.exists_mem_statements (p : Place text) (hp : ∀ c ∈ p.tail.head?, isBlank c = false) :
    ∃ s ∈ statements text, ∃ u t, s.toList = u ++ t ∧ p.Matches u t := by
  have hpart : p.front ++ p.lexeme :: p.rest ∈ fullParts text := by
    refine List.mem_filter.mpr ⟨by simp [p.parts_eq], List.any_eq_true.mpr ⟨p.lexeme, by simp, ?_⟩⟩
    simp [p.isGap_lexeme]
  obtain ⟨s, hs, hstatement⟩ : ∃ s ∈ statements text,
      s.toList = statement (p.front ++ p.lexeme :: p.rest) := by
    have hmem : statement _ ∈ (fullParts text).map statement := List.mem_map_of_mem hpart
    rw [← toList_statements] at hmem
    exact List.mem_map.mp hmem
  have hne : p.tail ++ layoutAfter [] p.rest ≠ [] := by simp [p.tail_ne_nil]
  have hhead : ∀ c ∈ (p.tail ++ layoutAfter [] p.rest).head?, isBlank c = false := by
    rwa [List.head?_append_of_ne_nil _ p.tail_ne_nil]
  obtain ⟨blanks, hblanks⟩ := exists_eq_trimEnd_append (p.tail ++ layoutAfter [] p.rest)
  refine ⟨s, hs, _, _, by rw [hstatement, statement, p.layout_eq, trimEnd_append_of_head hne hhead],
    ?_⟩
  have hmatches := p.matches_layout
  rw [hblanks.1] at hmatches
  exact hmatches.of_blanks hblanks.2

end Script

end SqlWorkbench
