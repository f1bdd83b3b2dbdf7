import Mathlib.Tactic.Common
import SqlWorkbench.Proofs.Script.Agreement

/-!
# Scripts without a comment

A comment may be replaced by white space, and the statements stay as they are unless the comment
hides from a word what comes next: `START` behind which `TRANSACTION` follows opens a transaction,
but not if a comment stands between the two. Main statement: the groups without the comment are the
same ones exactly if the same terminators end statements.
-/

namespace SqlWorkbench

open Text

namespace Lexeme

variable {c : Lexeme} {pre post ls : List Lexeme} {afterWord : Bool}

/-! ### Replacing a comment -/

/-- A comment that ends: one to the end of its line, or a bracketed one that is closed. -/
def isComment : Lexeme → Bool
  | lineComment _ => true
  | blockComment _ closed => closed
  | _ => false

/-- The white space that stands in for a comment: nothing in front of a line's end, and a blank with
the line breaks of a bracketed comment. -/
def blanked : Lexeme → List Char
  | blockComment body _ => ' ' :: body.filter (· == '\n')
  | _ => []

lemma isGap_of_isComment (hc : c.isComment = true) : c.isGap = true := by
  cases c with
  | lineComment body | blockComment body closed => rfl
  | _ => simp [isComment] at hc

lemma isBlanks_blanked (c : Lexeme) : IsBlanks c.blanked := by
  cases c with
  | blockComment body closed =>
    rw [blanked, isBlanks_cons]
    refine ⟨by decide, fun d hd => ?_⟩
    obtain rfl : d = '\n' := by simpa using (List.mem_filter.mp hd).2
    decide
  | _ => exact isBlanks_nil

lemma all_isGap_spaces (blanks : List Char) : (spaces blanks).all isGap = true := by
  rw [List.all_eq_true]
  intro g hg
  have hspace := isSpace_of_mem_spaces hg
  cases g with
  | lineBreak | blank => rfl
  | _ => simp [isSpace] at hspace

lemma Fitting.of_comment (hfit : Fitting afterWord (c :: post)) (hc : c.isComment = true) :
    Fitting false post := by
  have hword := isWord_of_isGap (isGap_of_isComment hc)
  exact hword ▸ hfit.2

lemma breaks_spaces_blanked (hfit : Fitting afterWord (c :: post)) (hc : c.isComment = true) :
    breaks (spaces c.blanked) = breaks [c] := by
  rw [breaks, flatMap_text_spaces, breaks_singleton]
  cases c with
  | lineComment body => simp [blanked, text, List.count_eq_zero.mpr hfit.1.1]
  | blockComment body closed =>
    obtain rfl : closed = true := hc
    simp [blanked, text, List.count_filter]
  | _ => simp [isComment] at hc

/-- The stand-in is some white space, or the line ends behind it. -/
lemma blanked_cases (hfit : Fitting afterWord (c :: post)) (hc : c.isComment = true) :
    c.blanked ≠ [] ∨ c.blanked = [] ∧ (post = [] ∨ ∃ rest, post = lineBreak :: rest) := by
  cases c with
  | blockComment body closed => exact Or.inl (by simp [blanked])
  | lineComment body =>
    refine Or.inr ⟨rfl, ?_⟩
    cases post with
    | nil => exact Or.inl rfl
    | cons k rest =>
      obtain ⟨hcomment, hk, -⟩ := hfit
      obtain ⟨d, letters, hd⟩ := List.exists_cons_of_ne_nil hk.text_ne_nil
      have hbreak : d = '\n' := hcomment.2 d (by simp [hd])
      have hline : k = lineBreak := hk.eq_lineBreak (by simp [hd, hbreak])
      exact Or.inr ⟨rest, by rw [hline]⟩
  | _ => simp [isComment] at hc

lemma fitting_blanked_append (hfit : Fitting afterWord (c :: post)) (hc : c.isComment = true)
    (afterWord' : Bool) : Fitting afterWord' (spaces c.blanked ++ post) := by
  have hpost := hfit.of_comment hc
  rcases blanked_cases hfit hc with hne | ⟨hnil, hend⟩
  · exact fitting_spaces_append (isBlanks_blanked c) hne hpost
  · rw [hnil]
    rcases hend with rfl | ⟨rest, rfl⟩
    · trivial
    · exact ⟨trivial, hpost.2⟩

lemma sees_blanked_append {s : List Char} (hfit : Fitting afterWord (c :: post))
    (hc : c.isComment = true) : Sees s (c.blanked ++ post.flatMap text) := by
  rcases blanked_cases hfit hc with hne | ⟨hnil, rfl | ⟨rest, rfl⟩⟩
  · exact sees_of_isBlanks (isBlanks_blanked c) hne
  · exact sees_of_head (by simp [hnil])
  · exact sees_of_head (by simp [hnil, text, isSeparator]; decide)

end Lexeme

/-! ### What a comment hides -/

namespace Block

variable {word : String} {before : Option String} {after : Upcoming} {blocks : List Block}

/-- The word does something else in front of `after` than in front of a comment. -/
def Heeds (word : String) (after : Upcoming) : Prop :=
  word = "BEGIN" ∧ ofBegin after = transaction ∨
  word = "START" ∧ after = .word "TRANSACTION" ∨
  word = "END" ∧ (∃ w ∈ endsNoBlock, after = .word w) ∨
  word = "ROLLBACK" ∧ after = .word "TO"

instance (word : String) (after : Upcoming) : Decidable (Heeds word after) :=
  inferInstanceAs (Decidable (_ ∨ _ ∨ _ ∨ _))

lemma ofBegin_cases (after : Upcoming) :
    ofBegin after = transaction ∨ ofBegin after = procedural := by
  cases after with
  | word w =>
    rw [ofBegin]
    split
    · exact Or.inl rfl
    · exact Or.inr rfl
  | semicolon | nothing => exact Or.inl rfl
  | other => exact Or.inr rfl

/-- A word that does not heed what comes next may as well see a comment. -/
lemma step_other_of_not_heeds (h : ¬ Heeds word after) :
    step word before .other blocks = step word before after blocks := by
  simp only [Heeds, not_or, not_and, not_exists] at h
  obtain ⟨hbegin, hstart, hend, hrollback⟩ := h
  unfold step
  split
  · next hword =>
    rw [(ofBegin_cases after).resolve_left (hbegin hword)]
    rfl
  split
  · next hword => rw [if_neg (hstart hword), if_neg (by simp)]
  split
  · rfl
  split
  · next hword =>
    cases after with
    | word w =>
      have hnot : w ∉ endsNoBlock := fun hmem => hend hword w hmem rfl
      simp [hnot]
    | _ => rfl
  · have hnot : ¬ (word = "ROLLBACK" ∧ after = .word "TO") := fun hword => hrollback hword.1 hword.2
    simp only [hnot, reduceCtorEq, and_false, if_false]

end Block

namespace Script

open Lexeme

/-- The word that a stretch ends with, white space aside, unless it is a name behind a point. -/
def wordBefore? (pre : List Lexeme) : Option String :=
  match pre.reverse.dropWhile isSpace with
  | word letters :: before =>
    if before.head? = some (symbol '.') then none else some (capitals letters)
  | _ => none

/-- A comment between the two stretches hides the second one from a word that heeds it. -/
def Hides (pre post : List Lexeme) : Prop :=
  ∃ w ∈ wordBefore? pre, Block.Heeds w (Upcoming.ofLexemes post)

instance (pre post : List Lexeme) : Decidable (Hides pre post) :=
  inferInstanceAs (Decidable (∃ w ∈ wordBefore? pre, _))

lemma wordBefore?_concat_space {pre : List Lexeme} {l : Lexeme} (hl : l.isSpace = true) :
    wordBefore? (pre ++ [l]) = wordBefore? pre := by
  rw [wordBefore?, wordBefore?, List.reverse_concat, List.dropWhile_cons_of_pos hl]

lemma wordBefore?_concat_word {pre : List Lexeme} {letters : List Char}
    (h : pre.getLast? ≠ some (symbol '.')) :
    wordBefore? (pre ++ [word letters]) = some (capitals letters) := by
  rw [wordBefore?, List.reverse_concat, List.dropWhile_cons_of_neg (by simp [isSpace])]
  simp only [List.head?_reverse, h, if_false]

end Script

namespace Scan

open Lexeme

variable {s : Scan} {tail tail' pre post gap : List Lexeme}

lemma afterPoint_after (h : pre.getLast? = some (symbol '.')) :
    (s.after tail pre).afterPoint = true := by
  obtain ⟨init, rfl⟩ := List.getLast?_eq_some_iff.mp h
  rw [after_append]
  rfl

/-- A gap changes neither the open blocks nor the last word. -/
lemma after_gap (hgap : gap.all isGap = true) :
    (s.after tail gap).blocks = s.blocks ∧ (s.after tail gap).lastWord = s.lastWord ∧
      (gap ≠ [] → (s.after tail gap).afterPoint = false) := by
  induction gap generalizing s with
  | nil => exact ⟨rfl, rfl, fun h => absurd rfl h⟩
  | cons l gap ih =>
    rw [List.all_cons, Bool.and_eq_true] at hgap
    obtain ⟨hl, hrest⟩ := hgap
    have hstep : (s.step l (gap ++ tail)).blocks = s.blocks ∧
        (s.step l (gap ++ tail)).lastWord = s.lastWord ∧
        (s.step l (gap ++ tail)).afterPoint = false := by
      cases l with
      | lineBreak | blank | lineComment | blockComment => exact ⟨rfl, rfl, rfl⟩
      | _ => simp [isGap] at hl
    obtain ⟨hblocks, hword, hpoint⟩ := ih (s := s.step l (gap ++ tail)) hrest
    refine ⟨hblocks.trans hstep.1, hword.trans hstep.2.1, fun _ => ?_⟩
    rcases eq_or_ne gap [] with rfl | hne
    · exact hstep.2.2
    · exact hpoint hne

/-- A comment that hides nothing leaves the scan of what stands before it as it is. -/
lemma after_eq_of_not_hides (hother : Upcoming.ofLexemes tail = .other)
    (htail : Upcoming.ofLexemes tail' = Upcoming.ofLexemes post) (h : ¬ Script.Hides pre post) :
    after tail {} pre = after tail' {} pre := by
  -- From the end: white space in front of the comment is passed over, and then a word may look.
  induction pre using List.reverseRecOn generalizing tail tail' with
  | nil => rfl
  | append_singleton pre l ih =>
    rw [after_append, after_append, after_cons, after_cons, after_nil, after_nil, List.nil_append,
      List.nil_append]
    by_cases hspace : l.isSpace = true
    · have hsees (ls : List Lexeme) : Upcoming.ofLexemes ([l] ++ ls) = Upcoming.ofLexemes ls :=
        Upcoming.ofLexemes_append_of_space (by simpa using hspace)
      have hsame : after ([l] ++ tail) {} pre = after ([l] ++ tail') {} pre :=
        ih ((hsees tail).trans hother) ((hsees tail').trans htail) (by
          rwa [Script.Hides, Script.wordBefore?_concat_space hspace] at h)
      rw [hsame]
      apply step_congr
      intro w hw
      simp [capitals?_of_isSpace hspace] at hw
    · have hsees (ls : List Lexeme) : Upcoming.ofLexemes ([l] ++ ls) = Upcoming.ofLexemes [l] :=
        Upcoming.ofLexemes_append List.mem_cons_self (by simpa using hspace)
      rw [after_congr ((hsees tail).trans (hsees tail').symm)]
      cases l with
      | word letters =>
        by_cases hpoint : pre.getLast? = some (symbol '.')
        · simp only [step, blocksAfter, afterPoint_after hpoint, if_true]
        · have hnot : ¬ Block.Heeds (capitals letters) (Upcoming.ofLexemes post) := fun hheeds =>
            h ⟨_, Script.wordBefore?_concat_word hpoint, hheeds⟩
          simp only [step, blocksAfter, hother, htail, Block.step_other_of_not_heeds hnot]
      | _ => rfl

end Scan

namespace Script

open Lexeme

variable {text : String} {pre post : List Lexeme} {c : Lexeme}

/-! ### Groups without a comment -/

/-- The script with white space for the comment between two stretches. -/
def without (pre : List Lexeme) (c : Lexeme) (post : List Lexeme) : String :=
  String.ofList (pre.flatMap Lexeme.text ++ c.blanked ++ post.flatMap Lexeme.text)

lemma ofText_without (h : ofText text.toList = pre ++ c :: post) (hc : c.isComment = true) :
    ofText (without pre c post).toList = pre ++ (spaces c.blanked ++ post) := by
  have hfit := fitting_ofText text.toList
  rw [h] at hfit
  obtain ⟨afterWord, hcomment⟩ := hfit.of_append
  refine ofText_eq_iff.mpr ⟨by simp [without], hfit.of_sees ?_ ?_ ?_⟩
  · rw [List.flatMap_append, flatMap_text_spaces]
    exact sees_blanked_append hcomment hc
  · cases c with
    | lineComment body => exact ⟨'-', by simp [Lexeme.text], by decide⟩
    | blockComment body closed => exact ⟨'/', by simp [Lexeme.text], by decide⟩
    | _ => simp [isComment] at hc
  · exact fitting_blanked_append hcomment hc

/-- The part that the comment stands in, with the comment and with its stand-in. -/
lemma exists_parts_without (h : ofText text.toList = pre ++ c :: post) (hc : c.isComment = true) :
    ∃ init last,
      parts text = init ++ (Scan.after post {} (pre ++ [c])).parts (last ++ [c]) post ∧
      parts (without pre c post) = init ++
        (Scan.after post {} (pre ++ spaces c.blanked)).parts (last ++ spaces c.blanked) post := by
  have hgap := isGap_of_isComment hc
  obtain ⟨init, last, hparts, hparts'⟩ := Scan.exists_parts_append []
    (Scan.sameCuts_self : Scan.SameCuts ([c] ++ post) (spaces c.blanked ++ post) {} {} pre)
  have hnot {gap : List Lexeme} (hall : gap.all isGap = true) : semicolon ∉ gap := by
    intro hmem
    simpa [isGap] using List.all_eq_true.mp hall _ hmem
  refine ⟨init, last, ?_, ?_⟩
  · rw [parts, h, Scan.after_append,
      ← Scan.parts_append_of_not_mem last (hnot (by simpa using hgap))]
    exact hparts
  · rw [parts, ofText_without h hc, Scan.after_append,
      ← Scan.parts_append_of_not_mem last (hnot (all_isGap_spaces _))]
    exact hparts'

/-- The groups are the same ones exactly if what follows on the comment is cut alike. -/
lemma sameGroups_without_iff (h : ofText text.toList = pre ++ c :: post)
    (hc : c.isComment = true) :
    SameGroups (groups text) (groups (without pre c post)) ↔
      Scan.SameCuts [] [] (Scan.after post {} (pre ++ [c]))
        (Scan.after post {} (pre ++ spaces c.blanked)) post := by
  obtain ⟨init, last, hparts, hparts'⟩ := exists_parts_without h hc
  have hgap : [c].all isGap = true := by simpa using isGap_of_isComment hc
  have hgap' := all_isGap_spaces c.blanked
  constructor
  · intro hsame
    have hinks := inks_eq_of_sameGroups hsame
    rw [hparts, hparts', inks_append, inks_append, List.append_cancel_left_eq] at hinks
    have hink {g : List Lexeme} (hg : g.all isGap = true) : ink (last ++ g) = ink last := by
      rw [ink_append, ink_eq_nil_iff.mpr (List.all_eq_true.mp hg), List.append_nil]
    exact Scan.sameCuts_of_inks_eq _ _ ((hink hgap).trans (hink hgap').symm) hinks
  · intro hcuts
    obtain ⟨more, rest, hmore, hmore'⟩ := Scan.exists_parts_eq_of_sameCuts (last ++ [c])
      (last ++ spaces c.blanked) hcuts
    apply sameGroups_of_alike
    rw [hparts, hparts', hmore, hmore']
    have hrefl (ps : List (List Lexeme)) : List.Forall₂ Alike ps ps :=
      List.forall₂_same.mpr fun p _ => Alike.refl p
    have hfit := fitting_ofText text.toList
    rw [h] at hfit
    obtain ⟨afterWord, hcomment⟩ := hfit.of_append
    have hbreaks := breaks_spaces_blanked hcomment hc
    exact List.rel_append (hrefl init) (.cons (alike_of_gap hgap hgap' hbreaks.symm) (hrefl rest))

lemma sameCuts_of_not_hides (h : ofText text.toList = pre ++ c :: post)
    (hc : c.isComment = true) (hhides : ¬ Hides pre post) :
    Scan.SameCuts [] [] (Scan.after post {} (pre ++ [c]))
      (Scan.after post {} (pre ++ spaces c.blanked)) post := by
  have hfit := fitting_ofText text.toList
  rw [h] at hfit
  obtain ⟨afterWord, hcomment⟩ := hfit.of_append
  have hother : Upcoming.ofLexemes ([c] ++ post) = .other := by
    cases c with
    | lineComment | blockComment => rfl
    | _ => simp [isComment] at hc
  have hsees : Upcoming.ofLexemes (spaces c.blanked ++ post) = Upcoming.ofLexemes post :=
    Upcoming.ofLexemes_append_of_space fun _ => isSpace_of_mem_spaces
  rw [Scan.after_append, Scan.after_append, Scan.after_eq_of_not_hides hother hsees hhides]
  generalize Scan.after (spaces c.blanked ++ post) {} pre = s
  obtain ⟨hblocks, hword, hpoint⟩ : (s.after post [c]).blocks = s.blocks ∧ _ :=
    Scan.after_gap (by simpa using isGap_of_isComment hc)
  obtain ⟨hblocks', hword', hpoint'⟩ : (s.after post (spaces c.blanked)).blocks = s.blocks ∧ _ :=
    Scan.after_gap (all_isGap_spaces _)
  rcases blanked_cases hcomment hc with hne | ⟨hnil, rfl | ⟨rest, rfl⟩⟩
  · have hne' : spaces c.blanked ≠ [] := by simpa [spaces] using hne
    exact Scan.sameCuts_of_blocks_eq (hblocks.trans hblocks'.symm)
      ((hpoint (List.cons_ne_nil _ _)).trans (hpoint' hne').symm)
      (Or.inl (hword.trans hword'.symm))
  · trivial
  · -- Without a stand-in a point may stand right before the line's end.
    exact ⟨fun hl => absurd hl (by simp), Scan.sameCuts_of_blocks_eq (hblocks.trans hblocks'.symm)
      rfl (Or.inl (hword.trans hword'.symm))⟩

/-- Without a comment the groups are the same ones exactly if the terminators that end statements
behind it still do, and others do not. They are the same ones if the comment hides nothing. -/
theorem sameGroups_without (h : ofText text.toList = pre ++ c :: post)
    (hc : c.isComment = true) :
    (SameGroups (groups text) (groups (without pre c post)) ↔
      ∀ before after, post = before ++ semicolon :: after →
        (EndsStatement (pre ++ [c] ++ before) after ↔
          EndsStatement (pre ++ spaces c.blanked ++ before) after)) ∧
      (¬ Hides pre post → SameGroups (groups text) (groups (without pre c post))) := by
  rw [sameGroups_without_iff h hc]
  exact ⟨Scan.sameCuts_iff_endsStatement, sameCuts_of_not_hides h hc⟩

/-- A comment behind a terminator hides nothing. -/
theorem sameGroups_behindTerminator :
    ofText "START TRANSACTION; -- now\nDELETE FROM t; COMMIT;".toList
        = ofText "START TRANSACTION; ".toList ++ lineComment " now".toList ::
          ofText "\nDELETE FROM t; COMMIT;".toList ∧
      ¬ Hides (ofText "START TRANSACTION; ".toList) (ofText "\nDELETE FROM t; COMMIT;".toList) ∧
      SameGroups (groups "START TRANSACTION; -- now\nDELETE FROM t; COMMIT;")
        (groups "START TRANSACTION; \nDELETE FROM t; COMMIT;") := by
  have hlexemes : ofText "START TRANSACTION; -- now\nDELETE FROM t; COMMIT;".toList
      = ofText "START TRANSACTION; ".toList ++ lineComment " now".toList ::
        ofText "\nDELETE FROM t; COMMIT;".toList := by
    decide +kernel
  have hhides : ¬ Hides (ofText "START TRANSACTION; ".toList)
      (ofText "\nDELETE FROM t; COMMIT;".toList) := by
    decide +kernel
  have hwithout : without (ofText "START TRANSACTION; ".toList) (lineComment " now".toList)
      (ofText "\nDELETE FROM t; COMMIT;".toList)
        = "START TRANSACTION; \nDELETE FROM t; COMMIT;" := by
    decide +kernel
  exact ⟨hlexemes, hhides, hwithout ▸ (sameGroups_without hlexemes rfl).2 hhides⟩

/-- Behind `START` a comment hides `TRANSACTION`, so that the transaction is cut into three
statements. -/
theorem not_sameGroups_behindStart :
    ofText "START /* now */ TRANSACTION; DELETE FROM t; COMMIT;".toList
        = ofText "START ".toList ++ blockComment " now ".toList true ::
          ofText " TRANSACTION; DELETE FROM t; COMMIT;".toList ∧
      without (ofText "START ".toList) (blockComment " now ".toList true)
          (ofText " TRANSACTION; DELETE FROM t; COMMIT;".toList)
        = "START   TRANSACTION; DELETE FROM t; COMMIT;" ∧
      ¬ SameGroups (groups "START /* now */ TRANSACTION; DELETE FROM t; COMMIT;")
        (groups "START   TRANSACTION; DELETE FROM t; COMMIT;") := by
  refine ⟨by decide +kernel, by decide +kernel, fun hsame => ?_⟩
  have hthree : (statements "START /* now */ TRANSACTION; DELETE FROM t; COMMIT;").length = 3 := by
    decide +kernel
  have hone : (statements "START   TRANSACTION; DELETE FROM t; COMMIT;").length = 1 := by
    decide +kernel
  have hlength := (forall₂_sameTokens hsame).length_eq
  rw [hthree, hone] at hlength
  exact absurd hlength (by decide)

end Script

end SqlWorkbench
