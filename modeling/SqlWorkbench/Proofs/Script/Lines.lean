import Mathlib.Tactic.Common
import SqlWorkbench.Proofs.Script.Fidelity

/-!
# The lines of a draft

What a draft knows of lines and groups, its frame, does not depend on the statement that is being
written. Main statement: a gap changes the frame only if a line ends in it, and what is no gap only
by the lines of its first and its last character.
-/

namespace SqlWorkbench

namespace Lexeme

open Text

variable {l : Lexeme} {ls part : List Lexeme}

/-! ### Line breaks -/

/-- The line breaks in the text of lexemes. -/
def breaks (ls : List Lexeme) : Nat :=
  (ls.flatMap text).count '\n'

/-- The line breaks in a text that another character follows. -/
def innerBreaks (s : List Char) : Nat :=
  (s.reverse.dropWhile (· == '\n')).count '\n'

/-- The line breaks in front of the last character that is none itself and stands in no gap. -/
def inkedBreaks (part : List Lexeme) : Nat :=
  match part.reverse.dropWhile isGap with
  | [] => 0
  | l :: before => breaks before + innerBreaks l.text

/-- The gap in front of what is no gap. -/
def leading (part : List Lexeme) : List Lexeme :=
  part.takeWhile isGap

@[simp] lemma breaks_nil : breaks [] = 0 := rfl

@[simp] lemma breaks_append (ks ls : List Lexeme) : breaks (ks ++ ls) = breaks ks + breaks ls := by
  simp [breaks]

@[simp] lemma breaks_singleton (l : Lexeme) : breaks [l] = l.text.count '\n' := by
  simp [breaks]

lemma breaks_cons (l : Lexeme) (ls : List Lexeme) :
    breaks (l :: ls) = l.text.count '\n' + breaks ls := by
  simp [breaks]

@[simp] lemma breaks_reverse (ls : List Lexeme) : breaks ls.reverse = breaks ls := by
  induction ls with
  | nil => rfl
  | cons l ls ih => rw [List.reverse_cons, breaks_append, ih, breaks_singleton, breaks_cons,
    Nat.add_comm]

@[simp] lemma innerBreaks_concat_break (s : List Char) :
    innerBreaks (s ++ ['\n']) = innerBreaks s := by
  simp [innerBreaks]

lemma innerBreaks_concat {c : Char} (s : List Char) (hc : c ≠ '\n') :
    innerBreaks (s ++ [c]) = s.count '\n' := by
  simp [innerBreaks, hc]

lemma inkedBreaks_append_gap (h : ls.all isGap = true) :
    inkedBreaks (part ++ ls) = inkedBreaks part := by
  have hgap : ∀ l ∈ ls.reverse, l.isGap = true := by simpa using h
  rw [inkedBreaks, inkedBreaks, List.reverse_append, List.dropWhile_append_of_pos hgap]

lemma inkedBreaks_append (h : ls.all isGap = false) :
    inkedBreaks (part ++ ls) = breaks part + inkedBreaks ls := by
  have hne : ls.reverse.dropWhile isGap ≠ [] := by
    rw [Ne, List.dropWhile_eq_nil_iff]
    simpa using h
  rw [inkedBreaks, inkedBreaks, List.reverse_append, List.dropWhile_append]
  cases hdrop : ls.reverse.dropWhile isGap with
  | nil => exact absurd hdrop hne
  | cons l before => simp [Nat.add_assoc, Nat.add_left_comm]

lemma inkedBreaks_singleton (hl : l.isGap = false) : inkedBreaks [l] = innerBreaks l.text := by
  simp [inkedBreaks, hl]

lemma leading_append_of_all (h : part.all isGap = true) :
    leading (part ++ ls) = part ++ leading ls :=
  List.takeWhile_append_of_pos (by simpa using h)

lemma leading_of_all (h : part.all isGap = true) : leading part = part := by
  have happend : leading (part ++ []) = part ++ leading [] := leading_append_of_all h
  simpa [leading] using happend

lemma leading_append (h : part.all isGap = false) : leading (part ++ ls) = leading part := by
  rw [leading, List.takeWhile_append, if_neg]
  · rfl
  · intro hlen
    have hself := (List.takeWhile_prefix isGap (l := part)).eq_of_length hlen
    rw [List.takeWhile_eq_self_iff, ← List.all_eq_true, h] at hself
    exact Bool.false_ne_true hself

lemma leading_concat (hl : l.isGap = false) : leading (part ++ [l]) = leading part := by
  cases hpart : part.all isGap with
  | true =>
    rw [leading_append_of_all hpart, leading_of_all hpart]
    simp [leading, hl]
  | false => exact leading_append hpart

lemma breaks_leading_le (part ls : List Lexeme) :
    breaks (leading part) ≤ breaks (leading (part ++ ls)) := by
  cases hpart : part.all isGap with
  | true =>
    rw [leading_append_of_all hpart, leading_of_all hpart, breaks_append]
    omega
  | false => rw [leading_append hpart]

/-! ### Statements of parts -/

lemma statement_eq_nil_iff (hs : ∀ l ∈ part, l.Sound) :
    statement part = [] ↔ part.all isGap = true := by
  rw [List.all_eq_true]
  refine ⟨fun hnil => ?_, statement_of_gap⟩
  obtain ⟨body, after, hpart, hafter, hhead, hlast, -⟩ := exists_eq_gap_append part
  rcases eq_or_ne body [] with rfl | hne
  · intro l hl
    rw [← List.takeWhile_append_dropWhile (p := isGap) (l := part), hpart] at hl
    rcases List.mem_append.mp hl with hl | hl
    · exact List.mem_takeWhile_imp hl
    · exact hafter l hl
  · have hbody : ∀ l ∈ body, l.Sound := by
      intro l hl
      apply hs l
      exact (List.dropWhile_suffix isGap).subset (hpart ▸ List.mem_append_left after hl)
    rw [statement, layout_eq hpart hafter hlast] at hnil
    obtain ⟨blanks, hlayout, hblanks⟩ := exists_eq_trimEnd_append (layoutAfter [] body)
    rw [hnil, List.nil_append] at hlayout
    obtain ⟨c, cs, hcs⟩ := List.exists_cons_of_ne_nil (layoutAfter_ne_nil [] hne hlast hbody)
    have hc := head?_layoutAfter hhead hbody c (by simp [hcs])
    rw [hblanks c (by simp [← hlayout, hcs])] at hc
    exact absurd hc (by simp)

end Lexeme

/-! ### Frames -/

namespace Draft

open Lexeme

variable {d : Draft} {line : Nat} {c : Char} {cs : List Char} {l : Lexeme}

/-- The draft without the statement that is being written. -/
def frame (d : Draft) : Draft :=
  { d with current := [], spaceDue := false }

/-- The draft after characters, the last of them on a line. -/
def inked (d : Draft) (line last : Nat) : Draft :=
  { d with startLine := some (d.startLine.getD line), lastLine := last, terminated := false }

lemma frame_pushBlank : (d.pushBlank c).frame = d.frame := by
  rw [pushBlank]
  split <;> rfl

/-- The current group ends with its line. -/
def Ripe (d : Draft) : Prop :=
  (d.terminated && !d.statements.isEmpty) = true

lemma endLine_of_ripe (h : d.Ripe) : d.endLine = d.softBreak.flush := if_pos h

lemma endLine_of_not_ripe (h : ¬ d.Ripe) : d.endLine = d.softBreak := if_neg h

lemma frame_endLine : d.endLine.frame = d.frame.endLine := by
  by_cases h : d.Ripe
  · rw [endLine_of_ripe h, endLine_of_ripe (d := d.frame) h]
    rfl
  · rw [endLine_of_not_ripe h, endLine_of_not_ripe (d := d.frame) h]
    rfl

/-- A second end of line finishes nothing. -/
lemma endLine_endLine_frame : d.frame.endLine.endLine = d.frame.endLine := by
  have hnot : ¬ d.frame.endLine.Ripe := by
    by_cases h : d.frame.Ripe
    · rw [endLine_of_ripe h]
      exact Bool.false_ne_true
    · rwa [endLine_of_not_ripe h]
  rw [endLine_of_not_ripe hnot, ← frame_endLine]
  rfl

lemma frame_endLines :
    (d.endLines line cs).1.frame = if '\n' ∈ cs then d.frame.endLine else d.frame := by
  induction cs generalizing d line with
  | nil => rfl
  | cons c cs ih =>
    rw [endLines]
    split
    · next hc =>
      rw [ih, frame_endLine, endLine_endLine_frame]
      simp [hc]
    · next hc =>
      have hmem : '\n' ∈ c :: cs ↔ '\n' ∈ cs := by simp [Ne.symm hc]
      rw [ih]
      simp only [hmem]

/-- What a gap does to the frame: the line ends if it breaks one. -/
lemma frame_draftAfter_gap (d : Draft) (line : Nat) (topLevel : Bool) {afterWord : Bool}
    {rest : List Char} (hl : l.isGap = true)
    (hfits : l.Fits afterWord rest) :
    (Scan.draftAfter d line topLevel l).1.frame
      = if 0 < breaks [l] then d.frame.endLine else d.frame := by
  have hbreaks : 0 < breaks [l] ↔ '\n' ∈ l.text := by
    rw [breaks_singleton, List.count_pos_iff]
  simp only [hbreaks]
  cases l with
  | lineBreak => exact frame_endLine
  | blank b => simp [Scan.draftAfter, frame_pushBlank, text, Ne.symm hfits.2]
  | lineComment body => simp [Scan.draftAfter, text, hfits.1]
  | blockComment body closed =>
    have hmem : '\n' ∈ (blockComment body closed).text ↔ '\n' ∈ body := by
      cases closed <;> simp [text]
    simp only [hmem]
    exact frame_endLines
  | _ => simp [isGap] at hl

lemma frame_push (d : Draft) (line : Nat) (hc : c ≠ '\n') :
    (d.push line c).frame = d.frame.inked line line := by
  simp [push, pushRaw, frame, inked, hc]

lemma inked_inked {start last line' last' : Nat} :
    (d.inked start last).inked line' last' = d.inked start last' := by
  simp [inked]

lemma frame_pushAll (hne : cs ≠ []) (hcs : '\n' ∉ cs) :
    (d.pushAll line cs).frame = d.frame.inked line line := by
  induction cs generalizing d with
  | nil => exact absurd rfl hne
  | cons c cs ih =>
    rw [List.mem_cons, not_or] at hcs
    have hpush := frame_push d line (Ne.symm hcs.1)
    rw [pushAll, List.foldl_cons, ← pushAll]
    rcases eq_or_ne cs [] with rfl | hne'
    · exact hpush
    · rw [ih hne' hcs.2, hpush, inked_inked]

/-- A region behind some of its characters: the last line is that of the last character that is no
line break. -/
lemma frame_pushRegion {e : Draft} {start : Nat} (pre cs : List Char)
    (h : d.frame = e.inked start (start + innerBreaks pre)) :
    (d.pushRegion (start + pre.count '\n') cs).1.frame
      = e.inked start (start + innerBreaks (pre ++ cs)) := by
  induction cs generalizing d pre with
  | nil => simpa [pushRegion] using h
  | cons c cs ih =>
    rw [pushRegion]
    by_cases hc : c = '\n'
    · have hraw : (d.pushRaw (start + pre.count '\n') c).frame = d.frame := by
        have hterminated : d.terminated = false := congrArg terminated h
        simp [pushRaw, frame, hc, hterminated]
      have hnext := ih (d := d.pushRaw (start + pre.count '\n') c) (pre ++ ['\n'])
        (by rw [hraw, h, innerBreaks_concat_break])
      simpa [hc, ← Nat.add_assoc] using hnext
    · have hraw : (d.pushRaw (start + pre.count '\n') c).frame
          = d.frame.inked (start + pre.count '\n') (start + pre.count '\n') := by
        simp [pushRaw, frame, inked, hc]
      have hnext := ih (d := d.pushRaw (start + pre.count '\n') c) (pre ++ [c])
        (by rw [hraw, h, inked_inked, innerBreaks_concat pre hc])
      simpa [hc] using hnext

lemma snd_pushRegion : (d.pushRegion line cs).2 = line + cs.count '\n' := by
  induction cs generalizing d line with
  | nil => rfl
  | cons c cs ih =>
    rw [pushRegion, ih, List.count_cons]
    by_cases hc : c = '\n' <;> simp [hc]
    omega

lemma snd_endLines : (d.endLines line cs).2 = line + cs.count '\n' := by
  induction cs generalizing d line with
  | nil => rfl
  | cons c cs ih =>
    rw [endLines, List.count_cons]
    by_cases hc : c = '\n' <;> simp [hc, ih]
    omega

end Draft

namespace Lexeme

variable {afterWord : Bool} {rest : List Char} {l : Lexeme}

/-! ### Lines of lexemes -/

lemma break_not_mem_of_isWordPart {s : List Char} (h : ∀ c ∈ s, isWordPart c = true) :
    '\n' ∉ s := by
  intro hmem
  exact absurd (h '\n' hmem) (by decide)

lemma IsTag.break_not_mem {tag : List Char} (h : IsTag tag) : '\n' ∉ tag := by
  obtain ⟨name, rfl, -, hpart⟩ := h
  have hname : '\n' ∉ name := fun hmem => absurd (hpart '\n' hmem) (by decide)
  simp [hname]

lemma ne_break_of_isQuote {c : Char} (h : isQuote c = true) : c ≠ '\n' := by
  rintro rfl
  exact absurd h (by decide)

end Lexeme

namespace Draft

open Lexeme

variable {d : Draft} {line : Nat} {topLevel afterWord : Bool} {rest : List Char} {l : Lexeme}

/-- A lexeme moves the line by its line breaks. -/
lemma snd_draftAfter (hfits : l.Fits afterWord rest) :
    (Scan.draftAfter d line topLevel l).2 = line + breaks [l] := by
  rw [breaks_singleton]
  cases l with
  | lineBreak => rfl
  | blank c => simp [Scan.draftAfter, text, hfits.2]
  | lineComment body => simp [Scan.draftAfter, text, List.count_eq_zero.mpr hfits.1]
  | blockComment body closed => cases closed <;> simp [Scan.draftAfter, text, snd_endLines]
  | quoted quote body closed =>
    have hquote := ne_break_of_isQuote hfits.1
    simp [Scan.draftAfter, text, snd_pushRegion, hquote]
  | dollarQuoted tag body closed =>
    have htag := List.count_eq_zero.mpr hfits.2.1.break_not_mem
    simp [Scan.draftAfter, text, snd_pushRegion, htag]
  | semicolon => simp [Scan.draftAfter, text]
  | word letters =>
    have hletters := List.count_eq_zero.mpr (break_not_mem_of_isWordPart hfits.2.1)
    simp [Scan.draftAfter, text, hletters]
  | symbol c => simp [Scan.draftAfter, text, hfits.1.1]

/-- What a lexeme that is no gap does to the frame. -/
lemma frame_draftAfter (d : Draft) (line : Nat) (hl : l.isGap = false)
    (hfits : l.Fits afterWord rest) (hsemi : topLevel = true → l ≠ .semicolon) :
    (Scan.draftAfter d line topLevel l).1.frame
      = d.frame.inked line (line + innerBreaks l.text) := by
  have hsingle {c : Char} (hc : c ≠ '\n') : innerBreaks [c] = 0 := innerBreaks_concat [] hc
  have hnone {s : List Char} (hs : '\n' ∉ s) : innerBreaks s = 0 := by
    simp only [innerBreaks, List.count_eq_zero]
    intro hmem
    exact hs (List.mem_reverse.mp ((List.dropWhile_suffix _).subset hmem))
  cases l with
  | quoted quote body closed =>
    have hquote := ne_break_of_isQuote hfits.1
    have hpush : (d.push line quote).frame = d.frame.inked line (line + innerBreaks [quote]) := by
      rw [frame_push d line hquote, hsingle hquote]
      rfl
    have hregion := frame_pushRegion [quote] (body ++ if closed then [quote] else []) hpush
    simpa [Scan.draftAfter, text, hquote] using hregion
  | dollarQuoted tag body closed =>
    have htag := hfits.2.1.break_not_mem
    have hpush : (d.pushAll line tag).frame = d.frame.inked line (line + innerBreaks tag) := by
      rw [frame_pushAll hfits.2.1.ne_nil htag, hnone htag]
      rfl
    have hregion := frame_pushRegion tag (body ++ if closed then tag else []) hpush
    simpa [Scan.draftAfter, text, List.count_eq_zero.mpr htag] using hregion
  | semicolon =>
    have htop : topLevel = false := by simpa using fun h => hsemi h rfl
    simp [Scan.draftAfter, htop, text, frame_push, hsingle]
  | word letters =>
    have hletters := break_not_mem_of_isWordPart hfits.2.1
    simp [Scan.draftAfter, text, frame_pushAll hfits.1 hletters, hnone hletters]
  | symbol c => simp [Scan.draftAfter, text, frame_push d line hfits.1.1, hsingle hfits.1.1]
  | _ => simp [isGap] at hl

end Draft

end SqlWorkbench
