import Mathlib.Tactic.Common
import SqlWorkbench.Proofs.Script.Occurrence
import SqlWorkbench.Proofs.Session.Scripts

/-!
# Destructive statements in scripts

A script with a destructive statement is found destructive, unless a line that reads like a comment
begins inside a region or a bracketed comment and goes on behind its end. Main statement: the
statements of a script that is not destructive are not destructive either, exactly if no destructive
word comes to the surface there: on such a line, and in its own statement on a line that does not
read like a comment.
-/

namespace SqlWorkbench

open Text

namespace Script

variable {text : String} {line u t : List Char}

/-! ### Destructive words -/

lemma destructiveWords_spec : ∀ word ∈ destructiveWords,
    word ≠ [] ∧ ∀ letter ∈ word, letter.isAlpha = true := by
  have hall : destructiveWords.all (fun word => word ≠ [] && word.all Char.isAlpha) = true := by
    decide +kernel
  simpa using hall

/-- A destructive word stands between what is in front of a place and what follows it. -/
def DestructiveAt (u t : List Char) : Prop :=
  EndsWord u ∧ IsWordOf destructiveWords (t.takeWhile isWordChar)

lemma DestructiveAt.exists_cons (h : DestructiveAt u t) :
    ∃ c rest, t = c :: rest ∧ isWordChar c = true := by
  have hne := h.2.ne_nil fun word hword => (destructiveWords_spec word hword).1
  cases t with
  | nil => exact absurd rfl hne
  | cons c rest =>
    refine ⟨c, rest, rfl, ?_⟩
    by_contra hc
    rw [List.takeWhile_cons_of_neg hc] at hne
    exact hne rfl

/-- A line has a destructive word exactly if one stands in it. -/
lemma hasWord_destructiveWords_iff :
    hasWord destructiveWords false line = true ↔ ∃ u t, line = u ++ t ∧ DestructiveAt u t := by
  rw [hasWord_eq_true_iff fun word hword => (destructiveWords_spec word hword).1]
  constructor
  · rintro ⟨u, w, v, rfl, ⟨word, hword, hform⟩, -, hu, hv⟩
    refine ⟨u, w ++ v, by simp, hu, word, hword, ?_⟩
    rw [takeWhile_append_of_startsWord hv, List.takeWhile_eq_self_iff.mpr]
    · exact hform
    · exact hform.isWordChar (destructiveWords_spec word hword).2
  · rintro ⟨u, t, rfl, hu, hw⟩
    refine ⟨u, _, t.dropWhile isWordChar, ?_, hw, fun _ => rfl, hu, ?_⟩
    · rw [List.append_assoc, List.takeWhile_append_dropWhile]
    · exact startsWord_dropWhile t

/-- A script is destructive exactly if a destructive word stands on a line that does not read like a
comment. -/
lemma isDestructive_iff : isDestructive text = true ↔ ∃ u t, text.toList = u ++ t ∧
    DestructiveAt u t ∧ isCommentLine (lineFront u) = false := by
  constructor
  · intro h
    obtain ⟨line, hline, hfound⟩ := List.any_eq_true.mp h
    obtain ⟨hcode, hline'⟩ := Bool.and_eq_true_iff.mp hfound
    obtain ⟨u, t, rfl, hword⟩ := hasWord_destructiveWords_iff.mp hline'
    obtain ⟨before, after, htext, hbefore, hbreak, hafter⟩ := of_mem_lines hline
    obtain ⟨c, rest, rfl, hc⟩ := hword.exists_cons
    rw [isCommentLine_append_cons hc, Bool.not_eq_true'] at hcode
    have hends : EndsWord before := by
      intro d hd
      rw [hbefore d hd]
      decide
    have hstarts : StartsWord after := fun d hd => isWordChar_of_isBlank (hafter d hd)
    refine ⟨before ++ u, c :: rest ++ after, by simp [htext],
      ⟨.append (fun _ => hends) hword.1, ?_⟩, ?_⟩
    · rw [takeWhile_append_of_startsWord hstarts]
      exact hword.2
    · rw [List.mem_append, not_or] at hbreak
      rwa [lineFront_append_of_getLast? hbefore hbreak.1]
  · rintro ⟨u, t, htext, hword, hcode⟩
    obtain ⟨c, t, rfl, hc⟩ := hword.exists_cons
    obtain ⟨kept, rest, hline, rfl, hrest⟩ := exists_mem_lines htext (isBlank_of_isWordChar hc)
    have hstarts : StartsWord rest := fun d hd => isWordChar_of_isBlank (hrest d hd)
    refine List.any_eq_true.mpr ⟨_, hline, Bool.and_eq_true_iff.mpr ⟨?_, ?_⟩⟩
    · rw [isCommentLine_append_cons hc, hcode]
      rfl
    · obtain ⟨before, hu, -⟩ := exists_eq_append_lineFront u
      obtain ⟨hends, hword⟩ := hword
      rw [hu] at hends
      rw [← List.cons_append, takeWhile_append_of_startsWord hstarts] at hword
      exact hasWord_destructiveWords_iff.mpr ⟨_, _, rfl, hends.of_append, hword⟩

end Script

namespace Lexeme

variable {l : Lexeme} {ls front rest : List Lexeme} {afterWord : Bool} {x y : List Char}

/-! ### Lines that begin between lexemes -/

/-- A region or a bracketed comment, in which lines may break. -/
def spansLines : Lexeme → Bool
  | blockComment _ _ | quoted _ _ _ | dollarQuoted _ _ _ => true
  | _ => false

/-- A text is cut between two lexemes or inside one. -/
lemma exists_cut {before after : List Char} (h : ls.flatMap text = before ++ after) :
    (∃ ls₁ ls₂, ls = ls₁ ++ ls₂ ∧ before = ls₁.flatMap text ∧ after = ls₂.flatMap text) ∨
      ∃ ls₁ l ls₂ x y, ls = ls₁ ++ l :: ls₂ ∧ l.text = x ++ y ∧ x ≠ [] ∧ y ≠ [] ∧
        before = ls₁.flatMap text ++ x ∧ after = y ++ ls₂.flatMap text := by
  induction ls generalizing before with
  | nil =>
    obtain ⟨rfl, rfl⟩ := List.append_eq_nil_iff.mp h.symm
    exact Or.inl ⟨[], [], rfl, rfl, rfl⟩
  | cons l ls ih =>
    rw [List.flatMap_cons] at h
    rcases append_cases h with ⟨x, rfl, hx⟩ | ⟨y, hy, hl, rfl⟩
    · rcases ih hx with ⟨ls₁, ls₂, rfl, rfl, rfl⟩ | ⟨ls₁, k, ls₂, x, y, rfl, hk, hxne, hy, rfl, rfl⟩
      · exact Or.inl ⟨l :: ls₁, ls₂, rfl, rfl, rfl⟩
      · exact Or.inr ⟨l :: ls₁, k, ls₂, x, y, rfl, hk, hxne, hy, by simp, rfl⟩
    · rcases eq_or_ne before [] with rfl | hne
      · exact Or.inl ⟨[], l :: ls, rfl, rfl, by simpa using hl.symm⟩
      · exact Or.inr ⟨[], l, ls, before, y, rfl, hl, hne, hy, rfl, rfl⟩

/-- Only a region or a bracketed comment goes on behind a line break. -/
lemma Fits.spansLines_eq_true {rest : List Char} (h : l.Fits afterWord rest)
    (hl : l.text = x ++ y) (hx : x.getLast? = some '\n') (hy : y ≠ []) : l.spansLines = true := by
  have hmem : '\n' ∈ l.text := by
    rw [hl]
    exact List.mem_append_left y (List.mem_of_getLast? hx)
  have hlength : 1 < l.text.length := by
    have hxpos : 0 < x.length := List.length_pos_of_mem (List.mem_of_getLast? hx)
    have hypos := List.length_pos_iff.mpr hy
    rw [hl, List.length_append]
    omega
  cases l with
  | lineComment comment => exact absurd (by simpa [text] using hmem) h.1
  | word letters => exact absurd (h.2.1 '\n' hmem) (by decide)
  | lineBreak | blank _ | semicolon | symbol _ => simp [text] at hlength
  | _ => rfl

/-- A hyphen begins a comment, or it is a symbol. -/
lemma Fits.eq_of_hyphen {rest : List Char} (h : l.Fits afterWord rest) (hl : l.text = '-' :: x) :
    (∃ comment, l = lineComment comment) ∨ l = symbol '-' := by
  cases l with
  | lineComment comment => exact Or.inl ⟨comment, rfl⟩
  | symbol c =>
    obtain rfl : c = '-' := by simpa [text] using congrArg List.head? hl
    exact Or.inr rfl
  | blank c =>
    obtain rfl : c = '-' := by simpa [text] using congrArg List.head? hl
    exact absurd h.1 (by decide)
  | quoted quote body closed =>
    obtain rfl : quote = '-' := by simpa [text] using congrArg List.head? hl
    exact absurd h.1 (by decide)
  | dollarQuoted tag body closed =>
    obtain ⟨name, rfl, -⟩ := h.2.1
    simp [text] at hl
  | word letters =>
    have hpart := h.2.1 '-' (by rw [text] at hl; simp [hl])
    exact absurd hpart (by decide)
  | _ => simp [text] at hl

/-- A line that reads like a comment begins with a comment, or with one blank more than another such
line. -/
lemma Fits.begins_comment {rest line : List Char} (h : l.Fits afterWord rest)
    (hline : line <+: l.text ++ rest) (hcomment : Script.isCommentLine line = true) :
    l.isGap = true ∧ ((∃ comment, l = lineComment comment) ∨
      ∃ c line', l.text = [c] ∧ line = c :: line' ∧ Script.isCommentLine line' = true) := by
  obtain ⟨blanks, comment, hblanks, rfl⟩ := Script.isCommentLine_iff.mp hcomment
  obtain ⟨more, htext⟩ := hline
  obtain ⟨c, z, hz⟩ := List.exists_cons_of_ne_nil h.text_ne_nil
  rw [hz, eq_comm] at htext
  cases blanks with
  | nil =>
    obtain ⟨rfl, hnext⟩ := List.cons_eq_cons.mp htext
    rcases h.eq_of_hyphen hz with ⟨comment, rfl⟩ | rfl
    · exact ⟨rfl, Or.inl ⟨comment, rfl⟩⟩
    · obtain ⟨-, rfl⟩ := List.cons_eq_cons.mp (show ['-'] = '-' :: z from hz)
      have hnext : rest = '-' :: comment ++ more := hnext
      exact absurd (by simp [hnext]) (h.2.1 rfl)
  | cons b blanks =>
    obtain ⟨rfl, -⟩ := List.cons_eq_cons.mp htext
    have hc : isBlank c = true := hblanks c (by simp)
    have hline : Script.isCommentLine (blanks ++ '-' :: '-' :: comment) = true :=
      Script.isCommentLine_iff.mpr ⟨blanks, comment, fun b hb => hblanks b (by simp [hb]), rfl⟩
    cases l with
    | blank _ | lineBreak =>
      obtain ⟨rfl, -⟩ := List.cons_eq_cons.mp (show [_] = c :: z from hz)
      exact ⟨rfl, Or.inr ⟨_, _, rfl, rfl, hline⟩⟩
    | lineComment comment =>
      obtain ⟨rfl, -⟩ := List.cons_eq_cons.mp (show '-' :: _ = c :: z from hz)
      exact absurd hc (by decide)
    | blockComment comment closed =>
      obtain ⟨rfl, -⟩ := List.cons_eq_cons.mp (show '/' :: _ = c :: z from hz)
      exact absurd hc (by decide)
    | _ =>
      have hstarts := h.sound.starts rfl c (by simp [hz])
      rw [hc] at hstarts
      exact absurd hstarts (by simp)

/-- A line that reads like a comment and begins between two lexemes goes on in a gap. -/
lemma Fitting.isGap_of_isCommentLine (h : Fitting afterWord (front ++ l :: rest))
    (hl : l.text = x ++ y) (hy : y ≠ []) (hbreak : '\n' ∉ front.flatMap text ++ x)
    (hcomment : Script.isCommentLine (front.flatMap text ++ x) = true) : l.isGap = true := by
  induction front generalizing afterWord with
  | nil => exact (h.1.begins_comment ⟨y ++ rest.flatMap text, by simp [hl]⟩ hcomment).1
  | cons k front ih =>
    rw [List.cons_append, fitting_cons, List.flatMap_append, List.flatMap_cons, hl] at h
    obtain ⟨hk, hrest⟩ := h
    obtain ⟨-, ⟨comment, rfl⟩ | ⟨c, line, htext, hline, hcomment⟩⟩ :=
      hk.begins_comment ⟨y ++ rest.flatMap text, by simp⟩ hcomment
    · -- The comment goes on to the end of the line, where a line break follows.
      rw [List.flatMap_cons, List.append_assoc, List.mem_append, not_or] at hbreak
      rw [List.append_assoc x, ← List.append_assoc] at hk
      cases hw : front.flatMap text ++ x with
      | cons c w =>
        obtain rfl : c = '\n' := hk.2 c (by simp [hw])
        exact absurd (by simp [hw]) hbreak.2
      | nil =>
        obtain ⟨hfront, rfl⟩ := List.append_eq_nil_iff.mp hw
        obtain rfl : front = [] := by
          by_contra hne
          exact flatMap_text_ne_nil (fun k hk => hrest.sound k (by simp [hk])) hne hfront
        obtain ⟨c, y, rfl⟩ := List.exists_cons_of_ne_nil hy
        obtain rfl : c = '\n' := hk.2 c (by simp)
        obtain rfl := hrest.1.eq_lineBreak (by simp [hl])
        rfl
    · rw [List.flatMap_cons, htext, List.singleton_append, List.cons_append] at hline hbreak
      obtain ⟨-, rfl⟩ := List.cons_eq_cons.mp hline
      exact ih hrest (fun hmem => hbreak (List.mem_cons_of_mem c hmem)) hcomment

/-- A line that reads like a comment and goes on with what is no gap begins inside that lexeme, or
inside a region or a bracketed comment in front of it. -/
lemma Fitting.begins_inside {before line : List Char} (h : Fitting afterWord (ls ++ l :: rest))
    (hgap : l.isGap = false) (hl : l.text = x ++ y) (hy : y ≠ [])
    (hcut : ls.flatMap text ++ x = before ++ line) (hbefore : ∀ c ∈ before.getLast?, c = '\n')
    (hline : '\n' ∉ line) (hcomment : Script.isCommentLine line = true) :
    (∃ z, x = z ++ line ∧ z.getLast? = some '\n') ∨
      ∃ ls₁ k ls₂ z z', ls = ls₁ ++ k :: ls₂ ∧ k.spansLines = true ∧ k.text = z ++ '\n' :: z' ∧
        line = z' ++ (ls₂.flatMap text ++ x) := by
  have hbetween {ls₁ ls₂ : List Lexeme} (hls : ls = ls₁ ++ ls₂)
      (hrest : line = ls₂.flatMap text ++ x) : False := by
    subst hrest
    rw [hls, List.append_assoc] at h
    obtain ⟨_, hfront⟩ := h.of_append
    rw [hfront.isGap_of_isCommentLine hl hy hline hcomment] at hgap
    exact absurd hgap (by simp)
  have hends {front z : List Char} (hfront : before = front ++ z) (hz : z ≠ []) :
      z.getLast? = some '\n' := by
    rw [hfront, List.getLast?_append_of_ne_nil _ hz, List.getLast?_eq_some_getLast hz] at hbefore
    rw [List.getLast?_eq_some_getLast hz, hbefore _ rfl]
  rcases append_cases hcut with ⟨z, hfront, hx⟩ | ⟨z, hz, hls, hlast⟩
  · rcases eq_or_ne z [] with rfl | hz
    · exact (hbetween (List.append_nil ls).symm hx.symm).elim
    · exact Or.inl ⟨z, hx, hends hfront hz⟩
  · rcases exists_cut hls with ⟨ls₁, ls₂, hsplit, -, rfl⟩ |
      ⟨ls₁, k, ls₂, z, z', hsplit, hk, hzne, hz', hfront, rfl⟩
    · exact (hbetween hsplit hlast).elim
    · have hbreak := hends hfront hzne
      rw [hsplit, List.append_assoc] at h
      obtain ⟨_, hrest⟩ := h.of_append
      obtain ⟨init, rfl⟩ := List.getLast?_eq_some_iff.mp hbreak
      exact Or.inr ⟨ls₁, k, ls₂, init, z', hsplit, hrest.1.spansLines_eq_true hk hbreak hz',
        by simp [hk], by simpa using hlast⟩

end Lexeme

namespace Script

open Lexeme

variable {text : String}

namespace Place

variable {p : Place text}

/-- The line of the place begins inside a region or a bracketed comment that ends in front of the
place. -/
def FollowsInside (p : Place text) : Prop :=
  ∃ ls₁ l ls₂ x y, p.preceding = ls₁ ++ l :: ls₂ ∧ l.spansLines = true ∧
    l.text = x ++ '\n' :: y ∧ lineFront p.upTo = y ++ (ls₂.flatMap Lexeme.text ++ p.head)

/-- A destructive word comes to the surface: in the script it stands on a line that reads like a
comment, behind the end of what the line begins in, and in its statement on a line that does not. -/
structure Surfaces (p : Place text) : Prop where
  destructiveAt : DestructiveAt p.upTo p.onward
  isCommentLine : isCommentLine (lineFront p.upTo) = true
  followsInside : p.FollowsInside
  isCommentLine_written : Script.isCommentLine (lineFront p.written) = false

end Place

/-! ### Destructive statements -/

/-- A statement is destructive exactly if a destructive word that is in no gap stands on a line of
its statement that does not read like a comment. -/
lemma exists_isDestructive_iff : (∃ s ∈ statements text, isDestructive s = true) ↔
    ∃ p : Place text, DestructiveAt p.upTo p.onward ∧
      isCommentLine (lineFront p.written) = false := by
  constructor
  · rintro ⟨s, hs, hdestructive⟩
    obtain ⟨u, t, heq, hword, hcode⟩ := isDestructive_iff.mp hdestructive
    obtain ⟨c, rest, rfl, hc⟩ := hword.exists_cons
    obtain ⟨p, hp⟩ := exists_place hs heq (isBlank_of_isWordChar hc)
    refine ⟨p, ⟨hp.endsWord_iff.mp hword.1, ?_⟩, ?_⟩
    · rw [← hp.takeWhile_eq]
      exact hword.2
    · rwa [← hp.isCommentLine_eq]
  · rintro ⟨p, hword, hcode⟩
    obtain ⟨c, rest, honward, hc⟩ := hword.exists_cons
    have hhead : ∀ d ∈ p.tail.head?, isBlank d = false := by
      intro d hd
      have hsame : p.onward.head? = some d := by
        rwa [Place.onward, List.head?_append_of_ne_nil _ p.tail_ne_nil]
      obtain rfl : c = d := by simpa [honward] using hsame
      exact isBlank_of_isWordChar hc
    obtain ⟨s, hs, u, t, heq, hp⟩ := p.exists_mem_statements hhead
    refine ⟨s, hs, isDestructive_iff.mpr ⟨u, t, heq, ⟨hp.endsWord_iff.mpr hword.1, ?_⟩, ?_⟩⟩
    · rw [hp.takeWhile_eq]
      exact hword.2
    · rwa [hp.isCommentLine_eq]

/-- In a script that is not destructive such a word comes to the surface. -/
lemma Place.surfaces {p : Place text} (h : isDestructive text = false)
    (hword : DestructiveAt p.upTo p.onward)
    (hwritten : Script.isCommentLine (lineFront p.written) = false) : p.Surfaces := by
  have hcomment : Script.isCommentLine (lineFront p.upTo) = true := by
    by_contra hcode
    rw [isDestructive_iff.mpr ⟨_, _, p.toList_eq, hword, by simpa using hcode⟩] at h
    exact absurd h (by simp)
  refine ⟨hword, hcomment, ?_, hwritten⟩
  have hfit : Fitting false (p.preceding ++ p.lexeme :: p.following) := by
    rw [← p.ofText_eq]
    exact fitting_ofText _
  obtain ⟨before, hbefore, hlast⟩ := exists_eq_append_lineFront p.upTo
  rcases hfit.begins_inside p.isGap_lexeme p.text_lexeme p.tail_ne_nil hbefore hlast
    (not_mem_lineFront _) hcomment with ⟨z, hhead, hz⟩ | hinside
  · -- A line that begins inside the lexeme of the place is a line of its statement as well.
    have hsame : lineFront p.written = lineFront p.upTo := by
      conv_lhs => rw [Place.written, hhead, ← List.append_assoc]
      refine lineFront_append_of_getLast? (fun c hc => ?_) (not_mem_lineFront _)
      rw [List.getLast?_append, hz] at hc
      simpa [eq_comm] using hc
    rw [hsame, hcomment] at hwritten
    exact absurd hwritten (by simp)
  · exact hinside

/-- The statements of a script that is not destructive are not destructive either, exactly if no
destructive word comes to the surface. If none does, no destructive statement is sent over any
connection. -/
theorem runScript_not_isDestructive (text : String) (h : isDestructive text = false) :
    ((∀ s ∈ statements text, isDestructive s = false) ↔ ∀ p : Place text, ¬ p.Surfaces) ∧
      ((∀ p : Place text, ¬ p.Surfaces) →
        ∀ (t : Transport) (c : Connection) (session : Session), ∃ sent : List String,
          (session.runScript t c text).1.calls = session.calls ++ sent.map (Session.scriptCall c) ∧
          ∀ s ∈ sent, s ∈ statements text ∧ isDestructive s = false) := by
  have hiff :
      (∀ s ∈ statements text, isDestructive s = false) ↔ ∀ p : Place text, ¬ p.Surfaces := by
    constructor
    · intro hstatements p hp
      obtain ⟨s, hs, hdestructive⟩ :=
        exists_isDestructive_iff.mpr ⟨p, hp.destructiveAt, hp.isCommentLine_written⟩
      rw [hstatements s hs] at hdestructive
      exact absurd hdestructive (by simp)
    · intro hplaces s hs
      by_contra hdestructive
      obtain ⟨p, hword, hwritten⟩ :=
        exists_isDestructive_iff.mp ⟨s, hs, by simpa using hdestructive⟩
      exact hplaces p (Place.surfaces h hword hwritten)
  refine ⟨hiff, fun hplaces t c session => ?_⟩
  obtain ⟨sent, hsent, hcalls⟩ := Session.calls_runScript session text
  refine ⟨sent, hcalls, fun s hs => ?_⟩
  have hmem := hsent.subset hs
  exact ⟨hmem, hiff.mpr hplaces s hmem⟩

/-- A destructive word on a line that reads like a comment, once inside a bracketed comment and once
inside a string. -/
def quotedLines : String :=
  "/*\n-- DROP TABLE t\n*/\nSELECT '\n-- DROP x' ; SELECT 2"

theorem isDestructive_quotedLines : isDestructive quotedLines = false ∧
    statements quotedLines = ["SELECT '\n-- DROP x'", "SELECT 2"] ∧
    (∀ p : Place quotedLines, ¬ p.Surfaces) ∧
    ∀ (t : Transport) (c : Connection) (session : Session), ∃ sent : List String,
      (session.runScript t c quotedLines).1.calls
        = session.calls ++ sent.map (Session.scriptCall c) ∧
      ∀ s ∈ sent, s ∈ statements quotedLines ∧ isDestructive s = false := by
  have hcalm : isDestructive quotedLines = false := by decide +kernel
  have hstatements : statements quotedLines = ["SELECT '\n-- DROP x'", "SELECT 2"] := by
    decide +kernel
  obtain ⟨hiff, hsent⟩ := runScript_not_isDestructive quotedLines hcalm
  have hplaces : ∀ p : Place quotedLines, ¬ p.Surfaces := by
    refine hiff.mp ?_
    rw [hstatements]
    decide +kernel
  exact ⟨hcalm, hstatements, hplaces, hsent hplaces⟩

/-- A bracketed comment ends on a line that reads like a comment. -/
def hiddenDrop : String :=
  "/*\n-- */ DROP TABLE t"

theorem isDestructive_hiddenDrop : isDestructive hiddenDrop = false ∧
    ∃ s ∈ statements hiddenDrop, isDestructive s = true := by
  refine ⟨by decide +kernel, "DROP TABLE t", by decide +kernel, by decide +kernel⟩

end Script

end SqlWorkbench
