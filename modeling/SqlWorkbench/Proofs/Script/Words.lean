import Mathlib.Data.List.DropRight
import Mathlib.Data.List.Infix
import Mathlib.Tactic.Common
import SqlWorkbench.Proofs.Text.CharacterClasses
import SqlWorkbench.Script.Danger

/-!
# Words on lines

A word is found where it stands with no word character at either side. What stands on a line stands
in the text, and what stands in the text, line breaks and blanks aside, stands on a line. Whether a
line reads like a comment is told before its first word.
-/

namespace SqlWorkbench

namespace Text

/-! ### Forms of a word -/

/-- The text is a word in capitals, in any case of its letters. -/
def IsForm (word w : List Char) : Prop :=
  List.Forall₂ (fun letter c => isLetter letter c = true) word w

lemma dropWord?_eq_some_iff {word s rest : List Char} :
    dropWord? word s = some rest ↔ ∃ w, s = w ++ rest ∧ IsForm word w := by
  induction word generalizing s with
  | nil =>
    rw [dropWord?_nil, Option.some.injEq]
    constructor
    · rintro rfl
      exact ⟨[], rfl, .nil⟩
    · rintro ⟨w, rfl, hw⟩
      cases hw
      rfl
  | cons letter word ih =>
    cases s with
    | nil =>
      simp only [dropWord?, reduceCtorEq, false_iff]
      rintro ⟨w, hs, hw⟩
      cases hw
      simp at hs
    | cons c s =>
      rw [dropWord?]
      constructor
      · intro h
        split at h
        · next hc =>
          obtain ⟨w, rfl, hw⟩ := ih.mp h
          exact ⟨c :: w, rfl, .cons hc hw⟩
        · exact absurd h (by simp)
      · rintro ⟨w, hs, hw⟩
        cases hw with
        | cons hc hw =>
          rw [List.cons_append, List.cons_eq_cons] at hs
          obtain ⟨rfl, rfl⟩ := hs
          rw [if_pos hc]
          exact ih.mpr ⟨_, rfl, hw⟩

/-- A blank is no small letter. -/
lemma toUpper_of_isBlank {c : Char} (h : isBlank c = true) : c.toUpper = c := by
  delta Char.toUpper
  rw [dif_neg]
  simp only [isBlank, Bool.or_eq_true, Bool.and_eq_true, decide_eq_true_eq, beq_iff_eq] at h
  rintro ⟨hlow, hhigh⟩
  simp only [UInt32.le_iff_toNat_le] at hlow hhigh
  have hcode : 97 ≤ c.toNat ∧ c.toNat ≤ 122 := ⟨hlow, hhigh⟩
  have hspace : c ≠ ' ' := by
    rintro rfl
    exact absurd hcode.1 (by decide)
  simp only [hspace, false_or] at h
  omega

/-- No form of a letter is a blank. -/
lemma isBlank_of_isLetter {letter c : Char} (hletter : isBlank letter = false)
    (h : isLetter letter c = true) : isBlank c = false := by
  by_contra hc
  have hblank : isBlank c = true := by simpa using hc
  simp only [isLetter, Bool.or_eq_true, Bool.and_eq_true, beq_iff_eq] at h
  rcases h with (h | ⟨-, rfl⟩) | ⟨-, rfl⟩
  · rw [toUpper_of_isBlank hblank] at h
    rw [h, hletter] at hblank
    exact absurd hblank (by simp)
  · exact absurd hblank (by decide)
  · exact absurd hblank (by decide)

lemma isAlpha_of_isAlpha_toUpper {c : Char} (h : c.toUpper.isAlpha = true) : c.isAlpha = true := by
  delta Char.toUpper at h
  split at h
  · next hlower =>
    delta Char.isAlpha Char.isLower
    simp only [Bool.or_eq_true, decide_eq_true_eq, Bool.and_eq_true]
    exact Or.inr (by simpa [UInt32.le_iff_toNat_le] using hlower)
  · exact h

/-- All forms of a letter are word characters. -/
lemma isWordChar_of_isLetter {letter c : Char} (hletter : letter.isAlpha = true)
    (h : isLetter letter c = true) : isWordChar c = true := by
  simp only [isLetter, Bool.or_eq_true, Bool.and_eq_true, beq_iff_eq] at h
  rcases h with (rfl | ⟨-, rfl⟩) | ⟨-, rfl⟩
  · exact isWordChar_of_isAlpha (isAlpha_of_isAlpha_toUpper hletter)
  · decide +kernel
  · decide +kernel

lemma IsForm.isWordChar {word w : List Char} (h : IsForm word w)
    (hword : ∀ letter ∈ word, letter.isAlpha = true) : ∀ c ∈ w, isWordChar c = true := by
  induction h with
  | nil => simp
  | cons hc _ ih =>
    intro d hd
    rcases List.mem_cons.mp hd with rfl | hd
    · exact isWordChar_of_isLetter (hword _ (by simp)) hc
    · exact ih (fun letter hl => hword letter (by simp [hl])) d hd

/-! ### Edges of a word -/

lemma isBlank_of_isWordChar {c : Char} (hc : isWordChar c = true) : isBlank c = false := by
  by_contra h
  rw [isWordChar_of_isBlank (by simpa using h)] at hc
  exact absurd hc (by simp)

/-- A word may stand behind the text. -/
def EndsWord (s : List Char) : Prop :=
  ∀ c ∈ s.getLast?, isWordChar c = false

/-- A word may stand in front of the text. -/
def StartsWord (s : List Char) : Prop :=
  ∀ c ∈ s.head?, isWordChar c = false

@[simp] lemma endsWord_nil : EndsWord [] := by simp [EndsWord]

@[simp] lemma startsWord_nil : StartsWord [] := by simp [StartsWord]

lemma startsWord_cons {c : Char} {s : List Char} (h : isWordChar c = false) :
    StartsWord (c :: s) := by
  simpa [StartsWord] using h

lemma endsWord_singleton {c : Char} (h : isWordChar c = false) : EndsWord [c] := by
  simpa [EndsWord] using h

lemma EndsWord.append {s t : List Char} (hs : t = [] → EndsWord s) (ht : EndsWord t) :
    EndsWord (s ++ t) := by
  rcases eq_or_ne t [] with rfl | hne
  · rw [List.append_nil]
    exact hs rfl
  · rwa [EndsWord, List.getLast?_append_of_ne_nil _ hne]

lemma EndsWord.of_append {s t : List Char} (h : EndsWord (s ++ t)) : EndsWord t := by
  rcases eq_or_ne t [] with rfl | hne
  · exact endsWord_nil
  · rwa [EndsWord, List.getLast?_append_of_ne_nil _ hne] at h

lemma endsWord_append_of_ne_nil {s t : List Char} (ht : t ≠ []) :
    EndsWord (s ++ t) ↔ EndsWord t := by
  rw [EndsWord, EndsWord, List.getLast?_append_of_ne_nil _ ht]

lemma StartsWord.append {s t : List Char} (hs : StartsWord s) (ht : s = [] → StartsWord t) :
    StartsWord (s ++ t) := by
  rcases eq_or_ne s [] with rfl | hne
  · exact ht rfl
  · rwa [StartsWord, List.head?_append_of_ne_nil _ hne]

lemma IsBlanks.startsWord {s : List Char} (h : IsBlanks s) : StartsWord s := fun c hc =>
  isWordChar_of_isBlank (h c (List.mem_of_mem_head? hc))

lemma IsBlanks.endsWord {s : List Char} (h : IsBlanks s) : EndsWord s := fun c hc =>
  isWordChar_of_isBlank (h c (List.mem_of_getLast? hc))

/-- No word stands at the start of a text in front of which one may end. -/
lemma startsWord_iff {s : List Char} : StartsWord s ↔ s.takeWhile isWordChar = [] := by
  cases s with
  | nil => simp
  | cons c s => simp [StartsWord, List.takeWhile_cons]

lemma startsWord_dropWhile (s : List Char) : StartsWord (s.dropWhile isWordChar) := by
  intro c hc
  have hstop := List.head?_dropWhile_not isWordChar s
  rw [Option.mem_def.mp hc] at hstop
  exact hstop

lemma takeWhile_append_of_startsWord {s t : List Char} (ht : StartsWord t) :
    (s ++ t).takeWhile isWordChar = s.takeWhile isWordChar := by
  rw [List.takeWhile_append, startsWord_iff.mp ht, List.append_nil]
  split
  · next h => exact ((List.takeWhile_prefix isWordChar).eq_of_length h).symm
  · rfl

/-- Of two ways to divide a text, one is the earlier. -/
lemma append_cases {a b c d : List Char} (h : a ++ b = c ++ d) :
    (∃ x, c = a ++ x ∧ b = x ++ d) ∨ ∃ x, x ≠ [] ∧ a = c ++ x ∧ d = x ++ b := by
  rcases List.append_eq_append_iff.mp h with ⟨x, hc, hb⟩ | ⟨x, ha, hd⟩
  · exact Or.inl ⟨x, hc, hb⟩
  · rcases eq_or_ne x [] with rfl | hne
    · exact Or.inl ⟨[], by simpa using ha.symm, by simpa using hd.symm⟩
    · exact Or.inr ⟨x, hne, ha, hd⟩

/-! ### Lines -/

/-- What a text has behind its last line break. -/
def lineFront (s : List Char) : List Char :=
  s.rtakeWhile (· != '\n')

lemma exists_eq_append_lineFront (s : List Char) :
    ∃ before, s = before ++ lineFront s ∧ ∀ c ∈ before.getLast?, c = '\n' := by
  refine ⟨s.rdropWhile (· != '\n'), List.rdropWhile_append_rtakeWhile.symm, fun c hc => ?_⟩
  obtain ⟨hne, rfl⟩ := List.mem_getLast?_eq_getLast hc
  simpa using List.rdropWhile_last_not _ _ hne

lemma not_mem_lineFront (s : List Char) : '\n' ∉ lineFront s := fun h =>
  absurd (List.mem_rtakeWhile_imp h) (by decide)

lemma lineFront_append_of_not_mem {s t : List Char} (h : '\n' ∉ t) :
    lineFront (s ++ t) = lineFront s ++ t := by
  have hall : ∀ c ∈ t.reverse, (c != '\n') = true := by
    intro c hc
    rw [bne_iff_ne]
    rintro rfl
    exact h (List.mem_reverse.mp hc)
  rw [lineFront, lineFront, List.rtakeWhile, List.rtakeWhile, List.reverse_append,
    List.takeWhile_append_of_pos hall, List.reverse_append, List.reverse_reverse]

lemma lineFront_eq_self {s : List Char} (h : '\n' ∉ s) : lineFront s = s :=
  lineFront_append_of_not_mem (s := []) h

lemma lineFront_append_lineBreak (s t : List Char) : lineFront (s ++ '\n' :: t) = lineFront t := by
  rw [lineFront, lineFront, List.rtakeWhile, List.rtakeWhile, List.reverse_append,
    List.reverse_cons, List.append_assoc, List.takeWhile_append]
  split
  · next h =>
    have hall := (List.takeWhile_prefix (· != '\n')).eq_of_length h
    simp [hall]
  · rfl

lemma lineFront_append_of_mem {s t : List Char} (h : '\n' ∈ t) :
    lineFront (s ++ t) = lineFront t := by
  obtain ⟨front, rest, rfl⟩ := List.append_of_mem h
  rw [← List.append_assoc, lineFront_append_lineBreak, lineFront_append_lineBreak]

/-- Behind the end of a line a text is on the next one. -/
lemma lineFront_append_of_getLast? {s t : List Char} (hs : ∀ c ∈ s.getLast?, c = '\n')
    (ht : '\n' ∉ t) : lineFront (s ++ t) = t := by
  rcases List.eq_nil_or_concat s with rfl | ⟨init, c, rfl⟩
  · exact lineFront_eq_self ht
  · obtain rfl : c = '\n' := hs c (by simp)
    rw [List.concat_eq_append, List.append_assoc, List.singleton_append,
      lineFront_append_lineBreak, lineFront_eq_self ht]

lemma dropCarriageReturn_spec (backwards : List Char) :
    backwards.reverse = dropCarriageReturn backwards ∨
      backwards.reverse = dropCarriageReturn backwards ++ ['\r'] := by
  rw [dropCarriageReturn.eq_def]
  split
  · exact Or.inr (by simp)
  · exact Or.inl rfl

lemma of_mem_lines_go {s backwards line : List Char} (hline : line ∈ lines.go s backwards)
    (hbackwards : '\n' ∉ backwards) :
    ∃ before after, backwards.reverse ++ s = before ++ line ++ after ∧
      (∀ c ∈ before.getLast?, c = '\n') ∧ '\n' ∉ line ∧ ∀ c ∈ after.head?, isBlank c = true := by
  fun_induction lines.go s backwards with
  | case1 => simp at hline
  | case2 backwards hne =>
    obtain rfl := List.mem_singleton.mp hline
    exact ⟨[], [], by simp, by simp, by simpa using hbackwards, by simp⟩
  | case3 rest backwards ih =>
    rcases List.mem_cons.mp hline with rfl | hline
    · have hmem : '\n' ∉ backwards.reverse := by simpa using hbackwards
      rcases dropCarriageReturn_spec backwards with hdrop | hdrop
      · exact ⟨[], '\n' :: rest, by rw [hdrop]; rfl, by simp, hdrop ▸ hmem, by simp; decide⟩
      · rw [hdrop, List.mem_append, not_or] at hmem
        exact ⟨[], '\r' :: '\n' :: rest, by rw [hdrop]; simp, by simp, hmem.1, by simp; decide⟩
    · obtain ⟨before, after, hrest, hbefore, hmem, hafter⟩ := ih hline (by simp)
      refine ⟨backwards.reverse ++ '\n' :: before, after, ?_, fun c hc => ?_, hmem, hafter⟩
      · rw [List.reverse_nil, List.nil_append] at hrest
        simp [hrest]
      · rw [List.getLast?_append_of_ne_nil _ (by simp), List.getLast?_cons] at hc
        cases hlast : before.getLast? with
        | none => simpa [hlast, eq_comm] using hc
        | some d =>
          rw [hlast] at hc
          exact hbefore c (hlast ▸ hc)
  | case4 c rest backwards hc ih =>
    have hnot : '\n' ∉ c :: backwards := by
      rw [List.mem_cons, not_or]
      exact ⟨fun h => hc h.symm, hbackwards⟩
    obtain ⟨before, after, hrest, hends⟩ := ih hline hnot
    exact ⟨before, after, by simpa using hrest, hends⟩

/-- A line of a text stands between two ends of lines. -/
lemma of_mem_lines {s line : List Char} (hline : line ∈ lines s) :
    ∃ before after, s = before ++ line ++ after ∧ (∀ c ∈ before.getLast?, c = '\n') ∧
      '\n' ∉ line ∧ ∀ c ∈ after.head?, isBlank c = true :=
  of_mem_lines_go hline (by simp)

/-- A carriage return at the end of a line stands behind what is no blank. -/
lemma exists_dropCarriageReturn_eq {backwards u x : List Char} {d : Char}
    (hline : backwards.reverse = u ++ d :: x) (hd : isBlank d = false) :
    ∃ kept, dropCarriageReturn backwards = u ++ d :: kept ∧ (x = kept ∨ x = kept ++ ['\r']) := by
  rcases dropCarriageReturn_spec backwards with hdrop | hdrop
  · exact ⟨x, hdrop ▸ hline, Or.inl rfl⟩
  · rw [hline] at hdrop
    rcases List.eq_nil_or_concat x with rfl | ⟨kept, c, rfl⟩
    · obtain ⟨-, hlast⟩ := List.append_inj' hdrop rfl
      obtain rfl : d = '\r' := by simpa using hlast
      exact absurd hd (by decide)
    · rw [List.concat_eq_append, ← List.cons_append, ← List.append_assoc] at hdrop
      obtain ⟨hkept, hlast⟩ := List.append_inj' hdrop rfl
      obtain rfl : c = '\r' := by simpa using hlast
      exact ⟨kept, hkept.symm, Or.inr (by simp)⟩

lemma exists_mem_lines_go {s backwards u t : List Char} {d : Char}
    (hs : backwards.reverse ++ s = u ++ d :: t) (hd : isBlank d = false)
    (hbackwards : '\n' ∉ backwards) :
    ∃ kept rest, lineFront u ++ d :: kept ∈ lines.go s backwards ∧ t = kept ++ rest ∧
      ∀ c ∈ rest.head?, isBlank c = true := by
  fun_induction lines.go s backwards generalizing u with
  | case1 => simp at hs
  | case2 backwards _ =>
    rw [← List.mem_reverse] at hbackwards
    rw [List.append_nil] at hs
    rw [hs, List.mem_append, not_or] at hbackwards
    exact ⟨t, [], by simp [lineFront_eq_self hbackwards.1, hs], by simp, by simp⟩
  | case3 rest backwards ih =>
    rcases append_cases hs with ⟨x, rfl, hx⟩ | ⟨x, hxne, hline, hx⟩
    · -- The place is on a later line.
      cases x with
      | nil =>
        obtain ⟨rfl, -⟩ := List.cons_eq_cons.mp hx
        exact absurd hd (by decide)
      | cons c x =>
        rw [List.cons_append, List.cons_eq_cons] at hx
        obtain ⟨rfl, hrest⟩ := hx
        obtain ⟨kept, left, hline, hsplit⟩ := ih (u := x) (by simpa using hrest) (by simp)
        rw [lineFront_append_lineBreak]
        exact ⟨kept, left, List.mem_cons_of_mem _ hline, hsplit⟩
    · -- The place is on this line, of which at most a carriage return at the end is not kept.
      obtain ⟨c, x, rfl⟩ := List.exists_cons_of_ne_nil hxne
      rw [List.cons_append, List.cons_eq_cons] at hx
      obtain ⟨rfl, rfl⟩ := hx
      rw [← List.mem_reverse, hline, List.mem_append, not_or] at hbackwards
      obtain ⟨kept, hkept, hor⟩ := exists_dropCarriageReturn_eq hline hd
      rw [lineFront_eq_self hbackwards.1, hkept]
      rcases hor with rfl | rfl
      · exact ⟨x, '\n' :: rest, List.mem_cons_self, rfl, by simp; decide⟩
      · exact ⟨kept, '\r' :: '\n' :: rest, List.mem_cons_self, by simp, by simp; decide⟩
  | case4 c rest backwards hc ih =>
    have hnot : '\n' ∉ c :: backwards := by
      rw [List.mem_cons, not_or]
      exact ⟨fun h => hc h.symm, hbackwards⟩
    exact ih (by simpa using hs) hnot

/-- What is no blank stands on a line, which is kept up to a blank. -/
lemma exists_mem_lines {s u t : List Char} {d : Char} (hs : s = u ++ d :: t)
    (hd : isBlank d = false) : ∃ kept rest, lineFront u ++ d :: kept ∈ lines s ∧ t = kept ++ rest ∧
      ∀ c ∈ rest.head?, isBlank c = true :=
  exists_mem_lines_go (by simpa using hs) hd (by simp)

end Text

namespace Script

open Text

variable {words : List (List Char)} {s : List Char}

/-- The text is one of the words, in any case. -/
def IsWordOf (words : List (List Char)) (w : List Char) : Prop :=
  ∃ word ∈ words, IsForm word w

lemma IsWordOf.ne_nil {w : List Char} (h : IsWordOf words w) (hwords : ∀ word ∈ words, word ≠ []) :
    w ≠ [] := by
  obtain ⟨word, hword, hform⟩ := h
  rintro rfl
  cases hform
  exact hwords [] hword rfl

lemma startsWithWord_eq_true_iff {word : List Char} :
    startsWithWord s word = true ↔ ∃ w v, s = w ++ v ∧ IsForm word w ∧ StartsWord v := by
  rw [startsWithWord]
  constructor
  · intro h
    split at h
    · next rest hrest =>
      obtain ⟨w, rfl, hw⟩ := dropWord?_eq_some_iff.mp hrest
      refine ⟨w, rest, rfl, hw, fun c hc => ?_⟩
      simpa [Option.mem_def.mp hc] using h
    · exact absurd h (by simp)
  · rintro ⟨w, v, hs, hw, hv⟩
    rw [dropWord?_eq_some_iff.mpr ⟨w, hs, hw⟩]
    cases v with
    | nil => rfl
    | cons c v => simpa using hv c (by simp)

/-- A word is found exactly if it stands somewhere with no word character at either side. -/
lemma hasWord_eq_true_iff (hwords : ∀ word ∈ words, word ≠ []) {afterWordChar : Bool} :
    hasWord words afterWordChar s = true ↔ ∃ u w v, s = u ++ w ++ v ∧ IsWordOf words w ∧
      (u = [] → afterWordChar = false) ∧ EndsWord u ∧ StartsWord v := by
  induction s generalizing afterWordChar with
  | nil =>
    simp only [hasWord, Bool.false_eq_true, false_iff]
    rintro ⟨u, w, v, hs, hw, -⟩
    have hnil : w = [] := by
      rw [eq_comm, List.append_eq_nil_iff, List.append_eq_nil_iff] at hs
      exact hs.1.2
    exact hw.ne_nil hwords hnil
  | cons c s ih =>
    rw [hasWord, Bool.or_eq_true, Bool.and_eq_true, List.any_eq_true, ih]
    constructor
    · rintro (⟨hafter, word, hword, hstarts⟩ | ⟨u, w, v, rfl, hw, hfirst, hu, hv⟩)
      · obtain ⟨w, v, hs, hform, hv⟩ := startsWithWord_eq_true_iff.mp hstarts
        exact ⟨[], w, v, hs, ⟨word, hword, hform⟩, fun _ => by simpa using hafter, endsWord_nil, hv⟩
      · refine ⟨c :: u, w, v, rfl, hw, by simp, ?_, hv⟩
        refine EndsWord.append (s := [c]) (fun hnil => ?_) hu
        simpa [EndsWord] using hfirst hnil
    · rintro ⟨u, w, v, hs, hw, hfirst, hu, hv⟩
      cases u with
      | nil =>
        obtain ⟨word, hword, hform⟩ := hw
        exact Or.inl ⟨by simpa using hfirst rfl, word, hword,
          startsWithWord_eq_true_iff.mpr ⟨w, v, hs, hform, hv⟩⟩
      | cons d u =>
        rw [List.cons_append, List.cons_append, List.cons_eq_cons] at hs
        obtain ⟨rfl, rfl⟩ := hs
        refine Or.inr ⟨u, w, v, rfl, hw, ?_, EndsWord.of_append (s := [c]) hu, hv⟩
        rintro rfl
        simpa [EndsWord] using hu

/-! ### Lines that read like comments -/

/-- A line reads like a comment if nothing but blanks stands before two hyphens. -/
lemma isCommentLine_iff {line : List Char} : isCommentLine line = true ↔
    ∃ blanks rest, IsBlanks blanks ∧ line = blanks ++ '-' :: '-' :: rest := by
  rw [isCommentLine, Option.isSome_iff_exists]
  constructor
  · rintro ⟨rest, h⟩
    refine ⟨line.takeWhile isBlank, rest, fun c hc => List.mem_takeWhile_imp hc, ?_⟩
    rw [dropPrefix?_eq_some_iff, trimStart] at h
    conv_lhs => rw [← List.takeWhile_append_dropWhile (p := isBlank) (l := line), h]
    rfl
  · rintro ⟨blanks, rest, hblanks, rfl⟩
    refine ⟨rest, dropPrefix?_eq_some_iff.mpr ?_⟩
    rw [trimStart, List.dropWhile_append_of_pos hblanks]
    rfl

lemma isCommentLine_blanks_append {blanks line : List Char} (hblanks : IsBlanks blanks) :
    isCommentLine (blanks ++ line) = isCommentLine line := by
  rw [isCommentLine, isCommentLine, trimStart, trimStart, List.dropWhile_append_of_pos hblanks]

/-- What goes on with no hyphen leaves a comment where it is, or is one behind blanks. -/
lemma isCommentLine_append_iff {front rest : List Char} (hrest : ∀ c ∈ rest.head?, c ≠ '-') :
    isCommentLine (front ++ rest) = true ↔
      isCommentLine front = true ∨ IsBlanks front ∧ isCommentLine rest = true := by
  constructor
  · intro h
    obtain ⟨blanks, comment, hblanks, heq⟩ := isCommentLine_iff.mp h
    rcases append_cases heq with ⟨x, rfl, -⟩ | ⟨x, hne, rfl, hx⟩
    · have hfront : IsBlanks front := fun c hc => hblanks c (List.mem_append_left x hc)
      exact Or.inr ⟨hfront, by rwa [isCommentLine_blanks_append hfront] at h⟩
    · obtain ⟨c, x, rfl⟩ := List.exists_cons_of_ne_nil hne
      rw [List.cons_append, List.cons_eq_cons] at hx
      obtain ⟨rfl, hx⟩ := hx
      cases x with
      | nil =>
        rw [List.nil_append] at hx
        exact absurd rfl (hrest '-' (by rw [← hx]; rfl))
      | cons c x =>
        rw [List.cons_append, List.cons_eq_cons] at hx
        obtain ⟨rfl, rfl⟩ := hx
        exact Or.inl (isCommentLine_iff.mpr ⟨blanks, x, hblanks, rfl⟩)
  · rintro (h | ⟨hfront, h⟩)
    · obtain ⟨blanks, comment, hblanks, rfl⟩ := isCommentLine_iff.mp h
      exact isCommentLine_iff.mpr ⟨blanks, comment ++ rest, hblanks, by simp⟩
    · rwa [isCommentLine_blanks_append hfront]

/-- Whether a line reads like a comment is told before the first character of a word. -/
lemma isCommentLine_append_cons {front rest : List Char} {c : Char} (hc : isWordChar c = true) :
    isCommentLine (front ++ c :: rest) = isCommentLine front := by
  have hblank := isBlank_of_isWordChar hc
  have hhyphen : c ≠ '-' := by
    rintro rfl
    exact absurd hc (by decide)
  have hrest : isCommentLine (c :: rest) = false := by
    rw [isCommentLine, trimStart, List.dropWhile_cons_of_neg (by simp [hblank])]
    simp [dropPrefix?, hhyphen.symm]
  rw [Bool.eq_iff_iff, isCommentLine_append_iff (by simpa using hhyphen), hrest]
  simp

/-- Blanks that break no line. -/
structure IsSpace (s : List Char) : Prop where
  isBlanks : IsBlanks s
  ne_nil : s ≠ []
  not_mem : '\n' ∉ s

/-- Blanks in a line may be exchanged. -/
lemma isCommentLine_lineFront_space {s t u v : List Char} (hs : IsSpace s) (ht : IsSpace t) :
    isCommentLine (lineFront (u ++ (s ++ v))) = isCommentLine (lineFront (u ++ (t ++ v))) := by
  by_cases hv : '\n' ∈ v
  · rw [← List.append_assoc, ← List.append_assoc, lineFront_append_of_mem hv,
      lineFront_append_of_mem hv]
  · have hspace {s : List Char} (hs : IsSpace s) :
        isCommentLine (lineFront (u ++ (s ++ v))) = true ↔
          isCommentLine (lineFront u) = true ∨
            IsBlanks (lineFront u) ∧ isCommentLine v = true := by
      have hhead : ∀ c ∈ (s ++ v).head?, c ≠ '-' := by
        rintro c hc rfl
        rw [List.head?_append_of_ne_nil _ hs.ne_nil] at hc
        exact absurd (hs.isBlanks '-' (List.mem_of_mem_head? hc)) (by decide)
      rw [lineFront_append_of_not_mem (by simp [hs.not_mem, hv]), isCommentLine_append_iff hhead,
        isCommentLine_blanks_append hs.isBlanks]
    rw [Bool.eq_iff_iff, hspace hs, hspace ht]

/-- Blanks in front of a text do not matter. -/
lemma isCommentLine_lineFront_blanks {s t : List Char} (hs : IsBlanks s) (hbreak : '\n' ∉ s) :
    isCommentLine (lineFront (s ++ t)) = isCommentLine (lineFront t) := by
  by_cases ht : '\n' ∈ t
  · rw [lineFront_append_of_mem ht]
  · rw [lineFront_append_of_not_mem ht, lineFront_eq_self hbreak, lineFront_eq_self ht,
      isCommentLine_blanks_append hs]

end Script

end SqlWorkbench
