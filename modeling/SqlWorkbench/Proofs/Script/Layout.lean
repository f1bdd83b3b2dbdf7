import Mathlib.Data.List.TakeWhile
import Mathlib.Tactic.Common
import SqlWorkbench.Proofs.Script.Lexing

/-!
# The layout of statements

Between two terminators outside blocks stands a part of the script. Its statement is the text of its
lexemes, with the gaps at either end left out and each gap inside shown as the blanks that it holds,
or as one blank if a line breaks in it. Main statement: the statements of a script are those of its
parts, parts of gaps only aside.
-/

namespace SqlWorkbench

open Text

namespace Lexeme

variable {l : Lexeme} {ls body gap : List Lexeme}

/-! ### Gaps -/

/-- Blanks, line breaks and comments are no part of a statement. -/
def isGap : Lexeme → Bool
  | lineBreak | blank _ | lineComment _ | blockComment _ _ => true
  | _ => false

/-- The blanks around a line break or a bracketed comment become one blank. -/
def isBreak : Lexeme → Bool
  | lineBreak | blockComment _ _ => true
  | _ => false

/-- A region or a bracketed comment that is never closed. -/
def isOpen : Lexeme → Bool
  | quoted _ _ closed | dollarQuoted _ _ closed | blockComment _ closed => !closed
  | _ => false

/-- A blank shows in the statement unless a line breaks beside it. -/
def shown : Lexeme → List Char
  | blank c => [c]
  | _ => []

/-- What stands in a statement for a gap. -/
def gapText (gap : List Lexeme) : List Char :=
  if gap.any isBreak then [' '] else gap.flatMap shown

/-- The text of lexemes behind a gap; the last gap is left out. -/
def layoutAfter (gap : List Lexeme) : List Lexeme → List Char
  | [] => []
  | l :: ls =>
    if l.isGap then layoutAfter (gap ++ [l]) ls else gapText gap ++ l.text ++ layoutAfter [] ls

/-- The text of lexemes, with the gaps at either end left out. -/
def layout (ls : List Lexeme) : List Char :=
  layoutAfter [] (ls.dropWhile isGap)

/-- The statement of a part of a script; an open region loses the blanks at its end. -/
def statement (part : List Lexeme) : List Char :=
  trimEnd (layout part)

@[simp] lemma isBreak_blank {c : Char} : isBreak (blank c) = false := rfl

@[simp] lemma isBreak_lineComment {comment : List Char} : isBreak (lineComment comment) = false :=
  rfl

@[simp] lemma shown_blank {c : Char} : shown (blank c) = [c] := rfl

@[simp] lemma shown_lineComment {comment : List Char} : shown (lineComment comment) = [] := rfl

@[simp] lemma gapText_nil : gapText [] = [] := rfl

lemma forall_isGap_concat (hgap : ∀ g ∈ gap, g.isGap = true) (hl : l.isGap = true) :
    ∀ g ∈ gap ++ [l], g.isGap = true :=
  List.forall_mem_append.mpr ⟨hgap, List.forall_mem_singleton.mpr hl⟩

@[simp] lemma layoutAfter_nil : layoutAfter gap [] = [] := rfl

lemma layoutAfter_of_isGap (h : l.isGap = true) :
    layoutAfter gap (l :: ls) = layoutAfter (gap ++ [l]) ls := by
  simp [layoutAfter, h]

lemma layoutAfter_of_not_isGap (h : l.isGap = false) :
    layoutAfter gap (l :: ls) = gapText gap ++ l.text ++ layoutAfter [] ls := by
  simp [layoutAfter, h]

lemma layoutAfter_gap_append (h : ∀ g ∈ body, g.isGap = true) :
    layoutAfter gap (body ++ ls) = layoutAfter (gap ++ body) ls := by
  induction body generalizing gap with
  | nil => simp
  | cons g body ih =>
    rw [List.cons_append, layoutAfter_of_isGap (h g (by simp)), ih fun k hk => h k (by simp [hk]),
      List.append_assoc, List.singleton_append]

lemma layoutAfter_gap (h : ∀ g ∈ ls, g.isGap = true) : layoutAfter gap ls = [] := by
  rw [← List.append_nil ls, layoutAfter_gap_append h, layoutAfter_nil]

/-- Behind what ends with no gap, the layout starts anew. -/
lemma layoutAfter_append (hgap : body = [] → gap = [])
    (hlast : ∀ l ∈ body.getLast?, l.isGap = false) :
    layoutAfter gap (body ++ ls) = layoutAfter gap body ++ layoutAfter [] ls := by
  induction body generalizing gap with
  | nil => simp [hgap rfl]
  | cons l body ih =>
    have hlast' : ∀ k ∈ body.getLast?, k.isGap = false := by
      intro k hk
      apply hlast k
      simp [List.getLast?_cons, Option.mem_def.mp hk]
    rw [List.cons_append]
    cases hl : l.isGap with
    | true =>
      have hne : body ≠ [] := by
        rintro rfl
        simp [hl] at hlast
      rw [layoutAfter_of_isGap hl, layoutAfter_of_isGap hl,
        ih (fun h => absurd h hne) hlast']
    | false =>
      rw [layoutAfter_of_not_isGap hl, layoutAfter_of_not_isGap hl, ih (fun _ => rfl) hlast']
      simp only [List.append_assoc]

/-! ### What a lexeme is like -/

/-- What holds of a lexeme wherever it stands: a blank is one, and anything but a gap starts and,
unless it is an open region, ends with no blank. -/
structure Sound (l : Lexeme) : Prop where
  isBlank_of_blank : ∀ c, l = blank c → isBlank c = true
  text_ne_nil : l.text ≠ []
  starts : l.isGap = false → ∀ c ∈ l.text.head?, isBlank c = false
  ends : l.isGap = false → l.isOpen = false → ∀ c ∈ l.text.getLast?, isBlank c = false

lemma isBlank_of_isQuote {c : Char} (h : isQuote c = true) : isBlank c = false := by
  apply isBlank_eq_false_of_mem
  have hmem := mem_of_isQuote h
  simp only [List.mem_cons, List.not_mem_nil, or_false] at hmem ⊢
  tauto

lemma IsTag.isBlank_head {tag : List Char} (h : IsTag tag) :
    ∀ c ∈ tag.head?, isBlank c = false := by
  obtain ⟨name, rfl, -⟩ := h
  simp [isBlank_eq_false_of_mem]

lemma IsTag.isBlank_getLast {tag : List Char} (h : IsTag tag) :
    ∀ c ∈ tag.getLast?, isBlank c = false := by
  obtain ⟨name, rfl, -⟩ := h
  intro c hc
  rw [List.getLast?_append_of_ne_nil _ (by simp)] at hc
  obtain rfl : '$' = c := by simpa using hc
  decide

lemma Fits.sound {afterWord : Bool} {rest : List Char} (h : l.Fits afterWord rest) : l.Sound where
  isBlank_of_blank := by
    rintro c rfl
    exact h.1
  text_ne_nil := h.text_ne_nil
  starts hl c hc := by
    cases l with
    | quoted quote body closed =>
      obtain rfl : quote = c := by simpa [text] using hc
      exact isBlank_of_isQuote h.1
    | dollarQuoted tag body closed =>
      apply h.2.1.isBlank_head c
      rw [text, List.append_assoc, List.head?_append_of_ne_nil _ h.2.1.ne_nil] at hc
      exact hc
    | semicolon =>
      obtain rfl : ';' = c := by simpa [text] using hc
      decide
    | word letters => exact isBlank_of_isWordPart (h.2.1 c (List.mem_of_mem_head? hc))
    | symbol d =>
      obtain rfl : d = c := by simpa [text] using hc
      exact h.1.2.2.2.2
    | _ => simp [isGap] at hl
  ends hl hopen c hc := by
    cases l with
    | quoted quote body closed =>
      obtain rfl : closed = true := by simpa [isOpen] using hopen
      rw [text, if_pos rfl, List.getLast?_append_of_ne_nil _ (by simp)] at hc
      obtain rfl : quote = c := by simpa using hc
      exact isBlank_of_isQuote h.1
    | dollarQuoted tag body closed =>
      obtain rfl : closed = true := by simpa [isOpen] using hopen
      apply h.2.1.isBlank_getLast c
      rw [text, if_pos rfl, List.getLast?_append_of_ne_nil _ h.2.1.ne_nil] at hc
      exact hc
    | semicolon =>
      obtain rfl : ';' = c := by simpa [text] using hc
      decide
    | word letters => exact isBlank_of_isWordPart (h.2.1 c (List.mem_of_getLast? hc))
    | symbol d =>
      obtain rfl : d = c := by simpa [text] using hc
      exact h.1.2.2.2.2
    | _ => simp [isGap] at hl

/-- A gap shows as blanks. -/
lemma isBlanks_flatMap_shown (hs : ∀ g ∈ gap, g.Sound) : IsBlanks (gap.flatMap shown) := by
  intro c hc
  obtain ⟨g, hg, hc⟩ := List.mem_flatMap.mp hc
  cases g with
  | blank b =>
    obtain rfl : c = b := by simpa using hc
    exact (hs _ hg).isBlank_of_blank c rfl
  | _ => simp [shown] at hc

lemma isBlanks_gapText (hs : ∀ g ∈ gap, g.Sound) : IsBlanks (gapText gap) := by
  rw [gapText]
  split
  · simp only [isBlanks_cons, isBlanks_nil, and_true]
    decide
  · exact isBlanks_flatMap_shown hs

/-- Only the end of the script leaves a region open. -/
lemma Fits.isOpen_eq_false {afterWord : Bool} {rest : List Char} (h : l.Fits afterWord rest)
    (hrest : rest ≠ []) : l.isOpen = false := by
  cases l with
  | quoted quote body closed =>
    cases closed with
    | true => rfl
    | false => exact absurd h.2.2 (by simpa using hrest)
  | dollarQuoted tag body closed =>
    cases closed with
    | true => rfl
    | false => exact absurd h.2.2.2 hrest
  | blockComment body closed =>
    cases closed with
    | true => rfl
    | false => exact absurd h.2 hrest
  | _ => rfl

/-- A layout ends with the text of the last lexeme that is no gap. -/
lemma exists_layoutAfter_concat (gap body : List Lexeme) (hl : l.isGap = false) :
    ∃ before, layoutAfter gap (body ++ [l]) = before ++ l.text := by
  induction body generalizing gap with
  | nil => exact ⟨gapText gap, by simp [layoutAfter_of_not_isGap hl]⟩
  | cons k body ih =>
    cases hk : k.isGap with
    | true =>
      obtain ⟨before, hbefore⟩ := ih (gap ++ [k])
      exact ⟨before, by rw [List.cons_append, layoutAfter_of_isGap hk, hbefore]⟩
    | false =>
      obtain ⟨before, hbefore⟩ := ih []
      refine ⟨gapText gap ++ k.text ++ before, ?_⟩
      rw [List.cons_append, layoutAfter_of_not_isGap hk, hbefore]
      simp only [List.append_assoc]

/-- The lexemes of a statement that goes on: sound ones, none of them an open region. -/
def Whole (ls : List Lexeme) : Prop :=
  ∀ l ∈ ls, l.Sound ∧ l.isOpen = false

lemma Whole.concat (hw : Whole body) (hl : l.Sound) (hopen : l.isOpen = false) :
    Whole (body ++ [l]) :=
  List.forall_mem_append.mpr ⟨hw, List.forall_mem_singleton.mpr ⟨hl, hopen⟩⟩

/-- A layout ends with the last lexeme, and so with no blank. -/
lemma isBlank_getLast_layoutAfter (gap : List Lexeme)
    (hlast : ∀ l ∈ body.getLast?, l.isGap = false)
    (hw : Whole body) : ∀ c ∈ (layoutAfter gap body).getLast?, isBlank c = false := by
  rcases List.eq_nil_or_concat body with rfl | ⟨init, l, rfl⟩
  · simp
  · have hl : l.isGap = false := by simpa using hlast
    obtain ⟨hsound, hopen⟩ := hw l (by simp)
    obtain ⟨before, hbefore⟩ := exists_layoutAfter_concat gap init hl
    intro c hc
    rw [List.concat_eq_append, hbefore, List.getLast?_append_of_ne_nil _ hsound.text_ne_nil] at hc
    exact hsound.ends hl hopen c hc

lemma trimEnd_layoutAfter (hlast : ∀ l ∈ body.getLast?, l.isGap = false) (hw : Whole body) :
    trimEnd (layoutAfter gap body) = layoutAfter gap body :=
  trimEnd_eq_self (isBlank_getLast_layoutAfter gap hlast hw)

lemma layoutAfter_ne_nil (gap : List Lexeme) (hne : body ≠ [])
    (hlast : ∀ l ∈ body.getLast?, l.isGap = false) (hs : ∀ l ∈ body, l.Sound) :
    layoutAfter gap body ≠ [] := by
  obtain ⟨init, l, rfl⟩ := (List.eq_nil_or_concat body).resolve_left hne
  have hl : l.isGap = false := by simpa using hlast
  obtain ⟨before, hbefore⟩ := exists_layoutAfter_concat gap init hl
  rw [List.concat_eq_append, hbefore]
  simp [(hs l (by simp)).text_ne_nil]

/-- A layout starts with the first lexeme, and so with no blank. -/
lemma head?_layoutAfter (hhead : ∀ l ∈ body.head?, l.isGap = false) (hs : ∀ l ∈ body, l.Sound) :
    ∀ c ∈ (layoutAfter [] body).head?, isBlank c = false := by
  cases body with
  | nil => simp
  | cons l body =>
    have hl : l.isGap = false := hhead l (by simp)
    have hsound := hs l (by simp)
    intro c hc
    rw [layoutAfter_of_not_isGap hl, gapText_nil, List.nil_append,
      List.head?_append_of_ne_nil _ hsound.text_ne_nil] at hc
    exact hsound.starts hl c hc

/-! ### The layout of a part -/

/-- The last gap of a part does not show. -/
lemma layout_eq {part : List Lexeme} (hpart : part.dropWhile isGap = body ++ gap)
    (hgap : ∀ g ∈ gap, g.isGap = true) (hlast : ∀ l ∈ body.getLast?, l.isGap = false) :
    layout part = layoutAfter [] body := by
  rw [layout, hpart, layoutAfter_append (fun _ => rfl) hlast, layoutAfter_gap hgap,
    List.append_nil]

lemma isGap_of_mem_head?_dropWhile (part : List Lexeme) :
    ∀ l ∈ (part.dropWhile isGap).head?, l.isGap = false := by
  intro l hl
  have := List.head?_dropWhile_not isGap part
  rw [Option.mem_def.mp hl] at this
  exact this

/-- The lexemes end with a gap, which may be empty. -/
lemma exists_eq_append_gap (ls : List Lexeme) : ∃ body after, ls = body ++ after ∧
    (∀ g ∈ after, g.isGap = true) ∧ ∀ l ∈ body.getLast?, l.isGap = false := by
  induction ls using List.reverseRecOn with
  | nil => exact ⟨[], [], by simp⟩
  | append_singleton ls l ih =>
    cases hl : l.isGap with
    | true =>
      obtain ⟨body, after, rfl, hafter, hlast⟩ := ih
      refine ⟨body, after ++ [l], by simp, ?_, hlast⟩
      intro g hg
      rcases List.mem_append.mp hg with hg | hg
      · exact hafter g hg
      · rwa [List.mem_singleton.mp hg]
    | false => exact ⟨ls ++ [l], [], by simp, by simp, by simpa using hl⟩

/-- Every part is a gap, what stands from its first lexeme that is no gap to its last, and another
gap. -/
lemma exists_eq_gap_append (part : List Lexeme) : ∃ body after,
    part.dropWhile isGap = body ++ after ∧ (∀ g ∈ after, g.isGap = true) ∧
      (∀ l ∈ body.head?, l.isGap = false) ∧ (∀ l ∈ body.getLast?, l.isGap = false) ∧
      (body = [] → after = []) := by
  obtain ⟨body, after, hpart, hafter, hlast⟩ := exists_eq_append_gap (part.dropWhile isGap)
  have hhead := isGap_of_mem_head?_dropWhile part
  rw [hpart] at hhead
  refine ⟨body, after, hpart, hafter, ?_, hlast, ?_⟩
  · intro l hl
    apply hhead l
    rw [List.head?_append_of_ne_nil]
    · exact hl
    · rintro rfl
      simp at hl
  · rintro rfl
    cases after with
    | nil => rfl
    | cons g after =>
      have hg := hhead g (by simp)
      rw [hafter g (by simp)] at hg
      exact absurd hg (by simp)

end Lexeme

end SqlWorkbench
