import Mathlib.Data.List.TakeWhile
import Mathlib.Tactic.Common
import SqlWorkbench.Proofs.Text.CharacterClasses
import SqlWorkbench.Proofs.Text.FirstOccurrence
import SqlWorkbench.Script.Lexeme

/-!
# The lexical grammar of scripts

What a lexeme may look like, and what may stand around it, is said without reference to how a
script is cut: a comment ends at its first closing mark, a quoted region has its quotes in pairs, a
dollar-quoted region ends where its tag first occurs again, a word is as long as it can be, and a
symbol opens nothing. Main statement: the lexemes of a script are the one list that spells the
script and keeps to this grammar.
-/

namespace SqlWorkbench.Lexeme

open Text

variable {afterWord : Bool} {c quote : Char} {s rest body tag after mark : List Char}

/-! ### Characters -/

/-- The marks that open or end a lexeme are no parts of words and no blanks, line breaks aside. -/
lemma isWordPart_eq_false_of_mem {c : Char}
    (h : c ∈ ['\n', '-', '/', '*', '\x27', '"', '\x60', '$', ';']) : isWordPart c = false := by
  simp only [List.mem_cons, List.not_mem_nil, or_false] at h
  rcases h with rfl | rfl | rfl | rfl | rfl | rfl | rfl | rfl | rfl <;> rfl

lemma isBlank_eq_false_of_mem {c : Char}
    (h : c ∈ ['-', '/', '*', '\x27', '"', '\x60', '$', ';', '_']) : isBlank c = false := by
  simp only [List.mem_cons, List.not_mem_nil, or_false] at h
  rcases h with rfl | rfl | rfl | rfl | rfl | rfl | rfl | rfl | rfl <;> rfl

lemma isWordPart_of_isBlank {c : Char} (h : isBlank c = true) : isWordPart c = false := by
  have hu : c ≠ '_' := by
    rintro rfl
    simp [isBlank_eq_false_of_mem] at h
  simp [isWordPart, isAlphanumeric_of_isBlank h, hu]

lemma isBlank_of_isWordPart {c : Char} (h : isWordPart c = true) : isBlank c = false := by
  by_contra hb
  rw [isWordPart_of_isBlank (by simpa using hb)] at h
  exact Bool.false_ne_true h

lemma mem_of_isQuote {c : Char} (h : isQuote c = true) : c ∈ ['\x27', '"', '\x60'] := by
  simpa [isQuote, or_assoc] using h

lemma isTagPart_of_isTagStart {c : Char} (h : isTagStart c = true) : isTagPart c = true := by
  simp only [isTagStart, Bool.or_eq_true] at h
  simp only [isTagPart, Bool.or_eq_true]
  tauto

/-! ### Regions -/

/-- The inside of a quoted region: its quotes stand in pairs. -/
inductive Doubled (quote : Char) : List Char → Prop where
  | nil : Doubled quote []
  | other {c : Char} {s : List Char} (hc : c ≠ quote) (h : Doubled quote s) :
      Doubled quote (c :: s)
  | pair {s : List Char} (h : Doubled quote s) : Doubled quote (quote :: quote :: s)

/-- A dollar tag: a name, which may be empty, between dollar signs. -/
def IsTag (tag : List Char) : Prop :=
  ∃ name, tag = '$' :: name ++ ['$'] ∧
    (∀ c ∈ name.head?, isTagStart c = true) ∧ ∀ c ∈ name, isTagPart c = true

/-- What closes a region stands behind it, or the script ends with the region. -/
def closing (mark : List Char) (closed : Bool) : List Char :=
  if closed then mark else []

@[simp] lemma closing_true : closing mark true = mark := rfl

@[simp] lemma closing_false : closing mark false = [] := rfl

/-- A closed region is free of its mark up to its end; an open one reaches to the end of the
script. -/
def Bounded (mark body rest : List Char) : Bool → Prop
  | true => FreeOf mark body
  | false => ¬ mark <:+: body ∧ rest = []

lemma readUntil_eq_iff {closed : Bool} (hm : mark ≠ []) :
    readUntil mark s = (body, closed, rest) ↔
      s = body ++ closing mark closed ++ rest ∧ Bounded mark body rest closed := by
  rw [readUntil]
  cases hsplit : splitAt? mark s with
  | some parts =>
    obtain ⟨before, after⟩ := parts
    have hs := (splitAt?_eq_some_iff hm).mp hsplit
    simp only [Prod.mk.injEq]
    constructor
    · rintro ⟨rfl, rfl, rfl⟩
      exact hs
    · rintro ⟨heq, hbounded⟩
      cases closed with
      | true =>
        have := (splitAt?_eq_some_iff hm).mpr ⟨heq, hbounded⟩
        rw [hsplit] at this
        simpa using this
      | false =>
        obtain ⟨hbody, rfl⟩ := hbounded
        refine absurd ⟨before, after, ?_⟩ hbody
        rw [← hs.1, heq]
        simp
  | none =>
    have hs := (splitAt?_eq_none_iff hm).mp hsplit
    simp only [Prod.mk.injEq]
    constructor
    · rintro ⟨rfl, rfl, rfl⟩
      exact ⟨by simp, hs, rfl⟩
    · rintro ⟨heq, hbounded⟩
      cases closed with
      | true => exact absurd ⟨body, rest, heq.symm⟩ hs
      | false =>
        obtain ⟨-, rfl⟩ := hbounded
        exact ⟨by simpa using heq, rfl, rfl⟩

lemma readQuoted_spec (quote : Char) (s : List Char) :
    s = (readQuoted quote s).1 ++ closing [quote] (readQuoted quote s).2.1
        ++ (readQuoted quote s).2.2 ∧
      Doubled quote (readQuoted quote s).1 ∧
      (if (readQuoted quote s).2.1 then (readQuoted quote s).2.2.head? ≠ some quote
        else (readQuoted quote s).2.2 = []) := by
  fun_induction readQuoted quote s with
  | case1 => exact ⟨rfl, .nil, rfl⟩
  | case2 => exact ⟨rfl, .nil, by simp⟩
  | case3 c hc => exact ⟨by simp, .other hc .nil, rfl⟩
  | case4 rest body closed left heq ih =>
    rw [heq] at ih
    obtain ⟨hs, hd, hend⟩ := ih
    exact ⟨by simpa using hs, .pair hd, hend⟩
  | case5 d rest hd => exact ⟨rfl, .nil, by simpa using hd⟩
  | case6 c d rest hc body closed left heq ih =>
    rw [heq] at ih
    obtain ⟨hs, hd, hend⟩ := ih
    exact ⟨by simpa using hs, .other hc hd, hend⟩

lemma readQuoted_cons_of_ne (hc : c ≠ quote) :
    readQuoted quote (c :: s)
      = (c :: (readQuoted quote s).1, (readQuoted quote s).2.1, (readQuoted quote s).2.2) := by
  cases s with
  | nil => simp [readQuoted, hc]
  | cons d s => simp [readQuoted, hc]

lemma readQuoted_pair :
    readQuoted quote (quote :: quote :: s)
      = (quote :: quote :: (readQuoted quote s).1, (readQuoted quote s).2.1,
        (readQuoted quote s).2.2) := by
  simp [readQuoted]

lemma readQuoted_eq_iff {closed : Bool} :
    readQuoted quote s = (body, closed, rest) ↔
      s = body ++ closing [quote] closed ++ rest ∧ Doubled quote body ∧
        (if closed then rest.head? ≠ some quote else rest = []) := by
  constructor
  · intro h
    have hspec := readQuoted_spec quote s
    rwa [h] at hspec
  · rintro ⟨rfl, hbody, hend⟩
    induction hbody with
    | nil =>
      cases closed with
      | true =>
        cases rest with
        | nil => simp [readQuoted]
        | cons d rest =>
          have hd : d ≠ quote := by simpa using hend
          simp [readQuoted, hd]
      | false =>
        have hrest : rest = [] := by simpa using hend
        simp [hrest, readQuoted]
    | other hc _ ih =>
      rw [List.append_assoc] at ih
      simp [readQuoted_cons_of_ne hc, ih]
    | pair _ ih =>
      rw [List.append_assoc] at ih
      simp [readQuoted_pair, ih]

lemma not_isTagPart_dollar : isTagPart '$' = false := by decide

lemma IsTag.ne_nil (h : IsTag tag) : tag ≠ [] := by
  obtain ⟨name, rfl, -⟩ := h
  simp

lemma readTag?_eq_some_iff :
    readTag? s = some (tag, after) ↔ IsTag tag ∧ '$' :: s = tag ++ after := by
  constructor
  · intro h
    fun_cases readTag? s with
    | case1 rest =>
      simp only [readTag?, Option.some.injEq, Prod.mk.injEq] at h
      obtain ⟨rfl, rfl⟩ := h
      exact ⟨⟨[], by simp⟩, by simp⟩
    | case2 c rest hne hstart left heq =>
      simp only [readTag?, hstart, heq, if_true, Option.some.injEq, Prod.mk.injEq] at h
      obtain ⟨rfl, rfl⟩ := h
      refine ⟨⟨c :: rest.takeWhile isTagPart, by simp, by simpa using hstart, ?_⟩, ?_⟩
      · intro d hd
        rcases List.mem_cons.mp hd with rfl | hd
        · exact isTagPart_of_isTagStart hstart
        · exact List.mem_takeWhile_imp hd
      · simp only [List.cons_append, List.append_assoc, List.nil_append, ← heq,
          List.takeWhile_append_dropWhile]
    | case3 c rest hne hstart hstop => simp_all [readTag?]
    | case4 c rest hne hstart => simp_all [readTag?]
    | case5 => simp [readTag?] at h
  · rintro ⟨⟨name, rfl, hstart, hpart⟩, heq⟩
    cases name with
    | nil =>
      simp only [List.cons_append, List.nil_append, List.cons.injEq, true_and] at heq
      simp [heq, readTag?]
    | cons c name =>
      have hc : c ≠ '$' := by
        rintro rfl
        simpa [not_isTagPart_dollar] using hpart '$' (by simp)
      have hs : isTagStart c = true := by simpa using hstart
      have hn : ∀ d ∈ name, isTagPart d = true := by
        intro d hd
        apply hpart d
        simp [hd]
      simp only [List.cons_append, List.append_assoc, List.cons.injEq, true_and,
        List.nil_append] at heq
      subst heq
      have hdrop : (name ++ '$' :: after).dropWhile isTagPart = '$' :: after := by
        rw [List.dropWhile_append_of_pos hn]
        simp [not_isTagPart_dollar]
      have htake : (name ++ '$' :: after).takeWhile isTagPart = name := by
        rw [List.takeWhile_append_of_pos hn]
        simp [not_isTagPart_dollar]
      simp [readTag?, hs, hdrop, htake]

/-! ### The grammar -/

/-- A character that is a lexeme of its own. -/
def IsSymbol (c : Char) : Prop :=
  c ≠ '\n' ∧ c ≠ ';' ∧ isQuote c = false ∧ isWordPart c = false ∧ isBlank c = false

/-- The lexeme may stand in front of a rest of the script; `afterWord` says that a word stands
right before it. -/
def Fits (afterWord : Bool) (rest : List Char) : Lexeme → Prop
  | lineBreak => True
  | blank c => isBlank c = true ∧ c ≠ '\n'
  | lineComment body => '\n' ∉ body ∧ ∀ c ∈ rest.head?, c = '\n'
  | blockComment body closed => Bounded ['*', '/'] body rest closed
  | quoted quote body closed =>
    isQuote quote = true ∧ Doubled quote body ∧
      (if closed then rest.head? ≠ some quote else rest = [])
  | dollarQuoted tag body closed => afterWord = false ∧ IsTag tag ∧ Bounded tag body rest closed
  | semicolon => True
  | word letters =>
    letters ≠ [] ∧ (∀ c ∈ letters, isWordPart c = true) ∧ ∀ c ∈ rest.head?, isWordPart c = false
  | symbol c =>
    IsSymbol c ∧ (c = '-' → rest.head? ≠ some '-') ∧ (c = '/' → rest.head? ≠ some '*') ∧
      (c = '$' → afterWord = false → ∀ tag after, IsTag tag → '$' :: rest ≠ tag ++ after)

/-- Each lexeme may stand in front of the text of those behind it. -/
def Fitting (afterWord : Bool) : List Lexeme → Prop
  | [] => True
  | l :: ls => l.Fits afterWord (ls.flatMap text) ∧ Fitting l.isWord ls

@[simp] lemma fitting_cons {l : Lexeme} {ls : List Lexeme} :
    Fitting afterWord (l :: ls) ↔ l.Fits afterWord (ls.flatMap text) ∧ Fitting l.isWord ls :=
  Iff.rfl

/-- Each lexeme is taken from where it may stand. -/
def Placed (ls : List Lexeme) : Prop :=
  ∀ l ∈ ls, ∃ afterWord rest, l.Fits afterWord rest

lemma Fitting.placed {ls : List Lexeme} (h : Fitting afterWord ls) : Placed ls := by
  induction ls generalizing afterWord with
  | nil => simp [Placed]
  | cons l ls ih => exact List.forall_mem_cons.mpr ⟨⟨_, _, h.1⟩, ih h.2⟩

lemma Fits.text_ne_nil {l : Lexeme} (h : l.Fits afterWord rest) : l.text ≠ [] := by
  cases l with
  | word letters => exact h.1
  | dollarQuoted tag body closed => simp [text, h.2.1.ne_nil]
  | _ => simp [text]

/-! ### Cutting keeps to the grammar, and nothing else does -/

lemma readTag?_eq_none_iff :
    readTag? s = none ↔ ∀ tag after, IsTag tag → '$' :: s ≠ tag ++ after := by
  rw [Option.eq_none_iff_forall_ne_some]
  constructor
  · intro h tag after htag heq
    exact h (tag, after) (readTag?_eq_some_iff.mpr ⟨htag, heq⟩)
  · rintro h ⟨tag, after⟩ heq
    obtain ⟨htag, heq⟩ := readTag?_eq_some_iff.mp heq
    exact h tag after htag heq

/-- Where dropping stopped, the predicate fails. -/
lemma eq_false_of_mem_head?_dropWhile {p : Char → Bool} {d : Char}
    (h : d ∈ (s.dropWhile p).head?) : p d = false := by
  have := List.head?_dropWhile_not p s
  rw [Option.mem_def.mp h] at this
  exact this

lemma next_spec {l : Lexeme} {left : List Char} (h : next afterWord c rest = (l, left)) :
    c :: rest = l.text ++ left ∧ l.Fits afterWord left := by
  rw [next] at h
  split at h
  · next hc =>
    obtain ⟨rfl, rfl⟩ := Prod.mk.inj h
    exact ⟨by simpa [text] using hc, trivial⟩
  next hbreak =>
  split at h
  · next hc =>
    obtain ⟨rfl, rfl⟩ := Prod.mk.inj h
    obtain ⟨rfl, hhead⟩ : c = '-' ∧ rest.head? = some '-' := by simpa using hc
    obtain ⟨rest, rfl⟩ := List.head?_eq_some_iff.mp hhead
    refine ⟨by simp [text], fun hmem => ?_, fun d hd => ?_⟩
    · simpa using List.mem_takeWhile_imp hmem
    · simpa using eq_false_of_mem_head?_dropWhile hd
  next hline =>
  split at h
  · next hc =>
    obtain ⟨rfl, hhead⟩ : c = '/' ∧ rest.head? = some '*' := by simpa using hc
    obtain ⟨rest, rfl⟩ := List.head?_eq_some_iff.mp hhead
    obtain ⟨body, closed, after, hread⟩ : ∃ body closed after,
        readUntil ['*', '/'] rest = (body, closed, after) := ⟨_, _, _, rfl⟩
    simp only [List.drop_one, List.tail_cons, hread] at h
    obtain ⟨rfl, rfl⟩ := Prod.mk.inj h
    obtain ⟨rfl, hbounded⟩ := (readUntil_eq_iff (by simp)).mp hread
    exact ⟨by cases closed <;> simp [text], hbounded⟩
  next hblock =>
  split at h
  · next hquote =>
    obtain ⟨body, closed, after, hread⟩ : ∃ body closed after,
        readQuoted c rest = (body, closed, after) := ⟨_, _, _, rfl⟩
    rw [hread] at h
    obtain ⟨rfl, rfl⟩ := Prod.mk.inj h
    obtain ⟨rfl, hbody, hend⟩ := readQuoted_eq_iff.mp hread
    exact ⟨by cases closed <;> simp [text], hquote, hbody, hend⟩
  next hquote =>
  have hsymbol (hword : isWordPart c = false) (hblank : isBlank c = false) (hsemi : c ≠ ';')
      (htag : c = '$' → afterWord = false → readTag? rest = none) :
      c :: rest = (symbol c).text ++ rest ∧ (symbol c).Fits afterWord rest := by
    refine ⟨rfl, ⟨by simpa using hbreak, hsemi, by simpa using hquote, hword, hblank⟩, ?_, ?_, ?_⟩
    · rintro rfl hd
      simp [hd] at hline
    · rintro rfl hd
      simp [hd] at hblock
    · intro hd hw
      exact readTag?_eq_none_iff.mp (htag hd hw)
  split at h
  · next hdollar =>
    obtain ⟨rfl, hafter⟩ : c = '$' ∧ afterWord = false := by simpa using hdollar
    split at h
    · next tag after htag =>
      obtain ⟨body, closed, left', hread⟩ : ∃ body closed left',
          readUntil tag after = (body, closed, left') := ⟨_, _, _, rfl⟩
      rw [hread] at h
      obtain ⟨rfl, rfl⟩ := Prod.mk.inj h
      obtain ⟨hisTag, heq⟩ := readTag?_eq_some_iff.mp htag
      obtain ⟨rfl, hbounded⟩ := (readUntil_eq_iff hisTag.ne_nil).mp hread
      exact ⟨by cases closed <;> simp [text, heq], hafter, hisTag, hbounded⟩
    · next hnone =>
      obtain ⟨rfl, rfl⟩ := Prod.mk.inj h
      exact hsymbol (by decide) (by decide) (by decide) fun _ _ => hnone
  next hdollar =>
  split at h
  · next hsemi =>
    obtain ⟨rfl, rfl⟩ := Prod.mk.inj h
    exact ⟨by simpa [text] using hsemi, trivial⟩
  next hsemi =>
  split at h
  · next hword =>
    obtain ⟨rfl, rfl⟩ := Prod.mk.inj h
    refine ⟨by simp [text], by simp, fun d hd => ?_, fun d hd => ?_⟩
    · rcases List.mem_cons.mp hd with rfl | hd
      · exact hword
      · exact List.mem_takeWhile_imp hd
    · exact eq_false_of_mem_head?_dropWhile hd
  next hword =>
  split at h
  · next hblank =>
    obtain ⟨rfl, rfl⟩ := Prod.mk.inj h
    exact ⟨rfl, hblank, by simpa using hbreak⟩
  · next hblank =>
    obtain ⟨rfl, rfl⟩ := Prod.mk.inj h
    apply hsymbol (by simpa using hword) (by simpa using hblank) (by simpa using hsemi)
    rintro rfl rfl
    simp at hdollar

/-- A word part or a blank opens nothing else. -/
lemma not_opening_of_mem {c : Char} (h : isWordPart c = true ∨ isBlank c = true) :
    c ≠ '-' ∧ c ≠ '/' ∧ c ≠ '$' ∧ c ≠ ';' ∧ isQuote c = false := by
  have hne : ∀ m ∈ ['-', '/', '$', ';', '\x27', '"', '\x60'], c ≠ m := by
    intro m hm hc
    have hpart : isWordPart m = false := by
      apply isWordPart_eq_false_of_mem
      simp only [List.mem_cons, List.not_mem_nil, or_false] at hm ⊢
      tauto
    have hblank : isBlank m = false := by
      apply isBlank_eq_false_of_mem
      simp only [List.mem_cons, List.not_mem_nil, or_false] at hm ⊢
      tauto
    simp [hc, hpart, hblank] at h
  simp only [List.mem_cons, List.not_mem_nil, or_false, forall_eq_or_imp, forall_eq] at hne
  simp [isQuote, hne]

lemma next_eq_of_fits {l : Lexeme} {left : List Char} (hl : l.Fits afterWord left)
    (heq : c :: rest = l.text ++ left) : next afterWord c rest = (l, left) := by
  cases l with
  | lineBreak =>
    obtain ⟨rfl, rfl⟩ : c = '\n' ∧ rest = left := by simpa [text] using heq
    simp [next]
  | blank b =>
    obtain ⟨rfl, rfl⟩ : c = b ∧ rest = left := by simpa [text] using heq
    obtain ⟨hblank, hbreak⟩ := hl
    obtain ⟨hd, hs, ht, hsemi, hq⟩ := not_opening_of_mem (Or.inr hblank)
    simp [next, hbreak, hd, hs, ht, hsemi, hq, hblank, isWordPart_of_isBlank hblank]
  | lineComment body =>
    obtain ⟨rfl, rfl⟩ : c = '-' ∧ rest = '-' :: (body ++ left) := by simpa [text] using heq
    obtain ⟨hbody, hleft⟩ := hl
    have hb : ∀ d ∈ body, (d != '\n') = true := by
      intro d hd
      simpa using fun h : d = '\n' => hbody (h ▸ hd)
    have hstop : left.takeWhile (· != '\n') = [] ∧ left.dropWhile (· != '\n') = left := by
      cases left with
      | nil => simp
      | cons d left => simp [show d = '\n' by simpa using hleft]
    simp [next, List.takeWhile_append_of_pos hb, List.dropWhile_append_of_pos hb, hstop]
  | blockComment body closed =>
    obtain ⟨rfl, rfl⟩ : c = '/' ∧ rest = '*' :: (body ++ closing ['*', '/'] closed ++ left) := by
      cases closed <;> simpa [text] using heq
    have hread := (readUntil_eq_iff (by simp)).mpr ⟨rfl, hl⟩
    simp only [next, List.head?_cons, List.drop_one, List.tail_cons, hread]
    simp
  | quoted quote body closed =>
    obtain ⟨rfl, rfl⟩ : c = quote ∧ rest = body ++ closing [quote] closed ++ left := by
      cases closed <;> simpa [text] using heq
    obtain ⟨hquote, hbody, hend⟩ := hl
    have hne : c ≠ '\n' ∧ c ≠ '-' ∧ c ≠ '/' := by
      have hmem := mem_of_isQuote hquote
      refine ⟨?_, ?_, ?_⟩ <;> · rintro rfl; revert hmem; decide
    have hread := readQuoted_eq_iff.mpr ⟨rfl, hbody, hend⟩
    simp only [next, hquote, if_true, hread]
    simp [hne]
  | dollarQuoted tag body closed =>
    obtain ⟨rfl, htag, hbounded⟩ := hl
    have htext : c :: rest = tag ++ (body ++ closing tag closed ++ left) := by
      cases closed <;> simpa [text] using heq
    obtain rfl : c = '$' := by
      obtain ⟨name, rfl, -⟩ := htag
      simpa using congrArg List.head? htext
    have hopen := readTag?_eq_some_iff.mpr ⟨htag, htext⟩
    have hread := (readUntil_eq_iff htag.ne_nil).mpr ⟨rfl, hbounded⟩
    have hquote : isQuote '$' = false := by decide
    rw [List.append_assoc] at hopen hread
    simp [next, hopen, hread, hquote]
  | semicolon =>
    obtain ⟨rfl, rfl⟩ : c = ';' ∧ rest = left := by simpa [text] using heq
    simp [next, isQuote]
  | word letters =>
    obtain ⟨hne, hpart, hstop⟩ := hl
    obtain ⟨d, letters, rfl⟩ := List.exists_cons_of_ne_nil hne
    obtain ⟨rfl, rfl⟩ : c = d ∧ rest = letters ++ left := by simpa [text] using heq
    have hc : isWordPart c = true := hpart c (by simp)
    have hl : ∀ d ∈ letters, isWordPart d = true := by
      intro d hd
      apply hpart d
      simp [hd]
    have hbreak : c ≠ '\n' := by
      rintro rfl
      simp [isWordPart_eq_false_of_mem] at hc
    obtain ⟨hd, hs, ht, hsemi, hq⟩ := not_opening_of_mem (Or.inl hc)
    have hstop' : left.takeWhile isWordPart = [] ∧ left.dropWhile isWordPart = left := by
      cases left with
      | nil => simp
      | cons d left => simp [show isWordPart d = false by simpa using hstop]
    simp [next, hbreak, hd, hs, ht, hsemi, hq, hc, List.takeWhile_append_of_pos hl,
      List.dropWhile_append_of_pos hl, hstop']
  | symbol d =>
    obtain ⟨rfl, rfl⟩ : c = d ∧ rest = left := by simpa [text] using heq
    obtain ⟨⟨hbreak, hsemi, hquote, hword, hblank⟩, hline, hblock, htag⟩ := hl
    have hdollar (hd : c = '$') (hw : afterWord = false) : readTag? rest = none :=
      readTag?_eq_none_iff.mpr (htag hd hw)
    have hline' : ¬ (c = '-' ∧ rest.head? = some '-') := by
      intro h
      exact hline h.1 h.2
    have hblock' : ¬ (c = '/' ∧ rest.head? = some '*') := by
      intro h
      exact hblock h.1 h.2
    rw [next]
    simp only [beq_iff_eq, hbreak, if_false, Bool.and_eq_true, hline', hblock', hquote,
      Bool.not_eq_true', Bool.false_eq_true, hsemi, hword, hblank]
    split
    · next hd => rw [hdollar hd.1 hd.2]
    · rfl

/-- Only the lexeme itself with what follows it fits in front of a text. -/
lemma next_eq_iff {l : Lexeme} {left : List Char} :
    next afterWord c rest = (l, left) ↔ c :: rest = l.text ++ left ∧ l.Fits afterWord left :=
  ⟨next_spec, fun ⟨heq, hl⟩ => next_eq_of_fits hl heq⟩

lemma Fitting.eq_nil {ls : List Lexeme} (h : Fitting afterWord ls) (hs : ls.flatMap text = []) :
    ls = [] := by
  cases ls with
  | nil => rfl
  | cons l ls =>
    rw [List.flatMap_cons, List.append_eq_nil_iff] at hs
    exact absurd hs.1 h.1.text_ne_nil

lemma Fitting.of_append {ks ls : List Lexeme} (h : Fitting afterWord (ks ++ ls)) :
    ∃ afterWord', Fitting afterWord' ls := by
  induction ks generalizing afterWord with
  | nil => exact ⟨afterWord, h⟩
  | cons k ks ih => exact ih h.2

lemma cut_eq_iff {fuel : Nat} {ls : List Lexeme} (hfuel : s.length ≤ fuel) :
    cut fuel afterWord s = ls ↔ ls.flatMap text = s ∧ Fitting afterWord ls := by
  induction fuel generalizing afterWord s ls with
  | zero =>
    obtain rfl : s = [] := List.eq_nil_of_length_eq_zero (by omega)
    constructor
    · rintro rfl
      exact ⟨rfl, trivial⟩
    · rintro ⟨hs, hls⟩
      rw [hls.eq_nil hs, cut]
  | succ fuel ih =>
    cases s with
    | nil =>
      constructor
      · rintro rfl
        exact ⟨rfl, trivial⟩
      · rintro ⟨hs, hls⟩
        rw [hls.eq_nil hs, cut]
        simp
    | cons c rest =>
      obtain ⟨l, left, hnext⟩ : ∃ l left, next afterWord c rest = (l, left) := ⟨_, _, rfl⟩
      obtain ⟨htext, hl⟩ := next_eq_iff.mp hnext
      have hlen : left.length ≤ fuel := by
        have hpos := List.length_pos_iff.mpr hl.text_ne_nil
        have := congrArg List.length htext
        simp only [List.length_cons, List.length_append] at this hfuel
        omega
      rw [cut, hnext]
      constructor
      · rintro rfl
        obtain ⟨hleft, hfit⟩ := (ih hlen).mp rfl
        rw [List.flatMap_cons, hleft, fitting_cons, hleft]
        exact ⟨htext.symm, hl, hfit⟩
      · rintro ⟨hs, hls⟩
        cases ls with
        | nil => simp at hs
        | cons l' ls =>
          obtain ⟨hl', hfit⟩ := fitting_cons.mp hls
          have hnext' := next_eq_iff.mpr ⟨hs.symm, hl'⟩
          obtain ⟨rfl, rfl⟩ := Prod.mk.inj (hnext.symm.trans hnext')
          exact congrArg (List.cons l) ((ih hlen).mpr ⟨rfl, hfit⟩)

/-- The lexemes of a script are the one list that spells the script and keeps to the grammar. -/
theorem ofText_eq_iff {ls : List Lexeme} :
    ofText s = ls ↔ ls.flatMap text = s ∧ Fitting false ls :=
  cut_eq_iff le_rfl

lemma flatMap_text_ofText (s : List Char) : (ofText s).flatMap text = s :=
  (ofText_eq_iff.mp rfl).1

lemma fitting_ofText (s : List Char) : Fitting false (ofText s) :=
  (ofText_eq_iff.mp rfl).2

end SqlWorkbench.Lexeme
