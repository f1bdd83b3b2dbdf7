import Mathlib.Tactic.Common
import SqlWorkbench.Proofs.Script.Fidelity

/-!
# How far a lexeme sees

Whether a lexeme may stand in front of a text depends on that text up to its first blank or
terminator only: a word or a symbol looks at the next character, and a dollar sign at the letters
of a tag. Main statement: what stands behind some lexemes of a script may be replaced by a text that
looks the same up to there.
-/

namespace SqlWorkbench.Lexeme

open Text

variable {afterWord : Bool} {s t rest rest' : List Char} {l : Lexeme} {ls tail tail' : List Lexeme}

/-! ### Separators -/

/-- Blanks and terminators, beyond which no lexeme looks. -/
def isSeparator (c : Char) : Bool :=
  isBlank c || c == ';'

lemma isWordPart_of_isSeparator {c : Char} (h : isSeparator c = true) : isWordPart c = false := by
  rw [isSeparator, Bool.or_eq_true, beq_iff_eq] at h
  rcases h with h | rfl
  · exact isWordPart_of_isBlank h
  · decide

lemma isSeparator_of_isQuote {c : Char} (h : isQuote c = true) : isSeparator c = false := by
  have hsemi : c ≠ ';' := by
    rintro rfl
    exact absurd h (by decide)
  simp [isSeparator, isBlank_of_isQuote h, hsemi]

lemma isWordPart_of_isTagPart {c : Char} (h : isTagPart c = true) : isWordPart c = true := by
  rw [isTagPart, Bool.or_eq_true, ← isAsciiAlphanumeric] at h
  rw [isWordPart, Bool.or_eq_true]
  exact h.imp_left isAlphanumeric_of_isAsciiAlphanumeric

lemma isSeparator_of_isTagPart {c : Char} (h : isTagPart c = true) : isSeparator c = false := by
  by_contra hseparator
  have hword := isWordPart_of_isSeparator (by simpa using hseparator)
  rw [isWordPart_of_isTagPart h] at hword
  exact absurd hword (by simp)

/-! ### Sight -/

/-- Whatever is seen of the second text stands in front of the first as well. -/
def Sees (s t : List Char) : Prop :=
  ∀ p, (∀ c ∈ p, isSeparator c = false) → p <+: t → p <+: s

/-- Nothing is seen of a text that begins with a separator. -/
lemma sees_of_head (h : ∀ c ∈ t.head?, isSeparator c = true) : Sees s t := by
  rintro p hp ⟨after, rfl⟩
  cases p with
  | nil => exact List.nil_prefix
  | cons c p =>
    have hc := h c (by simp)
    rw [hp c (by simp)] at hc
    exact absurd hc (by simp)

lemma sees_of_isPrefix (h : t <+: s) : Sees s t :=
  fun _ _ hp => hp.trans h

lemma Sees.append_left (u : List Char) (h : Sees s t) : Sees (u ++ s) (u ++ t) := by
  rintro p hp ⟨after, heq⟩
  rcases List.append_eq_append_iff.mp heq with ⟨x, rfl, -⟩ | ⟨x, rfl, ht⟩
  · exact ⟨x ++ s, by simp⟩
  · rw [List.prefix_append_right_inj]
    exact h x (fun c hc => hp c (by simp [hc])) ⟨after, ht.symm⟩

/-- The first character is seen unless it is a separator. -/
lemma Sees.head {c : Char} (h : Sees s t) (hc : c ∈ t.head?) :
    isSeparator c = true ∨ c ∈ s.head? := by
  obtain ⟨t, rfl⟩ := List.head?_eq_some_iff.mp hc
  cases hseparator : isSeparator c with
  | true => exact Or.inl rfl
  | false =>
    obtain ⟨after, rfl⟩ := h [c] (by simpa using hseparator) ⟨t, rfl⟩
    exact Or.inr (by simp)

/-- A tag is seen as a whole. -/
lemma Sees.of_isTag {tag after : List Char} (h : Sees s t) (htag : IsTag tag)
    (heq : '$' :: t = tag ++ after) : ∃ after', '$' :: s = tag ++ after' := by
  obtain ⟨name, rfl, -, hpart⟩ := htag
  rw [List.cons_append, List.cons_append, List.cons_eq_cons] at heq
  have hseen : ∀ c ∈ name ++ ['$'], isSeparator c = false := by
    intro c hc
    rcases List.mem_append.mp hc with hc | hc
    · exact isSeparator_of_isTagPart (hpart c hc)
    · rw [List.mem_singleton.mp hc]
      decide
  obtain ⟨after', rfl⟩ := h _ hseen ⟨after, heq.2.symm⟩
  exact ⟨after', by simp⟩

/-- A lexeme that ends may stand in front of every text that looks the same to it. -/
lemma Fits.of_sees (h : l.Fits afterWord rest) (hsees : Sees rest rest') (hopen : l.isOpen = false)
    (hcomment : ∀ body, l = lineComment body → ∀ c ∈ rest'.head?, c = '\n') :
    l.Fits afterWord rest' := by
  cases l with
  | lineBreak | blank c | semicolon => exact h
  | lineComment body => exact ⟨h.1, hcomment body rfl⟩
  | blockComment body closed =>
    obtain rfl : closed = true := by simpa [isOpen] using hopen
    exact h
  | quoted quote body closed =>
    obtain rfl : closed = true := by simpa [isOpen] using hopen
    refine ⟨h.1, h.2.1, fun hquote => ?_⟩
    rcases hsees.head hquote with hseparator | hquote
    · rw [isSeparator_of_isQuote h.1] at hseparator
      exact Bool.false_ne_true hseparator
    · exact h.2.2 hquote
  | dollarQuoted tag body closed =>
    obtain rfl : closed = true := by simpa [isOpen] using hopen
    exact h
  | word letters =>
    refine ⟨h.1, h.2.1, fun c hc => ?_⟩
    exact (hsees.head hc).elim isWordPart_of_isSeparator (h.2.2 c)
  | symbol c =>
    obtain ⟨hc, hline, hblock, htag⟩ := h
    refine ⟨hc, fun hd hhead => ?_, fun hd hhead => ?_, fun hd hw tag after hisTag heq => ?_⟩
    · exact (hsees.head hhead).elim (by decide) (hline hd)
    · exact (hsees.head hhead).elim (by decide) (hblock hd)
    · obtain ⟨after', heq'⟩ := hsees.of_isTag hisTag heq
      exact htag hd hw tag after' hisTag heq'

/-- The end of a script may be replaced by one that looks the same and may stand anywhere. -/
lemma Fitting.of_sees (h : Fitting afterWord (ls ++ tail))
    (hsees : Sees (tail.flatMap text) (tail'.flatMap text))
    (hhead : ∃ c ∈ (tail.flatMap text).head?, c ≠ '\n')
    (htail : ∀ afterWord, Fitting afterWord tail') : Fitting afterWord (ls ++ tail') := by
  induction ls generalizing afterWord with
  | nil => exact htail afterWord
  | cons l ls ih =>
    rw [List.cons_append, fitting_cons] at h ⊢
    obtain ⟨hl, hrest⟩ := h
    refine ⟨?_, ih hrest⟩
    obtain ⟨c, hc, hbreak⟩ := hhead
    rw [List.flatMap_append] at hl ⊢
    refine hl.of_sees (hsees.append_left _) (hl.isOpen_eq_false ?_) ?_
    · intro hnil
      rw [(List.append_eq_nil_iff.mp hnil).2] at hc
      simp at hc
    · rintro body rfl d hd
      cases ls with
      | nil => exact absurd (hl.2 c hc) hbreak
      | cons k ls =>
        have hk : k.text ≠ [] := hrest.1.text_ne_nil
        apply hl.2 d
        rw [List.flatMap_cons, List.append_assoc, List.head?_append_of_ne_nil _ hk] at hd ⊢
        exact hd

/-- Behind closed lexemes a separator may follow, which has to be a line break behind a comment that
ends with its line. -/
lemma Fitting.append_separator {d : Char} (h : Fitting afterWord ls)
    (hopen : ∀ l ∈ ls, l.isOpen = false) (hd : isSeparator d = true)
    (htext : tail.flatMap text = d :: t)
    (hcomment : ∀ body, lineComment body ∈ ls.getLast? → d = '\n')
    (htail : ∀ afterWord, Fitting afterWord tail) : Fitting afterWord (ls ++ tail) := by
  induction ls generalizing afterWord with
  | nil => exact htail afterWord
  | cons l ls ih =>
    rw [List.forall_mem_cons] at hopen
    have hsees : Sees (ls.flatMap text ++ []) (ls.flatMap text ++ d :: t) :=
      Sees.append_left _ (sees_of_head (by simpa using hd))
    rw [List.append_nil] at hsees
    rw [List.cons_append, fitting_cons, List.flatMap_append, htext]
    refine ⟨h.1.of_sees hsees hopen.1 ?_, ih h.2 hopen.2 fun body hbody => ?_⟩
    · rintro body rfl c hc
      cases ls with
      | nil =>
        obtain rfl : d = c := by simpa using hc
        exact hcomment body (by simp)
      | cons k ls =>
        have hk : (List.flatMap text (k :: ls)) ≠ [] := by simp [h.2.1.text_ne_nil]
        rw [List.head?_append_of_ne_nil _ hk] at hc
        exact h.1.2 c hc
    · refine hcomment body ?_
      rw [List.getLast?_cons, Option.mem_def.mp hbody]
      rfl

end SqlWorkbench.Lexeme
