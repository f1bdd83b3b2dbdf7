import Mathlib.Tactic.Common
import SqlWorkbench.Proofs.Script.Terminated

/-!
# Calm texts

The lexemes of a calm text end nothing, are closed, and open no block. Between calm texts stand
delimiters, which belong to no lexeme of two characters: the lexemes of calm texts with delimiters
between them are those of the texts and the delimiters. Main statement: a calm text is terminated,
since no block is open at its end.
-/

namespace SqlWorkbench

open Lexeme Text

namespace Lexeme

variable {afterWord : Bool} {l : Lexeme} {ls ms : List Lexeme} {d quote : Char}
  {s t rest body : List Char}

/-! ### Calm lexemes -/

/-- Words of which one stands wherever a block is opened. -/
def openingWords : List String :=
  ["BEGIN", "CASE", "TRANSACTION"]

/-- A lexeme that ends nothing, is closed and takes no part in opening a block. -/
def isCalm : Lexeme → Bool
  | blank _ | symbol _ => true
  | quoted _ _ closed | dollarQuoted _ _ closed => closed
  | word letters => !openingWords.contains (capitals letters)
  | lineBreak | lineComment _ | blockComment _ _ | semicolon => false

/-- A text of calm lexemes. -/
def CalmText (s : List Char) : Prop :=
  ∀ l ∈ ofText s, l.isCalm = true

instance (s : List Char) : Decidable (CalmText s) :=
  inferInstanceAs (Decidable (∀ l ∈ ofText s, l.isCalm = true))

/-! ### Delimiters -/

/-- Characters that stand between calm texts. -/
def delimiters : List Char :=
  [' ', '(', ')', ',']

lemma isWordPart_of_mem_delimiters (hd : d ∈ ';' :: delimiters) : isWordPart d = false := by
  simp only [delimiters, List.mem_cons, List.not_mem_nil, or_false] at hd
  rcases hd with rfl | rfl | rfl | rfl | rfl <;> decide

lemma not_mem_of_mem_delimiters (hd : d ∈ ';' :: delimiters) :
    d ∉ ['-', '*', '$', '\x27', '"', '\x60'] := by
  simp only [delimiters, List.mem_cons, List.not_mem_nil, or_false] at hd
  rcases hd with rfl | rfl | rfl | rfl | rfl <;> decide

lemma isQuote_of_mem_delimiters (hd : d ∈ ';' :: delimiters) : isQuote d = false := by
  have hnot := not_mem_of_mem_delimiters hd
  simp only [List.mem_cons, List.not_mem_nil, or_false, not_or] at hnot
  simp [isQuote, hnot]

/-- A tag does not reach beyond a delimiter. -/
lemma ne_append_of_isTag (hd : d ∈ ';' :: delimiters)
    (hrest : ∀ tag after, IsTag tag → '$' :: rest ≠ tag ++ after) {tag after : List Char}
    (htag : IsTag tag) : '$' :: (rest ++ d :: t) ≠ tag ++ after := by
  rw [← List.cons_append]
  intro heq
  rcases List.append_eq_append_iff.mp heq with ⟨x, rfl, hx⟩ | ⟨x, hx, -⟩
  · cases x with
    | nil => exact hrest _ [] htag (by simp)
    | cons e x =>
      obtain ⟨rfl, -⟩ := List.cons_eq_cons.mp hx
      obtain ⟨name, hname, -, hpart⟩ := htag
      have hmem : d ∈ '$' :: name ++ ['$'] := hname ▸ by simp
      rw [List.cons_append, List.mem_cons, List.mem_append, List.mem_singleton] at hmem
      have hdollar : d ≠ '$' := fun h => not_mem_of_mem_delimiters hd (by simp [h])
      rcases hmem with h | h | h
      · exact hdollar h
      · have hword := isWordPart_of_isTagPart (hpart d h)
        rw [isWordPart_of_mem_delimiters hd] at hword
        exact absurd hword (by simp)
      · exact hdollar h
  · exact hrest tag x htag hx

/-- A calm lexeme does not look beyond a delimiter. -/
lemma Fits.append_delimiter (h : l.Fits afterWord rest) (hl : l.isCalm = true)
    (hd : d ∈ ';' :: delimiters) : l.Fits afterWord (rest ++ d :: t) := by
  have hhead {c : Char} (hc : c ∈ (rest ++ d :: t).head?) : c ∈ rest.head? ∨ c = d := by
    cases rest with
    | nil => exact Or.inr (by simpa using hc.symm)
    | cons e rest => exact Or.inl hc
  have hnot : ∀ c ∈ ['-', '*', '$', '\x27', '"', '\x60'], c ≠ d := by
    rintro c hc rfl
    exact not_mem_of_mem_delimiters hd hc
  cases l with
  | blank c => exact h
  | quoted quote body closed =>
    obtain rfl : closed = true := hl
    refine ⟨h.1, h.2.1, fun hquote => ?_⟩
    rcases hhead hquote with hquote | rfl
    · exact h.2.2 hquote
    · have hnone := h.1
      rw [isQuote_of_mem_delimiters hd] at hnone
      exact Bool.false_ne_true hnone
  | dollarQuoted tag body closed =>
    obtain rfl : closed = true := hl
    exact h
  | word letters =>
    refine ⟨h.1, h.2.1, fun c hc => ?_⟩
    rcases hhead hc with hc | rfl
    · exact h.2.2 c hc
    · exact isWordPart_of_mem_delimiters hd
  | symbol c =>
    obtain ⟨hc, hline, hblock, htag⟩ := h
    refine ⟨hc, fun hdash hnext => ?_, fun hslash hnext => ?_,
      fun hdollar hafter tag after hisTag => ?_⟩
    · exact (hhead hnext).elim (hline hdash) (hnot '-' (by simp))
    · exact (hhead hnext).elim (hblock hslash) (hnot '*' (by simp))
    · exact ne_append_of_isTag hd (htag hdollar hafter) hisTag
  | _ => simp [isCalm] at hl

/-- What begins with no dollar sign is read in one way, whatever stands before it. -/
lemma fitting_ofText_cons (hd : d ≠ '$') (afterWord : Bool) :
    Fitting afterWord (ofText (d :: t)) := by
  have hfit := fitting_ofText (d :: t)
  have htext := flatMap_text_ofText (d :: t)
  cases hls : ofText (d :: t) with
  | nil => trivial
  | cons l ls =>
    rw [hls] at hfit htext
    refine ⟨?_, hfit.2⟩
    have hl := hfit.1
    cases l with
    | dollarQuoted tag body closed =>
      obtain ⟨-, ⟨name, rfl, -⟩, -⟩ := hl
      rw [List.flatMap_cons, text, List.cons_append, List.cons_append, List.cons_append,
        List.cons_append, List.cons_eq_cons] at htext
      exact absurd htext.1.symm hd
    | symbol c =>
      rw [List.flatMap_cons, text, List.cons_append, List.cons_eq_cons] at htext
      exact ⟨hl.1, hl.2.1, hl.2.2.1, fun hdollar => absurd (htext.1 ▸ hdollar) hd⟩
    | _ => exact hl

lemma Fitting.append_delimiter (h : Fitting afterWord ls) (hls : ∀ l ∈ ls, l.isCalm = true)
    (hd : d ∈ ';' :: delimiters) : Fitting afterWord (ls ++ ofText (d :: t)) := by
  induction ls generalizing afterWord with
  | nil =>
    refine fitting_ofText_cons ?_ afterWord
    rintro rfl
    exact not_mem_of_mem_delimiters hd (by simp)
  | cons l ls ih =>
    rw [List.forall_mem_cons] at hls
    rw [List.cons_append, fitting_cons, List.flatMap_append, flatMap_text_ofText]
    exact ⟨h.1.append_delimiter hls.1 hd, ih h.2 hls.2⟩

/-- A calm text is read as it is, with a delimiter behind it. -/
lemma CalmText.ofText_append (hs : CalmText s) (hd : d ∈ ';' :: delimiters) :
    ofText (s ++ d :: t) = ofText s ++ ofText (d :: t) := by
  refine ofText_eq_iff.mpr ⟨?_, (fitting_ofText s).append_delimiter hs hd⟩
  rw [List.flatMap_append, flatMap_text_ofText, flatMap_text_ofText]

/-! ### Putting calm texts together -/

lemma calmText_nil : CalmText [] := by
  simp [CalmText, ofText, cut]

/-- A calm text with a calm lexeme of one character in front of it. -/
lemma CalmText.cons (ht : CalmText t) (hl : l.isCalm = true) (htext : l.text = [d])
    (hword : l.isWord = false) (hfits : l.Fits false t) : CalmText (d :: t) := by
  have hall : ofText (d :: t) = l :: ofText t := by
    refine ofText_eq_iff.mpr ⟨?_, ?_, ?_⟩
    · rw [List.flatMap_cons, htext, flatMap_text_ofText, List.singleton_append]
    · rwa [flatMap_text_ofText]
    · rw [hword]
      exact fitting_ofText t
  rw [CalmText, hall, List.forall_mem_cons]
  exact ⟨hl, ht⟩

lemma CalmText.cons_delimiter (ht : CalmText t) (hd : d ∈ delimiters) : CalmText (d :: t) := by
  simp only [delimiters, List.mem_cons, List.not_mem_nil, or_false] at hd
  rcases hd with rfl | rfl | rfl | rfl
  · exact ht.cons (l := blank ' ') rfl rfl rfl ⟨by decide, by decide⟩
  all_goals
    refine ht.cons (l := symbol _) rfl rfl rfl ⟨?_, by simp, by simp, by simp⟩
    exact ⟨by decide, by decide, by decide, by decide, by decide⟩

/-- A hyphen with something else behind it is no comment. -/
lemma CalmText.cons_hyphen (ht : CalmText t) (hhead : t.head? ≠ some '-') :
    CalmText ('-' :: t) := by
  refine ht.cons (l := symbol '-') rfl rfl rfl ⟨isSymbol_of_mem (by simp), fun _ => hhead, ?_, ?_⟩
  all_goals simp

/-- Calm texts with a delimiter between them are calm. -/
lemma CalmText.join (hs : CalmText s) (hd : d ∈ delimiters) (ht : CalmText t) :
    CalmText (s ++ d :: t) := by
  rw [CalmText, hs.ofText_append (List.mem_cons_of_mem _ hd), List.forall_mem_append]
  exact ⟨hs, ht.cons_delimiter hd⟩

/-- What stands between two calm texts so that they are calm together. -/
def Separates (t : List Char) : Prop :=
  ∀ s s', CalmText s → CalmText s' → CalmText (s ++ t ++ s')

lemma separates_of_mem (hd : d ∈ delimiters) : Separates [d] := by
  intro s s' hs hs'
  rw [List.append_assoc]
  exact hs.join hd hs'

lemma Separates.append (hs : Separates s) (hbody : CalmText body) (ht : Separates t) :
    Separates (s ++ body ++ t) := by
  intro r r' hr hr'
  have hall := ht _ _ (hs _ _ hr hbody) hr'
  simpa only [List.append_assoc] using hall

/-- A closed quoted region is calm, whatever it holds. -/
lemma calmText_quoted (hquote : isQuote quote = true) (hbody : Doubled quote body) :
    CalmText (quote :: body ++ [quote]) := by
  have hall : ofText (quote :: body ++ [quote]) = [quoted quote body true] := by
    refine ofText_eq_iff.mpr ⟨?_, ⟨hquote, hbody, ?_⟩, trivial⟩
    · simp [text]
    · simp
  rw [CalmText, hall, List.forall_mem_singleton]
  rfl

end Lexeme

/-! ### No block is opened -/

/-- What comes first behind some lexemes is one of them, or what comes first in the rest. -/
lemma Upcoming.mem_of_ofLexemes_append {ls tail : List Lexeme} {w : String}
    (h : ofLexemes (ls ++ tail) = .word w) :
    (∃ l ∈ ls, l.capitals? = some w) ∨ ofLexemes tail = .word w := by
  induction ls with
  | nil => exact Or.inr h
  | cons l ls ih =>
    cases l with
    | lineBreak | blank c =>
      refine (ih h).imp_left ?_
      rintro ⟨k, hk, hw⟩
      exact ⟨k, List.mem_cons_of_mem _ hk, hw⟩
    | word letters =>
      have hw : capitals letters = w := Upcoming.word.inj h
      exact Or.inl ⟨_, List.mem_cons_self, congrArg some hw⟩
    | _ => cases h

/-- Without an opening word, no block is opened. -/
lemma Block.step_nil {word : String} {before : Option String} {after : Upcoming}
    (hword : word ∉ openingWords) (hafter : after ≠ .word "TRANSACTION") :
    Block.step word before after [] = [] := by
  have hbegin : word ≠ "BEGIN" := fun h => hword (by simp [h, openingWords])
  have hcase : word ≠ "CASE" := fun h => hword (by simp [h, openingWords])
  unfold step
  rw [if_neg hbegin, if_neg hafter, if_neg hcase]
  cases after <;> simp

namespace Scan

variable {s : Scan} {l : Lexeme} {ls tail rest : List Lexeme}

/-- Step lemma: a calm lexeme opens no block. -/
lemma blocks_step_of_isCalm (hl : l.isCalm = true) (hblocks : s.blocks = [])
    (hrest : Upcoming.ofLexemes rest ≠ .word "TRANSACTION") : (s.step l rest).blocks = [] := by
  cases l with
  | word letters =>
    have hword : capitals letters ∉ openingWords := by simpa [isCalm] using hl
    have hstep : Block.step _ s.lastWord _ [] = [] := Block.step_nil hword hrest
    simp [step, blocksAfter, hblocks, hstep]
  | _ => exact hblocks

/-- Run lemma: no block is open behind calm lexemes. -/
lemma blocks_after_of_isCalm (hls : ∀ l ∈ ls, l.isCalm = true) (hblocks : s.blocks = [])
    (htail : Upcoming.ofLexemes tail ≠ .word "TRANSACTION") : (s.after tail ls).blocks = [] := by
  induction ls generalizing s with
  | nil => exact hblocks
  | cons l ls ih =>
    rw [List.forall_mem_cons] at hls
    refine ih hls.2 (blocks_step_of_isCalm hls.1 hblocks fun hnext => ?_)
    rcases Upcoming.mem_of_ofLexemes_append hnext with ⟨k, hk, hword⟩ | hword
    · have hcalm := hls.2 k hk
      cases k with
      | word letters =>
        have htransaction : capitals letters = "TRANSACTION" := Option.some.inj hword
        rw [isCalm, htransaction] at hcalm
        exact absurd hcalm (by decide)
      | _ => cases hword
    · exact htail hword

end Scan

/-- A calm text is terminated. -/
theorem Script.isTerminated_of_calmText {sql : String} (h : CalmText sql.toList) :
    IsTerminated sql := by
  have hsemi : ofText [';'] = [semicolon] := by decide
  refine ⟨ofText sql.toList, ?_, fun l hl hgap => ?_, Scan.uncut_of_not_mem fun hmem => ?_, ?_⟩
  · rw [String.toList_append, ← hsemi]
    exact h.ofText_append List.mem_cons_self
  · have hcalm := h l hl
    cases l with
    | blank c => exact ⟨c, rfl⟩
    | _ => simp_all [isGap, isCalm]
  · simpa [isCalm] using h _ hmem
  · exact Scan.blocks_after_of_isCalm h rfl (by rintro ⟨⟩)

end SqlWorkbench
