import Mathlib.Tactic.Common
import SqlWorkbench.Proofs.Script.SingleStatement

/-!
# Inert texts

Nothing in an inert text is opened and left open, ended or commented: it is made of plain
characters, of hyphens and dollar signs with a character behind them that makes them no marks, and
of closed quoted regions. Inert texts one after the other are inert, also where a quoted region
stands right behind another and the two are read as one. Main statement: an inert text that is not
blank is a script of one group with one statement, the text without the blanks around it.
-/

namespace SqlWorkbench

open Text

namespace Lexeme

variable {afterWord : Bool} {c quote : Char} {s t rest left body body' : List Char} {l : Lexeme}

/-! ### Putting inert texts together -/

/-- The characters that open or end something, alone or with others. -/
def marks : List Char :=
  ['\n', ';', '-', '/', '$', '\x27', '"', '\x60']

/-- A text of plain characters, of hyphens and dollar signs that open nothing, and of closed quoted
regions. -/
inductive Inert : List Char → Prop where
  | nil : Inert []
  | plain {c : Char} {s : List Char} (hc : c ∉ marks) (hs : Inert s) : Inert (c :: s)
  | hyphen {c : Char} {s : List Char} (hc : c ∉ marks) (hs : Inert s) : Inert ('-' :: c :: s)
  | dollar {c : Char} {s : List Char} (hc : c ∉ marks) (hstart : isTagStart c = false)
    (hs : Inert s) : Inert ('$' :: c :: s)
  | quoted {quote : Char} {body s : List Char} (hquote : isQuote quote = true)
    (hbody : Doubled quote body) (hs : Inert s) : Inert (quote :: body ++ quote :: s)

lemma Inert.append (hs : Inert s) (ht : Inert t) : Inert (s ++ t) := by
  induction hs with
  | nil => exact ht
  | plain hc _ ih => exact .plain hc ih
  | hyphen hc _ ih => exact .hyphen hc ih
  | dollar hc hstart _ ih => exact .dollar hc hstart ih
  | quoted hquote hbody _ ih =>
    rw [List.append_assoc, List.cons_append]
    exact .quoted hquote hbody ih

lemma inert_of_forall_not_mem (h : ∀ c ∈ s, c ∉ marks) : Inert s := by
  induction s with
  | nil => exact .nil
  | cons c s ih =>
    rw [List.forall_mem_cons] at h
    exact .plain h.1 (ih h.2)

/-- A text without marks, checked character by character. -/
lemma inert_of_all (h : s.all (fun c => c ∉ marks) = true) : Inert s :=
  inert_of_forall_not_mem (by simpa using h)

lemma inert_hyphen_cons (hne : s ≠ []) (h : ∀ c ∈ s, c ∉ marks) : Inert ('-' :: s) := by
  obtain ⟨c, s, rfl⟩ := List.exists_cons_of_ne_nil hne
  rw [List.forall_mem_cons] at h
  exact .hyphen h.1 (inert_of_forall_not_mem h.2)

/-! ### What is cut off an inert text -/

lemma mem_marks_of_isQuote (h : isQuote quote = true) : quote ∈ marks := by
  have hmem := mem_of_isQuote h
  simp only [List.mem_cons, List.not_mem_nil, or_false] at hmem
  rcases hmem with rfl | rfl | rfl <;> decide

/-- A quoted region goes on to the end of the last region that stands right behind it. -/
lemma Doubled.append_pair (hbody : Doubled quote body) (hbody' : Doubled quote body') :
    Doubled quote (body ++ quote :: quote :: body') := by
  induction hbody with
  | nil => exact .pair hbody'
  | other hc _ ih => exact .other hc ih
  | pair _ ih => exact .pair ih

lemma Inert.exists_region (hs : Inert s) (hquote : isQuote quote = true)
    (hbody : Doubled quote body) : ∃ region left, body ++ quote :: s = region ++ quote :: left ∧
      Doubled quote region ∧ left.head? ≠ some quote ∧ Inert left := by
  induction hs generalizing body with
  | nil => exact ⟨body, [], rfl, hbody, by simp, .nil⟩
  | plain hc hs =>
    refine ⟨body, _, rfl, hbody, ?_, .plain hc hs⟩
    rintro ⟨⟩
    exact hc (mem_marks_of_isQuote hquote)
  | hyphen hc hs =>
    refine ⟨body, _, rfl, hbody, ?_, .hyphen hc hs⟩
    rintro ⟨⟩
    simp [isQuote] at hquote
  | dollar hc hstart hs =>
    refine ⟨body, _, rfl, hbody, ?_, .dollar hc hstart hs⟩
    rintro ⟨⟩
    simp [isQuote] at hquote
  | @quoted quote' body' s hquote' hbody' hs ih =>
    by_cases hsame : quote' = quote
    · -- The two regions are one: the opening quote of the second doubles the closing one.
      subst hsame
      obtain ⟨region, left, htext, hregion⟩ := ih (hbody.append_pair hbody')
      exact ⟨region, left, by simpa using htext, hregion⟩
    · exact ⟨body, _, rfl, hbody, by simpa using hsame, .quoted hquote' hbody' hs⟩

lemma Inert.dropWhile_isWordPart (hs : Inert s) : Inert (s.dropWhile isWordPart) := by
  induction hs with
  | nil => exact .nil
  | @plain c s hc hs ih =>
    rw [List.dropWhile_cons]
    split
    · exact ih
    · exact .plain hc hs
  | hyphen hc hs =>
    rw [List.dropWhile_cons_of_neg (by simp [isWordPart_eq_false_of_mem])]
    exact .hyphen hc hs
  | dollar hc hstart hs =>
    rw [List.dropWhile_cons_of_neg (by simp [isWordPart_eq_false_of_mem])]
    exact .dollar hc hstart hs
  | quoted hquote hbody hs =>
    have hmem := mem_of_isQuote hquote
    rw [List.cons_append, List.dropWhile_cons_of_neg]
    · exact .quoted hquote hbody hs
    · rw [isWordPart_eq_false_of_mem (by simp at hmem ⊢; tauto)]
      simp

/-- A lexeme that ends nothing and hides nothing: no terminator, no line break and no comment. -/
def IsQuiet (l : Lexeme) : Prop :=
  l ≠ semicolon ∧ (l.isGap = true → ∃ c, l = blank c)

lemma isQuiet_blank : (blank c).IsQuiet := ⟨by simp, fun _ => ⟨c, rfl⟩⟩

lemma isQuiet_of_not_isGap (hsemi : l ≠ semicolon) (hgap : l.isGap = false) : l.IsQuiet := by
  refine ⟨hsemi, fun h => ?_⟩
  rw [hgap] at h
  exact absurd h (by simp)

lemma isQuiet_symbol : (symbol c).IsQuiet := isQuiet_of_not_isGap (by simp) rfl

lemma isSymbol_of_mem (h : c ∈ ['-', '$']) : IsSymbol c := by
  simp only [List.mem_cons, List.not_mem_nil, or_false] at h
  rcases h with rfl | rfl
  all_goals
    refine ⟨by decide, by decide, by decide, ?_, ?_⟩
    · exact isWordPart_eq_false_of_mem (by decide)
    · exact isBlank_eq_false_of_mem (by decide)

/-- An inert text begins with a quiet lexeme, and what follows that is inert. -/
lemma Inert.exists_fits (hs : Inert s) (hne : s ≠ []) (afterWord : Bool) :
    ∃ (l : Lexeme) (left : List Char),
      s = l.text ++ left ∧ l.Fits afterWord left ∧ l.IsQuiet ∧ Inert left := by
  cases hs with
  | nil => exact absurd rfl hne
  | @plain c s hc hs =>
    obtain ⟨hbreak, hsemi, hhyphen, hslash, hdollar, hquote⟩ : c ≠ '\n' ∧ c ≠ ';' ∧ c ≠ '-' ∧
        c ≠ '/' ∧ c ≠ '$' ∧ isQuote c = false := by
      simpa [marks, isQuote, and_assoc] using hc
    cases hword : isWordPart c with
    | true =>
      refine ⟨.word (c :: s.takeWhile isWordPart), s.dropWhile isWordPart, by simp [text], ?_,
        isQuiet_of_not_isGap (by simp) rfl, hs.dropWhile_isWordPart⟩
      refine ⟨by simp, ?_, fun d hd => eq_false_of_mem_head?_dropWhile hd⟩
      rw [List.forall_mem_cons]
      exact ⟨hword, fun d hd => List.mem_takeWhile_imp hd⟩
    | false =>
      cases hblank : isBlank c with
      | true => exact ⟨.blank c, s, rfl, ⟨hblank, hbreak⟩, isQuiet_blank, hs⟩
      | false =>
        refine ⟨.symbol c, s, rfl, ⟨⟨hbreak, hsemi, hquote, hword, hblank⟩, ?_⟩, isQuiet_symbol, hs⟩
        exact ⟨fun h => absurd h hhyphen, fun h => absurd h hslash, fun h => absurd h hdollar⟩
  | @hyphen d s hd hs =>
    refine ⟨.symbol '-', d :: s, rfl, ⟨isSymbol_of_mem (by simp), fun _ => ?_, ?_⟩, isQuiet_symbol,
      .plain hd hs⟩
    · rintro ⟨⟩
      exact hd (by decide)
    · simp
  | @dollar d s hd hstart hs =>
    have hdollar : d ≠ '$' := by
      rintro rfl
      exact hd (by decide)
    refine ⟨.symbol '$', d :: s, rfl, ⟨isSymbol_of_mem (by simp), by simp, by simp, fun _ _ => ?_⟩,
      isQuiet_symbol, .plain hd hs⟩
    apply readTag?_eq_none_iff.mp
    rw [readTag?, hstart, if_neg (by simp)]
    exact hdollar
  | @quoted quote body s hquote hbody hs =>
    obtain ⟨region, left, htext, hregion, hhead, hleft⟩ := hs.exists_region hquote hbody
    refine ⟨.quoted quote region true, left, by simp [text, htext], ⟨hquote, hregion, ?_⟩,
      isQuiet_of_not_isGap (by simp) rfl, hleft⟩
    simpa using hhead

lemma Inert.exists_fitting (hs : Inert s) (afterWord : Bool) :
    ∃ ls, ls.flatMap text = s ∧ Fitting afterWord ls ∧ ∀ l ∈ ls, l.IsQuiet := by
  -- On the length, since a word takes several characters of an inert text at once.
  induction hlength : s.length using Nat.strong_induction_on generalizing s afterWord with
  | _ n ih =>
    rcases eq_or_ne s [] with rfl | hne
    · exact ⟨[], rfl, trivial, by simp⟩
    · obtain ⟨l, left, rfl, hl, hquiet, hleft⟩ := hs.exists_fits hne afterWord
      have hshorter : left.length < n := by
        have := List.length_pos_iff.mpr hl.text_ne_nil
        rw [List.length_append] at hlength
        omega
      obtain ⟨ls, rfl, hfit, hquiets⟩ := ih _ hshorter hleft l.isWord rfl
      exact ⟨l :: ls, rfl, ⟨hl, hfit⟩, List.forall_mem_cons.mpr ⟨hquiet, hquiets⟩⟩

lemma Inert.isQuiet_of_mem_ofText (hs : Inert s) : ∀ l ∈ ofText s, l.IsQuiet := by
  obtain ⟨ls, htext, hfit, hquiet⟩ := hs.exists_fitting false
  rwa [ofText_eq_iff.mpr ⟨htext, hfit⟩]

end Lexeme

namespace Script

open Lexeme

variable {text : String}

lemma trim_ne_nil {c : Char} {s : List Char} (hc : c ∈ s) (hblank : isBlank c = false) :
    trim s ≠ [] := by
  intro htrim
  obtain ⟨blanks, hs, hblanks⟩ := exists_eq_trimEnd_append (trimStart s)
  rw [← trim, htrim, List.nil_append] at hs
  have hall : ∀ d ∈ s, isBlank d = true := by
    rw [← s.takeWhile_append_dropWhile (p := isBlank), List.forall_mem_append]
    refine ⟨fun d hd => List.mem_takeWhile_imp hd, ?_⟩
    rw [← trimStart, hs]
    exact hblanks
  rw [hall c hc] at hblank
  exact absurd hblank (by simp)

/-- An inert text that is not blank is a script of one group with one statement, itself. -/
theorem exists_groups_eq_of_inert (hs : Inert text.toList)
    (hvisible : ∃ c ∈ text.toList, isBlank c = false) :
    ∃ g, groups text = [g] ∧ g.statements = [String.ofList (trim text.toList)] := by
  have hquiet := hs.isQuiet_of_mem_ofText
  apply exists_groups_eq
  apply statements_of_uncut
  · intro l hl
    exact (hquiet l hl).2
  · apply Scan.uncut_of_not_mem
    intro hmem
    exact (hquiet _ hmem).1 rfl
  · obtain ⟨c, hc, hblank⟩ := hvisible
    exact trim_ne_nil hc hblank

end Script

end SqlWorkbench
