import Mathlib.Data.List.TakeWhile
import Mathlib.Tactic.Common
import SqlWorkbench.Text.Blank
import SqlWorkbench.Text.Letter

/-!
# Classes of characters

A blank is no part of a word, neither of one of letters and numbers nor of one of word characters:
the ranges of the blanks meet no range of the two tables.
-/

namespace SqlWorkbench.Text

/-- The ranges of the blanks. -/
def blankRanges : List (Nat × Nat) :=
  [(9, 13), (32, 32), (0x85, 0x85), (0xA0, 0xA0), (0x1680, 0x1680), (0x2000, 0x200A),
    (0x2028, 0x2029), (0x202F, 0x202F), (0x205F, 0x205F), (0x3000, 0x3000)]

lemma inRanges_blankRanges {c : Char} (h : isBlank c = true) : inRanges blankRanges c = true := by
  simp only [isBlank, Bool.or_eq_true, Bool.and_eq_true, decide_eq_true_eq, beq_iff_eq] at h
  simp only [inRanges, blankRanges, List.any_cons, List.any_nil, Bool.or_eq_true,
    Bool.and_eq_true, decide_eq_true_eq]
  rcases h with (((((((((rfl | h) | h) | h) | h) | h) | h) | h) | h) | h) | h
  · simp
  all_goals omega

/-- No range of the one table meets a range of the other. -/
def areDisjoint (ranges others : List (Nat × Nat)) : Bool :=
  ranges.all fun r => others.all fun o => Nat.blt r.2 o.1 || Nat.blt o.2 r.1

lemma inRanges_eq_false_of_areDisjoint {ranges others : List (Nat × Nat)} {c : Char}
    (hd : areDisjoint ranges others = true) (hc : inRanges others c = true) :
    inRanges ranges c = false := by
  simp only [areDisjoint, List.all_eq_true, Bool.or_eq_true, Nat.blt_eq] at hd
  simp only [inRanges, List.any_eq_true, Bool.and_eq_true, decide_eq_true_eq] at hc
  obtain ⟨o, ho, hlo, hhi⟩ := hc
  rw [inRanges, List.any_eq_false]
  intro r hr hin
  simp only [Bool.and_eq_true, decide_eq_true_eq] at hin
  have := hd r hr o ho
  omega

lemma areDisjoint_blankRanges :
    areDisjoint alphanumericRanges blankRanges = true ∧
      areDisjoint wordRanges blankRanges = true := by
  decide +kernel

/-- What holds of all codes below 128 holds of ASCII. -/
lemma forall_of_codes {P : Char → Prop} (h : ∀ n < 128, P (Char.ofNat n)) {c : Char}
    (hc : c.toNat < 128) : P c := by
  simpa only [Char.ofNat_toNat] using h c.toNat hc

/-- The blanks of ASCII, written out for the classes that decide ASCII without tables. -/
lemma isAsciiAlphanumeric_of_isBlank {c : Char} (h : isBlank c = true) (hc : c.toNat < 128) :
    isAsciiAlphanumeric c = false ∧ c ≠ '_' :=
  forall_of_codes
    (P := fun c => isBlank c = true → isAsciiAlphanumeric c = false ∧ c ≠ '_') (by decide) hc h

lemma isAlphanumeric_of_isBlank {c : Char} (h : isBlank c = true) : isAlphanumeric c = false := by
  rw [isAlphanumeric]
  split
  · next hc => exact (isAsciiAlphanumeric_of_isBlank h hc).1
  · exact inRanges_eq_false_of_areDisjoint areDisjoint_blankRanges.1 (inRanges_blankRanges h)

lemma isWordChar_of_isBlank {c : Char} (h : isBlank c = true) : isWordChar c = false := by
  rw [isWordChar]
  split
  · next hc =>
    obtain ⟨ha, hu⟩ := isAsciiAlphanumeric_of_isBlank h hc
    simp [ha, hu]
  · exact inRanges_eq_false_of_areDisjoint areDisjoint_blankRanges.2 (inRanges_blankRanges h)

/-! ### Letters and digits of ASCII -/

lemma toNat_lt_of_isAsciiAlphanumeric {c : Char} (h : isAsciiAlphanumeric c = true) :
    c.toNat < 128 := by
  rw [isAsciiAlphanumeric] at h
  delta Char.isAlpha at h
  delta Char.isUpper Char.isLower Char.isDigit at h
  simp [UInt32.le_iff_toNat_le] at h
  omega

lemma isAlphanumeric_of_isAsciiAlphanumeric {c : Char} (h : isAsciiAlphanumeric c = true) :
    isAlphanumeric c = true := by
  rw [isAlphanumeric, if_pos (toNat_lt_of_isAsciiAlphanumeric h), h]

lemma isWordChar_of_isAsciiAlphanumeric {c : Char} (h : isAsciiAlphanumeric c = true) :
    isWordChar c = true := by
  rw [isWordChar, if_pos (toNat_lt_of_isAsciiAlphanumeric h), h, Bool.true_or]

lemma isWordChar_of_isAlpha {c : Char} (hc : c.isAlpha = true) : isWordChar c = true :=
  isWordChar_of_isAsciiAlphanumeric (by rw [isAsciiAlphanumeric, hc, Bool.true_or])

lemma isWordChar_of_isDigit {c : Char} (hc : c.isDigit = true) : isWordChar c = true :=
  isWordChar_of_isAsciiAlphanumeric (by rw [isAsciiAlphanumeric, hc, Bool.or_true])

/-! ### Trimming -/

/-- All characters are blanks. -/
def IsBlanks (s : List Char) : Prop :=
  ∀ c ∈ s, isBlank c = true

@[simp] lemma isBlanks_nil : IsBlanks [] := by simp [IsBlanks]

@[simp] lemma isBlanks_cons {c : Char} {s : List Char} :
    IsBlanks (c :: s) ↔ isBlank c = true ∧ IsBlanks s := by
  simp [IsBlanks]

lemma trimEnd_append_of_isBlanks {s t : List Char} (ht : IsBlanks t) :
    trimEnd (s ++ t) = trimEnd s := by
  have h : ∀ c ∈ t.reverse, isBlank c = true := by
    intro c hc
    exact ht c (List.mem_reverse.mp hc)
  rw [trimEnd, trimEnd, List.reverse_append, List.dropWhile_append_of_pos h]

/-- A text that ends with no blank stays whole. -/
lemma trimEnd_eq_self {s : List Char} (h : ∀ c ∈ s.getLast?, isBlank c = false) :
    trimEnd s = s := by
  rcases List.eq_nil_or_concat s with rfl | ⟨t, c, rfl⟩
  · rfl
  · have hc : isBlank c = false := by simpa using h
    simp [trimEnd, hc]

lemma trimStart_eq_self {s : List Char} (h : ∀ c ∈ s.head?, isBlank c = false) :
    trimStart s = s := by
  cases s with
  | nil => rfl
  | cons c s => simp [trimStart, h c (by simp)]

/-- What is trimmed off the end are blanks. -/
lemma exists_eq_trimEnd_append (s : List Char) : ∃ t, s = trimEnd s ++ t ∧ IsBlanks t := by
  refine ⟨(s.reverse.takeWhile isBlank).reverse, ?_, fun c hc => ?_⟩
  · rw [trimEnd, ← List.reverse_append, List.takeWhile_append_dropWhile, List.reverse_reverse]
  · exact List.mem_takeWhile_imp (List.mem_reverse.mp hc)

end SqlWorkbench.Text
