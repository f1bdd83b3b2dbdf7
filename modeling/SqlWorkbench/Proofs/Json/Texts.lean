import Mathlib.Tactic.Common
import SqlWorkbench.Json.Printer
import SqlWorkbench.Json.Reader

/-!
# Texts of structured data are read back

A text is written with escapes for the quote, the backslash and the control characters. Main
statement: it is read back as what was written, whatever its characters.
-/

namespace SqlWorkbench.Json

variable {c : Char} {rest : List Char}

/-! ### Escapes -/

/-- The four digits of a control character are read back as its code point. -/
lemma readHex?_lastDigits (hc : c.toNat < 32) :
    readHex? (Hexadecimal.lastDigits 4 c.toNat ++ rest) = some (c.toNat, rest) := by
  have hdigits : ∀ n : Fin 32,
      Hexadecimal.natOf? (Hexadecimal.lastDigits 4 n) = some n.val := by decide
  have hlength : (Hexadecimal.lastDigits 4 c.toNat).length = 4 :=
    Hexadecimal.length_lastDigits 4 c.toNat
  rw [readHex?, List.take_left' hlength, List.drop_left' hlength, hlength,
    if_neg (Nat.lt_irrefl 4), hdigits ⟨c.toNat, hc⟩]
  rfl

/-- The escape of a control character without a short one is read back. -/
lemma readEscape?_control (hc : c.toNat < 32) :
    readEscape? ('u' :: (Hexadecimal.lastDigits 4 c.toNat ++ rest)) = some (c, rest) := by
  have hlow : ¬ (0xDC00 ≤ c.toNat ∧ c.toNat ≤ 0xDFFF) := by omega
  have hhigh : ¬ (0xD800 ≤ c.toNat ∧ c.toNat ≤ 0xDBFF) := by omega
  rw [readEscape?, readHex?_lastDigits hc]
  simp [hlow, hhigh]

lemma break_not_mem_lastDigits (width n : Nat) : '\n' ∉ Hexadecimal.lastDigits width n := by
  have hdigit : ∀ n : Fin 16, Nat.digitChar n ≠ '\n' := by decide
  simp only [Hexadecimal.lastDigits, List.mem_map, not_exists, not_and]
  exact fun place _ => hdigit ⟨n / 16 ^ place % 16, Nat.mod_lt _ (by decide)⟩

/-- A character is written as itself or behind a backslash, and read back in both cases. -/
lemma escapedChar_cases (c : Char) :
    (escapedChar c = [c] ∧ c ≠ '"' ∧ c ≠ '\\' ∧ ¬ c.toNat < 32) ∨
      ∃ escape, escapedChar c = '\\' :: escape ∧ '\n' ∉ escape ∧
        ∀ rest, readEscape? (escape ++ rest) = some (c, rest) := by
  by_cases hshort : c ∈ ['"', '\\', '\x08', '\x0C', '\n', '\r', '\t']
  · right
    simp only [List.mem_cons, List.not_mem_nil, or_false] at hshort
    rcases hshort with rfl | rfl | rfl | rfl | rfl | rfl | rfl <;>
      exact ⟨_, rfl, by decide, fun rest => rfl⟩
  · simp only [List.mem_cons, List.not_mem_nil, or_false, not_or] at hshort
    obtain ⟨hquote, hbackslash, hb, hf, hn, hr, ht⟩ := hshort
    by_cases hcontrol : c.toNat < 32
    · right
      refine ⟨'u' :: Hexadecimal.lastDigits 4 c.toNat, ?_, ?_,
        fun rest => readEscape?_control hcontrol⟩
      · simp [escapedChar, hquote, hbackslash, hb, hf, hn, hr, ht, hcontrol]
      · simp [break_not_mem_lastDigits]
    · left
      refine ⟨?_, hquote, hbackslash, hcontrol⟩
      simp [escapedChar, hquote, hbackslash, hb, hf, hn, hr, ht, hcontrol]

/-! ### Texts -/

/-- Step lemma: a written character takes one step. -/
lemma readText?_escapedChar (c : Char) (read rest : List Char) (fuel : Nat) :
    readText? read (fuel + 1) (escapedChar c ++ rest) = readText? (c :: read) fuel rest := by
  rcases escapedChar_cases c with ⟨hchar, hquote, hbackslash, hcontrol⟩ |
      ⟨escape, hchar, -, hread⟩
  · rw [hchar, List.singleton_append, readText?]
    simp [hquote, hbackslash, hcontrol]
  · rw [hchar, List.cons_append, readText?, hread]
    rfl

/-- Run lemma: what is written up to the closing quote is read back. -/
lemma readText?_flatMap (s read rest : List Char) {fuel : Nat} (hfuel : s.length < fuel) :
    readText? read fuel (s.flatMap escapedChar ++ '"' :: rest)
      = some (String.ofList (read.reverse ++ s), rest) := by
  induction s generalizing read fuel with
  | nil =>
    obtain ⟨fuel, rfl⟩ := Nat.exists_eq_succ_of_ne_zero (Nat.ne_of_gt hfuel)
    simp [readText?]
  | cons c s ih =>
    obtain ⟨fuel, rfl⟩ := Nat.exists_eq_succ_of_ne_zero (Nat.ne_of_gt (Nat.zero_lt_of_lt hfuel))
    rw [List.flatMap_cons, List.append_assoc, Nat.succ_eq_add_one, readText?_escapedChar,
      ih (c :: read) (Nat.lt_of_succ_lt_succ hfuel), List.reverse_cons, List.append_assoc,
      List.singleton_append]

lemma length_le_flatMap (s : List Char) : s.length ≤ (s.flatMap escapedChar).length := by
  induction s with
  | nil => simp
  | cons c s ih =>
    have hc : 1 ≤ (escapedChar c).length := by
      rcases escapedChar_cases c with ⟨hchar, -⟩ | ⟨escape, hchar, -⟩ <;> simp [hchar]
    rw [List.flatMap_cons, List.length_append, List.length_cons]
    omega

lemma toList_quotedText (s : String) :
    (quotedText s).toList = '"' :: (s.toList.flatMap escapedChar ++ ['"']) := by
  simp [quotedText]

/-- A text is read back from what is written for it. -/
theorem read?_quotedText (s : String) : read? (quotedText s) = some (.string s) := by
  have hfuel : s.toList.length < (s.toList.flatMap escapedChar ++ ['"']).length + 1 := by
    have := length_le_flatMap s.toList
    rw [List.length_append]
    omega
  have hread := readText?_flatMap s.toList [] [] hfuel
  rw [List.reverse_nil, List.nil_append, String.ofList_toList] at hread
  have hspace (body : List Char) : skipSpace ('"' :: body) = '"' :: body :=
    List.dropWhile_cons_of_neg (by decide)
  have hvalue (fuel : Nat) : readValue? (fuel + 1) 128 (quotedText s).toList
      = some (.string s, []) := by
    rw [toList_quotedText, readValue?, hspace]
    simp only [hread, Option.map_some]
  rw [read?, readRaw?]
  simp only [hvalue]
  rfl

/-- What is written for a text has no line break. -/
lemma break_not_mem_quotedText (s : String) : '\n' ∉ (quotedText s).toList := by
  have hchar (c : Char) : '\n' ∉ escapedChar c := by
    rcases escapedChar_cases c with ⟨hchar, -, -, hcontrol⟩ | ⟨escape, hchar, hbreak, -⟩
    · rw [hchar, List.mem_singleton]
      rintro rfl
      exact hcontrol (by decide)
    · simp [hchar, hbreak]
  simp [toList_quotedText, hchar]

end SqlWorkbench.Json
