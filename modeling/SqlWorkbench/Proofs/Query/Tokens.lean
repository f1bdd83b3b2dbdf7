import Mathlib.Tactic.FinCases
import SqlWorkbench.Datum
import SqlWorkbench.Proofs.Number.Sign
import SqlWorkbench.Proofs.Script.Inert

/-!
# The tokens of PostgreSQL are inert

Names and texts are quoted regions, whatever is in them; numbers are digits with a point and a
hyphen in front; and a placeholder is a dollar sign in front of digits, which begin no dollar tag.
-/

namespace SqlWorkbench

open Text Lexeme

variable {c quote : Char} {s : List Char}

/-! ### Strings -/

lemma inert_append {first second : String} (hfirst : Inert first.toList)
    (hsecond : Inert second.toList) : Inert (first ++ second).toList := by
  rw [String.toList_append]
  exact hfirst.append hsecond

lemma inert_joinWith {separator : String} {pieces : List String}
    (hseparator : Inert separator.toList) (hpieces : ∀ piece ∈ pieces, Inert piece.toList) :
    Inert (joinWith separator pieces).toList := by
  fun_induction joinWith separator pieces with
  | case1 => exact .nil
  | case2 piece => exact hpieces piece (by simp)
  | case3 piece next rest ih =>
    rw [List.forall_mem_cons] at hpieces
    exact inert_append (inert_append hpieces.1 hseparator) (ih hpieces.2)

/-! ### Quoted regions -/

lemma doubled_replaceChar (quote : Char) (s : List Char) :
    Doubled quote (replaceChar quote [quote, quote] s) := by
  induction s with
  | nil => exact .nil
  | cons c s ih =>
    rw [replaceChar_cons]
    split
    · exact .pair ih
    · next hc => exact .other hc ih

lemma inert_quoted (hquote : isQuote quote = true) (s : List Char) :
    Inert (quote :: replaceChar quote [quote, quote] s ++ [quote]) :=
  .quoted hquote (doubled_replaceChar quote s) .nil

namespace Dialect

lemma inert_quoteName (name : String) : Inert (postgres.quoteName name).toList := by
  rw [toList_quoteName]
  exact inert_quoted (by decide) name.toList

lemma inert_quoteText (s : String) : Inert (postgres.quoteText s).toList := by
  have hquote : isQuote '\x27' = true := by decide
  rw [toList_quoteText]
  exact inert_quoted hquote s.toList

lemma inert_quotePath (parts : List String) : Inert (postgres.quotePath parts).toList := by
  apply inert_joinWith
  · exact inert_of_all (by decide)
  · intro piece hpiece
    obtain ⟨name, -, rfl⟩ := List.mem_map.mp hpiece
    exact inert_quoteName name

end Dialect

/-! ### Numbers -/

/-- A character of a number, its sign aside. -/
def isNumeral (c : Char) : Bool :=
  c.isDigit || c == '.'

/-- A number: digits, perhaps with a point among them, and perhaps with a hyphen in front. -/
def IsNumber (s : List Char) : Prop :=
  ∃ body, body ≠ [] ∧ (∀ c ∈ body, isNumeral c = true) ∧ (s = body ∨ s = '-' :: body)

lemma toNat_of_isDigit (hc : c.isDigit = true) : 48 ≤ c.toNat ∧ c.toNat ≤ 57 := by
  delta Char.isDigit at hc
  simp only [Bool.and_eq_true, decide_eq_true_eq, UInt32.le_iff_toNat_le] at hc
  exact hc

lemma isNumeral_of_isDigit (hc : c.isDigit = true) : isNumeral c = true := by
  simp [isNumeral, hc]

lemma not_mem_marks_of_isNumeral (hc : isNumeral c = true) : c ∉ marks := by
  intro hmem
  fin_cases hmem <;> exact absurd hc (by decide)

/-- A number is no comment, whatever its sign. -/
lemma IsNumber.inert (hs : IsNumber s) : Inert s := by
  obtain ⟨body, hne, hbody, hs⟩ := hs
  have hmarks : ∀ c ∈ body, c ∉ marks := fun c hc => not_mem_marks_of_isNumeral (hbody c hc)
  rcases hs with rfl | rfl
  · exact inert_of_forall_not_mem hmarks
  · exact inert_hyphen_cons hne hmarks

/-- A digit begins no dollar tag. -/
lemma isTagStart_of_isDigit (hc : c.isDigit = true) : isTagStart c = false := by
  have hunderscore : c ≠ '_' := by
    rintro rfl
    exact absurd hc (by decide)
  have halpha : c.isAlpha = false := by
    delta Char.isDigit at hc
    delta Char.isAlpha Char.isUpper Char.isLower
    simp [UInt32.le_iff_toNat_le] at hc ⊢
    omega
  simp [isTagStart, halpha, hunderscore]

lemma isDigit_of_mem_toDigits {n : Nat} (hc : c ∈ Nat.toDigits 10 n) : c.isDigit = true :=
  Nat.isDigit_of_mem_toDigits (by omega) le_rfl hc

lemma isNumeral_of_mem_toDigits {n : Nat} (hc : c ∈ Nat.toDigits 10 n) : isNumeral c = true :=
  isNumeral_of_isDigit (isDigit_of_mem_toDigits hc)

lemma toList_toString_nat (n : Nat) : (toString n).toList = Nat.toDigits 10 n := by
  rw [Nat.toString_eq_ofList_toDigits, String.toList_ofList]

lemma toString_nat_injective : Function.Injective fun n : Nat => toString n := by
  intro m n h
  have hdigits : Nat.toDigits 10 m = Nat.toDigits 10 n := by
    simpa only [toList_toString_nat] using congrArg String.toList h
  have hnumber := congrArg (fun digits => Nat.ofDigitChars 10 digits 0) hdigits
  simpa [Nat.ofDigitChars_toDigits] using hnumber

lemma isNumber_toString_nat (n : Nat) : IsNumber (toString n).toList := by
  rw [toList_toString_nat]
  exact ⟨_, Nat.toDigits_ne_nil, fun c => isNumeral_of_mem_toDigits, Or.inl rfl⟩

lemma isNumber_toString_int (i : Int) : IsNumber (toString i).toList := by
  cases i with
  | ofNat n => exact isNumber_toString_nat n
  | negSucc n =>
    have htext : toString (Int.negSucc n) = "-" ++ toString (n + 1) := rfl
    rw [htext, String.toList_append, toList_toString_nat]
    exact ⟨_, Nat.toDigits_ne_nil, fun c => isNumeral_of_mem_toDigits, Or.inr rfl⟩

lemma inert_toString_nat (n : Nat) : Inert (toString n).toList :=
  (isNumber_toString_nat n).inert

/-- No dollar tag begins with a digit. -/
lemma Dialect.inert_placeholder (n : Nat) : Inert (postgres.placeholder n).toList := by
  rw [placeholder, String.toList_append, toList_toString_nat]
  obtain ⟨c, s, hdigits⟩ := List.exists_cons_of_ne_nil (Nat.toDigits_ne_nil (n := n) (b := 10))
  have hdigit : ∀ d ∈ c :: s, d.isDigit = true := by
    rw [← hdigits]
    exact fun d => isDigit_of_mem_toDigits
  have hmarks : ∀ d ∈ c :: s, d ∉ marks := fun d hd =>
    not_mem_marks_of_isNumeral (isNumeral_of_isDigit (hdigit d hd))
  rw [List.forall_mem_cons] at hdigit hmarks
  rw [hdigits]
  exact .dollar hmarks.1 (isTagStart_of_isDigit hdigit.1) (inert_of_forall_not_mem hmarks.2)

namespace NumberLayout

lemma isNumeral_of_mem_zeros {n : Nat} (hc : c ∈ zeros n) : isNumeral c = true := by
  rw [List.eq_of_mem_replicate hc]
  decide

/-- In full a number has digits and a point. -/
lemma isNumeral_of_mem_plain {l : NumberLayout} {digits : List Char} {point : Int}
    (hdigits : ∀ d ∈ digits, isNumeral d = true) (hc : c ∈ l.plain digits point) :
    isNumeral c = true := by
  by_cases hpoint : point ≤ 0
  · simp only [plain, if_pos hpoint, List.cons_append, List.mem_cons, List.mem_append] at hc
    rcases hc with rfl | rfl | hc | hc
    · decide
    · decide
    · exact isNumeral_of_mem_zeros hc
    · exact hdigits c hc
  · by_cases hplaces : digits.length ≤ point.toNat
    · simp only [plain, if_neg hpoint, if_pos hplaces, List.mem_append] at hc
      rcases hc with (hc | hc) | hc
      · exact hdigits c hc
      · exact isNumeral_of_mem_zeros hc
      · have hrest : c ∈ ['.', '0'] := by
          split at hc
          · exact hc
          · cases hc
        fin_cases hrest <;> decide
    · simp only [plain, if_neg hpoint, if_neg hplaces, List.mem_append, List.mem_cons] at hc
      rcases hc with hc | rfl | hc
      · exact hdigits c (List.mem_of_mem_take hc)
      · decide
      · exact hdigits c (List.mem_of_mem_drop hc)

lemma plain_ne_nil (l : NumberLayout) (digits : List Char) (point : Int) :
    l.plain digits point ≠ [] := by
  by_cases hpoint : point ≤ 0
  · simp [plain, hpoint]
  · by_cases hplaces : digits.length ≤ point.toNat
    · simp only [plain, if_neg hpoint, if_pos hplaces]
      cases digits with
      | nil => simp [zeros, hpoint]
      | cons d digits => simp
    · simp [plain, hpoint, hplaces]

lemma isNumeral_of_mem_shortest {x : Double} (hc : c ∈ x.shortest.1) : isNumeral c = true := by
  simp only [Double.shortest, stripZeros, List.mem_reverse] at hc
  have hsub := (List.dropWhile_suffix _).subset hc
  exact isNumeral_of_mem_toDigits (List.mem_reverse.mp hsub)

lemma isNumber_finite (x : Double) : IsNumber (literal.finite x).toList := by
  have hbody : ∃ digits point, (∀ d ∈ digits, isNumeral d = true) ∧ (literal.finite x).toList
      = if x.isNegative then '-' :: literal.plain digits point
        else literal.plain digits point := by
    by_cases hzero : x.isZero = true
    · refine ⟨['0'], 1, by simp [isNumeral], ?_⟩
      simp [finite, hzero]
    · refine ⟨x.shortest.1, x.shortest.2, fun d => isNumeral_of_mem_shortest, ?_⟩
      simp [finite, hzero, isPlain, literal]
  obtain ⟨digits, point, hdigits, htext⟩ := hbody
  refine ⟨literal.plain digits point, plain_ne_nil _ _ _,
    fun c => isNumeral_of_mem_plain hdigits, ?_⟩
  rw [htext]
  split
  · exact Or.inr rfl
  · exact Or.inl rfl

end NumberLayout

/-- A number that is written out as a literal. -/
lemma Double.isNumber_plainText {x : Double} (hx : x.isFinite = true) :
    IsNumber x.plainText.toList := by
  rw [plainText, isNaN_eq_false hx, hx]
  exact NumberLayout.isNumber_finite x

/-! ### Literals -/

namespace Dialect

lemma inert_momentLiteral (s : String) : Inert (postgres.momentLiteral s).toList :=
  inert_quoteText s

/-- Whatever a datum is, its literal opens nothing that it does not close. -/
lemma inert_literal (value : Datum) : Inert (postgres.literal value).toList := by
  cases value with
  | null => exact inert_of_all (by decide)
  | bool b => cases b <;> exact inert_of_all (by decide)
  | int i => exact (isNumber_toString_int i).inert
  | float x =>
    rw [literal]
    split
    · next hx => exact (Double.isNumber_plainText hx).inert
    · exact inert_of_all (by decide)
  | text s =>
    rw [literal]
    split
    · exact inert_momentLiteral s
    · exact inert_quoteText s
  | date t => exact inert_momentLiteral _
  | moment t => exact inert_momentLiteral _
  | json j => exact inert_quoteText _

end Dialect

end SqlWorkbench
