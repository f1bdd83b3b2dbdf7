import Mathlib.Tactic.Common
import SqlWorkbench.Proofs.Codegen.NameWords
import SqlWorkbench.Proofs.Text.CharacterClasses

/-!
# Characters of generated names

A name in generated code is put together from letters and numbers in another case, from digits and
from underscores. Case mappings lead from letters beyond ASCII back into it only to letters, so that
no name has a mark of punctuation of ASCII other than the underscore.
-/

namespace SqlWorkbench

namespace Naming

/-- A character that a name may have: in ASCII a letter, a digit, the underscore or the dollar, and
beyond ASCII any. -/
def isNameChar (c : Char) : Bool :=
  128 ≤ c.toNat || isIdentifierPart c

variable {c d : Char} {name : String}

lemma isNameChar_of_isIdentifierPart (h : isIdentifierPart c = true) : isNameChar c = true := by
  rw [isNameChar, h, Bool.or_true]

lemma isNameChar_of_isWordChar (h : Text.isWordChar c = true) : isNameChar c = true := by
  apply isNameChar_of_isIdentifierPart
  rw [isIdentifierPart, h, Bool.true_or]

lemma isNameChar_of_isAlphanumeric (h : Text.isAlphanumeric c = true) : isNameChar c = true := by
  by_cases hc : c.toNat < 128
  · apply isNameChar_of_isWordChar
    rw [Text.isWordChar_of_isAscii hc, h, Bool.true_or]
  · rw [isNameChar, decide_eq_true (Nat.le_of_not_lt hc), Bool.true_or]

lemma isNameChar_ofNat {n : Nat} (hn : 128 ≤ n) (hvalid : n.isValidChar) :
    isNameChar (Char.ofNat n) = true := by
  have htoNat : (Char.ofNat n).toNat = n := by
    rw [Char.ofNat, dif_pos hvalid]
    rfl
  rw [isNameChar, htoNat, decide_eq_true hn, Bool.true_or]

/-! ### Case mappings -/

/-- From one character to one beyond ASCII or to a letter, and in a run only beyond ASCII, with no
surrogate on the way. -/
def keepsNames (expansions : List (Nat × List Nat)) (runs : List (Nat × Nat × Nat × Nat)) : Bool :=
  (expansions.all fun e => e.2.all fun n => isNameChar (Char.ofNat n)) &&
    runs.all fun r =>
      r.1 == r.2.1 && isNameChar (Char.ofNat r.2.2.2) ||
        128 ≤ r.2.2.2 && r.2.2.2 + (r.2.1 - r.1) < 0xD800 ||
        0xDFFF < r.2.2.2 && r.2.2.2 + (r.2.1 - r.1) < 0x110000

lemma keepsNames_upper : keepsNames Text.upperExpansions Text.upperRuns = true := by
  decide +kernel

lemma keepsNames_lower : keepsNames Text.lowerExpansions Text.lowerRuns = true := by
  decide +kernel

lemma isNameChar_of_image? {runs : List (Nat × Nat × Nat × Nat)} {n m : Nat}
    (hruns : keepsNames [] runs = true) (h : Text.image? runs n = some m) :
    isNameChar (Char.ofNat m) = true := by
  obtain ⟨r, hfind, rfl⟩ := Option.map_eq_some_iff.mp h
  have hr := List.mem_of_find?_eq_some hfind
  have hin := List.find?_some hfind
  simp only [keepsNames, List.all_nil, Bool.true_and, List.all_eq_true, Bool.or_eq_true,
    Bool.and_eq_true, beq_iff_eq, decide_eq_true_eq] at hruns hin
  obtain ⟨⟨hfirst, hlast⟩, -⟩ := hin
  rcases hruns r hr with (⟨hsingle, hname⟩ | ⟨hlow, hhigh⟩) | ⟨hlow, hhigh⟩
  · have hsame : n - r.1 = 0 := by omega
    rwa [hsame, Nat.add_zero]
  · exact isNameChar_ofNat (by omega) (.inl (by omega))
  · exact isNameChar_ofNat (by omega) (.inr ⟨by omega, by omega⟩)

lemma isNameChar_of_mem_caseImage {expansions : List (Nat × List Nat)}
    {runs : List (Nat × Nat × Nat × Nat)} (h : keepsNames expansions runs = true)
    (hc : isNameChar c = true) (hd : d ∈ Text.caseImage expansions runs c) :
    isNameChar d = true := by
  have hparts := h
  rw [keepsNames, Bool.and_eq_true] at hparts
  rw [Text.caseImage] at hd
  split at hd
  · next ns hns =>
    obtain ⟨n, hn, rfl⟩ := List.mem_map.mp hd
    obtain ⟨before, after, hsplit, -⟩ := List.lookup_eq_some_iff.mp hns
    have hmem : (c.toNat, ns) ∈ expansions := by simp [hsplit]
    exact List.all_eq_true.mp (List.all_eq_true.mp hparts.1 _ hmem) n hn
  · split at hd
    · next m hm =>
      rw [List.mem_singleton.mp hd]
      exact isNameChar_of_image? (by rw [keepsNames, List.all_nil, Bool.true_and, hparts.2]) hm
    · rwa [List.mem_singleton.mp hd]

/-- The case of a character of ASCII, one by one. -/
lemma isNameChar_toUpper_toLower (hc : isNameChar c = true) (hascii : c.toNat < 128) :
    isNameChar c.toUpper = true ∧ isNameChar c.toLower = true :=
  Text.forall_of_codes (P := fun c => isNameChar c = true →
    isNameChar c.toUpper = true ∧ isNameChar c.toLower = true) (by decide) hascii hc

lemma isNameChar_of_mem_upperChars (hc : isNameChar c = true) (hd : d ∈ Text.upperChars c) :
    isNameChar d = true := by
  rw [Text.upperChars] at hd
  split at hd
  · next hascii =>
    rw [List.mem_singleton.mp hd]
    exact (isNameChar_toUpper_toLower hc hascii).1
  · exact isNameChar_of_mem_caseImage keepsNames_upper hc hd

lemma isNameChar_of_mem_lowerChars (hc : isNameChar c = true) (hd : d ∈ Text.lowerChars c) :
    isNameChar d = true := by
  rw [Text.lowerChars] at hd
  split at hd
  · next hascii =>
    rw [List.mem_singleton.mp hd]
    exact (isNameChar_toUpper_toLower hc hascii).2
  · exact isNameChar_of_mem_caseImage keepsNames_lower hc hd

/-- No character is lost in another case. -/
lemma caseImage_ne_nil {expansions : List (Nat × List Nat)} {runs : List (Nat × Nat × Nat × Nat)}
    (h : ∀ e ∈ expansions, e.2 ≠ []) (c : Char) : Text.caseImage expansions runs c ≠ [] := by
  rw [Text.caseImage]
  split
  · next ns hns =>
    obtain ⟨before, after, hsplit, -⟩ := List.lookup_eq_some_iff.mp hns
    simpa using h (c.toNat, ns) (by simp [hsplit])
  · split <;> exact List.cons_ne_nil _ _

lemma upperChars_ne_nil (c : Char) : Text.upperChars c ≠ [] := by
  have hexpansions : ∀ e ∈ Text.upperExpansions, e.2 ≠ [] := by decide +kernel
  rw [Text.upperChars]
  split
  · exact List.cons_ne_nil _ _
  · exact caseImage_ne_nil hexpansions c

lemma lowerChars_ne_nil (c : Char) : Text.lowerChars c ≠ [] := by
  have hexpansions : ∀ e ∈ Text.lowerExpansions, e.2 ≠ [] := by decide
  rw [Text.lowerChars]
  split
  · exact List.cons_ne_nil _ _
  · exact caseImage_ne_nil hexpansions c

/-- The characters of the class are in it in any case. A capital sigma has two lower cases, of which
one stands at the end of a word only. -/
structure ClosedUnderCase (P : Char → Prop) : Prop where
  upper : ∀ c, P c → ∀ d ∈ Text.upperChars c, P d
  lower : ∀ c, P c → ∀ d ∈ Text.lowerChars c, P d
  sigma : P '\u03A3' → P '\u03C2' ∧ P '\u03C3'

lemma closedUnderCase_isNameChar : ClosedUnderCase fun c => isNameChar c = true where
  upper _ hc _ hd := isNameChar_of_mem_upperChars hc hd
  lower _ hc _ hd := isNameChar_of_mem_lowerChars hc hd
  sigma _ := by decide

variable {P : Char → Prop} {s : List Char}

lemma ClosedUnderCase.toLowerAfter (h : ClosedUnderCase P) (hs : ∀ c ∈ s, P c)
    (before : List Char) : ∀ c ∈ Text.toLowerAfter before s, P c := by
  induction s generalizing before with
  | nil => exact hs
  | cons c rest ih =>
    obtain ⟨hc, hrest⟩ := List.forall_mem_cons.mp hs
    intro d hd
    rcases List.mem_append.mp hd with hd | hd
    · split at hd
      · next hsigma =>
        obtain ⟨hlast, hinner⟩ := h.sigma (eq_of_beq hsigma ▸ hc)
        split at hd <;> rwa [List.mem_singleton.mp hd]
      · exact h.lower c hc d hd
    · exact ih hrest _ d hd

lemma ClosedUnderCase.capitalized (h : ClosedUnderCase P) (hs : ∀ c ∈ s, P c) :
    ∀ c ∈ capitalized s, P c := by
  cases s with
  | nil => exact hs
  | cons c rest =>
    obtain ⟨hc, hrest⟩ := List.forall_mem_cons.mp hs
    intro d hd
    rcases List.mem_append.mp hd with hd | hd
    · exact h.upper c hc d hd
    · obtain ⟨b, hb, hd⟩ := List.mem_flatMap.mp hd
      exact h.lower b (hrest b hb) d hd

/-! ### Words in the case of types and of values -/

/-- The words of a name, each with a capital. -/
def pascalText (name : String) : List Char :=
  (words name.toList).flatMap capitalized

/-- The words of a name, each with a capital but the first. -/
def camelText (name : String) : List Char :=
  match words name.toList with
  | [] => []
  | first :: rest => Text.toLower first ++ rest.flatMap capitalized

lemma pascalCase_eq (name : String) : pascalCase name =
    if (pascalText name).isEmpty then "Table" else String.ofList (guardDigit (pascalText name)) :=
  rfl

lemma camelCase_eq (name : String) : camelCase name =
    if (camelText name).isEmpty then sanitized name
    else String.ofList (guardDigit (camelText name)) :=
  rfl

lemma ClosedUnderCase.pascalText (h : ClosedUnderCase P)
    (hname : ∀ c ∈ name.toList, Text.isAlphanumeric c = true → P c) :
    ∀ c ∈ pascalText name, P c := by
  intro c hc
  obtain ⟨w, hw, hc⟩ := List.mem_flatMap.mp hc
  refine h.capitalized (fun d hd => ?_) c hc
  obtain ⟨hd, halphanumeric⟩ := mem_of_mem_words hw hd
  exact hname d hd halphanumeric

lemma ClosedUnderCase.camelText (h : ClosedUnderCase P)
    (hname : ∀ c ∈ name.toList, Text.isAlphanumeric c = true → P c) :
    ∀ c ∈ camelText name, P c := by
  have hwords : ∀ w ∈ words name.toList, ∀ c ∈ w, P c := by
    intro w hw c hc
    obtain ⟨hc, halphanumeric⟩ := mem_of_mem_words hw hc
    exact hname c hc halphanumeric
  rw [Naming.camelText]
  split
  · simp
  · next first rest hsplit =>
    rw [hsplit] at hwords
    obtain ⟨hfirst, hrest⟩ := List.forall_mem_cons.mp hwords
    intro c hc
    rcases List.mem_append.mp hc with hc | hc
    · exact h.toLowerAfter hfirst [] c hc
    · obtain ⟨w, hw, hc⟩ := List.mem_flatMap.mp hc
      exact h.capitalized (hrest w hw) c hc

/-! ### Names -/

/-- All characters are of names. -/
def IsNameText (s : List Char) : Prop :=
  ∀ c ∈ s, isNameChar c = true

lemma IsNameText.guardDigit (hs : IsNameText s) : IsNameText (guardDigit s) := by
  cases s with
  | nil => exact hs
  | cons c rest =>
    rw [Naming.guardDigit]
    split
    · exact List.forall_mem_cons.mpr ⟨by decide, hs⟩
    · exact hs

lemma isNameText_sanitized (name : String) : IsNameText (sanitized name).toList := by
  intro c hc
  simp only [sanitized, String.toList_ofList, List.mem_map] at hc
  obtain ⟨d, -, rfl⟩ := hc
  split
  · next hd => exact isNameChar_of_isWordChar hd
  · decide

/-- Names of values have only characters of names. -/
lemma isNameText_camelCase (name : String) : IsNameText (camelCase name).toList := by
  have hcamel : IsNameText (camelText name) :=
    closedUnderCase_isNameChar.camelText fun _ _ => isNameChar_of_isAlphanumeric
  rw [camelCase_eq]
  split
  · exact isNameText_sanitized name
  · rw [String.toList_ofList]
    exact hcamel.guardDigit

lemma guardDigit_ne_nil (hs : s ≠ []) : guardDigit s ≠ [] := by
  cases s with
  | nil => exact absurd rfl hs
  | cons c rest =>
    rw [guardDigit]
    split <;> exact List.cons_ne_nil _ _

lemma pascalCase_ne_empty (name : String) : pascalCase name ≠ "" := by
  rw [pascalCase]
  split
  · decide
  · next h =>
    rw [ne_eq, ← String.toList_eq_nil_iff, String.toList_ofList]
    exact guardDigit_ne_nil (by simpa using h)

lemma camelCase_ne_empty (hname : name ≠ "") : camelCase name ≠ "" := by
  rw [ne_eq, ← String.toList_eq_nil_iff] at hname ⊢
  rw [camelCase_eq]
  split
  · simpa [sanitized] using hname
  · next h =>
    rw [String.toList_ofList]
    exact guardDigit_ne_nil (by simpa using h)

/-- A name that can stand for something: characters of names, and at least one. -/
def IsName (name : String) : Prop :=
  name ≠ "" ∧ IsNameText name.toList

lemma isName_tableVariable (table : String) : IsName (tableVariable table) :=
  ⟨camelCase_ne_empty (pascalCase_ne_empty table), isNameText_camelCase _⟩

lemma isNameChar_of_isIdentifierStart (h : isIdentifierStart c = true) : isNameChar c = true := by
  simp only [isIdentifierStart, Bool.or_eq_true, beq_iff_eq] at h
  rcases h with (h | rfl) | rfl
  · exact isNameChar_of_isWordChar (Text.isWordChar_of_isAlpha h)
  · decide
  · decide

lemma isName_of_isBare (h : isBare name = true) : IsName name := by
  rw [isBare] at h
  split at h
  · next c rest hchars =>
    rw [Bool.and_eq_true, List.all_eq_true] at h
    rw [IsName, ne_eq, ← String.toList_eq_nil_iff, hchars]
    exact ⟨List.cons_ne_nil c rest, List.forall_mem_cons.mpr ⟨isNameChar_of_isIdentifierStart h.1,
      fun d hd => isNameChar_of_isIdentifierPart (h.2 d hd)⟩⟩
  · cases h

end Naming

end SqlWorkbench
