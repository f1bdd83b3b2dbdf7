import SqlWorkbench.Proofs.Codegen.NameCharacters

/-!
# Names that stand without quotes

A table stands in generated code as a variable, which is written without quotes. Its name is the
name of a type that is made into the name of a value: the first puts an underscore in front of a
digit, and the second takes it away with all other marks and puts it there again. Main statement:
out of a name of ASCII, the names of types and of variables are identifiers of letters, digits and
underscores, and so are names of values, unless the name is empty.
-/

namespace SqlWorkbench.Naming

variable {name : String} {c : Char} {s rest : List Char}

/-! ### Plain names -/

/-- All characters are of ASCII. -/
def IsAscii (s : List Char) : Prop :=
  ∀ c ∈ s, c.toNat < 128

/-- A name that stands without quotes: it is not empty, begins with no digit, and has no character
that would end an identifier, since its characters are letters, digits and underscores. -/
structure IsPlain (name : String) : Prop where
  isBare : isBare name = true
  ne_empty : name ≠ ""
  isDigit_head : ∀ c ∈ name.toList.head?, c.isDigit = false
  plain : ∀ c ∈ name.toList, Text.isAsciiAlphanumeric c = true ∨ c = '_'

lemma IsPlain.isAscii (h : IsPlain name) : IsAscii name.toList := by
  intro c hc
  rcases h.plain c hc with hc | rfl
  · exact Text.toNat_lt_of_isAsciiAlphanumeric hc
  · decide

lemma isIdentifierPart_of_plain (hc : Text.isAsciiAlphanumeric c = true ∨ c = '_') :
    isIdentifierPart c = true := by
  rcases hc with hc | rfl
  · rw [isIdentifierPart, Text.isWordChar_of_isAsciiAlphanumeric hc, Bool.true_or]
  · decide

lemma isPlain_ofList (hc : Text.isAsciiAlphanumeric c = true ∨ c = '_') (hdigit : c.isDigit = false)
    (hrest : ∀ d ∈ rest, Text.isAsciiAlphanumeric d = true ∨ d = '_') :
    IsPlain (String.ofList (c :: rest)) := by
  have hstart : isIdentifierStart c = true := by
    rcases hc with hc | rfl
    · rw [Text.isAsciiAlphanumeric, hdigit, Bool.or_false] at hc
      rw [isIdentifierStart, hc, Bool.true_or, Bool.true_or]
    · decide
  constructor
  · rw [isBare, String.toList_ofList, Bool.and_eq_true, List.all_eq_true]
    exact ⟨hstart, fun d hd => isIdentifierPart_of_plain (hrest d hd)⟩
  · rw [ne_eq, ← String.toList_eq_nil_iff, String.toList_ofList]
    exact List.cons_ne_nil c rest
  · simpa using hdigit
  · rw [String.toList_ofList]
    exact List.forall_mem_cons.mpr ⟨hc, hrest⟩

/-- Letters and digits make a plain name, with an underscore in front of a digit. -/
lemma isPlain_guardDigit (hs : ∀ c ∈ s, Text.isAsciiAlphanumeric c = true) (hne : s ≠ []) :
    IsPlain (String.ofList (guardDigit s)) := by
  cases s with
  | nil => exact absurd rfl hne
  | cons c rest =>
    obtain ⟨hc, hrest⟩ := List.forall_mem_cons.mp hs
    rw [guardDigit]
    cases hdigit : c.isDigit with
    | true => exact isPlain_ofList (.inr rfl) rfl fun d hd => .inl (hs d hd)
    | false => exact isPlain_ofList (.inl hc) hdigit fun d hd => .inl (hrest d hd)

/-! ### Names out of words -/

lemma closedUnderCase_isAsciiAlphanumeric :
    ClosedUnderCase fun c => Text.isAsciiAlphanumeric c = true := by
  have hcase (c : Char) (hc : Text.isAsciiAlphanumeric c = true) :
      Text.isAsciiAlphanumeric c.toUpper = true ∧ Text.isAsciiAlphanumeric c.toLower = true :=
    Text.forall_of_codes (P := fun c => Text.isAsciiAlphanumeric c = true →
      Text.isAsciiAlphanumeric c.toUpper = true ∧ Text.isAsciiAlphanumeric c.toLower = true)
      (by decide) (Text.toNat_lt_of_isAsciiAlphanumeric hc) hc
  constructor
  · intro c hc d hd
    rw [Text.upperChars_of_isAscii (Text.toNat_lt_of_isAsciiAlphanumeric hc)] at hd
    rw [List.mem_singleton.mp hd]
    exact (hcase c hc).1
  · intro c hc d hd
    rw [Text.lowerChars_of_isAscii (Text.toNat_lt_of_isAsciiAlphanumeric hc)] at hd
    rw [List.mem_singleton.mp hd]
    exact (hcase c hc).2
  · intro hsigma
    exact absurd hsigma (by decide)

lemma isAsciiAlphanumeric_of_isAscii (hs : IsAscii s) :
    ∀ c ∈ s, Text.isAlphanumeric c = true → Text.isAsciiAlphanumeric c = true := by
  intro c hc halphanumeric
  rwa [Text.isAlphanumeric, if_pos (hs c hc)] at halphanumeric

lemma isPlain_pascalCase (h : IsAscii name.toList) : IsPlain (pascalCase name) := by
  have htext : ∀ c ∈ pascalText name, Text.isAsciiAlphanumeric c = true :=
    closedUnderCase_isAsciiAlphanumeric.pascalText (isAsciiAlphanumeric_of_isAscii h)
  rw [pascalCase_eq]
  split
  · exact isPlain_ofList (c := 'T') (.inl rfl) rfl (by simp [Text.isAsciiAlphanumeric])
  · next hne => exact isPlain_guardDigit htext (by simpa using hne)

/-- No word is lost in small letters. -/
lemma toLower_ne_nil (hs : s ≠ []) : Text.toLower s ≠ [] := by
  cases s with
  | nil => exact absurd rfl hs
  | cons c rest =>
    rw [Text.toLower, Text.toLowerAfter]
    refine List.append_ne_nil_of_left_ne_nil ?_ _
    split
    · split <;> exact List.cons_ne_nil _ _
    · exact lowerChars_ne_nil c

/-- A name without letters and digits is the only one without words. -/
lemma isAlphanumeric_of_camelText_eq_nil (h : camelText name = []) :
    ∀ c ∈ name.toList, Text.isAlphanumeric c = false := by
  rw [camelText] at h
  split at h
  · next hwords =>
    have hfilter := (splits_words name.toList).flatten_eq
    rw [hwords] at hfilter
    simpa using List.filter_eq_nil_iff.mp hfilter.symm
  · next first rest hwords =>
    have hfirst : first ≠ [] := by
      rintro rfl
      exact (splits_words name.toList).nil_notMem (by simp [hwords])
    exact absurd (List.append_eq_nil_iff.mp h).1 (toLower_ne_nil hfirst)

/-- Nothing but underscores is left of a name of ASCII without letters and digits. -/
lemma isPlain_sanitized (h : IsAscii name.toList) (hne : name ≠ "")
    (hname : ∀ c ∈ name.toList, Text.isAlphanumeric c = false) : IsPlain (sanitized name) := by
  have hmarks : ∀ c ∈ name.toList, (if Text.isWordChar c = true then c else '_') = '_' := by
    intro c hc
    rw [Text.isWordChar_of_isAscii (h c hc), hname c hc, Bool.false_or, ite_eq_right_iff]
    exact eq_of_beq
  rw [sanitized, List.map_congr_left hmarks]
  cases htext : name.toList with
  | nil => exact absurd (String.toList_eq_nil_iff.mp htext) hne
  | cons c rest => exact isPlain_ofList (.inr rfl) rfl (by simp)

lemma isPlain_camelCase (h : IsAscii name.toList) (hne : name ≠ "") : IsPlain (camelCase name) := by
  have htext : ∀ c ∈ camelText name, Text.isAsciiAlphanumeric c = true :=
    closedUnderCase_isAsciiAlphanumeric.camelText (isAsciiAlphanumeric_of_isAscii h)
  rw [camelCase_eq]
  split
  · next hempty =>
    exact isPlain_sanitized h hne (isAlphanumeric_of_camelText_eq_nil (List.isEmpty_iff.mp hempty))
  · next hempty => exact isPlain_guardDigit htext (by simpa using hempty)

/-- Names of types and of variables that are made out of a name of ASCII stand without quotes, and
so do names of values, except for the empty one. -/
theorem isPlain_names (h : IsAscii name.toList) :
    (IsPlain (camelCase name) ↔ name ≠ "") ∧ IsPlain (pascalCase name) ∧
      IsPlain (tableVariable name) := by
  have hpascal := isPlain_pascalCase h
  refine ⟨⟨?_, isPlain_camelCase h⟩, hpascal, isPlain_camelCase hpascal.isAscii hpascal.ne_empty⟩
  rintro hcamel rfl
  exact hcamel.ne_empty rfl

/-- A name that begins with a mark and a digit. -/
theorem isPlain_names_codes :
    IsAscii "-2fa codes".toList ∧ "-2fa codes" ≠ "" ∧ IsPlain (camelCase "-2fa codes") ∧
      IsPlain (pascalCase "-2fa codes") ∧ IsPlain (tableVariable "-2fa codes") := by
  have hascii : IsAscii "-2fa codes".toList := by
    simp [IsAscii]
  have hne : "-2fa codes" ≠ "" := by decide
  obtain ⟨hcamel, hpascal, hvariable⟩ := isPlain_names hascii
  exact ⟨hascii, hne, hcamel.mpr hne, hpascal, hvariable⟩

example : pascalCase "-2fa codes" = "_2faCodes" ∧ tableVariable "-2fa codes" = "_2faCodes" ∧
    tableVariable "" = "table" ∧ camelCase "--" = "__" := by
  decide +kernel

end SqlWorkbench.Naming
