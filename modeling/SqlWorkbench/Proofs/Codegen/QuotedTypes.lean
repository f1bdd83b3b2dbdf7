import SqlWorkbench.Codegen.Ddl
import SqlWorkbench.Proofs.Codegen.NameCharacters
import SqlWorkbench.Proofs.Query.Quoting
import SqlWorkbench.Proofs.Query.Tokens
import SqlWorkbench.Proofs.Text.FirstOccurrence

/-!
# Quoted texts in column types

The type of a column may hold texts between single quotes, such as the labels of an enum. A table
definition respells a few types, adds sizes to others, and writes most dialects in capitals. Main
statement: which types keep their quoted texts through all of this, and that a type with a size of
its own gets no second one.
-/

namespace SqlWorkbench

open Naming Text

/-! ### Marks in capitals -/

variable {c d : Char} {s t : List Char}

/-- A mark of punctuation has no case, and no letter turns into one. -/
lemma upperChars_of_isNameChar_eq_false (hc : isNameChar c = false) : upperChars c = [c] := by
  have hascii : c.toNat < 128 := by
    by_contra hnot
    rw [isNameChar, decide_eq_true (Nat.le_of_not_lt hnot), Bool.true_or] at hc
    cases hc
  have hsame : c.toUpper = c :=
    forall_of_codes (P := fun c => isNameChar c = false → c.toUpper = c) (by decide) hascii hc
  rw [upperChars_of_isAscii hascii, hsame]

lemma toUpper_append (s t : List Char) : toUpper (s ++ t) = toUpper s ++ toUpper t :=
  List.flatMap_append

/-- Marks are as many in capitals as before. -/
lemma count_toUpper (hd : isNameChar d = false) (s : List Char) :
    (toUpper s).count d = s.count d := by
  induction s with
  | nil => rfl
  | cons c s ih =>
    rw [toUpper_cons, List.count_append, ih, ← List.singleton_append, List.count_append]
    congr 1
    cases hc : isNameChar c with
    | true =>
      have hnot : d ∉ upperChars c := fun hmem => by
        rw [isNameChar_of_mem_upperChars hc hmem] at hd
        cases hd
      have hne : d ≠ c := by
        rintro rfl
        rw [hc] at hd
        cases hd
      rw [List.count_eq_zero.mpr hnot, List.count_eq_zero.mpr (by simpa using hne)]
    | false => rw [upperChars_of_isNameChar_eq_false hc]

namespace Ddl

/-! ### Texts between quotes -/

/-- The texts between single quotes as they are written, of those that are closed. A doubled quote
closes one and opens the next; a backslash, where it escapes, takes the character behind it
along. -/
def quotedParts (escapes : Bool) (s : List Char) : List (List Char) :=
  go none false s
where
  /-- Knows the part in front of it, if a quote is open, and whether the next character is taken
  along. -/
  go : Option (List Char) → Bool → List Char → List (List Char)
    | _, _, [] => []
    | none, _, c :: rest => go (if c = '\x27' then some [] else none) false rest
    | some part, taken, c :: rest =>
      if !taken && c == '\x27' then part :: go none false rest
      else go (some (part ++ [c])) (escapes && !taken && c == '\\') rest

variable {escapes taken : Bool} {opened : Option (List Char)} {part : List Char}

lemma go_none (s : List Char) :
    quotedParts.go escapes none taken s = quotedParts.go escapes none false s := by
  cases s <;> rfl

/-- What opens no quote is passed over. -/
lemma go_none_append (hs : '\x27' ∉ s) (t : List Char) :
    quotedParts.go escapes none false (s ++ t) = quotedParts.go escapes none false t := by
  induction s with
  | nil => rfl
  | cons c s ih =>
    obtain ⟨hc, hs⟩ := not_or.mp (mt List.mem_cons.mpr hs)
    rw [List.cons_append, quotedParts.go, if_neg (Ne.symm hc), ih hs]

/-- What closes no quote adds nothing. -/
lemma go_append (ht : '\x27' ∉ t) :
    quotedParts.go escapes opened taken (s ++ t) = quotedParts.go escapes opened taken s := by
  fun_induction quotedParts.go escapes opened taken s with
  | case1 opened taken =>
    rw [List.nil_append]
    induction t generalizing opened taken with
    | nil => rfl
    | cons c t ih =>
      obtain ⟨hc, ht⟩ := not_or.mp (mt List.mem_cons.mpr ht)
      cases opened with
      | none => rw [quotedParts.go, ih ht]
      | some part =>
        rw [quotedParts.go, if_neg (by simpa using fun _ => Ne.symm hc), ih ht]
  | case2 taken c rest ih => rw [List.cons_append, quotedParts.go, ih]
  | case3 part taken c rest hclosed ih => rw [List.cons_append, quotedParts.go, if_pos hclosed, ih]
  | case4 part taken c rest hopen ih => rw [List.cons_append, quotedParts.go, if_neg hopen, ih]

lemma go_some_cons (hc : isNameChar c = true) :
    quotedParts.go escapes (some part) taken (c :: t)
      = quotedParts.go escapes (some (part ++ [c])) false t := by
  have hquote : c ≠ '\x27' := by
    rintro rfl
    exact absurd hc (by decide)
  have hbackslash : c ≠ '\\' := by
    rintro rfl
    exact absurd hc (by decide)
  rw [quotedParts.go, if_neg (by simpa using fun _ => hquote), beq_eq_false_iff_ne.mpr hbackslash,
    Bool.and_false]

/-- Letters and digits neither close a quote nor take anything along. -/
lemma go_some_append (hs : ∀ c ∈ s, isNameChar c = true) (hne : s ≠ []) :
    quotedParts.go escapes (some part) taken (s ++ t)
      = quotedParts.go escapes (some (part ++ s)) false t := by
  induction s generalizing part taken with
  | nil => exact absurd rfl hne
  | cons c s ih =>
    obtain ⟨hc, hs⟩ := List.forall_mem_cons.mp hs
    rw [List.cons_append, go_some_cons hc]
    cases s with
    | nil => rfl
    | cons d s => rw [ih hs (List.cons_ne_nil d s), List.append_assoc, List.singleton_append]

lemma go_toUpper (opened : Option (List Char)) (taken : Bool) (s : List Char) :
    quotedParts.go escapes (opened.map toUpper) taken (toUpper s)
      = (quotedParts.go escapes opened taken s).map toUpper := by
  induction s generalizing opened taken with
  | nil => cases opened <;> rfl
  | cons c s ih =>
    rw [toUpper_cons]
    cases hc : isNameChar c with
    | true =>
      have himage : ∀ d ∈ upperChars c, isNameChar d = true := fun d hd =>
        isNameChar_of_mem_upperChars hc hd
      have hquote : c ≠ '\x27' := by
        rintro rfl
        exact absurd hc (by decide)
      cases opened with
      | none =>
        have hmarks : '\x27' ∉ upperChars c := fun hmem => absurd (himage _ hmem) (by decide)
        rw [Option.map_none, go_none, go_none_append hmarks, quotedParts.go, if_neg hquote, ← ih,
          Option.map_none]
      | some part =>
        rw [go_some_cons hc, Option.map_some, go_some_append himage (upperChars_ne_nil c),
          ← ih, Option.map_some, toUpper_append, toUpper_cons, toUpper_nil, List.append_nil]
    | false =>
      rw [upperChars_of_isNameChar_eq_false hc, List.singleton_append]
      cases opened with
      | none =>
        rw [Option.map_none, quotedParts.go, quotedParts.go, ← ih]
        split <;> rfl
      | some part =>
        rw [Option.map_some, quotedParts.go, quotedParts.go]
        split
        · rw [List.map_cons, ← ih, Option.map_none]
        · rw [← ih, Option.map_some, toUpper_append, toUpper_cons,
            upperChars_of_isNameChar_eq_false hc, toUpper_nil, List.append_nil]

lemma quotedParts_toUpper (s : List Char) :
    quotedParts escapes (toUpper s) = (quotedParts escapes s).map toUpper :=
  go_toUpper none false s

lemma quotedParts_append (ht : '\x27' ∉ t) :
    quotedParts escapes (s ++ t) = quotedParts escapes s :=
  go_append ht

lemma quotedParts_prepend (hs : '\x27' ∉ s) :
    quotedParts escapes (s ++ t) = quotedParts escapes t :=
  go_none_append hs t

lemma quotedParts_eq_nil (hs : '\x27' ∉ s) : quotedParts escapes s = [] := by
  rw [← List.append_nil s, quotedParts_prepend hs]
  rfl

/-! ### Respelled types -/

variable {m : TableModel} {column : Column}

/-- The type is foreign to Postgres and is replaced by a word of its own. -/
def IsRespelled (m : TableModel) (column : Column) : Prop :=
  m.dialect = .postgres ∧
    TypeMap.hasAny (toAsciiLower column.dataType.toList) ["datetime2", "nvarchar", "int32"] = true

lemma decide_eq_otherwise {rules : TypeMap.Rules} {otherwise : String}
    (h : ∀ rule ∈ rules, TypeMap.hasAny s rule.1 = false) :
    TypeMap.decide rules otherwise s = otherwise := by
  induction rules with
  | nil => rfl
  | cons rule rest ih =>
    obtain ⟨hrule, hrest⟩ := List.forall_mem_cons.mp h
    rw [TypeMap.decide, hrule, if_neg Bool.false_ne_true, ih hrest]

lemma decide_mem_of_hasAny {rules : TypeMap.Rules} {otherwise : String}
    (h : ∃ rule ∈ rules, TypeMap.hasAny s rule.1 = true) :
    TypeMap.decide rules otherwise s ∈ rules.map Prod.snd := by
  induction rules with
  | nil => simp at h
  | cons rule rest ih =>
    rw [TypeMap.decide]
    split
    · exact List.mem_cons_self
    · next hrule =>
      refine List.mem_cons_of_mem _ (ih ?_)
      obtain ⟨other, hmem, hother⟩ := h
      rcases List.mem_cons.mp hmem with rfl | hmem
      · exact absurd hother hrule
      · exact ⟨other, hmem, hother⟩

lemma typeOf_eq (h : ¬ IsRespelled m column) : m.typeOf .sql column = column.dataType := by
  rw [TableModel.typeOf, TypeMap.type, TypeMap.sql]
  split
  · next hdialect =>
    have hwords := mt (And.intro hdialect) h
    apply decide_eq_otherwise
    simpa [TypeMap.hasAny] using hwords
  · rfl

lemma typeOf_mem (h : IsRespelled m column) :
    m.typeOf .sql column ∈ ["timestamp", "varchar", "integer"] := by
  rw [TableModel.typeOf, TypeMap.type, TypeMap.sql, if_pos h.1]
  apply decide_mem_of_hasAny
  simpa [TypeMap.hasAny, or_assoc] using h.2

/-! ### Sizes -/

/-- A size as it is put behind a type: nothing, or something between parentheses that has no quotes
and no parentheses of its own. -/
def IsSize (text : String) : Prop :=
  text = "" ∨ ∃ inside, text = "(" ++ inside ++ ")" ∧ '\x27' ∉ inside.toList ∧ '(' ∉ inside.toList

lemma not_mem_toDigits (hd : d.isDigit = false) (n : Nat) : d ∉ Nat.toDigits 10 n := by
  intro hmem
  rw [isDigit_of_mem_toDigits hmem] at hd
  cases hd

lemma not_mem_toString_int (hd : d.isDigit = false) (hminus : d ≠ '-') (i : Int) :
    d ∉ (toString i).toList := by
  cases i with
  | ofNat n =>
    have htext : toString (Int.ofNat n) = toString n := rfl
    rw [htext, toList_toString_nat]
    exact not_mem_toDigits hd n
  | negSucc n =>
    have htext : toString (Int.negSucc n) = "-" ++ toString (n + 1) := rfl
    rw [htext, String.toList_append, toList_toString_nat, List.mem_append, not_or]
    exact ⟨by simpa using hminus, not_mem_toDigits hd (n + 1)⟩

lemma isSize_lengthSuffix (column : Column) (s : List Char) : IsSize (lengthSuffix column s) := by
  rw [lengthSuffix]
  cases column.maxLength with
  | none => exact .inl rfl
  | some n =>
    dsimp only
    split
    · split
      · exact .inr ⟨"MAX", rfl, by decide, by decide⟩
      · exact .inr ⟨toString n, rfl, not_mem_toString_int (by decide) (by decide) n,
          not_mem_toString_int (by decide) (by decide) n⟩
    · exact .inl rfl

lemma isSize_precisionSuffix (column : Column) (s : List Char) :
    IsSize (precisionSuffix column s) := by
  rw [precisionSuffix]
  cases column.precision with
  | none => exact .inl rfl
  | some p =>
    have hquote : ∀ n : Nat, '\x27' ∉ Nat.toDigits 10 n := not_mem_toDigits (by decide)
    have hparen : ∀ n : Nat, '(' ∉ Nat.toDigits 10 n := not_mem_toDigits (by decide)
    dsimp only
    split
    · split
      · next scale _ =>
        refine .inr ⟨toString p ++ ", " ++ toString scale, by simp [String.append_assoc], ?_, ?_⟩
        · simp [hquote]
        · simp [hparen]
      · exact .inr ⟨toString p, rfl, by simpa using hquote p, by simpa using hparen p⟩
    · exact .inl rfl

lemma IsSize.quote_not_mem {text : String} (h : IsSize text) : '\x27' ∉ text.toList := by
  rcases h with rfl | ⟨inside, rfl, hquote, -⟩
  · simp
  · simp [hquote]

lemma IsSize.count_le {text : String} (h : IsSize text) : text.toList.count '(' ≤ 1 := by
  rcases h with rfl | ⟨inside, rfl, -, hparen⟩
  · simp
  · simp [List.count_append, List.count_eq_zero.mpr hparen]

/-- The sizes that a type gets from the column. -/
def sizes (m : TableModel) (column : Column) : String :=
  lengthSuffix column (toAsciiLower (m.typeOf .sql column).toList)
    ++ precisionSuffix column (toAsciiLower (m.typeOf .sql column).toList)

lemma quote_not_mem_sizes (m : TableModel) (column : Column) :
    '\x27' ∉ (sizes m column).toList := by
  rw [sizes, String.toList_append, List.mem_append, not_or]
  exact ⟨(isSize_lengthSuffix _ _).quote_not_mem, (isSize_precisionSuffix _ _).quote_not_mem⟩

lemma hasAny_paren (h : '(' ∈ s) : containsText ['('] (toAsciiLower s) = true := by
  have hmem : '(' ∈ toAsciiLower s := List.mem_map.mpr ⟨'(', h, by decide⟩
  rw [containsText, Option.isSome_iff_ne_none, ne_eq, splitAt?_eq_none_iff (List.cons_ne_nil _ _),
    not_not]
  exact (List.singleton_infix_iff _ _).mpr hmem

/-- A type with a parenthesis gets no size. -/
lemma sizes_eq_empty (h : '(' ∈ (m.typeOf .sql column).toList) : sizes m column = "" := by
  have hparen := hasAny_paren h
  have hlength : lengthSuffix column (toAsciiLower (m.typeOf .sql column).toList) = "" := by
    rw [lengthSuffix]
    cases column.maxLength with
    | none => rfl
    | some n => simp [TypeMap.hasAny, hparen]
  have hprecision : precisionSuffix column (toAsciiLower (m.typeOf .sql column).toList) = "" := by
    rw [precisionSuffix]
    cases column.precision with
    | none => rfl
    | some p => simp [TypeMap.hasAny, hparen]
  rw [sizes, hlength, hprecision]
  rfl

/-! ### Column types -/

/-- The column without the sizes of its type. -/
def withoutSizes (column : Column) : Column :=
  { column with maxLength := none, precision := none, scale := none }

/-- The texts between quotes in the type of the engine stand in the type that is written, unchanged
and in their order. -/
def KeepsQuotes (m : TableModel) (column : Column) : Prop :=
  let escapes := m.dialect.textQuotation.escapes
  (quotedParts escapes column.dataType.toList).Sublist
    (quotedParts escapes (columnType m column).toList)

/-- A type with a size of its own gets no second one: the sizes of the column do not matter for it,
or it is respelled without its size. -/
def HasOneSize (m : TableModel) (column : Column) : Prop :=
  '(' ∈ column.dataType.toList →
    columnType m column = columnType m (withoutSizes column) ∨
      IsRespelled m column ∧ (columnType m column).toList.count '(' ≤ 1

lemma scalarType_eq (m : TableModel) (column : Column) : scalarType m column =
    if m.dialect = .clickhouse then
      if column.isNullable && (dropPrefix? "nullable(".toList
          (toAsciiLower (m.typeOf .sql column).toList)).isNone then
        "Nullable(" ++ (m.typeOf .sql column ++ sizes m column) ++ ")"
      else m.typeOf .sql column ++ sizes m column
    else String.ofList (toUpper (m.typeOf .sql column ++ sizes m column).toList) := by
  simp only [scalarType, sizes, String.append_assoc]

lemma toList_scalarType (hdialect : m.dialect ≠ .clickhouse) :
    (scalarType m column).toList
      = toUpper ((m.typeOf .sql column).toList ++ (sizes m column).toList) := by
  rw [scalarType_eq, if_neg hdialect, String.toList_ofList, String.toList_append]

lemma exists_toList_scalarType (hdialect : m.dialect = .clickhouse) :
    ∃ before after, '\x27' ∉ before ∧ '\x27' ∉ after ∧
      (scalarType m column).toList = before ++ ((m.typeOf .sql column).toList ++ after) := by
  have hsizes := quote_not_mem_sizes m column
  rw [scalarType_eq, if_pos hdialect]
  split
  · exact ⟨"Nullable(".toList, (sizes m column).toList ++ [')'], by decide, by simp [hsizes],
      by simp⟩
  · exact ⟨[], (sizes m column).toList, by decide, hsizes, by simp⟩

lemma quotedParts_scalarType (m : TableModel) (column : Column) :
    quotedParts escapes (scalarType m column).toList
      = if m.dialect = .clickhouse then quotedParts escapes (m.typeOf .sql column).toList
        else (quotedParts escapes (m.typeOf .sql column).toList).map toUpper := by
  split
  · next hdialect =>
    obtain ⟨before, after, hbefore, hafter, htype⟩ := exists_toList_scalarType hdialect
    rw [htype, quotedParts_prepend hbefore, quotedParts_append hafter]
  · next hdialect =>
    rw [toList_scalarType hdialect, quotedParts_toUpper,
      quotedParts_append (quote_not_mem_sizes m column)]

lemma quotedParts_typeOf (h : IsRespelled m column) :
    quotedParts escapes (m.typeOf .sql column).toList = [] := by
  apply quotedParts_eq_nil
  have hwords : ∀ word ∈ ["timestamp", "varchar", "integer"], '\x27' ∉ word.toList := by decide
  exact hwords _ (typeOf_mem h)

lemma sublist_map_iff {parts : List (List Char)} {f : List Char → List Char} :
    parts.Sublist (parts.map f) ↔ ∀ part ∈ parts, f part = part := by
  constructor
  · intro h part hpart
    have heq := h.eq_of_length (List.length_map f).symm
    exact (List.map_inj_left.mp (heq.symm.trans (List.map_id parts).symm)) part hpart
  · intro h
    rw [List.map_congr_left h, List.map_id']

/-- What is said of a type that is written by its own rules. -/
lemma sublist_scalarType_iff (m : TableModel) (column : Column) :
    (quotedParts escapes column.dataType.toList).Sublist
        (quotedParts escapes (scalarType m column).toList) ↔
      quotedParts escapes column.dataType.toList = [] ∨ ¬ IsRespelled m column ∧
        (m.dialect = .clickhouse ∨
          ∀ part ∈ quotedParts escapes column.dataType.toList, toUpper part = part) := by
  rw [quotedParts_scalarType]
  by_cases hrespelled : IsRespelled m column
  · simp [quotedParts_typeOf hrespelled, hrespelled]
  · rw [typeOf_eq hrespelled]
    by_cases hdialect : m.dialect = .clickhouse
    · simp [hdialect, hrespelled]
    · rw [if_neg hdialect, sublist_map_iff]
      simp only [hrespelled, hdialect, not_false_eq_true, true_and, false_or]
      constructor
      · exact .inr
      · rintro (hnil | h)
        · simp [hnil]
        · exact h

/-- The type of a column is written by its own rules, unless it is the bare word for an enum. -/
lemma columnType_cases (h : m.enumOf? column = none) :
    columnType m column = scalarType m column ∨
      toAsciiLower column.dataType.toList = ['e', 'n', 'u', 'm'] := by
  rw [columnType, h]
  cases column.enumName with
  | none => exact .inl rfl
  | some name =>
    dsimp only
    split
    · next henum => exact .inr (by simpa [eqIgnoringAsciiCase, toAsciiLower] using henum)
    · exact .inl rfl

lemma not_mem_of_toAsciiLower (h : toAsciiLower s = ['e', 'n', 'u', 'm']) :
    '\x27' ∉ s ∧ '(' ∉ s := by
  have hlower : ∀ d ∈ s, d.toLower ∈ ['e', 'n', 'u', 'm'] := fun d hd => by
    rw [← h]
    exact List.mem_map_of_mem hd
  exact ⟨fun hmem => absurd (hlower _ hmem) (by decide),
    fun hmem => absurd (hlower _ hmem) (by decide)⟩

lemma count_paren_scalarType (h : IsRespelled m column) :
    (scalarType m column).toList.count '(' ≤ 1 := by
  have hdialect : m.dialect ≠ .clickhouse := by
    rw [h.1]
    decide
  have hwords : ∀ word ∈ ["timestamp", "varchar", "integer"], word.toList.count '(' = 0 ∧
      TypeMap.hasAny (toAsciiLower word.toList) ["decimal", "numeric"] = false := by
    decide
  obtain ⟨hcount, hdecimal⟩ := hwords _ (typeOf_mem h)
  have hprecision : precisionSuffix column (toAsciiLower (m.typeOf .sql column).toList) = "" := by
    rw [precisionSuffix]
    cases column.precision with
    | none => rfl
    | some p => simp [hdecimal]
  have hlength := (isSize_lengthSuffix column (toAsciiLower (m.typeOf .sql column).toList)).count_le
  rw [toList_scalarType hdialect, count_toUpper (by decide), List.count_append, hcount, sizes,
    hprecision, String.append_empty]
  omega

lemma scalarType_withoutSizes (hparen : '(' ∈ column.dataType.toList)
    (h : ¬ IsRespelled m column) :
    scalarType m column = scalarType m (withoutSizes column) := by
  have htype : '(' ∈ (m.typeOf .sql column).toList := by rwa [typeOf_eq h]
  have hsizes : sizes m column = "" := sizes_eq_empty htype
  have hwithout : sizes m (withoutSizes column) = "" := sizes_eq_empty htype
  rw [scalarType_eq, scalarType_eq, hsizes, hwithout]
  rfl

lemma hasOneSize (h : m.enumOf? column = none) : HasOneSize m column := by
  intro hparen
  rcases columnType_cases h with htype | henum
  · by_cases hrespelled : IsRespelled m column
    · exact .inr ⟨hrespelled, htype ▸ count_paren_scalarType hrespelled⟩
    · left
      rw [columnType, columnType, scalarType_withoutSizes hparen hrespelled]
      rfl
  · exact absurd hparen (not_mem_of_toAsciiLower henum).2

/-- The type of a column without an enum keeps its quoted texts exactly if it has none, or if it is
not respelled and is either written for ClickHouse or has them in capitals; and whatever becomes of
them, a type with a size of its own gets no second one. -/
theorem keepsQuotes_iff (h : m.enumOf? column = none) :
    (KeepsQuotes m column ↔
      quotedParts m.dialect.textQuotation.escapes column.dataType.toList = [] ∨
      ¬ IsRespelled m column ∧ (m.dialect = .clickhouse ∨
        ∀ part ∈ quotedParts m.dialect.textQuotation.escapes column.dataType.toList,
          toUpper part = part)) ∧
    HasOneSize m column := by
  refine ⟨?_, hasOneSize h⟩
  rcases columnType_cases h with htype | henum
  · rw [KeepsQuotes, htype]
    exact sublist_scalarType_iff m column
  · have hnil (escapes : Bool) : quotedParts escapes column.dataType.toList = [] :=
      quotedParts_eq_nil (not_mem_of_toAsciiLower henum).1
    simp [KeepsQuotes, hnil]

/-- A column of the type, with a length. -/
def listColumn (dataType : String) : Column :=
  { Column.ofType "state" dataType with maxLength := some 5 }

/-- A table of that column, which knows no enum types. -/
def listTable (dataType : String) : TableModel where
  table := "t"
  columns := [listColumn dataType]
  dialect := .mysql

theorem keepsQuotes_capitals :
    (listTable "enum(\x27A(1)\x27,\x27IT\x27\x27S\x27)").enumOf?
        (listColumn "enum(\x27A(1)\x27,\x27IT\x27\x27S\x27)") = none ∧
      KeepsQuotes (listTable "enum(\x27A(1)\x27,\x27IT\x27\x27S\x27)")
        (listColumn "enum(\x27A(1)\x27,\x27IT\x27\x27S\x27)") ∧
      HasOneSize (listTable "enum(\x27A(1)\x27,\x27IT\x27\x27S\x27)")
        (listColumn "enum(\x27A(1)\x27,\x27IT\x27\x27S\x27)") := by
  have hnone : (listTable "enum(\x27A(1)\x27,\x27IT\x27\x27S\x27)").enumOf?
      (listColumn "enum(\x27A(1)\x27,\x27IT\x27\x27S\x27)") = none := rfl
  obtain ⟨hkeeps, hsize⟩ := keepsQuotes_iff hnone
  refine ⟨hnone, hkeeps.mpr (.inr ⟨fun h => ?_, .inr ?_⟩), hsize⟩
  · exact absurd h.1 (by decide)
  · decide +kernel

/-- Labels of an enum that the table is not told otherwise are written in capitals. -/
theorem not_keepsQuotes_draft :
    (listTable "enum(\x27draft\x27,\x27Done\x27)").enumOf?
        (listColumn "enum(\x27draft\x27,\x27Done\x27)") = none ∧
      columnType (listTable "enum(\x27draft\x27,\x27Done\x27)")
        (listColumn "enum(\x27draft\x27,\x27Done\x27)") = "ENUM(\x27DRAFT\x27,\x27DONE\x27)" ∧
      ¬ KeepsQuotes (listTable "enum(\x27draft\x27,\x27Done\x27)")
        (listColumn "enum(\x27draft\x27,\x27Done\x27)") := by
  refine ⟨rfl, by decide +kernel, ?_⟩
  rw [KeepsQuotes]
  decide +kernel

end Ddl

end SqlWorkbench
