import Mathlib.Tactic.Common
import SqlWorkbench.Codegen.Ddl
import SqlWorkbench.Proofs.Query.Tokens
import SqlWorkbench.Proofs.Schema.QuotedLabels
import SqlWorkbench.Schema.EnumLabels

/-!
# Numbered labels are read back

ClickHouse tells the values of an enum type only in the text of a column type, which is also how
they are written. The writer escapes single quotes and backslashes; the reader knows no escapes,
takes each single quote for the start or the end of a label, and takes no label for a pair without
characters. Main statement: the values are read back exactly if none is empty and none has a single
quote, a backslash or a line break.
-/

namespace SqlWorkbench

open Text

/-! ### Characters of a list -/

namespace Text

variable {separator : String} {pieces : List String} {c : Char}

lemma mem_joinWith_iff (hc : c ∉ separator.toList) :
    c ∈ (joinWith separator pieces).toList ↔ ∃ p ∈ pieces, c ∈ p.toList := by
  fun_induction joinWith separator pieces with
  | case1 => simp
  | case2 piece => simp
  | case3 piece next rest ih => simp [ih, hc]

end Text

/-- What is found in each element, whatever its place, makes up the result. -/
lemma filterMap_mapIdx {α β γ : Type} {f : Nat → α → β} {g : β → Option γ} {h : α → γ} {l : List α}
    (hfound : ∀ i, ∀ a ∈ l, g (f i a) = some (h a)) : (l.mapIdx f).filterMap g = l.map h := by
  induction l generalizing f with
  | nil => rfl
  | cons a l ih =>
    rw [List.mapIdx_cons, List.filterMap_cons_some (hfound 0 a List.mem_cons_self),
      ih fun i b hb => hfound (i + 1) b (List.mem_cons_of_mem a hb), List.map_cons]

namespace EnumLabels

variable {s label : List Char} {c : Char}

/-! ### Labels -/

lemma quoted_of_not_mem (hquote : '\x27' ∉ label) : quoted label = '\x27' :: label ++ ['\x27'] := by
  have hchars : ∀ c ∈ label, (if c = '\x27' then ['\x27', '\x27'] else [c]) = [c] :=
    fun c hc => if_neg (ne_of_mem_of_not_mem hc hquote)
  rw [quoted, replaceChar, List.flatMap_congr hchars, List.flatMap_singleton']

lemma label?_cons (hc : c ≠ '\x27') : label? (c :: s) = label? s := by
  have hlabel : labelAt? (c :: s) = none := by simp [labelAt?, hc]
  rw [label?, hlabel, Option.none_or]

lemma label?_blanks_append (n : Nat) (s : List Char) :
    label? (List.replicate n ' ' ++ s) = label? s := by
  induction n with
  | zero => rfl
  | succ n ih => rw [List.replicate_succ, List.cons_append, label?_cons (by decide), ih]

/-- A label has characters, and no single quote among them. -/
lemma of_labelAt?_eq_some (h : labelAt? s = some label) : label ≠ [] ∧ '\x27' ∉ label := by
  unfold labelAt? at h
  split at h
  · next rest =>
    dsimp only at h
    split at h
    · split at h
      · next hlabel =>
        obtain rfl := Option.some.inj h
        rw [Bool.and_eq_true, Bool.not_eq_true', List.isEmpty_eq_false_iff] at hlabel
        refine ⟨hlabel.1, fun hmem => ?_⟩
        exact absurd (List.mem_takeWhile_imp hmem) (by decide)
      · cases h
    · cases h
  · cases h

lemma of_label?_eq_some (h : label? s = some label) : label ≠ [] ∧ '\x27' ∉ label := by
  induction s with
  | nil => cases h
  | cons c s ih =>
    rw [label?, Option.or_eq_some_iff] at h
    rcases h with h | ⟨-, h⟩
    · exact of_labelAt?_eq_some h
    · exact ih h

/-- Labels are looked for piece by piece, whatever blanks stand in front. -/
lemma filterMap_label?_splitList {pieces : List String} (h : ∀ p ∈ pieces, Whole p.toList)
    (n : Nat) :
    (splitList (List.replicate n ' ' ++ (joinWith ", " pieces).toList)).filterMap label?
      = pieces.filterMap fun p => label? p.toList := by
  have hblanks (n : Nat) : Whole (List.replicate n ' ') :=
    whole_of_not_mem (by simp [List.mem_replicate]) (by simp [List.mem_replicate])
  fun_induction joinWith ", " pieces generalizing n with
  | case1 =>
    have hnone := label?_blanks_append n []
    rw [List.append_nil] at hnone
    rw [String.toList_empty, List.append_nil, (hblanks n).splitList_eq]
    simp [hnone, label?]
  | case2 piece =>
    have hpiece := h piece (List.mem_singleton_self piece)
    rw [((hblanks n).append hpiece).splitList_eq]
    simp only [List.filterMap_cons, List.filterMap_nil, label?_blanks_append]
  | case3 piece next rest ih =>
    obtain ⟨hpiece, hrest⟩ := List.forall_mem_cons.mp h
    have hcomma (s : List Char) : ", ".toList ++ s = ',' :: (List.replicate 1 ' ' ++ s) := rfl
    rw [String.toList_append, String.toList_append, List.append_assoc, hcomma, ← List.append_assoc,
      ((hblanks n).append hpiece).splitList_append_comma]
    simp only [List.filterMap_cons, ih hrest 1, label?_blanks_append]

/-! ### Types that number their labels -/

lemma isDecimalDigit_of_isDigit (hc : c.isDigit = true) : isDecimalDigit c = true := by
  have hascii : c.toNat < 128 := by
    have := toNat_of_isDigit hc
    omega
  rw [isDecimalDigit, if_pos hascii, hc]

lemma isNumbered_number (n : Nat) : isNumbered (" = " ++ toString n).toList = true := by
  obtain ⟨d, digits, hdigits⟩ :=
    List.exists_cons_of_ne_nil (Nat.toDigits_ne_nil (n := n) (b := 10))
  have hd : d.isDigit = true := isDigit_of_mem_toDigits (n := n) (by simp [hdigits])
  have hblank : d ≠ ' ' := by
    rintro rfl
    exact absurd hd (by decide)
  rw [String.toList_append, toList_toString_nat, hdigits]
  simp [isNumbered, hblank, isDecimalDigit_of_isDigit hd]

/-- A pair with a quoted label and a number is read back as what stands between the quotes. -/
lemma label?_numbered (hlabel : label ≠ []) (hquote : '\x27' ∉ label) (n : Nat) :
    label? ('\x27' :: label ++ ['\x27'] ++ (" = " ++ toString n).toList) = some label := by
  have hnot : ∀ d ∈ label, (d != '\x27') = true := fun d hd => by
    simpa using ne_of_mem_of_not_mem hd hquote
  have htake (after : List Char) :
      (label ++ '\x27' :: after).takeWhile (· != '\x27') = label := by
    rw [List.takeWhile_append_of_pos hnot, List.takeWhile_cons_of_neg (by decide), List.append_nil]
  have hdrop (after : List Char) :
      (label ++ '\x27' :: after).dropWhile (· != '\x27') = '\x27' :: after := by
    rw [List.dropWhile_append_of_pos hnot, List.dropWhile_cons_of_neg (by decide)]
  rw [List.append_assoc, List.cons_append, List.singleton_append, label?, labelAt?]
  simp only [htake, hdrop, isNumbered_number]
  simp [hlabel]

/-- The type whose name is followed by a list. -/
lemma numberedBody?_type (name : String) (hname : name = "Enum8" ∨ name = "Enum16")
    (inside : List Char) : numberedBody? (name.toList ++ '(' :: inside ++ [')'])
      = if '\n' ∈ inside then none else some inside := by
  have hdigit : isDecimalDigit '8' = true ∧ isDecimalDigit '1' = true ∧
      isDecimalDigit '6' = true ∧ isDecimalDigit '(' = false := by decide +kernel
  obtain ⟨h8, h1, h6, hopen⟩ := hdigit
  rcases hname with rfl | rfl
  · simp [numberedBody?, dropPrefix?, h8, hopen]
  · simp [numberedBody?, dropPrefix?, h1, h6, hopen]

end EnumLabels

/-! ### Labels that are written -/

namespace Ddl

open EnumLabels

/-- A label as it is written, without its quotes. -/
def writtenLabel (v : String) : List Char :=
  v.toList.flatMap Dialect.clickhouse.quotedChar

variable {v : String} {values : List String} {c : Char}

lemma mem_writtenLabel (hv : c ∈ v.toList) : c ∈ writtenLabel v := by
  refine List.mem_flatMap.mpr ⟨c, hv, ?_⟩
  rw [Dialect.quotedChar]
  split <;> simp

/-- Backslashes are all that is added. -/
lemma mem_writtenLabel_iff (hc : c ≠ '\\') : c ∈ writtenLabel v ↔ c ∈ v.toList := by
  refine ⟨fun hmem => ?_, mem_writtenLabel⟩
  obtain ⟨d, hd, hmem⟩ := List.mem_flatMap.mp hmem
  have heq : c = d := by
    rw [Dialect.quotedChar] at hmem
    split at hmem <;> simpa [hc] using hmem
  rwa [heq]

lemma writtenLabel_ne_nil (hv : v ≠ "") : writtenLabel v ≠ [] := by
  obtain ⟨c, s, hs⟩ := List.exists_cons_of_ne_nil (mt String.toList_eq_nil_iff.mp hv)
  exact List.ne_nil_of_mem (mem_writtenLabel (c := c) (by simp [hs]))

/-- Only a backslash changes a label without quotes. -/
lemma writtenLabel_eq_iff (hv : '\x27' ∉ v.toList) :
    writtenLabel v = v.toList ↔ '\\' ∉ v.toList := by
  have hcount : (writtenLabel v).count '\\' = 2 * v.toList.count '\\' := by
    rw [writtenLabel]
    generalize v.toList = s at hv
    induction s with
    | nil => rfl
    | cons c s ih =>
      simp only [List.mem_cons, not_or] at hv
      rw [List.flatMap_cons, List.count_append, ih hv.2, List.count_cons, Dialect.quotedChar]
      by_cases hc : c = '\\'
      · simp [hc]
        omega
      · simp [hc, Ne.symm hv.1]
  constructor
  · intro heq
    rw [heq] at hcount
    exact List.count_eq_zero.mp (by omega)
  · intro hbackslash
    have hchars : ∀ c ∈ v.toList, Dialect.clickhouse.quotedChar c = [c] := fun c hc => by
      rw [Dialect.quotedChar, if_neg]
      rintro (rfl | rfl)
      · exact hbackslash hc
      · exact hv hc
    rw [writtenLabel, List.flatMap_congr hchars]
    exact List.flatMap_singleton' v.toList

/-- A value with its number. -/
def numberedValue (i : Nat) (v : String) : String :=
  Dialect.clickhouse.quoteText v ++ " = " ++ toString (i + 1)

lemma toList_numberedValue (i : Nat) (v : String) : (numberedValue i v).toList
    = '\x27' :: writtenLabel v ++ ['\x27'] ++ (" = " ++ toString (i + 1)).toList := by
  simp [numberedValue, Dialect.quotedText, writtenLabel]

lemma not_mem_number (hdigit : c.isDigit = false) (hc : c ∉ " = ".toList) (n : Nat) :
    c ∉ (" = " ++ toString n).toList := by
  rw [String.toList_append, toList_toString_nat, List.mem_append, not_or]
  refine ⟨hc, fun hmem => ?_⟩
  rw [isDigit_of_mem_toDigits hmem] at hdigit
  cases hdigit

lemma whole_numberedValue (hv : '\x27' ∉ v.toList) (i : Nat) :
    Whole (numberedValue i v).toList := by
  have hlabel : '\x27' ∉ writtenLabel v := mt (mem_writtenLabel_iff (by decide)).mp hv
  rw [toList_numberedValue, ← quoted_of_not_mem hlabel]
  refine (whole_quoted _).append (whole_of_not_mem ?_ ?_)
  · exact not_mem_number (by decide) (by decide) _
  · exact not_mem_number (by decide) (by decide) _

lemma break_mem_numberedValue_iff (i : Nat) :
    '\n' ∈ (numberedValue i v).toList ↔ '\n' ∈ v.toList := by
  have hnumber : '\n' ∉ (" = " ++ toString (i + 1)).toList :=
    not_mem_number (by decide) (by decide) _
  have hquote : '\n' ≠ '\x27' := by decide
  rw [toList_numberedValue, List.mem_append, List.mem_append, List.mem_cons,
    mem_writtenLabel_iff (by decide), List.mem_singleton]
  simp only [hnumber, hquote, or_false, false_or]

/-- The list has a line break where one of the values has one. -/
lemma break_mem_numberedValues_iff :
    '\n' ∈ (numberedValues .clickhouse values).toList ↔ ∃ v ∈ values, '\n' ∈ v.toList := by
  have hlist : numberedValues .clickhouse values
      = joinWith ", " (values.mapIdx numberedValue) := rfl
  rw [hlist, mem_joinWith_iff (by decide)]
  constructor
  · rintro ⟨p, hp, hmem⟩
    obtain ⟨i, hi, rfl⟩ := List.mem_mapIdx.mp hp
    exact ⟨values[i], List.getElem_mem hi, (break_mem_numberedValue_iff i).mp hmem⟩
  · rintro ⟨v, hv, hmem⟩
    obtain ⟨i, hi, rfl⟩ := List.mem_iff_getElem.mp hv
    exact ⟨numberedValue i values[i], List.mem_mapIdx.mpr ⟨i, hi, rfl⟩,
      (break_mem_numberedValue_iff i).mpr hmem⟩

/-- Labels without quotes are read back as they are written. -/
lemma filterMap_label?_numberedValues
    (h : ∀ v ∈ values, v ≠ "" ∧ '\x27' ∉ v.toList) :
    (splitList (numberedValues .clickhouse values).toList).filterMap label?
      = values.map writtenLabel := by
  have hwhole : ∀ p ∈ values.mapIdx numberedValue, Whole p.toList := by
    intro p hp
    obtain ⟨i, hi, rfl⟩ := List.mem_mapIdx.mp hp
    exact whole_numberedValue (h _ (List.getElem_mem hi)).2 i
  have hlist := filterMap_label?_splitList hwhole 0
  rw [List.replicate_zero, List.nil_append] at hlist
  refine hlist.trans (filterMap_mapIdx fun i v hv => ?_)
  have hlabel : '\x27' ∉ writtenLabel v := mt (mem_writtenLabel_iff (by decide)).mp (h v hv).2
  rw [toList_numberedValue, label?_numbered (writtenLabel_ne_nil (h v hv).1) hlabel]

/-- The type of a column that is not null is read back as the labels in its list, unless that has a
line break. -/
lemma ofNumberedList_enumType {col : Column} (hcol : col.isNullable = false) (e : EnumType) :
    ofNumberedList (enumType .clickhouse col e)
      = if ∃ v ∈ e.values, '\n' ∈ v.toList then []
        else ((splitList (numberedValues .clickhouse e.values).toList).filterMap label?).map
          String.ofList := by
  have htype : ∃ name, (name = "Enum8" ∨ name = "Enum16") ∧ enumType .clickhouse col e
      = name ++ "(" ++ numberedValues .clickhouse e.values ++ ")" := by
    refine ⟨if e.values.length > mostByteValues then "Enum16" else "Enum8", ?_, ?_⟩
    · split
      · exact .inr rfl
      · exact .inl rfl
    · simp [enumType, hcol]
  obtain ⟨name, hname, htype⟩ := htype
  have htext : (enumType .clickhouse col e).toList
      = name.toList ++ '(' :: (numberedValues .clickhouse e.values).toList ++ [')'] := by
    simp [htype]
  rw [ofNumberedList, htext, numberedBody?_type name hname]
  by_cases hbreak : ∃ v ∈ e.values, '\n' ∈ v.toList
  · rw [if_pos (break_mem_numberedValues_iff.mpr hbreak), if_pos hbreak]
  · rw [if_neg (mt break_mem_numberedValues_iff.mp hbreak), if_neg hbreak]

variable {m : TableModel} {col : Column} {e : EnumType}

/-- The values of an enum type are read back from the type of a column that is not null exactly if
none is empty and none has a single quote, a backslash or a line break. -/
theorem ofNumberedList_columnType_eq_iff (hdialect : m.dialect = .clickhouse)
    (henum : m.enumOf? col = some e) (hcol : col.isNullable = false) :
    ofNumberedList (columnType m col) = e.values ↔
      ∀ v ∈ e.values, v ≠ "" ∧ '\x27' ∉ v.toList ∧ '\\' ∉ v.toList ∧ '\n' ∉ v.toList := by
  have htype : columnType m col = enumType .clickhouse col e := by
    simp only [columnType, henum, hdialect]
  rw [htype, ofNumberedList_enumType hcol]
  constructor
  · intro heq
    have hbreak : ¬ ∃ v ∈ e.values, '\n' ∈ v.toList := by
      rintro ⟨v, hv, hmem⟩
      rw [if_pos ⟨v, hv, hmem⟩] at heq
      rw [← heq] at hv
      cases hv
    rw [if_neg hbreak] at heq
    -- What is read is a label in any case, so that the values are labels if they are read back.
    have hlabel : ∀ v ∈ e.values, v ≠ "" ∧ '\x27' ∉ v.toList := by
      intro v hv
      rw [← heq] at hv
      obtain ⟨label, hmem, rfl⟩ := List.mem_map.mp hv
      obtain ⟨part, -, hpart⟩ := List.mem_filterMap.mp hmem
      simpa using of_label?_eq_some hpart
    rw [filterMap_label?_numberedValues hlabel, List.map_map] at heq
    have hwritten := List.map_inj_left.mp (heq.trans (List.map_id e.values).symm)
    intro v hv
    refine ⟨(hlabel v hv).1, (hlabel v hv).2, (writtenLabel_eq_iff (hlabel v hv).2).mp ?_,
      fun hmem => hbreak ⟨v, hv, hmem⟩⟩
    simpa using congrArg String.toList (hwritten v hv)
  · intro h
    rw [if_neg fun ⟨v, hv, hmem⟩ => (h v hv).2.2.2 hmem,
      filterMap_label?_numberedValues fun v hv => ⟨(h v hv).1, (h v hv).2.1⟩, List.map_map]
    refine (List.map_congr_left fun v hv => ?_).trans (List.map_id e.values)
    rw [Function.comp, (writtenLabel_eq_iff (h v hv).2.1).mpr (h v hv).2.2.1, String.ofList_toList]
    rfl

/-- A column whose type is an enum type. -/
def statusColumn : Column :=
  .ofType "state" "status"

/-- An enum type of the values. -/
def statusType (values : List String) : EnumType :=
  { schema := "", name := "status", values }

/-- A table of that column. -/
def statusTable (values : List String) : TableModel where
  table := "t"
  columns := [statusColumn]
  enums := [statusType values]
  dialect := .clickhouse

theorem ofNumberedList_columnType_commas :
    (statusTable ["in, progress", "a = 1)"]).enumOf? statusColumn
      = some (statusType ["in, progress", "a = 1)"]) ∧
    ofNumberedList (columnType (statusTable ["in, progress", "a = 1)"]) statusColumn)
      = ["in, progress", "a = 1)"] :=
  ⟨rfl, (ofNumberedList_columnType_eq_iff (e := statusType ["in, progress", "a = 1)"])
    rfl rfl rfl).mpr (by decide)⟩

/-- A quote that is written with a backslash is taken for the end of a label. -/
theorem ofNumberedList_columnType_quote :
    (statusTable ["it\x27s"]).enumOf? statusColumn = some (statusType ["it\x27s"]) ∧
    statusColumn.isNullable = false ∧ (statusType ["it\x27s"]).values.Nodup ∧
    columnType (statusTable ["it\x27s"]) statusColumn = "Enum8(\x27it\\\x27s\x27 = 1)" ∧
    ofNumberedList (columnType (statusTable ["it\x27s"]) statusColumn) = ["s"] ∧
    ofNumberedList (columnType (statusTable ["it\x27s"]) statusColumn)
      ≠ (statusType ["it\x27s"]).values :=
  ⟨rfl, rfl, by decide, by decide +kernel, by decide +kernel, by decide +kernel⟩

end Ddl

end SqlWorkbench
