import Mathlib.Tactic.Common
import SqlWorkbench.Proofs.Text.CharacterClasses
import SqlWorkbench.Schema.EnumLabels

/-!
# Quoted labels are read back

MySQL tells the labels of an enum or a set only in the text of a column type: each label between
single quotes, with the quotes in it doubled, and commas between the labels. Main statement: such a
text is read back as the labels in it, whatever characters they have.
-/

namespace SqlWorkbench.EnumLabels

open Text

variable {p q label : List Char}

/-! ### Taking a list apart -/

/-- Quotes in the text are closed in it, and commas stand between them only. -/
def Whole (p : List Char) : Prop :=
  ∀ rest part, splitList.go (p ++ rest) part false = splitList.go rest (p.reverse ++ part) false

lemma whole_of_not_mem (hquote : '\x27' ∉ p) (hcomma : ',' ∉ p) : Whole p := by
  induction p with
  | nil => exact fun rest part => rfl
  | cons c p ih =>
    simp only [List.mem_cons, not_or] at hquote hcomma
    intro rest part
    rw [List.cons_append, splitList.go, if_neg (Ne.symm hquote.1),
      if_neg fun h => hcomma.1 h.1.symm, ih hquote.2 hcomma.2, List.reverse_cons, List.append_assoc,
      List.singleton_append]

lemma Whole.append (hp : Whole p) (hq : Whole q) : Whole (p ++ q) := by
  intro rest part
  rw [List.append_assoc, hp, hq, List.reverse_append, List.append_assoc]

lemma Whole.splitList_append_comma (hp : Whole p) (rest : List Char) :
    splitList (p ++ ',' :: rest) = p :: splitList rest := by
  rw [splitList, hp, splitList.go, if_neg (by decide), if_pos (by decide), splitList,
    List.append_nil, List.reverse_reverse]

lemma Whole.splitList_eq (hp : Whole p) : splitList p = [p] := by
  have h := hp [] []
  rw [List.append_nil, List.append_nil] at h
  rw [splitList, h, splitList.go, List.reverse_reverse]

/-- A list is taken apart into the pieces that it is put together from. -/
lemma splitList_joinWith {pieces : List String} (hne : pieces ≠ [])
    (h : ∀ p ∈ pieces, Whole p.toList) :
    splitList (joinWith "," pieces).toList = pieces.map String.toList := by
  fun_induction joinWith "," pieces with
  | case1 => exact absurd rfl hne
  | case2 piece => rw [(h piece (by simp)).splitList_eq, List.map_singleton]
  | case3 piece next rest ih =>
    obtain ⟨hpiece, hrest⟩ := List.forall_mem_cons.mp h
    have hcomma (s : List Char) : ",".toList ++ s = ',' :: s := rfl
    rw [String.toList_append, String.toList_append, List.append_assoc, hcomma,
      hpiece.splitList_append_comma, ih (by simp) hrest]
    rfl

/-! ### Labels between quotes -/

/-- A label between single quotes, with the quotes in it doubled. -/
def quoted (label : List Char) : List Char :=
  '\x27' :: replaceChar '\x27' ['\x27', '\x27'] label ++ ['\x27']

/-- A doubled quote closes the region and opens it again at once, so that a comma in the label
always stands in the region. -/
lemma go_replaceChar (label rest part : List Char) :
    splitList.go (replaceChar '\x27' ['\x27', '\x27'] label ++ rest) part true
      = splitList.go rest ((replaceChar '\x27' ['\x27', '\x27'] label).reverse ++ part) true := by
  induction label generalizing part with
  | nil => rfl
  | cons c label ih =>
    rw [replaceChar_cons]
    split
    · next hc =>
      rw [List.append_assoc, List.cons_append, List.singleton_append, splitList.go, if_pos rfl,
        Bool.not_true, splitList.go, if_pos rfl, Bool.not_false, ih]
      simp
    · next hc =>
      have hsplit : ¬ (c = ',' ∧ (!true) = true) := fun h => absurd h.2 (by decide)
      rw [List.append_assoc, List.singleton_append, splitList.go, if_neg hc, if_neg hsplit, ih]
      simp

lemma whole_quoted (label : List Char) : Whole (quoted label) := by
  intro rest part
  rw [quoted, List.append_assoc, List.cons_append, splitList.go, if_pos rfl, Bool.not_false,
    go_replaceChar, List.singleton_append, splitList.go, if_pos rfl, Bool.not_true]
  simp

lemma undouble_cons {c : Char} (hc : c ≠ '\x27') (s : List Char) :
    undouble (c :: s) = c :: undouble s := by
  rw [undouble]
  exact fun rest h => absurd h hc

lemma undouble_replaceChar (label : List Char) :
    undouble (replaceChar '\x27' ['\x27', '\x27'] label) = label := by
  induction label with
  | nil => rfl
  | cons c label ih =>
    rw [replaceChar_cons]
    split
    · next hc => rw [List.cons_append, List.singleton_append, undouble, ih, hc]
    · next hc => rw [List.singleton_append, undouble_cons hc, ih]

/-- The outer quotes are taken away one by one, whatever quotes stand beside them. -/
lemma unquote_quoted {before behind : List Char} (hbefore : IsBlanks before)
    (hbehind : IsBlanks behind) (label : List Char) :
    unquote (before ++ quoted label ++ behind) = label := by
  have hquote : isBlank '\x27' = false := by decide
  have hhead : ∀ c ∈ (quoted label ++ behind).head?, isBlank c = false := by simp [quoted, hquote]
  have hlast : ∀ c ∈ (quoted label).getLast?, isBlank c = false := by
    rw [quoted, List.getLast?_concat]
    simp [hquote]
  have htrim : trim (before ++ quoted label ++ behind) = quoted label := by
    rw [trim, trimStart, List.append_assoc, List.dropWhile_append_of_pos hbefore, ← trimStart,
      trimStart_eq_self hhead, trimEnd_append_of_isBlanks hbehind, trimEnd_eq_self hlast]
  rw [unquote, htrim, quoted, List.cons_append, dropFirstIf, if_pos rfl, dropLastIf,
    if_pos (by simp), List.dropLast_concat, undouble_replaceChar]

/-! ### Types that list their labels -/

/-- A label of a list, and the blanks that stand around it. -/
structure Entry where
  label : String
  before : List Char := []
  behind : List Char := []
  blanks_before : before.all isBlank = true := by decide
  blanks_behind : behind.all isBlank = true := by decide

/-- An entry as it is written. -/
def Entry.text (e : Entry) : String :=
  String.ofList (e.before ++ quoted e.label.toList ++ e.behind)

/-- The type that a word and the labels in parentheses behind it make. -/
def listedType (word : String) (entries : List Entry) : String :=
  word ++ "(" ++ joinWith "," (entries.map Entry.text) ++ ")"

lemma Entry.whole_text (e : Entry) : Whole e.text.toList := by
  have hblanks {s : List Char} (hs : s.all isBlank = true) : Whole s := by
    rw [List.all_eq_true] at hs
    exact whole_of_not_mem (fun h => absurd (hs _ h) (by decide))
      fun h => absurd (hs _ h) (by decide)
  rw [text, String.toList_ofList]
  exact ((hblanks e.blanks_before).append (whole_quoted _)).append (hblanks e.blanks_behind)

lemma Entry.unquote_text (e : Entry) : String.ofList (unquote e.text.toList) = e.label := by
  have hbefore : IsBlanks e.before := List.all_eq_true.mp e.blanks_before
  have hbehind : IsBlanks e.behind := List.all_eq_true.mp e.blanks_behind
  rw [text, String.toList_ofList, unquote_quoted hbefore hbehind, String.ofList_toList]

/-- A text with entries has characters, at least the quotes of the first label. -/
lemma joinWith_text_eq_nil_iff (entries : List Entry) :
    (joinWith "," (entries.map Entry.text)).toList = [] ↔ entries = [] := by
  match entries with
  | [] => simp
  | [e] => simp [Entry.text, quoted]
  | e :: next :: rest => simp [joinWith_cons_cons]

/-- Only the word and the parentheses around the list are taken away. -/
lemma body_append {word : List Char} (hword : toAsciiLower word = "enum".toList ∨
    toAsciiLower word = "set".toList) (inside : List Char) :
    body (word ++ '(' :: inside ++ [')']) = inside := by
  have hlower : toAsciiLower (word ++ '(' :: (inside ++ [')']))
      = toAsciiLower word ++ '(' :: toAsciiLower (inside ++ [')']) := by
    rw [toAsciiLower, List.map_append, List.map_cons]
    rfl
  have hlength : word.length = (toAsciiLower word).length := (List.length_map _).symm
  have hdrop (s : List Char) (n : Nat) (hn : n = word.length + 1) :
      (word ++ '(' :: s).drop n = s := by
    rw [hn, ← List.drop_drop, List.drop_left]
    rfl
  rw [body, List.append_assoc, List.cons_append, hlower]
  rcases hword with hword | hword
  · rw [hword] at hlength ⊢
    simp [dropPrefix?, hdrop _ 5 (by rw [hlength]; rfl), dropLastIf]
  · rw [hword] at hlength ⊢
    simp [dropPrefix?, hdrop _ 4 (by rw [hlength]; rfl), dropLastIf]

/-- A type `enum(…)` or `set(…)`, its word in any case of the letters, is read back as the labels
that it lists. -/
theorem ofQuotedList_listedType {word : String}
    (hword : toAsciiLower word.toList = "enum".toList ∨ toAsciiLower word.toList = "set".toList)
    (entries : List Entry) :
    ofQuotedList (listedType word entries) = entries.map Entry.label := by
  have htext : (listedType word entries).toList
      = word.toList ++ '(' :: (joinWith "," (entries.map Entry.text)).toList ++ [')'] := by
    simp [listedType]
  rw [ofQuotedList, htext, body_append hword]
  by_cases hentries : entries = []
  · simp [hentries]
  · have hinside := mt (joinWith_text_eq_nil_iff entries).mp hentries
    have hwhole : ∀ p ∈ entries.map Entry.text, Whole p.toList := by
      intro p hp
      obtain ⟨e, -, rfl⟩ := List.mem_map.mp hp
      exact e.whole_text
    rw [if_neg (by simpa using hinside), splitList_joinWith (by simpa using hentries) hwhole,
      List.map_map, List.map_map]
    exact List.map_congr_left fun e _ => e.unquote_text

/-- An empty label, one of quotes only, and labels with whatever else ends a label or a list. -/
theorem ofQuotedList_listedType_quotes :
    ofQuotedList "eNuM('' ,\t'''''','a'',b)' ,\n' it''s\n')" = ["", "''", "a',b)", " it's\n"] := by
  have htext : listedType "eNuM" [{ label := "", behind := [' '] },
      { label := "''", before := ['\t'] }, { label := "a',b)", behind := [' '] },
      { label := " it's\n", before := ['\n'] }]
        = "eNuM('' ,\t'''''','a'',b)' ,\n' it''s\n')" := by decide
  rw [← htext]
  exact ofQuotedList_listedType (.inl (by decide)) _

end SqlWorkbench.EnumLabels
