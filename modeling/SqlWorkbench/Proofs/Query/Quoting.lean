import Mathlib.Tactic.Common
import SqlWorkbench.Dialect

/-!
# Quoted tokens are read back

An engine reads a quoted token up to its closing character. Where the closing character may stand
twice for itself, or behind a backslash, it does not end the token. Main statement: in every dialect
a quoted text or name is read back as what was quoted, and what follows it is left; and a dotted
path is read back as its parts that are not empty.
-/

namespace SqlWorkbench

/-! ### Reading -/

/-- How an engine reads a quoted token. -/
structure Quotation where
  opening : Char
  closing : Char
  /-- The closing character twice stands for one. -/
  doubles : Bool
  /-- A backslash takes the character behind it along. -/
  escapes : Bool
  /-- What the two stand for, where they may stand. -/
  escape? : Char → Option (List Char)

namespace Quotation

/-- What stands between the quotes, behind the opening one, and what follows the token. -/
def readBody (q : Quotation) : List Char → Option (List Char × List Char)
  | [] => none
  | [c] => if c = q.closing then some ([], []) else none
  | c :: d :: rest =>
    if c = q.closing then
      if q.doubles ∧ d = q.closing then (q.readBody rest).map (Prod.map (c :: ·) id)
      else some ([], d :: rest)
    else if q.escapes ∧ c = '\\' then
      match q.escape? d with
      | some meant => (q.readBody rest).map (Prod.map (meant ++ ·) id)
      | none => none
    else (q.readBody (d :: rest)).map (Prod.map (c :: ·) id)

/-- The inside of the quoted token in front of a text, and what follows the token. -/
def read? (q : Quotation) : List Char → Option (List Char × List Char)
  | [] => none
  | c :: rest => if c = q.opening then q.readBody rest else none

end Quotation

namespace Dialect

/-- What a character and the backslash in front of it stand for: some letters for a control
character, and what is no escape for itself, in ClickHouse with its backslash. -/
def escape? : Dialect → Char → Option (List Char)
  | mysql, c =>
    match c with
    | '0' => some ['\x00']
    | 'b' => some ['\x08']
    | 'n' => some ['\n']
    | 'r' => some ['\r']
    | 't' => some ['\t']
    | 'Z' => some ['\x1a']
    | '%' => some ['\\', '%']
    | '_' => some ['\\', '_']
    | c => some [c]
  | clickhouse, c =>
    match c with
    | '0' => some ['\x00']
    | 'a' => some ['\x07']
    | 'b' => some ['\x08']
    | 'f' => some ['\x0c']
    | 'n' => some ['\n']
    | 'r' => some ['\r']
    | 't' => some ['\t']
    | 'v' => some ['\x0b']
    -- A byte in hexadecimal digits, which is not modelled.
    | 'x' => none
    | '\\' | '\x27' | '"' | '\x60' | '/' => some [c]
    | c => some ['\\', c]
  | _, _ => none

/-- Texts: between single quotes, which are doubled except where only backslashes escape. -/
def textQuotation (d : Dialect) : Quotation where
  opening := '\x27'
  closing := '\x27'
  doubles := d ≠ clickhouse
  escapes := d = mysql ∨ d = clickhouse
  escape? := d.escape?

/-- Names: the closing character is doubled, and a backslash is a character like any other. -/
def nameQuotation (d : Dialect) : Quotation where
  opening := d.openQuote
  closing := d.closeQuote
  doubles := true
  escapes := false
  escape? := fun _ => none

end Dialect

namespace Quotation

variable {q : Quotation} {c : Char} {s r : List Char}

lemma length_readBody {body left : List Char} (h : q.readBody s = some (body, left)) :
    left.length < s.length := by
  fun_induction q.readBody s generalizing body with
  | case1 => cases h
  | case2 =>
    cases h
    simp
  | case3 => cases h
  | case4 d rest hd ih =>
    obtain ⟨⟨inner, after⟩, hinner, heq⟩ := Option.map_eq_some_iff.mp h
    obtain ⟨-, rfl⟩ := Prod.mk.inj heq
    have := ih hinner
    simp only [List.length_cons]
    omega
  | case5 d rest hd =>
    cases h
    simp
  | case6 c d rest hc hescapes meant hmeant ih =>
    obtain ⟨⟨inner, after⟩, hinner, heq⟩ := Option.map_eq_some_iff.mp h
    obtain ⟨-, rfl⟩ := Prod.mk.inj heq
    have := ih hinner
    simp only [List.length_cons]
    omega
  | case7 => cases h
  | case8 c d rest hc hescapes ih =>
    obtain ⟨⟨inner, after⟩, hinner, heq⟩ := Option.map_eq_some_iff.mp h
    obtain ⟨-, rfl⟩ := Prod.mk.inj heq
    have := ih hinner
    simp only [List.length_cons] at this ⊢
    omega

lemma length_read? {body left : List Char} (h : q.read? s = some (body, left)) :
    left.length < s.length := by
  cases s with
  | nil => cases h
  | cons c s =>
    rw [read?] at h
    split at h
    · have := length_readBody h
      simp only [List.length_cons]
      omega
    · cases h

end Quotation

namespace Dialect

/-- The names of a dotted path, at least one. -/
def readNames? (d : Dialect) (s : List Char) : Option (List (List Char)) :=
  match _h : d.nameQuotation.read? s with
  | none => none
  | some (name, []) => some [name]
  | some (name, c :: rest) => if c = '.' then (d.readNames? rest).map (name :: ·) else none
termination_by s.length
decreasing_by
  have hlength := Quotation.length_read? _h
  simp only [List.length_cons] at hlength
  omega

/-- The names of a dotted path; an empty path has none. -/
def readPath? (d : Dialect) (s : List Char) : Option (List (List Char)) :=
  if s.isEmpty then some [] else d.readNames? s

end Dialect

/-! ### Reading what was written -/

namespace Quotation

variable {q : Quotation} {c : Char} {s r : List Char}

/-- The characters are read as `c`, whatever follows. -/
def Means (q : Quotation) (written : List Char) (c : Char) : Prop :=
  ∀ s, q.readBody (written ++ s) = (q.readBody s).map (Prod.map (c :: ·) id)

lemma means_plain (hc : c ≠ q.closing) (hescapes : q.escapes = true → c ≠ '\\') :
    q.Means [c] c := by
  intro s
  cases s with
  | nil => simp [readBody, hc]
  | cons d s =>
    have hplain : ¬ (q.escapes = true ∧ c = '\\') := fun h => hescapes h.1 h.2
    rw [List.singleton_append, readBody, if_neg hc, if_neg hplain]

lemma means_doubled (hdoubles : q.doubles = true) : q.Means [q.closing, q.closing] q.closing := by
  intro s
  rw [List.cons_append, List.singleton_append, readBody, if_pos rfl, if_pos ⟨hdoubles, rfl⟩]

lemma means_escaped (hclosing : '\\' ≠ q.closing) (hescapes : q.escapes = true)
    (hc : q.escape? c = some [c]) : q.Means ['\\', c] c := by
  intro s
  rw [List.cons_append, List.singleton_append, readBody, if_neg hclosing, if_pos ⟨hescapes, rfl⟩,
    hc]
  rfl

lemma readBody_closing (hr : r.head? ≠ some q.closing) :
    q.readBody (q.closing :: r) = some ([], r) := by
  cases r with
  | nil => simp [readBody]
  | cons d r =>
    have hd : ¬ (q.doubles = true ∧ d = q.closing) := by
      rintro ⟨-, rfl⟩
      exact hr rfl
    rw [readBody, if_pos rfl, if_neg hd]

/-- Characters that are written one by one are read back one by one. -/
lemma readBody_flatMap {write : Char → List Char} (hwrite : ∀ c, q.Means (write c) c)
    (hr : r.head? ≠ some q.closing) (s : List Char) :
    q.readBody (s.flatMap write ++ q.closing :: r) = some (s, r) := by
  induction s with
  | nil => exact readBody_closing hr
  | cons c s ih =>
    rw [List.flatMap_cons, List.append_assoc, hwrite c, ih]
    rfl

lemma read?_flatMap {write : Char → List Char} (hwrite : ∀ c, q.Means (write c) c)
    (hr : r.head? ≠ some q.closing) (s : List Char) :
    q.read? (q.opening :: s.flatMap write ++ [q.closing] ++ r) = some (s, r) := by
  rw [List.cons_append, List.cons_append, List.append_assoc, List.singleton_append, read?,
    if_pos rfl, readBody_flatMap hwrite hr]

end Quotation

namespace Dialect

open Text

variable {d : Dialect} {r : List Char}

/-- Each character of a quoted text is read back as itself. -/
lemma means_quotedChar (d : Dialect) (c : Char) :
    d.textQuotation.Means (d.quotedChar c) c := by
  by_cases hquote : c = '\x27'
  · subst hquote
    cases d with
    | clickhouse => exact Quotation.means_escaped (by decide) rfl rfl
    | _ => exact Quotation.means_doubled (q := textQuotation _) rfl
  · by_cases hbackslash : c = '\\'
    · subst hbackslash
      cases d with
      | mysql | clickhouse => exact Quotation.means_escaped (by decide) rfl rfl
      | _ => exact Quotation.means_plain (by decide) (by decide)
    · have hchar : d.quotedChar c = [c] := by
        cases d <;> simp [quotedChar, hquote, hbackslash]
      rw [hchar]
      exact Quotation.means_plain hquote fun _ => hbackslash

lemma read?_quotedText (s : List Char) (hr : r.head? ≠ some '\x27') :
    d.textQuotation.read? (d.quotedText s ++ r) = some (s, r) :=
  Quotation.read?_flatMap (means_quotedChar d) hr s

/-- Each character of a quoted name is read back as itself. -/
lemma means_nameChar (d : Dialect) (c : Char) : d.nameQuotation.Means
    (if c = d.closeQuote then [d.closeQuote, d.closeQuote] else [c]) c := by
  split
  · next hc =>
    subst hc
    exact Quotation.means_doubled (q := d.nameQuotation) rfl
  · next hc => exact Quotation.means_plain hc (by simp [nameQuotation])

lemma read?_quotedName (name : List Char) (hr : r.head? ≠ some d.closeQuote) :
    d.nameQuotation.read? (d.quotedName name ++ r) = some (name, r) :=
  Quotation.read?_flatMap (means_nameChar d) hr name

/-! ### Paths -/

lemma readNames?_quotedName (name : List Char) :
    d.readNames? (d.quotedName name) = some [name] := by
  have hread := read?_quotedName (d := d) (r := []) name (by simp)
  rw [List.append_nil] at hread
  rw [readNames?]
  split <;> simp_all

lemma readNames?_quotedName_cons (name s : List Char) :
    d.readNames? (d.quotedName name ++ '.' :: s) = (d.readNames? s).map (name :: ·) := by
  have hpoint : ('.' :: s).head? ≠ some d.closeQuote := by
    cases d <;> simp [closeQuote]
  have hread := read?_quotedName name hpoint
  rw [readNames?]
  split <;> simp_all

/-- A path of names is read back name by name. -/
lemma readPath?_joinWith (names : List String) :
    d.readPath? (joinWith "." (names.map d.quoteName)).toList
      = some (names.map String.toList) := by
  have hnonempty (name s : List Char) :
      d.readPath? (d.quotedName name ++ s) = d.readNames? (d.quotedName name ++ s) := by
    simp [readPath?, quotedName]
  induction names with
  | nil => rfl
  | cons name names ih =>
    cases names with
    | nil =>
      have hread := hnonempty name.toList []
      rw [List.append_nil] at hread
      simp [hread, readNames?_quotedName]
    | cons next rest =>
      have htail : (joinWith "." ((next :: rest).map d.quoteName)).toList ≠ [] := by
        cases rest <;> simp [joinWith, quotedName]
      rw [readPath?, if_neg (by simpa using htail)] at ih
      rw [List.map_cons, List.map_cons, joinWith_cons_cons, ← List.map_cons, String.toList_append,
        String.toList_append, toList_quoteName, List.append_assoc, hnonempty]
      have hpoint (s : List Char) : ".".toList ++ s = '.' :: s := rfl
      rw [hpoint, readNames?_quotedName_cons, ih]
      rfl

/-- In every dialect a quoted text and a quoted name are read back as what was quoted, with what
follows them left, unless that begins with the closing character; and a path is read back as its
parts that are not empty. -/
theorem read?_quoted (d : Dialect) :
    (∀ (s : String) (r : List Char), r.head? ≠ some d.textQuotation.closing →
      d.textQuotation.read? ((d.quoteText s).toList ++ r) = some (s.toList, r)) ∧
    (∀ (name : String) (r : List Char), r.head? ≠ some d.nameQuotation.closing →
      d.nameQuotation.read? ((d.quoteName name).toList ++ r) = some (name.toList, r)) ∧
    ∀ parts : List String, d.readPath? (d.quotePath parts).toList
      = some ((parts.filter fun p => !p.isEmpty).map String.toList) := by
  refine ⟨fun s r hr => ?_, fun name r hr => ?_, fun parts => readPath?_joinWith _⟩
  · rw [toList_quoteText]
    exact read?_quotedText s.toList hr
  · rw [toList_quoteName]
    exact read?_quotedName name.toList hr

/-- A text of a quote between backslashes, a name of closing brackets, and a path with an empty part
and with a point within a name. -/
theorem read?_quoted_closing :
    mysql.textQuotation.read? ((mysql.quoteText "\\\x27\\").toList ++ [';'])
        = some ("\\\x27\\".toList, [';']) ∧
      mssql.nameQuotation.read? ((mssql.quoteName "a]]").toList ++ ['.', ']'])
        = some ("a]]".toList, ['.', ']']) ∧
      postgres.readPath? (postgres.quotePath ["", "a.\"b", "c"]).toList
        = some ["a.\"b".toList, "c".toList] :=
  ⟨(read?_quoted mysql).1 _ _ (by decide), (read?_quoted mssql).2.1 _ _ (by decide),
    (read?_quoted postgres).2.2 _⟩

end Dialect

end SqlWorkbench
