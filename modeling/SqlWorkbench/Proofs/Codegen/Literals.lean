import Mathlib.Tactic.Common
import SqlWorkbench.Codegen.Naming
import SqlWorkbench.Proofs.Query.Quoting
import SqlWorkbench.Proofs.Query.Tokens

/-!
# Lists of literals are read back

Generated code lists texts between single quotes, with a separator between them and fixed words in
front and behind. The literals of scripts escape with backslashes, those of statements as the engine
has it. Main statement: a list of literals is read back as the texts, in their order, whatever their
characters.
-/

namespace SqlWorkbench

open Text

/-! ### Readers -/

/-- What is read in front of a text, and what follows it. -/
abbrev Reader (α : Type) :=
  List Char → Option (α × List Char)

namespace Reader

variable {α β : Type}

/-- What stands between two fixed texts. -/
def within (opening closing : String) (r : Reader α) : Reader α := fun s => do
  let s ← dropPrefix? opening.toList s
  let (a, s) ← r s
  let s ← dropPrefix? closing.toList s
  some (a, s)

/-- A list of at least one item with a separator between neighbours. A separator that no item
follows is left. -/
def many (r : Reader α) (separator : String) (s : List Char) : Option (List α × List Char) :=
  match r s with
  | none => none
  | some (a, rest) =>
    match dropPrefix? separator.toList rest with
    | none => some ([a], rest)
    | some next =>
      if next.length < s.length then
        match many r separator next with
        | none => some ([a], rest)
        | some (as, left) => some (a :: as, left)
      else some ([a], rest)
termination_by s.length

/-- In front of what follows, the text is read as the value. -/
def Takes (r : Reader α) (text : String) (a : α) (next : List Char) : Prop :=
  r (text.toList ++ next) = some (a, next)

variable {r : Reader α} {text opening closing separator : String} {a : α} {next : List Char}

lemma Takes.read_eq (h : r.Takes text a []) : r text.toList = some (a, []) := by
  rwa [Takes, List.append_nil] at h

lemma dropPrefix?_append (start s : List Char) : dropPrefix? start (start ++ s) = some s :=
  dropPrefix?_eq_some_iff.mpr rfl

lemma Takes.within (h : r.Takes text a (closing.toList ++ next)) (opening : String) :
    (r.within opening closing).Takes (opening ++ text ++ closing) a next := by
  rw [Takes] at h
  rw [Takes, Reader.within]
  simp only [String.toList_append, List.append_assoc, dropPrefix?_append, h, Option.bind_eq_bind,
    Option.bind_some]

lemma many_eq_none (h : r next = none) : many r separator next = none := by
  rw [many, h]

/-- A list is read back if its items are, each in front of what may follow it. -/
lemma takes_joinWith (write : β → String) (mean : β → α) (Follows : List Char → Prop) {bs : List β}
    (hsep : separator ≠ "") (hfollows : ∀ s, Follows (separator.toList ++ s))
    (hitem : ∀ b ∈ bs, ∀ s, Follows s → r.Takes (write b) (mean b) s) (hnext : Follows next)
    (hend : ∀ s, next = separator.toList ++ s → r s = none) (hne : bs ≠ []) :
    Takes (many r separator) (joinWith separator (bs.map write)) (bs.map mean) next := by
  induction bs with
  | nil => exact absurd rfl hne
  | cons b bs ih =>
    rw [List.forall_mem_cons] at hitem
    cases bs with
    | nil =>
      have hread := hitem.1 next hnext
      rw [Takes] at hread
      rw [List.map_singleton, List.map_singleton, joinWith_singleton, Takes, many, hread]
      dsimp only
      split
      · rfl
      · next after hafter =>
        rw [many_eq_none (hend after (dropPrefix?_eq_some_iff.mp hafter)), ite_self]
    | cons b' bs =>
      have hrest := ih hitem.2 (List.cons_ne_nil b' bs)
      rw [List.map_cons, List.map_cons, joinWith_cons_cons, ← List.map_cons]
      generalize hlist : joinWith separator ((b' :: bs).map write) = list at hrest ⊢
      rw [Takes] at hrest
      have hread := hitem.1 (separator.toList ++ (list.toList ++ next)) (hfollows _)
      rw [Takes] at hread
      have hlength : 0 < separator.toList.length := by
        rw [List.length_pos_iff, ne_eq, String.toList_eq_nil_iff]
        exact hsep
      rw [Takes, String.toList_append, String.toList_append, List.append_assoc, List.append_assoc,
        many, hread]
      dsimp only
      rw [dropPrefix?_append]
      dsimp only
      rw [hrest, if_pos]
      · rfl
      · simp only [List.length_append]
        omega

end Reader

/-! ### Lists of literals -/

/-- A separator between literals begins with another character than a literal. -/
def IsSeparator (separator : String) : Prop :=
  ∃ c s, separator.toList = c :: s ∧ c ≠ '\x27'

/-- What follows a list of literals does not go on with it. -/
def EndsList (separator : String) (next : List Char) : Prop :=
  next.head? ≠ some '\x27' ∧ ∀ s, next = separator.toList ++ s → s.head? ≠ some '\x27'

lemma IsSeparator.ne_empty {separator : String} (h : IsSeparator separator) : separator ≠ "" := by
  rintro rfl
  obtain ⟨c, s, hc, -⟩ := h
  cases hc

lemma IsSeparator.head?_append {separator : String} (h : IsSeparator separator) (s : List Char) :
    (separator.toList ++ s).head? ≠ some '\x27' := by
  obtain ⟨c, rest, hc, hquote⟩ := h
  simp [hc, hquote]

lemma isSeparator_comma : IsSeparator ", " :=
  ⟨',', [' '], rfl, by decide⟩

lemma isSeparator_bar : IsSeparator " | " :=
  ⟨' ', ['|', ' '], rfl, by decide⟩

lemma endsList_of_head? {separator : String} {next : List Char} (hquote : next.head? ≠ some '\x27')
    (hsep : ∀ s, next.head? ≠ (separator.toList ++ s).head?) : EndsList separator next :=
  ⟨hquote, fun s hs => absurd (congrArg List.head? hs) (hsep s)⟩

/-! ### Literals of scripts -/

namespace Naming

/-- What a character stands for behind a backslash: some letters for a control character, digits and
two letters for a code, which is not modelled, and any other character for itself. A line break
would go on with the text on the next line. -/
def escape? (c : Char) : Option (List Char) :=
  match c with
  | 'n' => some ['\n']
  | 'r' => some ['\r']
  | 't' => some ['\t']
  | 'b' => some ['\x08']
  | 'f' => some ['\x0c']
  | 'v' => some ['\x0b']
  | 'x' | 'u' => none
  | '\n' | '\r' | '\u2028' | '\u2029' => none
  | c => if c.isDigit then none else some [c]

/-- Texts between single quotes with escapes. -/
def quotation : Quotation where
  opening := '\x27'
  closing := '\x27'
  doubles := false
  escapes := true
  escape? := escape?

/-- A literal, which ends on the line where it begins. -/
def literal : Reader String := fun s =>
  match quotation.read? s with
  | some (body, rest) =>
    if '\n' ∈ s.take (s.length - rest.length) ∨ '\r' ∈ s.take (s.length - rest.length) then none
    else some (String.ofList body, rest)
  | none => none

lemma means_escape {written c : Char} (h : escape? written = some [c]) :
    quotation.Means ['\\', written] c := by
  intro s
  rw [List.cons_append, List.singleton_append, Quotation.readBody, if_neg (by decide),
    if_pos ⟨rfl, rfl⟩, show quotation.escape? written = some [c] from h]
  rfl

/-- Each character is read back as itself, and none is written as a line break. -/
lemma means_escapedChar (c : Char) :
    quotation.Means (escapedChar c) c ∧ '\n' ∉ escapedChar c ∧ '\r' ∉ escapedChar c := by
  by_cases hshort : c ∈ ['\\', '\x27', '\n', '\r', '\t']
  · simp only [List.mem_cons, List.not_mem_nil, or_false] at hshort
    rcases hshort with rfl | rfl | rfl | rfl | rfl <;>
      exact ⟨means_escape rfl, by decide, by decide⟩
  · simp only [List.mem_cons, List.not_mem_nil, or_false, not_or] at hshort
    obtain ⟨hbackslash, hquote, hn, hr, ht⟩ := hshort
    have hchar : escapedChar c = [c] := by
      simp [escapedChar, hbackslash, hquote, hn, hr, ht]
    rw [hchar]
    refine ⟨Quotation.means_plain hquote fun _ => hbackslash, ?_, ?_⟩
    · simpa using Ne.symm hn
    · simpa using Ne.symm hr

lemma toList_singleQuoted (v : String) :
    (singleQuoted v).toList = '\x27' :: v.toList.flatMap escapedChar ++ ['\x27'] := by
  simp [singleQuoted]

/-- A text between single quotes is read back as what was quoted. -/
lemma takes_singleQuoted (v : String) {next : List Char} (hnext : next.head? ≠ some '\x27') :
    literal.Takes (singleQuoted v) v next := by
  have hread : quotation.read? ((singleQuoted v).toList ++ next) = some (v.toList, next) := by
    rw [toList_singleQuoted]
    exact Quotation.read?_flatMap (fun c => (means_escapedChar c).1) hnext v.toList
  have htake : ((singleQuoted v).toList ++ next).take
      (((singleQuoted v).toList ++ next).length - next.length) = (singleQuoted v).toList := by
    rw [List.length_append, Nat.add_sub_cancel, List.take_left]
  have hbreak : ¬ ('\n' ∈ (singleQuoted v).toList ∨ '\r' ∈ (singleQuoted v).toList) := by
    simp [toList_singleQuoted, means_escapedChar]
  rw [Reader.Takes, literal, hread]
  dsimp only
  rw [htake, if_neg hbreak, String.ofList_toList]

lemma literal_eq_none {s : List Char} (hs : s.head? ≠ some '\x27') : literal s = none := by
  have hread : quotation.read? s = none := by
    cases s with
    | nil => rfl
    | cons c s => exact if_neg fun hc => hs (congrArg some hc)
  rw [literal, hread]

/-- A list of literals is read back as the texts. -/
lemma takes_literals {separator : String} {values : List String} {next : List Char}
    (hsep : IsSeparator separator) (hnext : EndsList separator next) (hne : values ≠ []) :
    Reader.Takes (literal.many separator) (joinWith separator (values.map singleQuoted)) values
      next := by
  have hlist := Reader.takes_joinWith singleQuoted id (fun s => s.head? ≠ some '\x27') hsep.ne_empty
    hsep.head?_append (fun v _ s hs => takes_singleQuoted v hs) hnext.1
    (fun s hs => literal_eq_none (hnext.2 s hs)) hne
  rwa [List.map_id] at hlist

end Naming

/-! ### Literals of statements -/

namespace Dialect

/-- A literal as the engine reads it. -/
def textLiteral (d : Dialect) : Reader String := fun s =>
  (d.textQuotation.read? s).map (Prod.map String.ofList id)

/-- A literal with a number behind a sign of equality. -/
def numberedLiteral (d : Dialect) : Reader (String × Nat) := fun s => do
  let (v, s) ← d.textLiteral s
  let s ← dropPrefix? " = ".toList s
  let digits := s.takeWhile Char.isDigit
  if digits.isEmpty then none
  else some ((v, Nat.ofDigitChars 10 digits 0), s.dropWhile Char.isDigit)

variable {d : Dialect} {next : List Char}

lemma takes_quoteText (v : String) (hnext : next.head? ≠ some '\x27') :
    d.textLiteral.Takes (d.quoteText v) v next := by
  rw [Reader.Takes, textLiteral, toList_quoteText, read?_quotedText v.toList hnext]
  simp

lemma textLiteral_eq_none {s : List Char} (hs : s.head? ≠ some '\x27') :
    d.textLiteral s = none := by
  have hread : d.textQuotation.read? s = none := by
    cases s with
    | nil => rfl
    | cons c s => exact if_neg fun hc => hs (congrArg some hc)
  rw [textLiteral, hread]
  rfl

/-- A list of literals is read back as the texts. -/
lemma takes_textLiterals {separator : String} {values : List String}
    (hsep : IsSeparator separator) (hnext : EndsList separator next) (hne : values ≠ []) :
    Reader.Takes (d.textLiteral.many separator) (joinWith separator (values.map d.quoteText)) values
      next := by
  have hlist := Reader.takes_joinWith d.quoteText id (fun s => s.head? ≠ some '\x27') hsep.ne_empty
    hsep.head?_append (fun v _ s hs => takes_quoteText v hs) hnext.1
    (fun s hs => textLiteral_eq_none (hnext.2 s hs)) hne
  rwa [List.map_id] at hlist

lemma takes_numbered (v : String) (n : Nat)
    (hnext : ∀ c, next.head? = some c → c.isDigit = false) :
    d.numberedLiteral.Takes (d.quoteText v ++ " = " ++ toString n) (v, n) next := by
  have hread : d.textLiteral.Takes (d.quoteText v) v
      (" = ".toList ++ (toString n).toList ++ next) := takes_quoteText v (by simp)
  have hdigits : ∀ c ∈ Nat.toDigits 10 n, c.isDigit = true := fun c => isDigit_of_mem_toDigits
  have hhead : ∀ c, next.head? = some c → ¬ c.isDigit = true := fun c hc => by simp [hnext c hc]
  have htake : (Nat.toDigits 10 n ++ next).takeWhile Char.isDigit = Nat.toDigits 10 n := by
    rw [List.takeWhile_append_of_pos hdigits]
    cases next with
    | nil => simp
    | cons c next => rw [List.takeWhile_cons_of_neg (hhead c rfl), List.append_nil]
  have hdrop : (Nat.toDigits 10 n ++ next).dropWhile Char.isDigit = next := by
    rw [List.dropWhile_append_of_pos hdigits]
    cases next with
    | nil => simp
    | cons c next => rw [List.dropWhile_cons_of_neg (hhead c rfl)]
  rw [Reader.Takes, toList_toString_nat, List.append_assoc] at hread
  rw [Reader.Takes, String.toList_append, String.toList_append, List.append_assoc,
    List.append_assoc, toList_toString_nat, numberedLiteral]
  simp only [hread, Option.bind_eq_bind, Option.bind_some, Reader.dropPrefix?_append, htake, hdrop]
  simp [Nat.toDigits_ne_nil, Nat.ofDigitChars_toDigits]

end Dialect

end SqlWorkbench
