import SqlWorkbench.Codegen.Drizzle
import SqlWorkbench.Proofs.Codegen.Literals
import SqlWorkbench.Proofs.Codegen.NameCharacters

/-!
# Outlines of modules

A module is read without knowing how it was made: its text is cut into words, quoted texts and
marks, these into statements, and of a statement is told what it imports, or what it declares, which
functions it calls and to which tables it links. Main statement: what is read of texts put together
is what is read of each of them.
-/

namespace SqlWorkbench.Drizzle

open Naming

/-! ### Tokens -/

/-- A token of a module. -/
inductive Token where
  | word (s : String)
  /-- A text between quotes. -/
  | text (s : String)
  | mark (c : Char)
deriving DecidableEq

/-- What the end of the text read so far lies in, with what has been read of it. -/
inductive Place where
  /-- A word; between tokens nothing has been read of one. -/
  | word (s : List Char)
  | text (s : List Char)
  /-- Behind a backslash of a quoted text. -/
  | escape (s : List Char)
deriving DecidableEq

/-- The word that has been read, if one has. -/
def wordOf (s : List Char) : List Token :=
  if s.isEmpty then [] else [.word (String.ofList s)]

/-- The mark that a character is, if it is one: not a blank, and not a quote. -/
def markOf (c : Char) : List Token :=
  if c = '\x27' ∨ Text.isBlank c = true then [] else [.mark c]

/-- The tokens that end before or with the next character, and the place behind it. -/
def Place.next (c : Char) : Place → List Token × Place
  | .word s =>
    if isNameChar c then ([], .word (s ++ [c]))
    else (wordOf s ++ markOf c, if c = '\x27' then .text [] else .word [])
  | .text s =>
    if c = '\\' then ([], .escape s)
    else if c = '\x27' then ([.text (String.ofList s)], .word [])
    else ([], .text (s ++ [c]))
  | .escape s => ([], .text (s ++ (escape? c).getD [c]))

/-- The tokens that end within a text, and the place behind it. -/
def scan (p : Place) : List Char → List Token × Place
  | [] => ([], p)
  | c :: s =>
    let first := p.next c
    let rest := scan first.2 s
    (first.1 ++ rest.1, rest.2)

/-- The tokens of a text. -/
def tokens (code : String) : List Token :=
  (scan (.word []) code.toList).1

/-! ### Statements -/

/-- The statements, each up to its semicolon. -/
def statements (current : List Token) : List Token → List (List Token)
  | [] => if current.isEmpty then [] else [current]
  | t :: rest =>
    if t = .mark ';' then current :: statements [] rest else statements (current ++ [t]) rest

/-- The functions that are called: the words in front of a parenthesis, those behind a point apart,
which belong to what stands in front of them. -/
def calls (behindPoint : Bool) : List Token → List String
  | [] => []
  | .word f :: rest =>
    if behindPoint = false ∧ rest.head? = some (.mark '(') then f :: calls false rest
    else calls false rest
  | .mark c :: rest => calls (c == '.') rest
  | .text _ :: rest => calls false rest

/-- The table that a link at the beginning of the tokens leads to. -/
def targetAt? : List Token → Option String
  | .word "references" :: .mark '(' :: .mark '(' :: .mark ')' :: .mark '=' :: .mark '>' ::
      .word v :: _ => some v
  | .word "one" :: .mark '(' :: .word v :: _ => some v
  | .word "many" :: .mark '(' :: .word v :: _ => some v
  | _ => none

/-- The tables that links lead to. -/
def targets : List Token → List String
  | [] => []
  | t :: rest => (targetAt? (t :: rest)).toList ++ targets rest

/-- An import: names from a module. -/
structure Import where
  names : List String
  path : String
deriving DecidableEq

/-- A definition: a variable, the function that makes its value, and what the call of this function
uses. -/
structure Definition where
  var : String
  function : String
  calls : List String
  targets : List String
deriving DecidableEq

/-- Names between commas up to a brace, and what follows. -/
def names? : List Token → Option (List String × List Token)
  | .word n :: .mark ',' :: rest => (names? rest).map fun p => (n :: p.1, p.2)
  | .word n :: .mark '\x7d' :: rest => some ([n], rest)
  | _ => none

/-- The import that a statement is. -/
def Import.read? : List Token → Option Import
  | .word "import" :: .mark '\x7b' :: rest =>
    match names? rest with
    | some (names, [.word "from", .text path]) => some ⟨names, path⟩
    | _ => none
  | _ => none

/-- The definition that a statement is. -/
def Definition.read? : List Token → Option Definition
  | .word "export" :: .word "const" :: .word v :: .mark '=' :: .word f :: .mark '(' :: body =>
    some ⟨v, f, Drizzle.calls false body, Drizzle.targets body⟩
  | _ => none

/-- What a module imports and defines. -/
structure Outline where
  imports : List Import
  definitions : List Definition
deriving DecidableEq

/-- The statement begins like an import. -/
def beginsImport (statement : List Token) : Bool :=
  statement.head? == some (.word "import")

/-- The outline of a module: imports, then definitions, and nothing else. -/
def Outline.read? (code : String) : Option Outline := do
  let parts := statements [] (tokens code)
  let imports ← (parts.takeWhile beginsImport).mapM Import.read?
  let definitions ← (parts.dropWhile beginsImport).mapM Definition.read?
  some ⟨imports, definitions⟩

/-! ### Texts put together -/

lemma scan_append (p : Place) (s t : List Char) : scan p (s ++ t)
    = ((scan p s).1 ++ (scan (scan p s).2 t).1, (scan (scan p s).2 t).2) := by
  induction s generalizing p with
  | nil => rfl
  | cons c s ih => simp only [List.cons_append, scan, ih, List.append_assoc]

/-- The text has these tokens, wherever between tokens it stands. -/
def Lexes (s : String) (ts : List Token) : Prop :=
  scan (.word []) s.toList = (ts, .word [])

variable {s t w d v : String} {ts us : List Token}

lemma Lexes.append (hs : Lexes s ts) (ht : Lexes t us) : Lexes (s ++ t) (ts ++ us) := by
  rw [Lexes] at hs ht ⊢
  rw [String.toList_append, scan_append, hs, ht]

lemma lexes_empty : Lexes "" [] := rfl

/-- The text begins with a character that no name has. -/
def StartsApart (s : String) : Prop :=
  ∃ c ∈ s.toList.head?, isNameChar c = false

instance (s : String) : Decidable (StartsApart s) :=
  decidable_of_iff (s.toList.head?.any fun c => isNameChar c = false)
    (by simp [StartsApart, Option.any_eq_true])

lemma mem_head?_append {c : Char} (h : c ∈ s.toList.head?) (t : String) :
    c ∈ (s ++ t).toList.head? := by
  rw [Option.mem_def] at h ⊢
  rw [String.toList_append, List.head?_append, h, Option.some_or]

lemma StartsApart.append (h : StartsApart s) (t : String) : StartsApart (s ++ t) := by
  obtain ⟨c, hc, hname⟩ := h
  exact ⟨c, mem_head?_append hc t, hname⟩

lemma scan_word {w : List Char} (hw : IsNameText w) (read : List Char) :
    scan (.word read) w = ([], .word (read ++ w)) := by
  induction w generalizing read with
  | nil => simp [scan]
  | cons c w ih =>
    obtain ⟨hc, hw⟩ := List.forall_mem_cons.mp hw
    simp [scan, Place.next, hc, ih hw]

/-- A name in front of a character that no name has is a word. -/
lemma Lexes.word (hw : IsName w) (hd : Lexes d ts) (hapart : StartsApart d) :
    Lexes (w ++ d) (.word w :: ts) := by
  obtain ⟨hne, hchars⟩ := hw
  obtain ⟨c, hc, hname⟩ := hapart
  obtain ⟨rest, hrest⟩ := List.head?_eq_some_iff.mp hc
  have hword : wordOf w.toList = [.word w] := by
    rw [wordOf, if_neg, String.ofList_toList]
    simpa using hne
  have hnext (read : List Char) : scan (.word read) (c :: rest)
      = (wordOf read ++ (scan (.word []) (c :: rest)).1, (scan (.word []) (c :: rest)).2) := by
    simp [scan, Place.next, hname, wordOf]
  rw [Lexes] at hd ⊢
  rw [String.toList_append, scan_append, scan_word hchars, hrest, hnext, ← hrest, hd,
    List.nil_append, List.nil_append, hword]
  rfl

lemma scan_text (read s : List Char) :
    scan (.text read) (s.flatMap escapedChar) = ([], .text (read ++ s)) := by
  induction s generalizing read with
  | nil => simp [scan]
  | cons c s ih =>
    have hc : scan (.text read) (escapedChar c) = ([], .text (read ++ [c])) := by
      by_cases hshort : c ∈ ['\\', '\x27', '\n', '\r', '\t']
      · simp only [List.mem_cons, List.not_mem_nil, or_false] at hshort
        rcases hshort with rfl | rfl | rfl | rfl | rfl <;> rfl
      · simp only [List.mem_cons, List.not_mem_nil, or_false, not_or] at hshort
        simp [escapedChar, scan, Place.next, hshort]
    rw [List.flatMap_cons, scan_append, hc, ih]
    simp

/-- A quoted text is one token. -/
lemma lexes_singleQuoted (v : String) : Lexes (singleQuoted v) [.text v] := by
  rw [Lexes, toList_singleQuoted, List.cons_append, scan,
    show Place.next '\x27' (.word []) = ([], .text []) by decide, scan_append, scan_text]
  simp [scan, Place.next]

/-! ### Phrases -/

/-- The text calls these functions and links to these tables, wherever between tokens it stands. -/
def Phrase (s : String) (fs vs : List String) : Prop :=
  ∃ ts, Lexes s ts ∧ .mark ';' ∉ ts ∧
    (∀ rest, calls false (ts ++ rest) = fs ++ calls false rest) ∧
    ∀ rest, targets (ts ++ rest) = vs ++ targets rest

variable {fs gs vs ws : List String}

lemma phrase_empty : Phrase "" [] [] :=
  ⟨[], lexes_empty, by simp, fun _ => rfl, fun _ => rfl⟩

lemma Phrase.append (hs : Phrase s fs vs) (ht : Phrase t gs ws) :
    Phrase (s ++ t) (fs ++ gs) (vs ++ ws) := by
  obtain ⟨ts, hlex, hend, hcalls, htargets⟩ := hs
  obtain ⟨us, hlex', hend', hcalls', htargets'⟩ := ht
  refine ⟨ts ++ us, hlex.append hlex', by simp [hend, hend'], fun rest => ?_, fun rest => ?_⟩
  · rw [List.append_assoc, hcalls, hcalls', List.append_assoc]
  · rw [List.append_assoc, htargets, htargets', List.append_assoc]

lemma phrase_joinWith {separator : String} {α : Type} {write : α → String}
    {called linked : α → List String} (hsep : Phrase separator [] []) (as : List α)
    (h : ∀ a ∈ as, Phrase (write a) (called a) (linked a)) :
    Phrase (Text.joinWith separator (as.map write)) (as.flatMap called) (as.flatMap linked) := by
  induction as with
  | nil => exact phrase_empty
  | cons a as ih =>
    obtain ⟨ha, has⟩ := List.forall_mem_cons.mp h
    cases as with
    | nil => simpa using ha
    | cons b as => simpa [Text.joinWith_cons_cons] using (ha.append hsep).append (ih has)

lemma phrase_singleQuoted (v : String) : Phrase (singleQuoted v) [] [] :=
  ⟨_, lexes_singleQuoted v, by simp, fun _ => rfl, fun _ => rfl⟩

/-- The text begins with a mark that goes on with an expression without calling it. -/
def StartsMarked (s : String) : Prop :=
  ∃ c ∈ s.toList.head?, isNameChar c = false ∧ Text.isBlank c = false ∧ c ≠ '\x27' ∧ c ≠ '('

instance (s : String) : Decidable (StartsMarked s) :=
  decidable_of_iff (s.toList.head?.any fun c =>
    isNameChar c = false ∧ Text.isBlank c = false ∧ c ≠ '\x27' ∧ c ≠ '(')
    (by simp [StartsMarked, Option.any_eq_true])

lemma StartsMarked.append (h : StartsMarked s) (t : String) : StartsMarked (s ++ t) := by
  obtain ⟨c, hc, hmark⟩ := h
  exact ⟨c, mem_head?_append hc t, hmark⟩

lemma StartsMarked.startsApart (h : StartsMarked s) : StartsApart s := by
  obtain ⟨c, hc, hname, -⟩ := h
  exact ⟨c, hc, hname⟩

lemma StartsMarked.exists_mark (h : StartsMarked s) (hlex : Lexes s ts) :
    ∃ c us, ts = .mark c :: us ∧ c ≠ '(' := by
  obtain ⟨c, hc, hname, hblank, hquote, hopen⟩ := h
  obtain ⟨rest, hrest⟩ := List.head?_eq_some_iff.mp hc
  rw [Lexes, hrest, scan] at hlex
  have hts := congrArg Prod.fst hlex
  simp only [Place.next, hname, Bool.false_eq_true, if_false, wordOf, markOf, hquote, hblank,
    List.isEmpty_nil, if_true, or_self, List.nil_append, List.singleton_append] at hts
  exact ⟨c, _, hts.symm, hopen⟩

/-- What a text calls and links to in front of a mark that goes on with it; it may end in a name. -/
def Stem (s : String) (fs vs : List String) : Prop :=
  ∀ d gs ws, StartsMarked d → Phrase d gs ws → Phrase (s ++ d) (fs ++ gs) (vs ++ ws)

lemma Phrase.stem (h : Phrase s fs vs) : Stem s fs vs :=
  fun _ _ _ _ hd => h.append hd

lemma Phrase.append_stem (hs : Phrase s fs vs) (ht : Stem t gs ws) :
    Stem (s ++ t) (fs ++ gs) (vs ++ ws) := by
  intro d fs' vs' hmark hd
  rw [String.append_assoc, List.append_assoc, List.append_assoc]
  exact hs.append (ht d fs' vs' hmark hd)

lemma Stem.append (hs : Stem s fs vs) (hmark : StartsMarked t) (ht : Stem t gs ws) :
    Stem (s ++ t) (fs ++ gs) (vs ++ ws) := by
  intro d fs' vs' hmark' hd
  rw [String.append_assoc, List.append_assoc, List.append_assoc]
  exact hs (t ++ d) _ _ (hmark.append d) (ht d fs' vs' hmark' hd)

/-- A name with something in front of it, told by what the two are in front of a mark. -/
lemma stem_append_name {opening : String} {os : List Token} (hlex : Lexes opening os)
    (hend : .mark ';' ∉ os) (hw : IsName w)
    (hcalls : ∀ c rest, c ≠ '(' → calls false (os ++ .word w :: .mark c :: rest)
      = fs ++ calls false (.mark c :: rest))
    (htargets : ∀ c rest, c ≠ '(' → targets (os ++ .word w :: .mark c :: rest)
      = vs ++ targets (.mark c :: rest)) : Stem (opening ++ w) fs vs := by
  rintro d gs ws hmark ⟨ts, hlex', hend', hcalls', htargets'⟩
  obtain ⟨c, us, rfl, hopen⟩ := hmark.exists_mark hlex'
  refine ⟨os ++ .word w :: .mark c :: us, ?_, ?_, fun rest => ?_, fun rest => ?_⟩
  · rw [String.append_assoc]
    exact hlex.append (Lexes.word hw hlex' hmark.startsApart)
  · simpa [hend] using hend'
  · rw [List.append_assoc, List.append_assoc, ← hcalls' rest]
    exact hcalls c (us ++ rest) hopen
  · rw [List.append_assoc, List.append_assoc, ← htargets' rest]
    exact htargets c (us ++ rest) hopen

lemma stem_of_isName (hw : IsName w) : Stem w [] [] := by
  have hstem : Stem ("" ++ w) [] [] := by
    refine stem_append_name lexes_empty (by simp) hw (fun c rest hopen => ?_) fun c rest hopen => ?_
    · simp [calls, hopen]
    · simp [targets, targetAt?, hopen]
  rwa [String.empty_append] at hstem

lemma stem_joinWith {separator : String} {β : Type} {write : β → String}
    (hsep : Phrase separator [] []) (hmark : StartsMarked separator) (bs : List β)
    (h : ∀ b ∈ bs, Stem (write b) [] []) : Stem (Text.joinWith separator (bs.map write)) [] [] := by
  induction bs with
  | nil => exact phrase_empty.stem
  | cons b bs ih =>
    obtain ⟨hb, hbs⟩ := List.forall_mem_cons.mp h
    cases bs with
    | nil => simpa using hb
    | cons b' bs =>
      rw [List.map_cons, List.map_cons, Text.joinWith_cons_cons]
      exact (hb separator [] [] hmark hsep).append_stem (ih hbs)

/-! ### Lists of statements -/

/-- The text is a list of statements, which are read as these. -/
def Tells {α : Type} (read? : List Token → Option α) (s : String) (as : List α) : Prop :=
  ∃ parts, Lexes s (parts.flatMap (· ++ [.mark ';'])) ∧ (∀ p ∈ parts, .mark ';' ∉ p) ∧
    List.Forall₂ (fun p a => read? p = some a) parts as

variable {α : Type} {read? : List Token → Option α} {as bs : List α} {a : α}

lemma tells_empty (read? : List Token → Option α) : Tells read? "" [] :=
  ⟨[], lexes_empty, by simp, .nil⟩

lemma Tells.append (hs : Tells read? s as) (ht : Tells read? t bs) :
    Tells read? (s ++ t) (as ++ bs) := by
  obtain ⟨parts, hlex, hend, hread⟩ := hs
  obtain ⟨parts', hlex', hend', hread'⟩ := ht
  refine ⟨parts ++ parts', ?_, ?_, List.rel_append hread hread'⟩
  · rw [List.flatMap_append]
    exact hlex.append hlex'
  · intro p hp
    rcases List.mem_append.mp hp with hp | hp
    · exact hend p hp
    · exact hend' p hp

/-- A text without tokens tells nothing. -/
lemma tells_of_lexes_nil (h : Lexes s []) : Tells read? s [] :=
  ⟨[], h, by simp, .nil⟩

lemma tells_singleton (hlex : Lexes s (ts ++ [.mark ';'])) (hend : .mark ';' ∉ ts)
    (hread : read? ts = some a) : Tells read? s [a] :=
  ⟨[ts], by simpa using hlex, by simpa using hend, .cons hread .nil⟩

/-- Texts that tell something, one after the other, with blanks between them. -/
lemma tells_joinWith {separator : String} (hsep : Lexes separator []) {ss : List String}
    {ass : List (List α)} (h : List.Forall₂ (Tells read?) ss ass) :
    Tells read? (Text.joinWith separator ss) ass.flatten := by
  induction h with
  | nil => exact tells_empty read?
  | cons hs hss ih =>
    cases hss with
    | nil => simpa using hs
    | cons hs' hss =>
      rw [Text.joinWith_cons_cons, List.flatten_cons]
      simpa using (hs.append (tells_of_lexes_nil hsep)).append ih

/-- Texts that each tell one thing. -/
lemma tells_joinWith_of_each {separator : String} (hsep : Lexes separator []) {ss : List String}
    (h : List.Forall₂ (fun s a => Tells read? s [a]) ss as) :
    Tells read? (Text.joinWith separator ss) as := by
  have hall := tells_joinWith hsep (List.forall₂_map_right_iff.mpr h)
  rwa [← List.flatMap_def, List.flatMap_singleton'] at hall

lemma statements_append (current : List Token) (hend : .mark ';' ∉ ts) (rest : List Token) :
    statements current (ts ++ .mark ';' :: rest) = (current ++ ts) :: statements [] rest := by
  induction ts generalizing current with
  | nil => simp [statements]
  | cons t ts ih =>
    rw [List.mem_cons, not_or] at hend
    rw [List.cons_append, statements, if_neg (Ne.symm hend.1), ih _ hend.2]
    simp

lemma statements_flatMap {parts : List (List Token)} (hend : ∀ p ∈ parts, .mark ';' ∉ p) :
    statements [] (parts.flatMap (· ++ [.mark ';'])) = parts := by
  induction parts with
  | nil => rfl
  | cons p parts ih =>
    obtain ⟨hp, hparts⟩ := List.forall_mem_cons.mp hend
    rw [List.flatMap_cons, List.append_assoc, List.singleton_append, statements_append [] hp,
      List.nil_append, ih hparts]

lemma mapM_of_forall₂ {parts : List (List Token)}
    (h : List.Forall₂ (fun p a => read? p = some a) parts as) : parts.mapM read? = some as := by
  induction h with
  | nil => rfl
  | cons hread _ ih => simp [List.mapM_cons, hread, ih]

lemma beginsImport_of_import {i : Import} (h : Import.read? ts = some i) :
    beginsImport ts = true := by
  unfold Import.read? at h
  split at h
  · rfl
  · cases h

lemma not_beginsImport_of_definition {i : Definition} (h : Definition.read? ts = some i) :
    beginsImport ts = false := by
  unfold Definition.read? at h
  split at h
  · rfl
  · cases h

lemma beginsImport_of_forall₂ {parts : List (List Token)} {is : List Import}
    (h : List.Forall₂ (fun p i => Import.read? p = some i) parts is) :
    ∀ p ∈ parts, beginsImport p = true := by
  induction h with
  | nil => simp
  | cons hread _ ih => exact List.forall_mem_cons.mpr ⟨beginsImport_of_import hread, ih⟩

lemma takeWhile_dropWhile_of_forall₂ {parts : List (List Token)} {ds : List Definition}
    (h : List.Forall₂ (fun p d => Definition.read? p = some d) parts ds) :
    parts.takeWhile beginsImport = [] ∧ parts.dropWhile beginsImport = parts := by
  cases h with
  | nil => exact ⟨rfl, rfl⟩
  | cons hread _ => simp [not_beginsImport_of_definition hread]

/-- A call that is the value of a variable is a definition. -/
lemma tells_definition {f body : String} (hv : IsName v) (hf : IsName f)
    (hbody : Phrase body fs vs) : Tells Definition.read?
      ("export const " ++ v ++ " = " ++ f ++ "(" ++ body ++ ";") [⟨v, f, fs, vs⟩] := by
  obtain ⟨ts, hlex, hend, hcalls, htargets⟩ := hbody
  have hstart : Lexes "export const " [.word "export", .word "const"] := rfl
  have hequal : Lexes " = " [.mark '='] := rfl
  have hopen : Lexes "(" [.mark '('] := rfl
  have hclose : Lexes ";" [.mark ';'] := rfl
  have hopenApart : StartsApart "(" := by decide
  have hequalApart : StartsApart " = " := by decide
  have hvalue := Lexes.word hf (hopen.append (hlex.append hclose)) (hopenApart.append _)
  have hline := hstart.append (Lexes.word hv (hequal.append hvalue) (hequalApart.append _))
  have hread : Definition.read? (.word "export" :: .word "const" :: .word v :: .mark '=' ::
      .word f :: .mark '(' :: ts) = some ⟨v, f, fs, vs⟩ := by
    have hcalls := hcalls []
    have htargets := htargets []
    rw [List.append_nil] at hcalls htargets
    rw [Definition.read?, hcalls, htargets, calls, targets, List.append_nil, List.append_nil]
  refine tells_singleton ?_ ?_ hread
  · simpa only [String.append_assoc, List.cons_append, List.nil_append] using hline
  · simpa using hend

lemma exists_names?_joinWith {names : List String} (hne : names ≠ [])
    (hnames : ∀ n ∈ names, IsName n) (hd : Lexes d us) (hapart : StartsApart d) :
    ∃ ts, Lexes (Text.joinWith ", " names ++ d) (ts ++ us) ∧ .mark ';' ∉ ts ∧
      ∀ rest, names? (ts ++ .mark '\x7d' :: rest) = some (names, rest) := by
  induction names with
  | nil => exact absurd rfl hne
  | cons n names ih =>
    obtain ⟨hn, hnames⟩ := List.forall_mem_cons.mp hnames
    cases names with
    | nil =>
      exact ⟨[.word n], Lexes.word hn hd hapart, by simp, fun rest => rfl⟩
    | cons n' names =>
      obtain ⟨ts, hlex, hend, hread⟩ := ih (List.cons_ne_nil n' names) hnames
      have hcomma : Lexes ", " [.mark ','] := rfl
      have hcommaApart : StartsApart ", " := by decide
      have hlist := Lexes.word hn (hcomma.append hlex) (hcommaApart.append _)
      refine ⟨.word n :: .mark ',' :: ts, ?_, by simpa using hend, fun rest => ?_⟩
      · rw [Text.joinWith_cons_cons, String.append_assoc, String.append_assoc]
        exact hlist
      · rw [List.cons_append, List.cons_append, names?, hread]
        rfl

lemma tells_importLine {names : List String} (hne : names ≠ []) (hnames : ∀ n ∈ names, IsName n)
    (path : String) : Tells Import.read? (Module.importLine names path) [⟨names, path⟩] := by
  have hstart : Lexes "import \x7b " [.word "import", .mark '\x7b'] := rfl
  have hfrom : Lexes " \x7d from " [.mark '\x7d', .word "from"] := rfl
  have hclose : Lexes ";" [.mark ';'] := rfl
  have hfromApart : StartsApart " \x7d from " := by decide
  obtain ⟨ts, hlex, hend, hread⟩ := exists_names?_joinWith hne hnames
    (hfrom.append ((lexes_singleQuoted path).append hclose)) (hfromApart.append _)
  have hline := hstart.append hlex
  have hread : Import.read? (.word "import" :: .mark '\x7b' ::
      (ts ++ [.mark '\x7d', .word "from", .text path])) = some ⟨names, path⟩ := by
    rw [Import.read?, hread]
    rfl
  refine tells_singleton ?_ ?_ hread
  · rw [Module.importLine]
    simpa [String.append_assoc] using hline
  · simpa using hend

/-- Imports in front of definitions are the outline of a module. -/
lemma outline_read?_append {imports : List Import} {definitions : List Definition}
    (hs : Tells Import.read? s imports) (ht : Tells Definition.read? t definitions) :
    Outline.read? (s ++ t) = some ⟨imports, definitions⟩ := by
  obtain ⟨parts, hlex, hend, hread⟩ := hs
  obtain ⟨parts', hlex', hend', hread'⟩ := ht
  have htokens : tokens (s ++ t) = (parts ++ parts').flatMap (· ++ [.mark ';']) := by
    have hboth := hlex.append hlex'
    rw [Lexes] at hboth
    rw [tokens, hboth, List.flatMap_append]
  have hstatements : statements [] (tokens (s ++ t)) = parts ++ parts' := by
    rw [htokens]
    apply statements_flatMap
    intro p hp
    rcases List.mem_append.mp hp with hp | hp
    · exact hend p hp
    · exact hend' p hp
  have hbegin := beginsImport_of_forall₂ hread
  obtain ⟨htake, hdrop⟩ := takeWhile_dropWhile_of_forall₂ hread'
  rw [Outline.read?]
  simp only [hstatements, List.takeWhile_append_of_pos hbegin, List.dropWhile_append_of_pos hbegin,
    htake, hdrop, List.append_nil, mapM_of_forall₂ hread, mapM_of_forall₂ hread',
    Option.bind_eq_bind, Option.bind_some]

/-- A column that is built by a function that nobody has imported. -/
example : Outline.read?
    "export const a = pgTable('a', \x7b b: text('b').references(() => c.d) \x7d);"
      = some ⟨[], [⟨"a", "pgTable", ["text"], ["c"]⟩]⟩ := by
  decide +kernel

end SqlWorkbench.Drizzle
