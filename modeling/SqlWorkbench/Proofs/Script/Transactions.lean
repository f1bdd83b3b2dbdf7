import Mathlib.Tactic.Common
import SqlWorkbench.Proofs.Script.Calm
import SqlWorkbench.Proofs.Script.SingleStatement

/-!
# Transactions

A transaction is opened by words of its own and reaches to `COMMIT` or `ROLLBACK`. Between them
stand statements with their terminators, comments and regions that may hold anything, and savepoints
to which the transaction rolls back. Main statement: a script of one transaction is one group with
one statement, from the words that open it to the word that closes it.
-/

namespace SqlWorkbench

open Lexeme Text

namespace Lexeme

variable {afterPoint : Bool} {l : Lexeme} {ls ms ms' tail : List Lexeme} {s : List Char}

/-! ### The inside of a transaction -/

/-- A lexeme that is closed, and opens or closes no block. -/
def isHeld : Lexeme → Bool
  | quoted _ _ closed | dollarQuoted _ _ closed | blockComment _ closed => closed
  | word letters => !blockWords.contains (capitals letters)
  | lineBreak | blank _ | lineComment _ | semicolon | symbol _ => true

/-- The word that the lexemes begin with, white space aside. -/
def firstWord? (ls : List Lexeme) : Option String :=
  (ls.find? (!·.isSpace)).bind capitals?

/-- What may stand in a transaction: lexemes that are closed and open or close no block, names
behind a point, and `ROLLBACK` with `TO` behind it. -/
def Inside (afterPoint : Bool) : List Lexeme → Prop
  | [] => True
  | l :: ls => (l.isHeld = true ∨ afterPoint = true ∧ l.isWord = true ∨
      l.capitals? = some "ROLLBACK" ∧ firstWord? ls = some "TO") ∧ Inside (l == symbol '.') ls

instance decidableInside : ∀ (afterPoint : Bool) (ls : List Lexeme),
    Decidable (Inside afterPoint ls)
  | _, [] => .isTrue trivial
  | _, l :: ls =>
    have := decidableInside (l == symbol '.') ls
    inferInstanceAs (Decidable (_ ∧ _))

lemma firstWord?_append : firstWord? (ls ++ ms)
    = ((ls.find? (!·.isSpace)).or (ms.find? (!·.isSpace))).bind capitals? := by
  rw [firstWord?, List.find?_append]

/-- What stands inside does not depend on how the end is read. -/
lemma Inside.append_congr (h : Inside afterPoint (ls ++ ms))
    (hms : ∀ afterPoint, Inside afterPoint ms → Inside afterPoint ms')
    (hword : firstWord? ms = some "TO" → firstWord? ms' = some "TO") :
    Inside afterPoint (ls ++ ms') := by
  induction ls generalizing afterPoint with
  | nil => exact hms afterPoint h
  | cons l ls ih =>
    rw [List.cons_append] at h ⊢
    refine ⟨h.1.imp_right (Or.imp_right (And.imp_right fun hto => ?_)), ih h.2⟩
    rw [firstWord?_append] at hto ⊢
    cases hls : ls.find? (!·.isSpace) with
    | none =>
      rw [hls, Option.none_or] at hto
      exact hword hto
    | some k =>
      rw [hls] at hto
      exact hto

lemma Inside.isOpen_eq_false (h : Inside afterPoint ls) : ∀ l ∈ ls, l.isOpen = false := by
  induction ls generalizing afterPoint with
  | nil => simp
  | cons k ls ih =>
    rw [List.forall_mem_cons]
    refine ⟨?_, ih h.2⟩
    have hk := h.1
    cases k with
    | quoted quote body closed | dollarQuoted tag body closed | blockComment body closed =>
      simpa [isHeld, isWord, capitals?, isOpen] using hk
    | _ => rfl

/-! ### The terminator behind the inside -/

/-- A terminator behind the inside of a transaction is inside as well, or in its last comment. -/
lemma Inside.concat_semicolon (h : Inside false (ofText s)) :
    Inside false (ofText (s ++ [';'])) := by
  have hfit := fitting_ofText s
  have htext := flatMap_text_ofText s
  by_cases hcomment : ∃ body, lineComment body ∈ (ofText s).getLast?
  · obtain ⟨body, hbody⟩ := hcomment
    obtain ⟨ls, hls⟩ := List.getLast?_eq_some_iff.mp hbody
    rw [hls] at h hfit htext
    have hread : ofText (s ++ [';']) = ls ++ [lineComment (body ++ [';'])] := by
      have hsees : Sees ('-' :: '-' :: body ++ []) ('-' :: '-' :: body ++ [';']) :=
        Sees.append_left _ (sees_of_head (by simp [isSeparator]))
      have hbreak : '\n' ∉ body := by
        obtain ⟨_, hlast⟩ := hfit.of_append
        exact hlast.1.1
      refine ofText_eq_iff.mpr ⟨?_, hfit.of_sees ?_ ⟨'-', by simp [text], by decide⟩ ?_⟩
      · rw [← htext]
        simp [text]
      · simpa [text] using hsees
      · exact fun _ => ⟨⟨by simpa using hbreak, by simp⟩, trivial⟩
    rw [hread]
    exact h.append_congr (fun _ _ => ⟨Or.inl rfl, trivial⟩)
      (by simp [firstWord?, isSpace, capitals?])
  · have hread : ofText (s ++ [';']) = ofText s ++ [semicolon] := by
      refine ofText_eq_iff.mpr ⟨?_, ?_⟩
      · rw [List.flatMap_append, htext]
        rfl
      · exact hfit.append_separator h.isOpen_eq_false (by decide) rfl
          (fun body hbody => absurd ⟨body, hbody⟩ hcomment) fun _ => ⟨trivial, trivial⟩
    rw [hread]
    rw [← List.append_nil (ofText s)] at h
    exact h.append_congr (fun _ _ => ⟨Or.inl rfl, trivial⟩) (by simp [firstWord?])

lemma ofLexemes_of_firstWord? {w : String} (h : firstWord? ls = some w) :
    Upcoming.ofLexemes (ls ++ tail) = .word w := by
  induction ls with
  | nil => cases h
  | cons l ls ih =>
    cases l with
    | lineBreak => exact ih h
    | blank c => exact ih h
    | word letters =>
      cases h
      rfl
    | _ => cases h

end Lexeme

namespace Scan

variable {s : Scan} {l : Lexeme} {ls tail : List Lexeme}

/-! ### Open transactions -/

/-- Step lemma: what stands in a transaction leaves the open blocks as they are. -/
lemma blocks_step_of_inside (h : Inside s.afterPoint (l :: ls)) :
    (s.step l (ls ++ tail)).blocks = s.blocks := by
  cases l with
  | word letters =>
    simp only [step, blocksAfter]
    split
    · rfl
    · next hpoint =>
      rcases h.1 with hheld | ⟨hafter, -⟩ | ⟨hrollback, hto⟩
      · have hword : capitals letters ∉ blockWords := by simpa [isHeld] using hheld
        simp only [blockWords, List.mem_cons, List.not_mem_nil, or_false, not_or] at hword
        simp [Block.step, hword]
      · exact absurd hafter hpoint
      · have hword : capitals letters = "ROLLBACK" := Option.some.inj hrollback
        simp [Block.step, hword, ofLexemes_of_firstWord? hto]
  | _ => rfl

/-- Run lemma: a transaction stays open, and no terminator in it ends a statement. -/
lemma uncut_of_inside (h : Inside s.afterPoint ls) (hblocks : s.blocks ≠ []) :
    Uncut tail s ls ∧ (s.after tail ls).blocks = s.blocks := by
  induction ls generalizing s with
  | nil => exact ⟨trivial, rfl⟩
  | cons l ls ih =>
    have hstep : (s.step l (ls ++ tail)).blocks = s.blocks := blocks_step_of_inside h
    obtain ⟨huncut, hafter⟩ := ih (s := s.step l (ls ++ tail)) h.2 (hstep ▸ hblocks)
    exact ⟨⟨fun _ => hblocks, huncut⟩, hafter.trans hstep⟩

end Scan

namespace Script

/-! ### Where a transaction begins and ends -/

/-- The text is the word, in some letter case. -/
def InSomeCase (w : String) (s : List Char) : Prop :=
  s.all isWordPart = true ∧ capitals s = w

instance (w : String) (s : List Char) : Decidable (InSomeCase w s) :=
  inferInstanceAs (Decidable (_ ∧ _))

/-- The words that open a transaction, one blank apart. -/
inductive IsOpener : List Char → Prop where
  | begin {s : List Char} (hs : InSomeCase "BEGIN" s) : IsOpener s
  | mark {s t : List Char} {mark : String} (hs : InSomeCase "BEGIN" s)
    (hmark : mark ∈ Block.transactionMarks) (ht : InSomeCase mark t) : IsOpener (s ++ ' ' :: t)
  | start {s t : List Char} (hs : InSomeCase "START" s) (ht : InSomeCase "TRANSACTION" t) :
    IsOpener (s ++ ' ' :: t)

/-- The words that close a transaction. -/
def IsCloser (s : List Char) : Prop :=
  InSomeCase "COMMIT" s ∨ InSomeCase "ROLLBACK" s

instance (s : List Char) : Decidable (IsCloser s) :=
  inferInstanceAs (Decidable (_ ∨ _))

variable {w : String} {s t : List Char} {ls tail : List Lexeme}

lemma InSomeCase.ne_nil (h : InSomeCase w s) (hw : w ≠ "") : s ≠ [] := by
  rintro rfl
  exact hw (h.2.symm.trans (by decide))

/-- A word may stand before everything that goes on with no part of a word. -/
lemma InSomeCase.fits (h : InSomeCase w s) (hw : w ≠ "") {afterWord : Bool} {rest : List Char}
    (hrest : ∀ c ∈ rest.head?, isWordPart c = false) : (word s).Fits afterWord rest :=
  ⟨h.ne_nil hw, List.all_eq_true.mp h.1, hrest⟩

/-- The lexemes open a transaction if a terminator follows, and show in a statement as the text. -/
structure Opens (ls : List Lexeme) (s : List Char) : Prop where
  text_eq : ls.flatMap Lexeme.text = s
  fitting : ∀ tail, Fitting false tail → Fitting false (ls ++ semicolon :: tail)
  not_mem : semicolon ∉ ls
  blocks : ∀ tail, (Scan.after (semicolon :: tail) {} ls).blocks = [.transaction]
  layout : layoutAfter [] ls = s
  head : ∃ l more, ls = l :: more ∧ l.isGap = false
  isGap_getLast : ∀ l ∈ ls.getLast?, l.isGap = false
  isOpen_eq_false : ∀ l ∈ ls, l.isOpen = false

lemma opens_word (hs : InSomeCase "BEGIN" s) : Opens [word s] s where
  text_eq := by simp [Lexeme.text]
  fitting tail htail := ⟨hs.fits (by decide) (by simp [Lexeme.text]; decide), trivial, htail⟩
  not_mem := by simp
  blocks tail := by
    show Block.step (capitals s) none .semicolon [] = [.transaction]
    rw [hs.2]
    rfl
  layout := by simp [layoutAfter, isGap, Lexeme.text]
  head := ⟨word s, [], rfl, rfl⟩
  isGap_getLast := by simp [isGap]
  isOpen_eq_false := by simp [isOpen]

/-- Two words of which the second leaves the transaction open that the first opens. -/
lemma opens_words {v : String} (hs : InSomeCase w s) (ht : InSomeCase v t) (hw : w ≠ "")
    (hv : v ≠ "") (hfirst : Block.step w none (.word v) [] = [.transaction])
    (hsecond : Block.step v (some w) .semicolon [.transaction] = [.transaction]) :
    Opens [word s, blank ' ', word t] (s ++ ' ' :: t) where
  text_eq := by simp [Lexeme.text]
  fitting tail htail := by
    refine ⟨hs.fits hw (by simp [Lexeme.text]; decide), ⟨by decide, by decide⟩, ?_, trivial, htail⟩
    exact ht.fits hv (by simp [Lexeme.text]; decide)
  not_mem := by simp
  blocks tail := by
    show Block.step (capitals t) (some (capitals s)) .semicolon
      (Block.step (capitals s) none (.word (capitals t)) []) = [.transaction]
    rw [hs.2, ht.2, hfirst, hsecond]
  layout := by simp [layoutAfter, isGap, Lexeme.text, gapText, isBreak, shown]
  head := ⟨word s, _, rfl, rfl⟩
  isGap_getLast := by simp [isGap]
  isOpen_eq_false := by simp [isOpen]

lemma IsOpener.exists_opens (h : IsOpener s) : ∃ ls, Opens ls s := by
  cases h with
  | begin hs => exact ⟨_, opens_word hs⟩
  | @mark s t mark hs hmark ht =>
    have hmarks : ∀ mark ∈ Block.transactionMarks, mark ≠ "" ∧
        Block.step "BEGIN" none (.word mark) [] = [.transaction] ∧
        Block.step mark (some "BEGIN") .semicolon [.transaction] = [.transaction] := by
      decide
    obtain ⟨hne, hfirst, hsecond⟩ := hmarks mark hmark
    exact ⟨_, opens_words hs ht (by decide) hne hfirst hsecond⟩
  | start hs ht => exact ⟨_, opens_words hs ht (by decide) (by decide) (by decide) (by decide)⟩

/-- Behind an open transaction the word closes it. -/
lemma IsCloser.step (h : IsCloser s) (before : Option String) :
    Block.step (capitals s) before .semicolon [.transaction] = [] := by
  rcases h with ⟨-, hs⟩ | ⟨-, hs⟩ <;> rw [hs] <;> rfl

lemma IsCloser.inSomeCase (h : IsCloser s) : ∃ w, w ≠ "" ∧ InSomeCase w s := by
  rcases h with h | h
  · exact ⟨"COMMIT", by decide, h⟩
  · exact ⟨"ROLLBACK", by decide, h⟩

/-! ### A transaction as a script -/

variable {opener closer : List Char} {inside : List Lexeme}

/-- The lexemes of a transaction, but for the terminator at its end. -/
def transaction (ls inside : List Lexeme) (closer : List Char) : List Lexeme :=
  ls ++ semicolon :: (inside ++ [lineBreak, word closer])

lemma ofText_transaction (hopens : Opens ls opener) (hinside : Inside false (ofText s))
    (hcloser : IsCloser closer) :
    ofText (opener ++ ';' :: (s ++ '\n' :: (closer ++ [';'])))
      = transaction ls (ofText s) closer ++ [semicolon] := by
  obtain ⟨w, hw, hword⟩ := hcloser.inSomeCase
  have hend (afterWord : Bool) : Fitting afterWord [lineBreak, word closer, semicolon] :=
    ⟨trivial, hword.fits hw (by simp [Lexeme.text]; decide), trivial, trivial⟩
  have hrest : Fitting false (ofText s ++ [lineBreak, word closer, semicolon]) :=
    (fitting_ofText s).append_separator hinside.isOpen_eq_false (by decide) rfl (fun _ _ => rfl)
      hend
  refine ofText_eq_iff.mpr ⟨?_, ?_⟩
  · simp [transaction, hopens.text_eq, flatMap_text_ofText, Lexeme.text]
  · simpa [transaction] using hopens.fitting _ hrest

/-- Behind the words that open a transaction, no terminator ends a statement up to the word that
closes it, and behind that word the next one does. -/
lemma uncut_of_blocks_eq {o : Scan} (hblocks : o.blocks = [.transaction])
    (hinside : Inside false inside) (hcloser : IsCloser closer) :
    Scan.Uncut [semicolon] o (semicolon :: (inside ++ [lineBreak, word closer])) ∧
      (o.after [semicolon] (semicolon :: (inside ++ [lineBreak, word closer]))).blocks = [] := by
  rw [Scan.Uncut, Scan.after_cons, Scan.uncut_append, Scan.after_append]
  set begun := o.step semicolon (inside ++ [lineBreak, word closer] ++ [semicolon]) with hbegun
  have hbegun' : begun.blocks = [.transaction] := hblocks
  obtain ⟨huncut, hheld⟩ : Scan.Uncut ([lineBreak, word closer] ++ [semicolon]) begun inside ∧
      (begun.after ([lineBreak, word closer] ++ [semicolon]) inside).blocks = begun.blocks :=
    Scan.uncut_of_inside hinside (by simp [hbegun'])
  rw [hbegun'] at hheld
  refine ⟨⟨fun _ => by simp [hblocks], huncut, Scan.uncut_of_not_mem (by simp)⟩, ?_⟩
  generalize begun.after _ inside = held at hheld
  show Block.step (capitals closer) held.lastWord .semicolon held.blocks = []
  rw [hheld, hcloser.step]

/-- The terminator behind a transaction is the first that ends a statement. -/
lemma parts_transaction (hopens : Opens ls opener) (hinside : Inside false inside)
    (hcloser : IsCloser closer) :
    Scan.parts {} [] (transaction ls inside closer ++ [semicolon])
      = [transaction ls inside closer, []] := by
  have hopened := hopens.blocks (inside ++ [lineBreak, word closer] ++ [semicolon])
  obtain ⟨huncut, hclosed⟩ := uncut_of_blocks_eq hopened hinside hcloser
  refine (Scan.parts_concat_eq_iff []).mpr ⟨?_, ?_⟩
  · rw [transaction, Scan.uncut_append]
    exact ⟨Scan.uncut_of_not_mem hopens.not_mem, huncut⟩
  · rw [transaction, Scan.after_append]
    exact hclosed

lemma transaction_eq_concat : transaction ls inside closer
    = ls ++ semicolon :: (inside ++ [lineBreak]) ++ [word closer] := by
  simp [transaction]

/-- A transaction shows from the words that open it to the word that closes it. -/
lemma statement_transaction (hopens : Opens ls opener) (hinside : Inside false inside)
    (hsound : ∀ l ∈ transaction ls inside closer, l.Sound) :
    opener <+: statement (transaction ls inside closer) ∧
      closer <:+ statement (transaction ls inside closer) := by
  obtain ⟨l, more, hls, hl⟩ := hopens.head
  have hlast : ∀ k ∈ (transaction ls inside closer).getLast?, k.isGap = false := by
    rw [transaction_eq_concat, List.getLast?_concat]
    simp [isGap]
  have hwhole : Whole (transaction ls inside closer) := by
    refine fun k hk => ⟨hsound k hk, ?_⟩
    rcases List.mem_append.mp hk with hk | hk
    · exact hopens.isOpen_eq_false k hk
    · simp only [List.mem_cons, List.mem_append, List.not_mem_nil, or_false] at hk
      rcases hk with rfl | hk | rfl | rfl
      · rfl
      · exact hinside.isOpen_eq_false k hk
      · rfl
      · rfl
  have hstatement : statement (transaction ls inside closer)
      = layoutAfter [] (transaction ls inside closer) := by
    have hdrop : (transaction ls inside closer).dropWhile isGap = transaction ls inside closer := by
      rw [transaction, hls, List.cons_append, List.dropWhile_cons_of_neg (by simp [hl])]
    rw [statement, Lexeme.layout, hdrop, trimEnd_layoutAfter hlast hwhole]
  rw [hstatement]
  constructor
  · rw [transaction, layoutAfter_append (fun _ => rfl) hopens.isGap_getLast, hopens.layout]
    exact List.prefix_append _ _
  · obtain ⟨before, hbefore⟩ := exists_layoutAfter_concat []
      (ls ++ semicolon :: (inside ++ [lineBreak])) (l := word closer) rfl
    rw [transaction_eq_concat, hbefore]
    exact List.suffix_append _ _

/-- A transaction is one group with one statement, which begins with the words that open it and ends
with the word that closes it: whatever letter case these are in, and whatever stands in between that
is closed, and neither opens nor closes a block. -/
theorem groups_transaction {opener body closer : String} (hopener : IsOpener opener.toList)
    (hbody : Inside false (ofText body.toList)) (hcloser : IsCloser closer.toList) :
    ∃ g s, groups (opener ++ ";" ++ body ++ ";\n" ++ closer ++ ";") = [g] ∧ g.statements = [s] ∧
      opener.toList <+: s.toList ∧ closer.toList <:+ s.toList := by
  obtain ⟨ls, hopens⟩ := hopener.exists_opens
  have hinside := hbody.concat_semicolon
  have htext := ofText_transaction hopens hinside hcloser
  have hchars : (opener ++ ";" ++ body ++ ";\n" ++ closer ++ ";").toList
      = opener.toList ++ ';' :: (body.toList ++ [';'] ++ '\n' :: (closer.toList ++ [';'])) := by
    simp [String.toList_append]
  rw [← hchars] at htext
  have hsound : ∀ l ∈ transaction ls (ofText (body.toList ++ [';'])) closer.toList, l.Sound := by
    intro l hl
    exact (fitting_ofText _).sound l (htext ▸ List.mem_append_left _ hl)
  obtain ⟨hfirst, hlast⟩ := statement_transaction hopens hinside hsound
  have hne : statement (transaction ls (ofText (body.toList ++ [';'])) closer.toList) ≠ [] := by
    obtain ⟨w, hw, hword⟩ := hcloser.inSomeCase
    exact hlast.ne_nil (hword.ne_nil hw)
  have hstatements : statements (opener ++ ";" ++ body ++ ";\n" ++ closer ++ ";") = [String.ofList
      (statement (transaction ls (ofText (body.toList ++ [';'])) closer.toList))] := by
    have hnil : statement [] = [] := rfl
    rw [statements_eq, parts, htext, parts_transaction hopens hinside hcloser, Scan.statementsOf]
    simp [hne, hnil]
  obtain ⟨g, hgroups, hg⟩ := exists_groups_eq hstatements
  exact ⟨g, _, hgroups, hg, by simpa using hfirst, by simpa using hlast⟩

/-- The inside of a transaction, with words of other transactions where they do nothing. -/
def savepointScript : String :=
  "\nINSERT INTO t VALUES (\x27it\x27\x27s; COMMIT;\x27); -- END;\nSAVEPOINT a;; /* ROLLBACK; */" ++
    "UPDATE t SET x = t.end;\nROLLBACK\n TO a; SELECT $q$;\nBEGIN;$q$ -- done"

theorem groups_savepointScript : Inside false (ofText savepointScript.toList) ∧
    ∃ g s, groups ("Begin work" ++ ";" ++ savepointScript ++ ";\n" ++ "commit" ++ ";") = [g] ∧
      g.statements = [s] ∧ "Begin work".toList <+: s.toList ∧ "commit".toList <:+ s.toList := by
  have hbegin : InSomeCase "BEGIN" "Begin".toList := by decide +kernel
  have hwork : InSomeCase "WORK" "work".toList := by decide +kernel
  have hopener : IsOpener ("Begin".toList ++ ' ' :: "work".toList) := .mark hbegin (by decide) hwork
  have htext : "Begin".toList ++ ' ' :: "work".toList = "Begin work".toList := by decide
  have hcloser : IsCloser "commit".toList := by decide +kernel
  rw [htext] at hopener
  refine ⟨?_, groups_transaction hopener ?_ hcloser⟩ <;> decide +kernel

end Script

end SqlWorkbench
