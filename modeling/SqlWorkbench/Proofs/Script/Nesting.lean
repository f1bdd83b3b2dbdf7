import Mathlib.Tactic.Common
import SqlWorkbench.Proofs.Script.Depth
import SqlWorkbench.Proofs.Script.Lookahead

/-!
# Well-nested blocks

A block reaches from `BEGIN` or `CASE` to its `END`, with other blocks between them. A script that
is one block ended by a terminator is one statement exactly if a terminator inside it always stands
deeper than nothing; and it is one if no `CASE` that opens a block has `END` as the word before it.
-/

namespace SqlWorkbench

namespace Lexeme

/-! ### Grammar of blocks -/

/-- White space. -/
def isSpace : Lexeme → Bool
  | lineBreak | blank _ => true
  | _ => false

/-- The lexemes of a script, white space aside. -/
def tokens (text : String) : List Lexeme :=
  (ofText text.toList).filter (!·.isSpace)

/-- The words that open or close blocks and transactions. -/
def blockWords : List String :=
  ["BEGIN", "END", "CASE", "START", "COMMIT", "ROLLBACK"]

/-- What may stand in a block on its own: punctuation, a closed region, or a word that opens or
closes nothing. -/
inductive Ordinary : Lexeme → Prop where
  | symbol (c : Char) : Ordinary (symbol c)
  | quoted (quote : Char) (body : List Char) : Ordinary (quoted quote body true)
  | dollarQuoted (tag body : List Char) : Ordinary (dollarQuoted tag body true)
  | word (letters : List Char) (h : capitals letters ∉ blockWords) : Ordinary (word letters)

/-- The inside of a block, with the word before it. If `seen` holds, a `CASE` that opens a block has
not `END` as the word before it. -/
inductive IsBody (seen : Bool) : Option String → List Lexeme → Prop where
  | nil {before : Option String} : IsBody seen before []
  | ordinary {before : Option String} {l : Lexeme} {ls : List Lexeme} (hl : Ordinary l)
      (h : IsBody seen (l.lastWord before) ls) : IsBody seen before (l :: ls)
  | terminator {before : Option String} {ls : List Lexeme} (h : IsBody seen before ls) :
      IsBody seen before (semicolon :: ls)
  | procedural {before : Option String} {b e : Lexeme} {inner ls : List Lexeme}
      (hb : b.capitals? = some "BEGIN") (hinner : IsBody seen (some "BEGIN") inner)
      (he : e.capitals? = some "END") (h : IsBody seen (some "END") ls) :
      IsBody seen before (b :: inner ++ e :: ls)
  | case {before : Option String} {c e : Lexeme} {inner ls : List Lexeme}
      (hseen : seen = true → before ≠ some "END")
      (hc : c.capitals? = some "CASE") (hinner : IsBody seen (some "CASE") inner)
      (he : e.capitals? = some "END") (h : IsBody seen (some "END") ls) :
      IsBody seen before (c :: inner ++ e :: ls)
  | caseEndCase {before : Option String} {c e d : Lexeme} {inner ls : List Lexeme}
      (hseen : seen = true → before ≠ some "END")
      (hc : c.capitals? = some "CASE") (hinner : IsBody seen (some "CASE") inner)
      (he : e.capitals? = some "END") (hd : d.capitals? = some "CASE")
      (h : IsBody seen (some "CASE") ls) : IsBody seen before (c :: inner ++ e :: d :: ls)

/-- A block that starts with `BEGIN`. -/
def IsBlock (seen : Bool) (ls : List Lexeme) : Prop :=
  ∃ b inner e, ls = b :: inner ++ [e] ∧ b.capitals? = some "BEGIN" ∧
    IsBody seen (some "BEGIN") inner ∧ e.capitals? = some "END"

/-- What may stand next: behind `BEGIN` an ordinary word that marks no transaction, and behind `END`
no word that makes it the end of something else. -/
def Follows (l k : Lexeme) : Prop :=
  (l.capitals? = some "BEGIN" →
    ∃ w ∈ k.capitals?, w ∉ blockWords ∧ w ∉ Block.transactionMarks) ∧
  (l.capitals? = some "END" → ∀ w ∈ k.capitals?, w ∉ Block.endsNoBlock)

instance : DecidableRel Follows := fun _ _ => inferInstanceAs (Decidable (_ ∧ _))

/-- No word stands right behind a point, where it is part of a name. -/
def Apart (l k : Lexeme) : Prop :=
  l = symbol '.' → k.capitals? = none

instance : DecidableRel Apart := fun _ _ => inferInstanceAs (Decidable (_ → _))

variable {seen : Bool} {before : Option String} {l : Lexeme} {ls : List Lexeme}

/-! ### Balance of a block -/

/-- Turns that lead back to where they start and never above it. -/
def Level (turns : List Int) : Prop :=
  turns.sum = 0 ∧ ∀ pre, pre <+: turns → 0 ≤ pre.sum

lemma level_nil : Level [] := ⟨rfl, by simp⟩

lemma Level.append {xs ys : List Int} (hx : Level xs) (hy : Level ys) : Level (xs ++ ys) := by
  refine ⟨by rw [List.sum_append, hx.1, hy.1]; rfl, ?_⟩
  rintro pre ⟨post, hpre⟩
  rcases List.append_eq_append_iff.mp hpre with ⟨rest, rfl, -⟩ | ⟨rest, rfl, hrest⟩
  · exact hx.2 pre (List.prefix_append pre rest)
  · rw [List.sum_append, hx.1]
    have := hy.2 rest ⟨post, hrest.symm⟩
    omega

/-- A level stretch stays level one turn down and up again. -/
lemma Level.nest {xs : List Int} (hx : Level xs) : Level (1 :: xs ++ [-1]) := by
  refine ⟨by simp [hx.1], ?_⟩
  rintro pre ⟨post, hpre⟩
  cases pre with
  | nil => simp
  | cons t pre =>
    rw [List.cons_append, List.cons_append, List.cons_eq_cons] at hpre
    obtain ⟨rfl, hpre⟩ := hpre
    have hsum : -1 ≤ pre.sum := by
      rcases List.append_eq_append_iff.mp hpre with ⟨rest, rfl, -⟩ | ⟨rest, rfl, hrest⟩
      · have := hx.2 pre (List.prefix_append pre rest)
        omega
      · rw [List.sum_append, hx.1]
        rcases List.append_eq_singleton_iff.mp hrest.symm with ⟨rfl, -⟩ | ⟨rfl, -⟩ <;> simp
    rw [List.sum_cons]
    omega

lemma level_singleton_zero : Level [0] := by
  refine ⟨rfl, ?_⟩
  rintro pre ⟨post, hpre⟩
  rcases List.append_eq_singleton_iff.mp hpre with ⟨rfl, -⟩ | ⟨rfl, -⟩ <;> simp

lemma turns_append {xs ys : List Lexeme} :
    turns before (xs ++ ys) = turns before xs ++ turns (xs.foldl lastWord before) ys := by
  induction xs generalizing before with
  | nil => rfl
  | cons x xs ih =>
    rw [List.cons_append, turns_cons, ih, turns_cons, List.foldl_cons, List.cons_append]

lemma turn_of_capitals? (before : Option String) {w : String} (h : l.capitals? = some w) :
    l.turn before = Block.turn before w ∧ l.lastWord before = some w := by
  simp [turn, lastWord, h]

lemma Ordinary.turn_eq (h : Ordinary l) : l.turn before = 0 := by
  cases h with
  | word letters h =>
    simp only [blockWords, List.mem_cons, List.not_mem_nil, or_false, not_or] at h
    simp [turn, capitals?, Block.turn, h]
  | _ => rfl

/-- The turns of a block: one down, those of its inside, and one up. -/
lemma turns_block {b e : Lexeme} {inner : List Lexeme} {w : String}
    (hb : b.capitals? = some w) (hturn : Block.turn before w = 1) (he : e.capitals? = some "END") :
    turns before (b :: inner ++ e :: ls)
      = 1 :: turns (some w) inner ++ [-1] ++ turns (some "END") ls := by
  obtain ⟨hbturn, hblast⟩ := turn_of_capitals? before hb
  obtain ⟨heturn, helast⟩ :=
    turn_of_capitals? (inner.foldl lastWord (some w)) he
  rw [List.cons_append, turns_cons, turns_append, turns_cons, hbturn, hturn, hblast, heturn, helast]
  simp [Block.turn]

/-- If every opening word is seen, the turns of the inside of a block are level. -/
lemma IsBody.level (h : IsBody true before ls) : Level (turns before ls) := by
  induction h with
  | nil => exact level_nil
  | ordinary hl _ ih =>
    rw [turns_cons, hl.turn_eq]
    exact level_singleton_zero.append ih
  | terminator _ ih => exact level_singleton_zero.append ih
  | procedural hb _ he _ ihinner ih =>
    rw [turns_block hb (by simp [Block.turn]) he]
    exact ihinner.nest.append ih
  | case hseen hc _ he _ ihinner ih =>
    rw [turns_block hc (by simp [Block.turn, hseen]) he]
    exact ihinner.nest.append ih
  | caseEndCase hseen hc _ he hd _ ihinner ih =>
    obtain ⟨hdturn, hdlast⟩ := turn_of_capitals? (some "END") hd
    rw [turns_block hc (by simp [Block.turn, hseen]) he, turns_cons, hdturn, hdlast]
    exact ihinner.nest.append (level_singleton_zero.append ih)

/-! ### Lexemes of a block -/

/-- What stands in a script made of a block: white space, a terminator, something ordinary, or a
word that opens or closes a block. -/
def Nestable (l : Lexeme) : Prop :=
  l.isSpace = true ∨ l = semicolon ∨ Ordinary l ∨
    ∃ w ∈ ["BEGIN", "END", "CASE"], l.capitals? = some w

lemma nestable_of_capitals? {w : String} (h : l.capitals? = some w)
    (hw : w ∈ ["BEGIN", "END", "CASE"]) : Nestable l :=
  Or.inr (Or.inr (Or.inr ⟨w, hw, h⟩))

lemma IsBody.nestable (h : IsBody seen before ls) : ∀ l ∈ ls, Nestable l := by
  induction h with
  | nil => simp
  | ordinary hl _ ih =>
    intro k hk
    rcases List.mem_cons.mp hk with rfl | hk
    · exact Or.inr (Or.inr (Or.inl hl))
    · exact ih k hk
  | terminator _ ih =>
    intro k hk
    rcases List.mem_cons.mp hk with rfl | hk
    · exact Or.inr (Or.inl rfl)
    · exact ih k hk
  | procedural hb _ he _ ihinner ih | case _ hb _ he _ ihinner ih =>
    intro k hk
    simp only [List.cons_append, List.mem_cons, List.mem_append] at hk
    rcases hk with rfl | hk | rfl | hk
    · exact nestable_of_capitals? hb (by simp)
    · exact ihinner k hk
    · exact nestable_of_capitals? he (by simp)
    · exact ih k hk
  | caseEndCase _ hc _ he hd _ ihinner ih =>
    intro k hk
    simp only [List.cons_append, List.mem_cons, List.mem_append] at hk
    rcases hk with rfl | hk | rfl | rfl | hk
    · exact nestable_of_capitals? hc (by simp)
    · exact ihinner k hk
    · exact nestable_of_capitals? he (by simp)
    · exact nestable_of_capitals? hd (by simp)
    · exact ih k hk

lemma IsBlock.nestable {text : String} (h : IsBlock seen (tokens text)) :
    ∀ l ∈ ofText text.toList, Nestable l := by
  obtain ⟨b, inner, e, htokens, hb, hinner, he⟩ := h
  intro l hl
  cases hspace : l.isSpace with
  | true => exact Or.inl hspace
  | false =>
    have hmem : l ∈ tokens text := List.mem_filter.mpr ⟨hl, by simp [hspace]⟩
    rw [htokens, List.cons_append, List.mem_cons, List.mem_append, List.mem_singleton] at hmem
    rcases hmem with rfl | hmem | rfl
    · exact nestable_of_capitals? hb (by simp)
    · exact hinner.nestable l hmem
    · exact nestable_of_capitals? he (by simp)

lemma Nestable.ordinary_of_region (h : Nestable l) (hregion : l.isSpace = false)
    (hsemi : l ≠ semicolon) (hword : l.capitals? = none) : Ordinary l := by
  rcases h with h | h | h | ⟨w, -, h⟩
  · rw [h] at hregion
    exact absurd hregion (by simp)
  · exact absurd h hsemi
  · exact h
  · rw [h] at hword
    exact absurd hword (by simp)

lemma Nestable.isOpen_eq_false (h : Nestable l) :
    l.isOpen = false ∧ ∀ body, l ≠ lineComment body := by
  cases l with
  | quoted quote body closed | dollarQuoted tag body closed | blockComment body closed
  | lineComment body =>
    cases h.ordinary_of_region rfl (by simp) rfl <;> simp [isOpen]
  | _ => simp [isOpen]

/-- A terminator may follow anything in a block, which is closed and no comment. -/
lemma ofText_concat_semicolon {text : String} (h : ∀ l ∈ ofText text.toList, Nestable l) :
    ofText (text ++ ";").toList = ofText text.toList ++ [semicolon] := by
  have hopen : ∀ l ∈ ofText text.toList, l.isOpen = false :=
    fun l hl => (h l hl).isOpen_eq_false.1
  have hcomment : ∀ body, lineComment body ∉ (ofText text.toList).getLast? :=
    fun body hbody => (h _ (List.mem_of_getLast? hbody)).isOpen_eq_false.2 body rfl
  refine ofText_eq_iff.mpr ⟨?_, ?_⟩
  · rw [List.flatMap_append, flatMap_text_ofText, String.toList_append]
    rfl
  · exact (fitting_ofText _).append_separator hopen (by decide) rfl
      (fun body hbody => absurd hbody (hcomment body)) fun _ => ⟨trivial, trivial⟩

/-! ### Regular words -/

lemma capitals?_of_isSpace (h : l.isSpace = true) : l.capitals? = none := by
  cases l with
  | lineBreak => rfl
  | blank c => rfl
  | _ => simp [isSpace] at h

lemma Nestable.not_mem {w : String} (h : Nestable l) (hl : l.capitals? = some w) :
    w ∉ ["START", "COMMIT", "ROLLBACK"] := by
  rcases h with h | rfl | h | ⟨v, hv, h⟩
  · simp [capitals?_of_isSpace h] at hl
  · simp [capitals?] at hl
  · cases h with
    | word letters h =>
      obtain rfl : capitals letters = w := by simpa [capitals?] using hl
      simp only [blockWords, List.mem_cons, List.not_mem_nil, or_false, not_or] at h ⊢
      exact h.2.2.2
    | _ => simp [capitals?] at hl
  · obtain rfl : v = w := by simpa [hl] using h.symm
    revert hv
    simp only [List.mem_cons, List.not_mem_nil, or_false]
    rintro (rfl | rfl | rfl) <;> decide

/-- The word that comes next is the first lexeme, white space aside. -/
lemma head?_of_ofLexemes {w : String} (h : Upcoming.ofLexemes ls = .word w) :
    ∃ k, k ∈ (ls.filter (!·.isSpace)).head? ∧ k.capitals? = some w := by
  induction ls with
  | nil => cases h
  | cons l ls ih =>
    cases l with
    | lineBreak => exact ih h
    | blank c => exact ih h
    | word letters =>
      refine ⟨word letters, rfl, ?_⟩
      cases h
      rfl
    | _ => cases h

lemma allRegular_of_isChain {afterPoint : Bool} (hls : ∀ l ∈ ls, Nestable l)
    (hfollows : (ls.filter (!·.isSpace)).IsChain Follows) (happart : ls.IsChain Apart)
    (hpoint : afterPoint = true → ∀ l ∈ ls.head?, l.capitals? = none) :
    AllRegular [semicolon] afterPoint ls := by
  induction ls generalizing afterPoint with
  | nil => trivial
  | cons l ls ih =>
    refine ⟨fun w hw => ⟨?_, (hls l (by simp)).not_mem hw, ?_⟩, ?_⟩
    · by_contra hafter
      have hnone := hpoint (by simpa using hafter) l (by simp)
      simp [hw] at hnone
    · intro hend v hv
      obtain ⟨k, hk, hkv⟩ := head?_of_ofLexemes hv
      have hspace : l.isSpace = false := by
        by_contra hspace
        rw [capitals?_of_isSpace (by simpa using hspace)] at hw
        simp at hw
      rw [List.filter_cons_of_pos (by simp [hspace])] at hfollows
      have hmem : k ∈ (ls.filter (!·.isSpace)).head? := by
        rw [List.filter_append] at hk
        cases hfilter : ls.filter (!·.isSpace) with
        | nil =>
          rw [hfilter] at hk
          obtain rfl : semicolon = k := Option.some.inj hk
          simp [capitals?] at hkv
        | cons m ms =>
          rw [hfilter] at hk
          exact hk
      exact (hfollows.rel_head? hmem).2 (hend ▸ hw) v hkv
    · refine ih (fun k hk => hls k (by simp [hk])) ?_ happart.tail fun hdot k hk => ?_
      · rw [List.filter_cons] at hfollows
        split at hfollows
        · exact hfollows.tail
        · exact hfollows
      · exact happart.rel_head? hk (by simpa using hdot)

end Lexeme

namespace Script

open Lexeme

/-! ### Scripts that are one block -/

/-- A script of one group with one statement. -/
def IsSingle (text : String) : Prop :=
  ∃ g, groups text = [g] ∧ g.statements.length = 1

/-- Some stretch in front of each terminator opens more blocks than it closes. -/
def Covered (ls : List Lexeme) : Prop :=
  ∀ pre post, ls = pre ++ semicolon :: post →
    ∃ stretch, stretch <:+ turns none pre ∧ 0 < stretch.sum

lemma isSingle_iff {text : String} : IsSingle text ↔ (fullParts text).length = 1 := by
  have hlength : (fullParts text).length = (statements text).length := by
    simpa using congrArg List.length (toList_statements text).symm
  rw [hlength, statements]
  constructor
  · rintro ⟨g, hgroups, hone⟩
    simpa [hgroups] using hone
  · intro hone
    have hne : ∀ g ∈ groups text, 0 < g.statements.length := by
      intro g hg
      exact List.length_pos_iff.mpr (statements_ne_nil hg)
    cases hgroups : groups text with
    | nil => simp [hgroups] at hone
    | cons g gs =>
      have hg := hne g (by simp [hgroups])
      cases gs with
      | nil => exact ⟨g, hgroups, by simpa [hgroups] using hone⟩
      | cons g' gs =>
        have hg' := hne g' (by simp [hgroups])
        simp only [hgroups, List.flatMap_cons, List.length_append] at hone
        omega

lemma sum_turns_filter {before : Option String} {ls : List Lexeme} :
    (turns before (ls.filter (!·.isSpace))).sum = (turns before ls).sum := by
  induction ls generalizing before with
  | nil => rfl
  | cons l ls ih =>
    cases hspace : l.isSpace with
    | true =>
      have hturn : l.turn before = 0 ∧ l.lastWord before = before := by
        simp [Lexeme.turn, Lexeme.lastWord, capitals?_of_isSpace hspace]
      rw [List.filter_cons_of_neg (by simp [hspace]), ih, turns_cons, hturn.1, hturn.2]
      simp
    | false =>
      rw [List.filter_cons_of_pos (by simp [hspace]), turns_cons, turns_cons, List.sum_cons,
        List.sum_cons, ih]

/-- In front of a terminator in a block stand `BEGIN` and a first piece of the inside, and behind it
the last `END`. -/
lemma exists_of_isBlock {seen : Bool} {text : String} {pre post : List Lexeme}
    (h : IsBlock seen (tokens text)) (hsplit : ofText text.toList = pre ++ semicolon :: post) :
    ∃ b first inner e, pre.filter (!·.isSpace) = b :: first ∧ first <+: inner ∧ e ∈ post ∧
      b.capitals? = some "BEGIN" ∧ IsBody seen (some "BEGIN") inner ∧
      e.capitals? = some "END" := by
  obtain ⟨b, inner, e, htokens, hb, hinner, he⟩ := h
  rw [tokens, hsplit, List.filter_append, List.filter_cons_of_pos (by simp [isSpace]),
    List.cons_append] at htokens
  cases hpre : pre.filter (!·.isSpace) with
  | nil =>
    rw [hpre, List.nil_append, List.cons_eq_cons] at htokens
    rw [← htokens.1] at hb
    simp [capitals?] at hb
  | cons k first =>
    rw [hpre, List.cons_append, List.cons_eq_cons] at htokens
    obtain ⟨rfl, htokens⟩ := htokens
    rcases List.append_eq_append_iff.mp htokens with ⟨rest, hrest, hpost⟩ | ⟨rest, rfl, hpost⟩
    · refine ⟨k, first, inner, e, rfl, ⟨rest, hrest.symm⟩, ?_, hb, hinner, he⟩
      cases rest with
      | nil =>
        obtain rfl : semicolon = e := (List.cons_eq_cons.mp hpost).1
        simp [capitals?] at he
      | cons r rest =>
        rw [List.cons_append, List.cons_eq_cons] at hpost
        have hmem : e ∈ post.filter (!·.isSpace) := by
          rw [hpost.2]
          simp
        exact (List.mem_filter.mp hmem).1
    · rcases List.append_eq_singleton_iff.mp hpost.symm with ⟨-, hsemi⟩ | ⟨-, hsemi⟩
      · obtain rfl : semicolon = e := (List.cons_eq_cons.mp hsemi).1
        simp [capitals?] at he
      · simp at hsemi

lemma covered_of_isBlock {text : String} (h : IsBlock true (tokens text)) :
    Covered (ofText text.toList) := by
  intro pre post hsplit
  refine ⟨turns none pre, List.suffix_refl _, ?_⟩
  obtain ⟨b, first, inner, e, hpre, ⟨rest, rfl⟩, -, hb, hinner, -⟩ := exists_of_isBlock h hsplit
  obtain ⟨hturn, hlast⟩ := turn_of_capitals? none hb
  have hlevel := hinner.level.2 (turns (some "BEGIN") first) (by simp [turns_append])
  rw [← sum_turns_filter, hpre, turns_cons, hturn, hlast, List.sum_cons, Block.turn, if_pos rfl]
  omega

lemma isGap_of_capitals? {l : Lexeme} {w : String} (h : l.capitals? = some w) :
    l.isGap = false ∧ l ≠ semicolon := by
  cases l with
  | word letters => exact ⟨rfl, by simp⟩
  | _ => simp [capitals?] at h

lemma length_fullParts_of_uncut {text : String} {ls : List Lexeme}
    (hparts : parts text = Scan.parts {} [] (ls ++ [semicolon]))
    (huncut : Scan.Uncut [semicolon] {} ls) {l : Lexeme} (hl : l ∈ ls) (hgap : l.isGap = false) :
    (fullParts text).length = 1 := by
  obtain ⟨s, hs⟩ := Scan.parts_of_uncut [] huncut
  have hfull : ls.any (!·.isGap) = true := List.any_eq_true.mpr ⟨l, hl, by simp [hgap]⟩
  rw [fullParts, hparts, hs, Scan.parts]
  split <;> simp [hfull]

lemma length_fullParts_of_not_uncut {text : String} {ls : List Lexeme}
    (hparts : parts text = Scan.parts {} [] (ls ++ [semicolon]))
    (hcut : ¬ Scan.Uncut [semicolon] {} ls)
    (hends : ∀ pre post, ls = pre ++ semicolon :: post →
      (∃ l ∈ pre, l.isGap = false) ∧ ∃ l ∈ post, l.isGap = false ∧ l ≠ semicolon) :
    1 < (fullParts text).length := by
  obtain ⟨pre, post, s, hsplit, hs⟩ := Scan.parts_of_not_uncut [] hcut
  obtain ⟨⟨l, hl, hgap⟩, k, hk, hkgap, hksemi⟩ := hends pre post hsplit
  have hfull : pre.any (!·.isGap) = true := List.any_eq_true.mpr ⟨l, hl, by simp [hgap]⟩
  obtain ⟨part, hpart, hmem⟩ :=
    Scan.exists_mem_parts (s := s) [] (show k ∈ [] ++ (post ++ [semicolon]) by simp [hk]) hksemi
  have hpos : 0 < ((s.parts [] (post ++ [semicolon])).filter (·.any (!·.isGap))).length :=
    List.length_pos_of_mem
      (List.mem_filter.mpr ⟨hpart, List.any_eq_true.mpr ⟨k, hmem, by simp [hkgap]⟩⟩)
  rw [fullParts, hparts, hs, List.nil_append, List.filter_cons, if_pos hfull, List.length_cons]
  omega

/-- A script of one block that is ended by a terminator is one statement exactly if some stretch in
front of each terminator in it opens more blocks than it closes, and so it is if no `CASE` that
opens a block has `END` as the word before it. -/
theorem isSingle_block (text : String) (hblock : IsBlock false (tokens text))
    (hfollows : (tokens text).IsChain Follows) (happart : (ofText text.toList).IsChain Apart) :
    (IsSingle (text ++ ";") ↔ Covered (ofText text.toList)) ∧
      (IsBlock true (tokens text) → IsSingle (text ++ ";")) := by
  have hnestable := hblock.nestable
  have hparts : parts (text ++ ";") = Scan.parts {} [] (ofText text.toList ++ [semicolon]) := by
    rw [parts, ofText_concat_semicolon hnestable]
  have hregular : AllRegular [semicolon] false (ofText text.toList) :=
    allRegular_of_isChain hnestable hfollows happart (by simp)
  have hcovered :
      Scan.Uncut [semicolon] {} (ofText text.toList) ↔ Covered (ofText text.toList) := by
    rw [Scan.uncut_iff hregular, Covered]
    exact forall₃_congr fun pre post _ => lt_depth_iff (Int.le_refl 0)
  have hsingle : IsSingle (text ++ ";") ↔ Scan.Uncut [semicolon] {} (ofText text.toList) := by
    rw [isSingle_iff]
    constructor
    · intro hone
      by_contra hcut
      have hlt := length_fullParts_of_not_uncut hparts hcut fun pre post hsplit => by
        obtain ⟨b, first, inner, e, hpre, -, he, hb, -, hend⟩ := exists_of_isBlock hblock hsplit
        have hmem : b ∈ pre := (List.mem_filter.mp (hpre ▸ List.mem_cons_self)).1
        exact ⟨⟨b, hmem, (isGap_of_capitals? hb).1⟩, e, he, isGap_of_capitals? hend⟩
      omega
    · intro huncut
      obtain ⟨b, inner, e, htokens, hb, -, -⟩ := hblock
      have hmem : b ∈ tokens text := by
        rw [htokens]
        simp
      exact length_fullParts_of_uncut hparts huncut (List.mem_filter.mp hmem).1
        (isGap_of_capitals? hb).1
  rw [hsingle, hcovered]
  exact ⟨Iff.rfl, covered_of_isBlock⟩

/-- `CASE WHEN condition THEN value END` with more behind. -/
def caseWhen (condition value : String) (rest : List Lexeme) : List Lexeme :=
  word "CASE".toList :: ["WHEN", condition, "THEN", value].map (word ·.toList) ++
    word "END".toList :: rest

lemma isBody_caseWhen {seen : Bool} {before : Option String} {condition value : String}
    {rest : List Lexeme} (hseen : seen = true → before ≠ some "END")
    (hcondition : capitals condition.toList ∉ blockWords)
    (hvalue : capitals value.toList ∉ blockWords) (h : IsBody seen (some "END") rest) :
    IsBody seen before (caseWhen condition value rest) := by
  refine .case hseen (by decide +kernel) ?_ (by decide +kernel) h
  refine .ordinary (.word _ (by decide +kernel)) (.ordinary (.word _ hcondition) ?_)
  exact .ordinary (.word _ (by decide +kernel)) (.ordinary (.word _ hvalue) .nil)

/-- The end of a statement and a whole one behind it. -/
lemma isBody_nextStatement {seen : Bool} {before : Option String} :
    IsBody seen before [semicolon, word "SELECT".toList, word "2".toList, semicolon] := by
  refine .terminator (.ordinary (.word _ (by decide +kernel)) ?_)
  exact .ordinary (.word _ (by decide +kernel)) (.terminator .nil)

/-- A block with a `CASE` in its first statement. -/
def oneCase : String :=
  "BEGIN SELECT CASE WHEN a THEN 1 END ; SELECT 2 ; END"

lemma isBlock_oneCase (seen : Bool) : IsBlock seen (tokens oneCase) := by
  have htokens : tokens oneCase = word "BEGIN".toList ::
      (word "SELECT".toList :: caseWhen "a" "1"
        [semicolon, word "SELECT".toList, word "2".toList, semicolon]) ++
      [word "END".toList] := by
    decide +kernel
  refine ⟨_, _, _, htokens, by decide +kernel, ?_, by decide +kernel⟩
  refine .ordinary (.word _ (by decide +kernel)) ?_
  refine isBody_caseWhen (fun _ => ?_) (by decide +kernel) (by decide +kernel) isBody_nextStatement
  decide +kernel

/-- The `CASE` of this block stands behind another word than `END`. -/
theorem isSingle_oneCase : IsSingle (oneCase ++ ";") :=
  (isSingle_block oneCase (isBlock_oneCase false) (by decide +kernel) (by decide +kernel)).2
    (isBlock_oneCase true)

/-- Two `CASE` expressions with a comma between them: the second has `END` as the word before it. -/
def twoCases : String :=
  "BEGIN SELECT CASE WHEN a THEN 1 END , CASE WHEN b THEN 2 END ; SELECT 2 ; END"

lemma isBlock_twoCases : IsBlock false (tokens twoCases) := by
  have htokens : tokens twoCases = word "BEGIN".toList ::
      (word "SELECT".toList :: caseWhen "a" "1" (symbol ',' :: caseWhen "b" "2"
        [semicolon, word "SELECT".toList, word "2".toList, semicolon])) ++
      [word "END".toList] := by
    decide +kernel
  refine ⟨_, _, _, htokens, by decide +kernel, ?_, by decide +kernel⟩
  refine .ordinary (.word _ (by decide +kernel)) ?_
  apply isBody_caseWhen (by simp) (by decide +kernel) (by decide +kernel)
  refine .ordinary (.symbol ',') ?_
  exact isBody_caseWhen (by simp) (by decide +kernel) (by decide +kernel) isBody_nextStatement

/-- The second `CASE` opens nothing, so that the block is cut into three statements. -/
theorem not_isSingle_twoCases :
    (IsBlock false (tokens twoCases) ∧ (tokens twoCases).IsChain Follows ∧
      (ofText twoCases.toList).IsChain Apart) ∧ ¬ IsSingle (twoCases ++ ";") := by
  refine ⟨⟨isBlock_twoCases, by decide +kernel, by decide +kernel⟩, ?_⟩
  rintro ⟨g, hgroups, hone⟩
  have hthree : (statements (twoCases ++ ";")).length = 3 := by decide +kernel
  rw [statements, hgroups, List.flatMap_singleton, hone] at hthree
  exact absurd hthree (by decide)

end Script

end SqlWorkbench
