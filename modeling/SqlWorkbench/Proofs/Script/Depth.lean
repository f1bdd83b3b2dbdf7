import Mathlib.Algebra.Ring.Int.Defs
import Mathlib.Tactic.Common
import SqlWorkbench.Proofs.Script.Drafting

/-!
# Depth of nesting

A word takes the nesting of blocks one level down or up, and an `END` with nothing open takes it
nowhere. So the depth in front of a place is the largest balance of a stretch that ends there. Main
statement: which terminators end a statement is told by those balances alone.
-/

namespace SqlWorkbench

/-! ### Balances -/

/-- The depth after turns from a depth at the start; below nothing it does not go. -/
def depth (start : Int) (turns : List Int) : Int :=
  turns.foldl (fun d t => max 0 (d + t)) start

@[simp] lemma depth_nil {start : Int} : depth start [] = start := rfl

lemma depth_concat {start t : Int} {turns : List Int} :
    depth start (turns ++ [t]) = max 0 (depth start turns + t) := by
  rw [depth, List.foldl_append]
  rfl

lemma depth_nonneg (turns : List Int) : 0 ≤ depth 0 turns := by
  induction turns using List.reverseRecOn with
  | nil => simp
  | append_singleton turns t _ =>
    rw [depth_concat]
    omega

/-- From nothing, the depth is the largest balance of a stretch at the end. -/
lemma lt_depth_iff {k : Int} {turns : List Int} (hk : 0 ≤ k) :
    k < depth 0 turns ↔ ∃ stretch, stretch <:+ turns ∧ k < stretch.sum := by
  induction turns using List.reverseRecOn generalizing k with
  | nil =>
    simp only [depth_nil, List.suffix_nil, exists_eq_left, List.sum_nil]
  | append_singleton turns t ih =>
    rw [depth_concat]
    constructor
    · intro hlt
      by_cases hneg : k - t < 0
      · exact ⟨[t], List.suffix_append turns [t], by simp only [List.sum_singleton]; omega⟩
      · obtain ⟨stretch, ⟨before, rfl⟩, hsum⟩ := (ih (k := k - t) (by omega)).mp (by omega)
        refine ⟨stretch ++ [t], ⟨before, by simp⟩, ?_⟩
        rw [List.sum_append, List.sum_singleton]
        omega
    · rintro ⟨stretch, hsuffix, hsum⟩
      rcases List.eq_nil_or_concat stretch with rfl | ⟨init, u, rfl⟩
      · simp only [List.sum_nil] at hsum
        omega
      · rw [List.concat_eq_append] at hsuffix hsum
        obtain ⟨before, hbefore⟩ := hsuffix
        rw [← List.append_assoc] at hbefore
        obtain ⟨rfl, hu⟩ := List.append_inj' hbefore rfl
        obtain rfl : u = t := by simpa using hu
        rw [List.sum_append, List.sum_singleton] at hsum
        have hnonneg := depth_nonneg (before ++ init)
        by_cases hneg : k - u < 0
        · omega
        · have := (ih (k := k - u) (by omega)).mpr ⟨init, List.suffix_append before init, by omega⟩
          omega

/-! ### Turns -/

/-- The levels that a word in capitals goes down; `before` is the word before it. -/
def Block.turn (before : Option String) (word : String) : Int :=
  if word = "BEGIN" then 1
  else if word = "CASE" then if before = some "END" then 0 else 1
  else if word = "END" then -1
  else 0

lemma Block.length_step {word : String} {before : Option String} {after : Upcoming}
    {blocks : List Block} (hother : word ∉ ["START", "COMMIT", "ROLLBACK"])
    (hend : word = "END" → ∀ w, after = .word w → w ∉ Block.endsNoBlock) :
    ((Block.step word before after blocks).length : Int)
      = max 0 (blocks.length + Block.turn before word) := by
  simp only [List.mem_cons, List.not_mem_nil, or_false, not_or] at hother
  obtain ⟨hstart, hcommit, hrollback⟩ := hother
  unfold Block.step Block.turn
  by_cases hbegin : word = "BEGIN"
  · simp only [hbegin, if_true, List.length_cons]
    omega
  by_cases hcase : word = "CASE"
  · by_cases hbefore : before = some "END"
    · simp [hcase, hbefore]
    · simp [hcase, hbefore]
      omega
  by_cases hclose : word = "END"
  · have htail : (max 0 ((blocks.length : Int) + -1)) = (blocks.tail.length : Int) := by
      rw [List.length_tail]
      omega
    cases after with
    | word w => simp [hclose, hend hclose w rfl, htail]
    | _ => simp [hclose, htail]
  · simp [hbegin, hstart, hcase, hclose, hcommit, hrollback]

namespace Lexeme

/-- The word in capitals, if the lexeme is one. -/
def capitals? : Lexeme → Option String
  | word letters => some (capitals letters)
  | _ => none

/-- The levels that a lexeme goes down. -/
def turn (before : Option String) (l : Lexeme) : Int :=
  match l.capitals? with
  | some w => Block.turn before w
  | none => 0

/-- The last word up to a lexeme. -/
def lastWord (before : Option String) (l : Lexeme) : Option String :=
  l.capitals?.or before

/-- The turns of lexemes, one after the other. -/
def turns (before : Option String) : List Lexeme → List Int
  | [] => []
  | l :: ls => l.turn before :: turns (l.lastWord before) ls

@[simp] lemma turns_nil {before : Option String} : turns before [] = [] := rfl

@[simp] lemma turns_cons {before : Option String} {l : Lexeme} {ls : List Lexeme} :
    turns before (l :: ls) = l.turn before :: turns (l.lastWord before) ls := rfl

/-- A word does to the blocks what its turn says: it stands behind no point, does not start or end a
transaction, and is no `END` of something that is no block. -/
def Regular (afterPoint : Bool) (rest : List Lexeme) (l : Lexeme) : Prop :=
  ∀ w, l.capitals? = some w → afterPoint = false ∧ w ∉ ["START", "COMMIT", "ROLLBACK"] ∧
    (w = "END" → ∀ v, Upcoming.ofLexemes rest = .word v → v ∉ Block.endsNoBlock)

/-- All words of the lexemes are regular, with more lexemes behind. -/
def AllRegular (tail : List Lexeme) (afterPoint : Bool) : List Lexeme → Prop
  | [] => True
  | l :: ls => l.Regular afterPoint (ls ++ tail) ∧ AllRegular tail (l == .symbol '.') ls

end Lexeme

namespace Scan

variable {s : Scan} {l : Lexeme} {rest tail ls : List Lexeme}

lemma lastWord_step : (s.step l rest).lastWord = l.lastWord s.lastWord := by
  cases l <;> rfl

/-- Step lemma: a regular word changes the number of open blocks by its turn. -/
lemma length_blocks_step (h : l.Regular s.afterPoint rest) :
    ((s.step l rest).blocks.length : Int) = max 0 (s.blocks.length + l.turn s.lastWord) := by
  cases l with
  | word letters =>
    obtain ⟨hpoint, hother, hend⟩ := h (capitals letters) rfl
    rw [step, blocksAfter, hpoint]
    exact Block.length_step hother hend
  | _ => simp [step, blocksAfter, Lexeme.turn, Lexeme.capitals?]

/-! ### Terminators inside blocks -/

/-- Every terminator among the lexemes stands inside a block; `tail` is what comes after them. -/
def Uncut (tail : List Lexeme) (s : Scan) : List Lexeme → Prop
  | [] => True
  | l :: ls => (l = .semicolon → s.blocks ≠ []) ∧ Uncut tail (s.step l (ls ++ tail)) ls

/-- Run lemma: the turns in front of a terminator tell whether it stands inside a block. -/
lemma uncut_iff (h : Lexeme.AllRegular tail s.afterPoint ls) :
    Uncut tail s ls ↔ ∀ pre post, ls = pre ++ .semicolon :: post →
      0 < depth s.blocks.length (Lexeme.turns s.lastWord pre) := by
  induction ls generalizing s with
  | nil => simp [Uncut]
  | cons l ls ih =>
    obtain ⟨hl, hls⟩ := h
    have hstep := length_blocks_step hl
    rw [Uncut, ih hls, hstep, lastWord_step]
    constructor
    · rintro ⟨hblocks, hrest⟩ pre post heq
      cases pre with
      | nil =>
        obtain ⟨rfl, rfl⟩ := List.cons_eq_cons.mp heq
        have hpos := List.length_pos_iff.mpr (hblocks rfl)
        simpa using hpos
      | cons k pre =>
        rw [List.cons_append, List.cons_eq_cons] at heq
        obtain ⟨rfl, rfl⟩ := heq
        exact hrest pre post rfl
    · intro hall
      refine ⟨?_, fun pre post heq => hall (l :: pre) post (by rw [heq, List.cons_append])⟩
      rintro rfl hblocks
      have hpos := hall [] ls rfl
      simp [hblocks] at hpos

/-- Without a cut all lexemes stay in one part. -/
lemma parts_of_uncut (part : List Lexeme) (h : Uncut tail s ls) :
    ∃ s', s.parts part (ls ++ tail) = parts s' (part ++ ls) tail := by
  induction ls generalizing s part with
  | nil => exact ⟨s, by simp⟩
  | cons l ls ih =>
    obtain ⟨hl, hls⟩ := h
    obtain ⟨s', hs'⟩ := ih (part ++ [l]) hls
    refine ⟨s', ?_⟩
    rw [List.cons_append, parts, if_neg fun hcut => hl hcut.1 hcut.2, hs']
    simp

/-- The first cut divides the lexemes at a terminator. -/
lemma parts_of_not_uncut (part : List Lexeme) (h : ¬ Uncut tail s ls) :
    ∃ pre post s', ls = pre ++ .semicolon :: post ∧
      s.parts part (ls ++ tail) = (part ++ pre) :: parts s' [] (post ++ tail) := by
  induction ls generalizing s part with
  | nil => exact absurd trivial h
  | cons l ls ih =>
    by_cases hcut : l = .semicolon ∧ s.blocks = []
    · obtain ⟨rfl, hblocks⟩ := hcut
      refine ⟨[], ls, s.step .semicolon (ls ++ tail), rfl, ?_⟩
      rw [List.cons_append, parts, if_pos ⟨rfl, hblocks⟩, List.append_nil]
    · have hls : ¬ Uncut tail (s.step l (ls ++ tail)) ls := by
        intro hls
        exact h ⟨fun hl hblocks => hcut ⟨hl, hblocks⟩, hls⟩
      obtain ⟨pre, post, s', rfl, hparts⟩ := ih (part ++ [l]) hls
      refine ⟨l :: pre, post, s', rfl, ?_⟩
      rw [List.cons_append, parts, if_neg hcut, hparts]
      simp

end Scan

end SqlWorkbench
