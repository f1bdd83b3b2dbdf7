import Mathlib.Tactic.Common
import SqlWorkbench.Proofs.Script.Nesting

/-!
# Where a script is cut

Lexemes are scanned with others behind them, of which a word sees the first that is no white space.
Two scans that take the same terminators for ends of statements divide their lexemes in the same
way, whatever the rest of their states. Main statement: the first stretch of a script is divided in
one way, whatever stands behind it.
-/

namespace SqlWorkbench

open Lexeme

variable {tail tail' ls ms : List Lexeme} {l : Lexeme} {s s' : Scan}

/-! ### What a word sees -/

namespace Upcoming

/-- Nothing behind a lexeme that is no white space is seen. -/
lemma ofLexemes_append (hl : l ∈ ls) (hspace : l.isSpace = false) :
    ofLexemes (ls ++ tail) = ofLexemes ls := by
  induction ls with
  | nil => simp at hl
  | cons k ls ih =>
    have hls (hk : k.isSpace = true) : l ∈ ls := by
      rcases List.mem_cons.mp hl with rfl | hl
      · rw [hspace] at hk
        exact absurd hk (by simp)
      · exact hl
    cases k with
    | lineBreak => exact ih (hls rfl)
    | blank c => exact ih (hls rfl)
    | _ => rfl

lemma ofLexemes_append_of_space (h : ∀ l ∈ ls, l.isSpace = true) :
    ofLexemes (ls ++ tail) = ofLexemes tail := by
  induction ls with
  | nil => rfl
  | cons k ls ih =>
    rw [List.forall_mem_cons] at h
    cases k with
    | lineBreak | blank => exact ih h.2
    | _ => simp [isSpace] at h

/-- What is seen behind some lexemes depends on what is seen of the rest. -/
lemma ofLexemes_append_congr (h : ofLexemes tail = ofLexemes tail') :
    ofLexemes (ls ++ tail) = ofLexemes (ls ++ tail') := by
  induction ls with
  | nil => exact h
  | cons k ls ih =>
    cases k with
    | lineBreak => exact ih
    | blank c => exact ih
    | _ => rfl

end Upcoming

namespace Scan

/-! ### Scanning a stretch -/

/-- The state after a stretch of lexemes with more behind them. -/
def after (tail : List Lexeme) (s : Scan) : List Lexeme → Scan
  | [] => s
  | l :: ls => after tail (s.step l (ls ++ tail)) ls

@[simp] lemma after_nil : s.after tail [] = s := rfl

@[simp] lemma after_cons : s.after tail (l :: ls) = (s.step l (ls ++ tail)).after tail ls := rfl

lemma after_append :
    s.after tail (ls ++ ms) = (s.after (ms ++ tail) ls).after tail ms := by
  induction ls generalizing s with
  | nil => rfl
  | cons l ls ih => rw [List.cons_append, after_cons, after_cons, ih, List.append_assoc]

lemma step_congr {rest rest' : List Lexeme}
    (h : ∀ w, l.capitals? = some w → Upcoming.ofLexemes rest = Upcoming.ofLexemes rest') :
    s.step l rest = s.step l rest' := by
  cases l with
  | word letters => simp only [step, blocksAfter, h (capitals letters) rfl]
  | _ => rfl

lemma after_congr (h : Upcoming.ofLexemes tail = Upcoming.ofLexemes tail') :
    s.after tail ls = s.after tail' ls := by
  induction ls generalizing s with
  | nil => rfl
  | cons l ls ih =>
    rw [after_cons, after_cons, step_congr fun _ _ => Upcoming.ofLexemes_append_congr h]
    exact ih

lemma uncut_append : Uncut tail s (ls ++ ms) ↔
    Uncut (ms ++ tail) s ls ∧ Uncut tail (s.after (ms ++ tail) ls) ms := by
  induction ls generalizing s with
  | nil => exact (true_and _).symm.to_iff
  | cons l ls ih =>
    rw [List.cons_append, Uncut, Uncut, ih, List.append_assoc, and_assoc]
    rfl

lemma uncut_of_not_mem (h : .semicolon ∉ ls) : Uncut tail s ls := by
  induction ls generalizing s with
  | nil => trivial
  | cons l ls ih =>
    rw [List.mem_cons, not_or] at h
    exact ⟨fun hl => absurd hl.symm h.1, ih h.2⟩

/-! ### Scans that cut alike -/

/-- Two scans of the same lexemes, with others behind them, find blocks open at the same
terminators. -/
def SameCuts (tail tail' : List Lexeme) (s s' : Scan) : List Lexeme → Prop
  | [] => True
  | l :: ls => (l = .semicolon → (s.blocks = [] ↔ s'.blocks = [])) ∧
      SameCuts tail tail' (s.step l (ls ++ tail)) (s'.step l (ls ++ tail')) ls

lemma sameCuts_iff : SameCuts tail tail' s s' ls ↔ ∀ pre post, ls = pre ++ .semicolon :: post →
    ((s.after (.semicolon :: post ++ tail) pre).blocks = [] ↔
      (s'.after (.semicolon :: post ++ tail') pre).blocks = []) := by
  induction ls generalizing s s' with
  | nil => simp [SameCuts]
  | cons l ls ih =>
    rw [SameCuts, ih]
    constructor
    · rintro ⟨hl, hls⟩ pre post heq
      cases pre with
      | nil => exact hl (List.cons_eq_cons.mp heq).1
      | cons k pre =>
        rw [List.cons_append, List.cons_eq_cons] at heq
        obtain ⟨rfl, rfl⟩ := heq
        simpa using hls pre post rfl
    · intro hall
      refine ⟨fun hl => hall [] ls (by rw [hl, List.nil_append]), ?_⟩
      rintro pre post rfl
      simpa using hall (l :: pre) post rfl

lemma sameCuts_of_not_mem (h : .semicolon ∉ ls) : SameCuts tail tail' s s' ls := by
  rw [sameCuts_iff]
  rintro pre post rfl
  simp at h

/-- A stretch is cut in one way, whatever stands behind it: once a word sees beyond the stretch, no
terminator is left in it. -/
lemma sameCuts_self : SameCuts tail tail' s s ls := by
  induction ls generalizing s with
  | nil => trivial
  | cons l ls ih =>
    refine ⟨fun _ => Iff.rfl, ?_⟩
    by_cases hsemi : .semicolon ∈ ls
    · have hstep : s.step l (ls ++ tail) = s.step l (ls ++ tail') := by
        apply step_congr
        intro _ _
        rw [Upcoming.ofLexemes_append hsemi rfl, Upcoming.ofLexemes_append hsemi rfl]
      rw [hstep]
      exact ih
    · exact sameCuts_of_not_mem hsemi

/-- What two scans that cut alike divide a stretch into, in front of the parts behind it. -/
lemma exists_parts_append (part : List Lexeme) (h : SameCuts tail tail' s s' ls) :
    ∃ init last, s.parts part (ls ++ tail) = init ++ (s.after tail ls).parts last tail ∧
      s'.parts part (ls ++ tail') = init ++ (s'.after tail' ls).parts last tail' := by
  induction ls generalizing s s' part with
  | nil => exact ⟨[], part, rfl, rfl⟩
  | cons l ls ih =>
    obtain ⟨hl, hls⟩ := h
    have hcut : l = .semicolon ∧ s.blocks = [] ↔ l = .semicolon ∧ s'.blocks = [] :=
      and_congr_right hl
    simp only [List.cons_append, parts, after_cons, hcut]
    split
    · obtain ⟨init, last, hinit, hinit'⟩ := ih [] hls
      exact ⟨part :: init, last, by rw [hinit, List.cons_append], by rw [hinit', List.cons_append]⟩
    · exact ih (part ++ [l]) hls

/-- Up to the next terminator that ends a statement, all lexemes stand in the current part. -/
lemma parts_append_of_uncut (part : List Lexeme) (h : Uncut tail s ls) :
    s.parts part (ls ++ tail) = (s.after tail ls).parts (part ++ ls) tail := by
  induction ls generalizing s part with
  | nil => simp
  | cons l ls ih =>
    obtain ⟨hl, hls⟩ := h
    rw [List.cons_append, parts, if_neg fun hcut => hl hcut.1 hcut.2, ih _ hls, after_cons,
      List.append_assoc, List.singleton_append]

/-- Up to the next terminator, all lexemes stand in the current part. -/
lemma parts_append_of_not_mem (part : List Lexeme) (h : .semicolon ∉ ls) :
    s.parts part (ls ++ tail) = (s.after tail ls).parts (part ++ ls) tail :=
  parts_append_of_uncut part (uncut_of_not_mem h)

/-- Two scans that cut alike and stand in different parts differ in the first part only. -/
lemma exists_parts_eq_of_sameCuts (part part' : List Lexeme) (h : SameCuts [] [] s s' ls) :
    ∃ more parts, s.parts part ls = (part ++ more) :: parts ∧
      s'.parts part' ls = (part' ++ more) :: parts := by
  induction ls generalizing s s' part part' with
  | nil => exact ⟨[], [], by simp, by simp⟩
  | cons l ls ih =>
    obtain ⟨hl, hls⟩ := h
    rw [List.append_nil] at hls
    have hcut : l = .semicolon ∧ s.blocks = [] ↔ l = .semicolon ∧ s'.blocks = [] :=
      and_congr_right hl
    simp only [parts, hcut]
    split
    · obtain ⟨init, last, hparts, hparts'⟩ := exists_parts_append [] hls
      simp only [List.append_nil] at hparts hparts'
      exact ⟨[], _, by rw [List.append_nil], by rw [List.append_nil, hparts, hparts', parts_nil,
        parts_nil]⟩
    · obtain ⟨more, parts, hparts, hparts'⟩ := ih (part ++ [l]) (part' ++ [l]) hls
      exact ⟨l :: more, parts, by simp [hparts], by simp [hparts']⟩

/-! ### Scans with different memories -/

lemma step_before_congr {word : String} {before before' : Option String} {after : Upcoming}
    {blocks : List Block} (h : word = "CASE" → (before = some "END" ↔ before' = some "END")) :
    Block.step word before after blocks = Block.step word before' after blocks := by
  by_cases hcase : word = "CASE"
  · simp only [Block.step, hcase, h hcase]
  · simp only [Block.step, hcase, if_false]

/-- The remembered word matters only if it is `END` and the next word is `CASE`. -/
lemma sameCuts_of_blocks_eq (hblocks : s.blocks = s'.blocks) (hpoint : s.afterPoint = s'.afterPoint)
    (hword : s.lastWord = s'.lastWord ∨ s'.lastWord = none ∧
      ¬ (s.lastWord = some "END" ∧ (ls.filterMap capitals?).head? = some "CASE")) :
    SameCuts [] [] s s' ls := by
  induction ls generalizing s s' with
  | nil => trivial
  | cons l ls ih =>
    refine ⟨fun _ => by rw [hblocks], ih ?_ rfl ?_⟩
    · cases l with
      | word letters =>
        have hcase : capitals letters = "CASE" →
            (s.lastWord = some "END" ↔ s'.lastWord = some "END") := by
          intro hcase
          rcases hword with heq | ⟨hnone, hnot⟩
          · rw [heq]
          · have hend : s.lastWord ≠ some "END" := by simpa [capitals?, hcase] using hnot
            simp [hend, hnone]
        simp only [step, blocksAfter, hpoint, hblocks, step_before_congr hcase]
      | _ => exact hblocks
    · cases l with
      | word letters => exact Or.inl rfl
      | _ => exact hword

end Scan

/-- The terminator between two stretches of a script ends a statement: no block is open there. -/
def Script.EndsStatement (pre post : List Lexeme) : Prop :=
  (Scan.after (.semicolon :: post) {} pre).blocks = []

instance (pre post : List Lexeme) : Decidable (Script.EndsStatement pre post) :=
  inferInstanceAs (Decidable (_ = []))

/-- What follows on one of two stretches is cut alike if its terminators end statements behind the
one as behind the other. -/
lemma Scan.sameCuts_iff_endsStatement {post : List Lexeme} :
    SameCuts [] [] (Scan.after post {} ls) (Scan.after post {} ms) post ↔
      ∀ before after, post = before ++ .semicolon :: after →
        (Script.EndsStatement (ls ++ before) after ↔
          Script.EndsStatement (ms ++ before) after) := by
  rw [sameCuts_iff]
  refine forall₃_congr fun before after hpost => ?_
  have hends (ks : List Lexeme) : Script.EndsStatement (ks ++ before) after ↔
      ((Scan.after post {} ks).after (.semicolon :: after) before).blocks = [] := by
    rw [Script.EndsStatement, after_append, ← hpost]
  rw [hends, hends, List.append_nil]

end SqlWorkbench
