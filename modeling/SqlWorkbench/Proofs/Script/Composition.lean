import Mathlib.Tactic.Common
import SqlWorkbench.Proofs.Script.Cuts
import SqlWorkbench.Proofs.Script.Spans

/-!
# Finished lines

A line that ends with the terminator of a statement divides a script: what stands before it does not
change how the statements behind it are cut. The one thing that is carried over is the last word,
and it matters only if it is `END` and the next word is `CASE`. Main statement: the groups of a
script with a finished line are those of the script up to there, and those of the rest further
down.
-/

namespace SqlWorkbench

open Lexeme

/-- The statement some lines further down. -/
def Span.shift (k : Nat) (s : Span) : Span :=
  { s with first := s.first + k, last := s.last + k }

/-- The group some lines further down. -/
def StatementGroup.shift (k : Nat) (g : StatementGroup) : StatementGroup :=
  { g with startLine := g.startLine + k, endLine := g.endLine + k }

namespace Lexeme

variable {line k : Nat} {apart : Bool} {g : Lexeme} {part : List Lexeme}
  {parts : List (List Lexeme)}

/-! ### Spans further down -/

lemma spans_shift : spans (line + k) apart parts = (spans line apart parts).map (Span.shift k) := by
  induction parts generalizing line apart with
  | nil => rfl
  | cons part parts ih =>
    rw [spans, spans, Nat.add_right_comm, ih, ih]
    split
    · rfl
    · simp [Span.shift, Nat.add_right_comm]

/-- A line that has ended before the first part sets its statement apart. -/
lemma spans_true (apart : Bool) : spans line true parts
    = (spans line apart parts).modifyHead fun s => { s with apart := true } := by
  induction parts generalizing line apart with
  | nil => rfl
  | cons part parts ih =>
    rw [spans, spans]
    split
    · exact ih _
    · simp

lemma statement_cons_gap (hg : g.isGap = true) : statement (g :: part) = statement part := by
  rw [statement, statement, layout, layout, List.dropWhile_cons_of_pos hg]

/-- A gap in front of the first part is as good as its lines. -/
lemma spans_cons_gap (hg : g.isGap = true) :
    spans line apart ((g :: part) :: parts)
      = spans (line + breaks [g]) (apart || 0 < breaks [g]) (part :: parts) := by
  have hbreaks (ls : List Lexeme) : breaks (g :: ls) = breaks [g] + breaks ls :=
    breaks_append [g] ls
  have hleading : leading (g :: part) = g :: leading part := List.takeWhile_cons_of_pos hg
  have hpos (n m : Nat) : (apart || decide (0 < n + m))
      = (apart || decide (0 < n) || decide (0 < m)) := by
    rw [Bool.or_assoc, ← Bool.decide_or]
    simp only [Nat.add_pos_iff_pos_or_pos]
  rw [spans, spans, List.all_cons, hg, Bool.true_and]
  split
  · rw [hbreaks, Nat.add_assoc, hpos]
  · next hpart =>
    have hinked : inkedBreaks (g :: part) = breaks [g] + inkedBreaks part := by
      rw [← List.singleton_append, inkedBreaks_append (by simpa using hpart)]
    rw [hbreaks, hleading, hbreaks, hinked, statement_cons_gap hg, hpos, Nat.add_assoc,
      Nat.add_assoc, Nat.add_assoc]
    split <;> rfl

end Lexeme

namespace StatementGroup

variable {k line : Nat} {gs hs : List StatementGroup} {parts : List (List Lexeme)}

lemma eq_map_shift (h : List.Forall₂ (Matches k Eq) gs hs) : hs = gs.map (shift k) := by
  rw [← List.forall₂_eq_eq_eq, List.forall₂_map_right_iff]
  refine h.flip.imp fun h g hg => ?_
  have hstatements : g.statements = h.statements := by
    rw [← List.forall₂_eq_eq_eq]
    exact hg.statements
  cases h
  simp [shift, ← hg.startLine_eq, ← hg.endLine_eq, hstatements]

/-- The first statement of a script begins a group whether or not it stands apart. -/
lemma gather_spans_true : gather [] (Lexeme.spans (line + k) true parts)
    = (gather [] (Lexeme.spans line false parts)).map (shift k) := by
  rw [Lexeme.spans_true false, Lexeme.spans_shift]
  apply eq_map_shift
  have hshift (s : Span) (b : Bool) : Span.Matches k Eq s { s.shift k with apart := b } :=
    ⟨rfl, rfl, rfl⟩
  cases Lexeme.spans line false parts with
  | nil => exact .nil
  | cons s spans =>
    rw [List.map_cons, List.modifyHead_cons, gather_of_joined (by simp), gather_of_joined (by simp)]
    refine gather_matches (.cons (hshift s true) .nil) ?_
    rw [List.forall₂_map_right_iff, List.forall₂_same]
    exact fun t _ => ⟨rfl, hshift t t.apart⟩

end StatementGroup

namespace Script

variable {a b : String} {ls : List Lexeme}

/-! ### Finished lines -/

/-- The words of a script, in capitals. -/
def words (text : String) : List String :=
  (ofText text.toList).filterMap capitals?

/-- The script ends with a terminator that ends a statement, and with its line. -/
def IsFinished (text : String) : Prop :=
  ∃ ls, ofText text.toList = ls ++ [semicolon, lineBreak] ∧ EndsStatement ls [lineBreak]

/-- The lexemes behind a finished line are those of the rest alone. -/
lemma ofText_append (h : ofText (a ++ ";\n").toList = ls ++ [semicolon, lineBreak]) :
    ofText (a ++ ";\n" ++ b).toList = ls ++ semicolon :: lineBreak :: ofText b.toList := by
  obtain ⟨htext, hfit⟩ := ofText_eq_iff.mp h
  refine ofText_eq_iff.mpr ⟨?_, hfit.of_sees (sees_of_head ?_) ?_ ?_⟩
  · rw [String.toList_append, ← htext]
    simp [flatMap_text_ofText]
  · simp [text, isSeparator]
  · exact ⟨';', by simp [text], by decide⟩
  · exact fun _ => ⟨trivial, trivial, fitting_ofText b.toList⟩

lemma lastWord_after (tail ls : List Lexeme) (s : Scan) :
    (s.after tail ls).lastWord = (ls.filterMap capitals?).getLast?.or s.lastWord := by
  induction ls generalizing s with
  | nil => rfl
  | cons l ls ih =>
    rw [Scan.after_cons, ih, Scan.lastWord_step, lastWord]
    cases hl : l.capitals? with
    | none => simp [hl]
    | some w =>
      rw [List.filterMap_cons_some hl, List.getLast?_cons]
      cases (ls.filterMap capitals?).getLast? <;> rfl

/-- The parts of a script with a finished line: none reaches beyond it. -/
lemma exists_parts_of_isFinished (hfinished : IsFinished (a ++ ";\n"))
    (hwords : ¬ ((words (a ++ ";\n")).getLast? = some "END" ∧ (words b).head? = some "CASE")) :
    ∃ init part rest, parts (a ++ ";\n") = init ++ [[lineBreak]] ∧ parts b = part :: rest ∧
      parts (a ++ ";\n" ++ b) = init ++ (lineBreak :: part) :: rest := by
  obtain ⟨ls, hls, hblocks⟩ := hfinished
  obtain ⟨init, last, hinit, hinit'⟩ := Scan.exists_parts_append []
    (Scan.sameCuts_self : Scan.SameCuts [semicolon, lineBreak]
      (semicolon :: lineBreak :: ofText b.toList) {} {} ls)
  have hsame : Scan.after (semicolon :: lineBreak :: ofText b.toList) {} ls
      = Scan.after [semicolon, lineBreak] {} ls := Scan.after_congr rfl
  rw [hsame] at hinit'
  have hlast := lastWord_after [semicolon, lineBreak] ls {}
  rw [EndsStatement] at hblocks
  generalize Scan.after [semicolon, lineBreak] {} ls = s at hinit hinit' hblocks hlast
  -- Behind the line the scan differs from a new one in its lines and in its last word only.
  have hcuts : Scan.SameCuts [] [] ((s.step semicolon []).step lineBreak []) {}
      (ofText b.toList) := by
    refine Scan.sameCuts_of_blocks_eq hblocks rfl (Or.inr ⟨rfl, fun hwords' => hwords ?_⟩)
    refine hwords'.imp_left fun hend => ?_
    have hend' : s.lastWord = some "END" := hend
    have hall : words (a ++ ";\n") = ls.filterMap capitals? := by
      rw [words, hls, List.filterMap_append]
      exact List.append_nil _
    rw [hall, ← hend', hlast, Option.or_none]
  obtain ⟨part, rest, hrest', hrest⟩ := Scan.exists_parts_eq_of_sameCuts [lineBreak] [] hcuts
  refine ⟨init ++ [last], part, rest, ?_, hrest, ?_⟩
  · rw [parts, hls, hinit]
    simp [Scan.parts, hblocks]
  · rw [parts, ofText_append hls, hinit', Scan.parts, if_pos ⟨rfl, hblocks⟩, Scan.parts,
      if_neg (by simp)]
    exact (congrArg (fun ps => init ++ last :: ps) hrest').trans (by simp)

lemma breaks_intercalate (parts : List (List Lexeme)) :
    breaks ([semicolon].intercalate parts) = breaks parts.flatten := by
  induction parts with
  | nil => rfl
  | cons part parts ih =>
    rcases eq_or_ne parts [] with rfl | hne
    · simp
    · rw [List.intercalate_cons_of_ne_nil hne, List.flatten_cons]
      simp [ih, breaks_cons, Lexeme.text]

lemma breaks_flatten_parts (text : String) :
    breaks (parts text).flatten = text.toList.count '\n' := by
  rw [← breaks_intercalate, intercalate_parts, breaks, flatMap_text_ofText]

/-- The groups of a script with a finished line are those of the script up to there, and those of
the rest further down, by the line breaks in front of it. Excepted is a rest that begins with the
word `CASE` behind the word `END`. -/
theorem groups_append (a b : String) (hfinished : IsFinished (a ++ ";\n"))
    (hwords : ¬ ((words (a ++ ";\n")).getLast? = some "END" ∧ (words b).head? = some "CASE")) :
    groups (a ++ ";\n" ++ b) = groups (a ++ ";\n") ++
      (groups b).map (StatementGroup.shift ((a ++ ";\n").toList.count '\n')) := by
  obtain ⟨init, part, rest, hparts, hrest, hparts'⟩ := exists_parts_of_isFinished hfinished hwords
  obtain ⟨spans, apart, hspans⟩ := exists_spans_append 1 false init
  have hlines : (a ++ ";\n").toList.count '\n' = breaks init.flatten + 1 := by
    rw [← breaks_flatten_parts, hparts]
    simp [text]
  have hfirst : Script.spans (a ++ ";\n") = spans := by
    rw [Script.spans, hparts, hspans _ (by simp)]
    simp [Lexeme.spans, isGap]
  have hboth : Script.spans (a ++ ";\n" ++ b)
      = spans ++ Lexeme.spans (1 + (breaks init.flatten + 1)) true (parts b) := by
    rw [Script.spans, hparts', hspans _ (by simp), spans_cons_gap rfl, hrest, ← Nat.add_assoc]
    simp [text]
  have hapart : ∀ s ∈ (Lexeme.spans (1 + (breaks init.flatten + 1)) true (parts b)).head?,
      s.apart = true := by
    rw [hrest]
    exact Scan.apart_of_mem_head?_spans (Or.inl rfl)
  rw [groups_eq_gather, groups_eq_gather, groups_eq_gather, hboth, hfirst, hlines,
    StatementGroup.gather_append hapart, StatementGroup.gather_spans_true]
  rfl

/-- A first line whose last word is `END`, and a rest that begins with another word than `CASE`. -/
theorem groups_append_endLine :
    IsFinished ("SELECT CASE WHEN a THEN 1 END" ++ ";\n") ∧
      (words ("SELECT CASE WHEN a THEN 1 END" ++ ";\n")).getLast? = some "END" ∧
      (words "SELECT\n2;").head? = some "SELECT" ∧
      groups ("SELECT CASE WHEN a THEN 1 END" ++ ";\n" ++ "SELECT\n2;")
        = groups ("SELECT CASE WHEN a THEN 1 END" ++ ";\n") ++ [⟨2, 3, ["SELECT 2"]⟩] := by
  have hfinished : IsFinished ("SELECT CASE WHEN a THEN 1 END" ++ ";\n") :=
    ⟨(ofText "SELECT CASE WHEN a THEN 1 END".toList), by decide +kernel, by decide +kernel⟩
  have hlast : (words ("SELECT CASE WHEN a THEN 1 END" ++ ";\n")).getLast? = some "END" := by
    decide +kernel
  have hfirst : (words "SELECT\n2;").head? = some "SELECT" := by decide +kernel
  have hgroups : groups "SELECT\n2;" = [⟨1, 2, ["SELECT 2"]⟩] := by decide +kernel
  refine ⟨hfinished, hlast, hfirst, ?_⟩
  rw [groups_append _ _ hfinished (by simp [hfirst]), hgroups]
  rfl

/-- Behind `END` a first `CASE` opens nothing, and its statement is cut short. -/
example : groups ("SELECT 1 END" ++ ";\n" ++ "CASE 1; SELECT 2;")
    = groups ("SELECT 1 END" ++ ";\n") ++ [⟨2, 2, ["CASE 1", "SELECT 2"]⟩] ∧
      groups "CASE 1; SELECT 2;" = [⟨1, 1, ["CASE 1; SELECT 2;"]⟩] := by
  decide +kernel

end Script

end SqlWorkbench
