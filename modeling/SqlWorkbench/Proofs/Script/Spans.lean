import Mathlib.Data.List.Forall2
import Mathlib.Tactic.Common
import SqlWorkbench.Proofs.Script.Lines

/-!
# The lines of statements

A statement spans the lines from its first character to its terminator; at the end of the script,
where it has none, to the last line that it has a character on. It stands apart if a line has ended
between the statement before it and its first character. Main statement: the groups of a script are
the runs of its statements up to the next one that stands apart.
-/

namespace SqlWorkbench

/-! ### Spans -/

/-- A statement with the lines that it spans. -/
structure Span where
  first : Nat
  last : Nat
  /-- A line has ended between the statement before it and its first character. -/
  apart : Bool
  statement : String
deriving DecidableEq

namespace Lexeme

/-- The statements of parts with the lines that they span. The first part starts on `line`, and
`apart` says that a line has ended since the last statement before it. -/
def spans (line : Nat) (apart : Bool) : List (List Lexeme) → List Span
  | [] => []
  | part :: parts =>
    if part.all isGap then spans (line + breaks part) (apart || 0 < breaks part) parts
    else
      { first := line + breaks (leading part)
        last := line + if parts.isEmpty then inkedBreaks part else breaks part
        apart := apart || 0 < breaks (leading part)
        statement := String.ofList (statement part) } :: spans (line + breaks part) false parts

lemma exists_spans_append (line : Nat) (apart : Bool) (parts : List (List Lexeme)) :
    ∃ init apart', ∀ more, more ≠ [] → spans line apart (parts ++ more)
      = init ++ spans (line + breaks parts.flatten) apart' more := by
  induction parts generalizing line apart with
  | nil => exact ⟨[], apart, fun more _ => rfl⟩
  | cons part parts ih =>
    rw [List.flatten_cons, breaks_append, ← Nat.add_assoc]
    cases hpart : part.all isGap with
    | true =>
      obtain ⟨init, apart', hinit⟩ :=
        ih (line + breaks part) (apart || 0 < breaks part)
      refine ⟨init, apart', fun more hne => ?_⟩
      rw [List.cons_append, spans, if_pos hpart, hinit more hne]
    | false =>
      obtain ⟨init, apart', hinit⟩ := ih (line + breaks part) false
      refine ⟨⟨line + breaks (leading part), line + breaks part,
        apart || 0 < breaks (leading part), String.ofList (statement part)⟩ :: init, apart',
        fun more hne => ?_⟩
      have hlast : (parts ++ more).isEmpty = false := by simp [hne]
      rw [List.cons_append, spans, if_neg (by simp [hpart]), hinit more hne, hlast]
      rfl

end Lexeme

namespace StatementGroup

/-- The group of statements. -/
def ofSpans (run : List Span) : StatementGroup where
  startLine := (run.head?.map Span.first).getD 0
  endLine := (run.getLast?.map Span.last).getD 0
  statements := run.map Span.statement

/-- The groups of statements: each goes on up to the next statement that stands apart. The
statements in `run` are those of the current group. -/
def gather (run : List Span) : List Span → List StatementGroup
  | [] => if run.isEmpty then [] else [ofSpans run]
  | s :: spans =>
    if s.apart && !run.isEmpty then ofSpans run :: gather [s] spans else gather (run ++ [s]) spans

variable {run spans : List Span} {s : Span}

lemma gather_of_joined (h : run ≠ [] → s.apart = false) :
    gather run (s :: spans) = gather (run ++ [s]) spans := by
  rw [gather, if_neg]
  cases run with
  | nil => simp
  | cons => simp [h]

/-- The current group ends before a statement that stands apart. -/
lemma gather_of_apart (hne : run ≠ []) (h : ∀ s ∈ spans.head?, s.apart = true) :
    gather run spans = ofSpans run :: gather [] spans := by
  have hrun : run.isEmpty = false := by simpa using hne
  cases spans with
  | nil => simp [gather, hrun]
  | cons s spans =>
    have hs : s.apart = true := h s (by simp)
    simp [gather, hrun, hs]

end StatementGroup

/-! ### Spans of a scan -/

namespace Draft

open Lexeme StatementGroup

/-- The draft stands in a part: it has finished the statements in `run` for the current group, and
its lines are those of the statements and of the part, which starts on `start`. -/
structure Spanning (d : Draft) (run : List Span) (apart : Bool) (start : Nat)
    (part : List Lexeme) : Prop where
  statements_eq : d.statements = run.map Span.statement
  joined : run ≠ [] → apart = false ∧ breaks (leading part) = 0
  startLine_eq : d.startLine = (run.head?.map Span.first).or
    (if part.all isGap then none else some (start + breaks (leading part)))
  lastLine_eq : if part.all isGap then ∀ s ∈ run.getLast?, d.lastLine = s.last
    else d.lastLine = start + inkedBreaks part
  terminated_eq : if part.all isGap then run ≠ [] → d.terminated = true else d.terminated = false

variable {d e : Draft} {run : List Span} {apart : Bool} {start : Nat} {part : List Lexeme}
  {l : Lexeme}

lemma of_frame_eq (h : e.frame = d) : e.groups = d.groups ∧ e.statements = d.statements ∧
    e.startLine = d.startLine ∧ e.lastLine = d.lastLine ∧ e.terminated = d.terminated := by
  subst h
  exact ⟨rfl, rfl, rfl, rfl, rfl⟩

/-- Step for a gap in which no line ends, or that stands behind a character or a finished group. -/
lemma Spanning.concat_gap (h : Spanning d run apart start part) (hl : l.isGap = true)
    (hframe : e.frame = d.frame) (hbreaks : run = [] ∨ part.all isGap = false ∨ breaks [l] = 0) :
    Spanning e run apart start (part ++ [l]) := by
  obtain ⟨hstatements, hjoined, hstart, hlast, hterminated⟩ := h
  obtain ⟨-, hstatements', hstart', hlast', hterminated'⟩ := of_frame_eq hframe
  have hall : (part ++ [l]).all isGap = part.all isGap := by simp [hl]
  refine ⟨hstatements'.trans hstatements, ?_, ?_, ?_, ?_⟩
  · intro hne
    obtain ⟨hapart, hzero⟩ := hjoined hne
    refine ⟨hapart, ?_⟩
    cases hpart : part.all isGap with
    | true =>
      have hl0 : breaks [l] = 0 := by simpa [hne, hpart] using hbreaks
      rw [leading_of_all hpart] at hzero
      rw [leading_of_all (hall.trans hpart), breaks_append, hzero, hl0]
    | false => rwa [leading_append hpart]
  · rw [hstart', hall]
    refine hstart.trans ?_
    cases hpart : part.all isGap with
    | true => rfl
    | false => rw [leading_append hpart]
  · rw [hlast', hall, inkedBreaks_append_gap (by simpa using hl)]
    exact hlast
  · rw [hterminated', hall]
    exact hterminated

/-- Step for a lexeme that is no gap. -/
lemma Spanning.concat {line : Nat} (h : Spanning d run apart start part) (hl : l.isGap = false)
    (hline : line = start + breaks part)
    (hframe : e.frame = d.frame.inked line (line + innerBreaks l.text)) :
    Spanning e run apart start (part ++ [l]) := by
  subst hline
  obtain ⟨hstatements, hjoined, hstart, -, -⟩ := h
  obtain ⟨-, hstatements', hstart', hlast', hterminated'⟩ := of_frame_eq hframe
  have hall : (part ++ [l]).all isGap = false := by simp [hl]
  have hleading : leading (part ++ [l]) = leading part := leading_concat hl
  refine ⟨hstatements'.trans hstatements, ?_, ?_, ?_, ?_⟩
  · rwa [hleading]
  · rw [hstart', hall, hleading]
    change some (d.startLine.getD _) = _
    rw [hstart]
    cases hpart : part.all isGap with
    | true => cases run <;> simp [leading_of_all hpart]
    | false => cases run <;> simp
  · rw [hall, inkedBreaks_append (by simpa using hl), inkedBreaks_singleton hl, ← Nat.add_assoc]
    exact hlast'
  · rw [hall]
    exact hterminated'

lemma groups_flush (hne : run ≠ []) (hstatements : d.statements = run.map Span.statement)
    (hstart : d.startLine = run.head?.map Span.first)
    (hlast : ∀ s ∈ run.getLast?, d.lastLine = s.last) :
    d.flush.groups = d.groups ++ [ofSpans run] := by
  have hfirst := List.head?_eq_some_head hne
  have hlast' := List.getLast?_eq_some_getLast hne
  simp [Draft.flush, ofSpans, hstatements, hstart, hfirst, hlast _ hlast', hlast']

/-- A group ends with its line only behind its last terminator. -/
lemma Spanning.of_ripe (h : Spanning d run apart start part) (hripe : d.frame.Ripe) :
    part.all isGap = true ∧ run ≠ [] := by
  obtain ⟨hterminated, hne⟩ : d.terminated = true ∧ d.statements ≠ [] := by
    simpa [Ripe, frame] using hripe
  refine ⟨?_, fun hnil => hne ?_⟩
  · by_contra hpart
    have hfalse := h.terminated_eq
    simp [hpart, hterminated] at hfalse
  · rw [h.statements_eq, hnil, List.map_nil]

/-- Step for a line that ends with its group. -/
lemma Spanning.flush (h : Spanning d run apart start part) (hpart : part.all isGap = true)
    (hne : run ≠ []) (hl : l.isGap = true) (hframe : e.frame = d.frame.endLine) :
    e.groups = d.groups ++ [ofSpans run] ∧ Spanning e [] apart start (part ++ [l]) := by
  obtain ⟨hstatements, -, hstart, hlast, hterminated⟩ := h
  simp only [hpart, if_true, Option.or_none] at hstart hlast hterminated
  have hripe : d.frame.Ripe := by
    have hsome : d.statements ≠ [] := by simpa [hstatements] using hne
    simp [Ripe, frame, hterminated hne, hsome]
  rw [endLine_of_ripe hripe] at hframe
  obtain ⟨hgroups', hstatements', hstart', -, -⟩ := of_frame_eq hframe
  have hall : (part ++ [l]).all isGap = true := by
    rw [List.all_append, hpart]
    simpa using hl
  refine ⟨?_, hstatements', by simp, ?_, ?_, ?_⟩
  · exact hgroups'.trans (groups_flush (d := d.frame.softBreak) hne hstatements hstart hlast)
  · rw [hstart', hall]
    rfl
  · rw [hall]
    simp
  · rw [hall]
    simp

/-- Step for a terminator behind a gap only. -/
lemma Spanning.terminate_gap (h : Spanning d run apart start part) (hpart : part.all isGap = true)
    (hnil : d.statement = []) (line : Nat) :
    Spanning (d.terminate line) run (apart || 0 < breaks part) (start + breaks part) [] := by
  obtain ⟨hstatements, hjoined, hstart, hlast, -⟩ := h
  refine ⟨?_, fun hne => ?_, ?_, ?_, ?_⟩
  · simpa [terminate, hnil] using hstatements
  · obtain ⟨hapart, hzero⟩ := hjoined hne
    rw [leading_of_all hpart] at hzero
    simp [hapart, hzero, leading]
  · simpa [terminate, hpart] using hstart
  · simpa [terminate, hnil, hpart] using hlast
  · simp [terminate]

/-- Step for a terminator of a statement. -/
lemma Spanning.terminate {s : Span} (h : Spanning d run apart start part)
    (hpart : part.all isGap = false) (hnil : d.statement ≠ [])
    (hfirst : s.first = start + breaks (leading part)) {line : Nat} (hlast : s.last = line)
    (hstatement : s.statement = String.ofList d.statement) :
    Spanning (d.terminate line) (run ++ [s]) false line [] := by
  obtain ⟨hstatements, -, hstart, -, -⟩ := h
  refine ⟨?_, ?_, ?_, ?_, ?_⟩
  · simp [Draft.terminate, hnil, hstatements, hstatement]
  · simp [leading]
  · simp only [hpart] at hstart
    cases run <;> simpa [Draft.terminate, hfirst] using hstart
  · simp [Draft.terminate, hnil, hlast]
  · simp [Draft.terminate]

lemma Holds.statement_eq_nil_iff (h : Holds d part) (hs : ∀ l ∈ part, l.Sound) :
    d.statement = [] ↔ part.all isGap = true := by
  rw [h.statement_eq hs, Lexeme.statement_eq_nil_iff hs]

lemma Spanning.finish (h : Spanning d run apart start part)
    (hnil : d.statement = [] ↔ part.all isGap = true)
    (hstatement : d.statement = Lexeme.statement part) :
    d.finish = d.groups ++ gather run (spans start apart [part]) := by
  obtain ⟨hstatements, hjoined, hstart, hlast, -⟩ := h
  rw [Draft.finish, spans]
  cases hpart : part.all isGap with
  | true =>
    simp only [hpart, if_true, Option.or_none] at hstart hlast
    simp only [hnil.mpr hpart, List.isEmpty_nil, if_true, spans, gather]
    rcases eq_or_ne run [] with rfl | hne
    · simp [hstatements]
    · have hsome : d.statements ≠ [] := by simpa [hstatements] using hne
      simp only [List.isEmpty_iff, hsome, hne, if_false]
      exact groups_flush (d := { d with statements := d.statements }) hne hstatements hstart hlast
  | false =>
    have hne : d.statement ≠ [] := by simpa [hpart] using hnil
    simp only [hpart, Bool.false_eq_true, if_false] at hstart hlast
    simp only [List.isEmpty_iff, hne, if_false, Bool.false_eq_true, List.isEmpty_nil, if_true,
      List.append_eq_nil_iff, List.cons_ne_nil, and_false, spans]
    rw [gather_of_joined fun hrun => by simp [hjoined hrun], gather]
    simp only [List.isEmpty_iff, List.append_eq_nil_iff, List.cons_ne_nil, and_false, if_false]
    apply groups_flush
    · simp
    · simp [hstatements, hstatement]
    · cases run <;> simpa using hstart
    · simpa using hlast

end Draft

namespace Scan

open Lexeme StatementGroup

lemma exists_parts_eq (s : Scan) (part ls : List Lexeme) :
    ∃ more parts, s.parts part ls = (part ++ more) :: parts := by
  induction ls generalizing s part with
  | nil => exact ⟨[], [], by simp⟩
  | cons l rest ih =>
    rw [Scan.parts]
    split
    · exact ⟨[], _, by rw [List.append_nil]⟩
    · obtain ⟨more, parts, hparts⟩ := ih (s.step l rest) (part ++ [l])
      exact ⟨l :: more, parts, by rw [hparts, List.append_assoc, List.singleton_append]⟩

/-- Once a line has ended, the next statement stands apart. -/
lemma apart_of_mem_head?_spans {line : Nat} {apart : Bool} {part : List Lexeme}
    {parts : List (List Lexeme)} (h : apart = true ∨ 0 < breaks (leading part)) :
    ∀ s ∈ (spans line apart (part :: parts)).head?, s.apart = true := by
  induction parts generalizing line apart part with
  | nil =>
    rw [spans]
    split
    · simp [spans]
    · simpa using h
  | cons next parts ih =>
    rw [spans]
    split
    · next hall =>
      rw [leading_of_all hall] at h
      exact ih (Or.inl (by simpa using h))
    · simpa using h

/-- Step lemma for every lexeme but a terminator outside blocks. The line may finish the current
group, and then the next statement stands apart. -/
lemma spanning_step {s : Scan} {run : List Span} {apart : Bool} {start : Nat} {part : List Lexeme}
    {l : Lexeme} {afterWord topLevel : Bool} {rest : List Char} {d : Draft}
    (h : s.draft.Spanning run apart start part) (hline : s.line = start + breaks part)
    (hl : l.Fits afterWord rest) (hsemi : topLevel = true → l ≠ .semicolon)
    (hd : (draftAfter s.draft s.line topLevel l).1 = d) :
    (d.groups = s.draft.groups ∧ d.Spanning run apart start (part ++ [l])) ∨
      (run ≠ [] ∧ 0 < breaks (leading (part ++ [l])) ∧ d.groups = s.draft.groups ++ [ofSpans run] ∧
        d.Spanning [] apart start (part ++ [l])) := by
  subst hd
  cases hgap : l.isGap with
  | false =>
    have hframe := Draft.frame_draftAfter s.draft s.line hgap hl hsemi
    exact Or.inl ⟨(Draft.of_frame_eq hframe).1, h.concat hgap hline hframe⟩
  | true =>
    have hframe := Draft.frame_draftAfter_gap s.draft s.line topLevel hgap hl
    by_cases hflush : 0 < breaks [l] ∧ part.all isGap = true ∧ run ≠ []
    · obtain ⟨hbreaks, hpart, hne⟩ := hflush
      rw [if_pos hbreaks] at hframe
      obtain ⟨hgroups, hspanning⟩ := h.flush hpart hne hgap hframe
      refine Or.inr ⟨hne, ?_, hgroups, hspanning⟩
      rw [leading_of_all (by simpa [hgap] using hpart), breaks_append]
      omega
    · have hsame : (draftAfter s.draft s.line topLevel l).1.frame = s.draft.frame := by
        rw [hframe]
        split
        · next hbreaks =>
          refine Draft.endLine_of_not_ripe fun hripe => hflush ⟨hbreaks, ?_⟩
          exact h.of_ripe hripe
        · rfl
      refine Or.inl ⟨(Draft.of_frame_eq hsame).1, h.concat_gap hgap hsame ?_⟩
      by_contra hnot
      simp only [not_or, Bool.not_eq_false] at hnot
      exact hflush ⟨Nat.pos_of_ne_zero hnot.2.2, hnot.2.1, hnot.1⟩

/-- Step lemma for a terminator outside blocks: its statement joins the current group. -/
lemma spanning_terminate {d : Draft} {run : List Span} {apart : Bool} {start : Nat}
    {part : List Lexeme} (h : d.Spanning run apart start part) (hholds : d.Holds part)
    (hs : ∀ l ∈ part, l.Sound) :
    ∃ run' apart',
      (d.terminate (start + breaks part)).Spanning run' apart' (start + breaks part) [] ∧
      ∀ parts, parts ≠ [] → gather run (spans start apart (part :: parts))
        = gather run' (spans (start + breaks part) apart' parts) := by
  have hnil := hholds.statement_eq_nil_iff hs
  cases hpart : part.all isGap with
  | true =>
    refine ⟨run, apart || 0 < breaks part, h.terminate_gap hpart (hnil.mpr hpart) _, ?_⟩
    intro parts _
    rw [spans, if_pos hpart]
  | false =>
    have hsome : d.statement ≠ [] := by simpa [hpart] using hnil
    have hstatement := congrArg String.ofList (hholds.statement_eq hs).symm
    let joined : Span := ⟨start + breaks (leading part), start + breaks part,
      apart || 0 < breaks (leading part), String.ofList (statement part)⟩
    refine ⟨run ++ [joined], false, h.terminate hpart hsome rfl rfl hstatement, ?_⟩
    intro parts hne
    rw [spans, if_neg (by simp [hpart]), if_neg (by simpa using hne),
      gather_of_joined fun hrun => by simp [h.joined hrun]]

/-- Run lemma: what is finished after all lexemes are the groups of the spans of the parts. -/
lemma finish_run (s : Scan) (run : List Span) (apart : Bool) (start : Nat) (part : List Lexeme)
    {ls : List Lexeme} {afterWord : Bool} (hholds : s.draft.Holds part)
    (hspanning : s.draft.Spanning run apart start part) (hline : s.line = start + breaks part)
    (hs : ∀ l ∈ part, l.Sound) (hw : ls ≠ [] → Whole part) (hfit : Fitting afterWord ls) :
    (s.run ls).draft.finish
      = s.draft.groups ++ gather run (spans start apart (s.parts part ls)) := by
  induction ls generalizing s run apart start part afterWord with
  | nil => exact hspanning.finish (hholds.statement_eq_nil_iff hs) (hholds.statement_eq hs)
  | cons l rest ih =>
    obtain ⟨hl, hrest⟩ := hfit
    have hwhole := hw (by simp)
    rw [Scan.run, Scan.parts]
    split
    · next hcut =>
      obtain ⟨rfl, hblocks⟩ := hcut
      have hdraft : (s.step .semicolon rest).draft = s.draft.terminate (start + breaks part) := by
        simp [step, draftAfter, hblocks, hline]
      have hline' : (s.step .semicolon rest).line = start + breaks part := by
        simpa [step, draftAfter] using hline
      have hholds' : (s.step .semicolon rest).draft.Holds [] := by
        rw [hdraft]
        exact Draft.holds_nil rfl rfl
      have hgroups : (s.step .semicolon rest).draft.groups = s.draft.groups := by
        rw [hdraft]
        rfl
      obtain ⟨run', apart', h, hgather⟩ := spanning_terminate hspanning hholds hs
      rw [hgather _ (parts_ne_nil _ _ _), ← hgroups]
      exact ih _ run' apart' _ [] hholds' (hdraft ▸ h) hline' (by simp) (by simp [Whole]) hrest
    · next hcut =>
      have hsemi : s.blocks.isEmpty = true → l ≠ .semicolon := by
        intro hblocks hl
        exact hcut ⟨hl, List.isEmpty_iff.mp hblocks⟩
      have hsound : ∀ k ∈ part ++ [l], k.Sound :=
        List.forall_mem_append.mpr ⟨hs, List.forall_mem_singleton.mpr hl.sound⟩
      have hwhole' : rest ≠ [] → Whole (part ++ [l]) := fun hne =>
        hwhole.concat hl.sound (hl.isOpen_eq_false fun hnil => hne (hrest.eq_nil hnil))
      have hline' : (s.step l rest).line = start + breaks (part ++ [l]) := by
        rw [breaks_append, ← Nat.add_assoc, ← hline]
        exact Draft.snd_draftAfter hl
      have hholds' : (s.step l rest).draft.Holds (part ++ [l]) := hholds.concat hwhole hl hsemi
      rcases spanning_step hspanning hline hl hsemi rfl with
        ⟨hgroups, h⟩ | ⟨hne, hbreaks, hgroups, h⟩
      · exact (ih (s.step l rest) run apart start (part ++ [l]) hholds' h hline' hsound hwhole'
          hrest).trans (congrArg (· ++ _) hgroups)
      · refine (ih (s.step l rest) [] apart start (part ++ [l]) hholds' h hline' hsound hwhole'
          hrest).trans ?_
        obtain ⟨more, parts, hparts⟩ := exists_parts_eq (s.step l rest) (part ++ [l]) rest
        -- A line that ends in front of a part is still there when the part is complete.
        have hlonger := hbreaks.trans_le (breaks_leading_le (part ++ [l]) more)
        rw [gather_of_apart hne (hparts ▸ apart_of_mem_head?_spans (Or.inr hlonger))]
        have hgroups' : (s.step l rest).draft.groups = s.draft.groups ++ [ofSpans run] := hgroups
        rw [hgroups', List.append_assoc, List.singleton_append]

end Scan

namespace Script

/-- The statements of a script with the lines that they span. -/
def spans (text : String) : List Span :=
  Lexeme.spans 1 false (parts text)

/-- The groups of a script are those of its statements: each goes on up to the next statement that
stands apart. -/
theorem groups_eq_gather (text : String) :
    groups text = StatementGroup.gather [] (spans text) := by
  have hspanning : Draft.Spanning {} [] false 1 [] := by
    refine ⟨rfl, by simp, rfl, by simp, by simp⟩
  exact Scan.finish_run {} [] false 1 [] (Draft.holds_nil rfl rfl) hspanning rfl (by simp)
    (by simp [Lexeme.Whole]) (Lexeme.fitting_ofText text.toList)

end Script

/-! ### Matching spans -/

/-- The second statement says what the first one does, some lines further down. -/
structure Span.Matches (shift : Nat) (P : String → String → Prop) (s t : Span) : Prop where
  first_eq : t.first = s.first + shift
  last_eq : t.last = s.last + shift
  statement : P s.statement t.statement

/-- The second group says what the first one does, some lines further down. -/
structure StatementGroup.Matches (shift : Nat) (P : String → String → Prop)
    (g h : StatementGroup) : Prop where
  startLine_eq : h.startLine = g.startLine + shift
  endLine_eq : h.endLine = g.endLine + shift
  statements : List.Forall₂ P g.statements h.statements

namespace StatementGroup

variable {shift : Nat} {P : String → String → Prop} {run run' spans spans' : List Span}

lemma ofSpans_matches (h : List.Forall₂ (Span.Matches shift P) run run') (hne : run ≠ []) :
    Matches shift P (ofSpans run) (ofSpans run') := by
  refine ⟨?_, ?_, ?_⟩
  · cases h with
    | nil => exact absurd rfl hne
    | cons hs _ => exact hs.first_eq
  · have hreverse := List.rel_reverse h
    have hne' : run.reverse ≠ [] := by simpa using hne
    simp only [ofSpans, ← List.head?_reverse]
    generalize run.reverse = r, run'.reverse = r' at hreverse hne'
    cases hreverse with
    | nil => exact absurd rfl hne'
    | cons hs _ => exact hs.last_eq
  · simp only [ofSpans, List.forall₂_map_left_iff, List.forall₂_map_right_iff]
    exact h.imp fun _ _ hs => hs.statement

/-- Statements that match and stand apart alike are in groups that match. -/
lemma gather_matches (hrun : List.Forall₂ (Span.Matches shift P) run run')
    (hspans : List.Forall₂ (fun s t => s.apart = t.apart ∧ Span.Matches shift P s t) spans spans') :
    List.Forall₂ (Matches shift P) (gather run spans) (gather run' spans') := by
  have hempty {r r' : List Span} (h : List.Forall₂ (Span.Matches shift P) r r') :
      r.isEmpty = r'.isEmpty := by
    cases h <;> rfl
  induction hspans generalizing run run' with
  | nil =>
    rw [gather, gather, ← hempty hrun]
    split
    · exact .nil
    · next hne => exact .cons (ofSpans_matches hrun (by simpa using hne)) .nil
  | cons hs _ ih =>
    rw [gather, gather, ← hempty hrun, ← hs.1]
    split
    · next hapart =>
      have hne : run ≠ [] := by
        rintro rfl
        simp at hapart
      exact .cons (ofSpans_matches hrun hne) (ih (.cons hs.2 .nil))
    · exact ih (List.rel_append hrun (.cons hs.2 .nil))

/-- What stands apart begins a new group. -/
lemma gather_append {xs ys : List Span} (h : ∀ s ∈ ys.head?, s.apart = true) :
    gather run (xs ++ ys) = gather run xs ++ gather [] ys := by
  induction xs generalizing run with
  | nil =>
    rcases eq_or_ne run [] with rfl | hne
    · rfl
    · rw [List.nil_append, gather_of_apart hne h]
      simp [gather, hne]
  | cons s xs ih =>
    rw [List.cons_append, gather, gather, ih, ih]
    split <;> rfl

end StatementGroup

end SqlWorkbench
