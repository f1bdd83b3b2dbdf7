import Mathlib.Data.List.DropRight
import Mathlib.Data.List.TakeWhile
import Mathlib.Tactic.Common
import SqlWorkbench.Proofs.Script.Layout
import SqlWorkbench.Script.Group

/-!
# Drafting statements

A draft takes the lexemes of a part one after the other. What it has written so far is the layout
of those lexemes, and the blanks that it has held back are told by the gap at their end. Main
statement: the statements of a script are those of its parts, parts of gaps only aside.
-/

namespace SqlWorkbench

open Text

namespace Draft

variable {d : Draft} {line : Nat} {c : Char} {cs : List Char}

/-! ### Finished statements -/

/-- All finished statements, whatever group they are in. -/
def finished (d : Draft) : List String :=
  d.groups.flatMap StatementGroup.statements ++ d.statements

@[simp] lemma finished_pushRaw : (d.pushRaw line c).finished = d.finished := rfl

@[simp] lemma finished_push : (d.push line c).finished = d.finished := rfl

@[simp] lemma finished_pushAll : (d.pushAll line cs).finished = d.finished := by
  induction cs generalizing d with
  | nil => rfl
  | cons c cs ih => exact ih

@[simp] lemma finished_pushRegion : (d.pushRegion line cs).1.finished = d.finished := by
  induction cs generalizing d line with
  | nil => rfl
  | cons c cs ih => exact ih

@[simp] lemma finished_pushBlank : (d.pushBlank c).finished = d.finished := by
  rw [pushBlank]
  split <;> rfl

@[simp] lemma finished_softBreak : d.softBreak.finished = d.finished := rfl

@[simp] lemma finished_flush : d.flush.finished = d.finished := by
  simp [flush, finished]

@[simp] lemma finished_endLine : d.endLine.finished = d.finished := by
  rw [endLine]
  split <;> simp

@[simp] lemma finished_endLines : (d.endLines line cs).1.finished = d.finished := by
  induction cs generalizing d line with
  | nil => rfl
  | cons c cs ih =>
    rw [endLines]
    split <;> simp [ih]

/-- The statement that is being written, if there is one. -/
def pending (d : Draft) : List String :=
  if d.statement.isEmpty then [] else [String.ofList d.statement]

@[simp] lemma finished_terminate : (d.terminate line).finished = d.finished ++ d.pending := by
  simp only [terminate, finished, pending]
  split <;> simp

lemma flatMap_statements_finish :
    d.finish.flatMap StatementGroup.statements = d.finished ++ d.pending := by
  simp only [finish, finished, pending, flush]
  split <;> split <;> simp_all

/-- Every finished group has a statement. -/
def Filled (d : Draft) : Prop :=
  ∀ g ∈ d.groups, g.statements ≠ []

lemma Filled.pushAll (h : Filled d) : Filled (d.pushAll line cs) := by
  induction cs generalizing d with
  | nil => exact h
  | cons c cs ih => exact ih (d := d.push line c) h

lemma Filled.pushRegion (h : Filled d) : Filled (d.pushRegion line cs).1 := by
  induction cs generalizing d line with
  | nil => exact h
  | cons c cs ih => exact ih (d := d.pushRaw line c) h

lemma Filled.pushBlank (h : Filled d) : Filled (d.pushBlank c) := by
  rw [Draft.pushBlank]
  split <;> exact h

lemma Filled.flush (h : Filled d) (hne : d.statements ≠ []) : Filled d.flush := by
  intro g hg
  rcases List.mem_append.mp hg with hg | hg
  · exact h g hg
  · rw [List.mem_singleton.mp hg]
    exact hne

lemma Filled.endLine (h : Filled d) : Filled d.endLine := by
  rw [Draft.endLine]
  split
  · next hends =>
    have hne : d.softBreak.statements ≠ [] := by
      rw [Bool.and_eq_true] at hends
      simpa using hends.2
    exact Filled.flush (d := d.softBreak) h hne
  · exact h

lemma Filled.endLines (h : Filled d) : Filled (d.endLines line cs).1 := by
  induction cs generalizing d line with
  | nil => exact h
  | cons c cs ih =>
    rw [Draft.endLines]
    split
    · exact ih h.endLine
    · exact ih h

lemma Filled.draftAfter {topLevel : Bool} {l : Lexeme} (h : Filled d) :
    Filled (Scan.draftAfter d line topLevel l).1 := by
  cases l with
  | lineBreak => exact h.endLine
  | blank c => exact h.pushBlank
  | blockComment comment closed => exact h.endLines
  | quoted quote body closed => exact Filled.pushRegion (d := d.push line quote) h
  | dollarQuoted tag body closed => exact h.pushAll.pushRegion
  | semicolon => cases topLevel <;> exact h
  | word letters => exact h.pushAll
  | _ => exact h

lemma Filled.finish (h : Filled d) : ∀ g ∈ d.finish, g.statements ≠ [] := by
  rw [Draft.finish]
  generalize (if d.statement.isEmpty then d.statements
    else d.statements ++ [String.ofList d.statement]) = statements
  cases statements with
  | nil => exact h
  | cons s statements =>
    exact Filled.flush (d := { d with statements := s :: statements }) h (by simp)

/-! ### The current statement -/

/-- The current statement backwards, with the blank that is due. -/
def ready (d : Draft) : List Char :=
  if d.spaceDue && !d.current.isEmpty && d.current.head? != some ' ' then ' ' :: d.current
  else d.current

@[simp] lemma current_push : (d.push line c).current = c :: d.ready := rfl

@[simp] lemma spaceDue_push : (d.push line c).spaceDue = false := rfl

lemma ready_of_not_spaceDue (h : d.spaceDue = false) : d.ready = d.current := by
  simp [ready, h]

lemma current_pushAll (d : Draft) (line : Nat) (h : cs ≠ []) :
    (d.pushAll line cs).current = cs.reverse ++ d.ready ∧ (d.pushAll line cs).spaceDue = false := by
  induction cs generalizing d with
  | nil => exact absurd rfl h
  | cons c cs ih =>
    rw [pushAll, List.foldl_cons, ← pushAll]
    rcases eq_or_ne cs [] with rfl | hcs
    · simp [pushAll]
    · obtain ⟨hcurrent, hdue⟩ := ih (d := d.push line c) hcs
      rw [hcurrent, ready_of_not_spaceDue spaceDue_push]
      exact ⟨by simp, hdue⟩

lemma current_pushRegion (d : Draft) (line : Nat) :
    (d.pushRegion line cs).1.current = cs.reverse ++ d.current ∧
      (d.pushRegion line cs).1.spaceDue = d.spaceDue := by
  induction cs generalizing d line with
  | nil => exact ⟨rfl, rfl⟩
  | cons c cs ih =>
    obtain ⟨hcurrent, hdue⟩ := ih (d.pushRaw line c) (if c = '\n' then line + 1 else line)
    exact ⟨by rw [pushRegion, hcurrent]; simp [pushRaw], hdue⟩

/-- A lexeme that is no gap is added as it is, behind the blank that is due. -/
lemma current_draftAfter (d : Draft) (line : Nat) {l : Lexeme} {topLevel afterWord : Bool}
    {rest : List Char}
    (hl : l.isGap = false) (hfits : l.Fits afterWord rest)
    (hsemi : topLevel = true → l ≠ .semicolon) :
    (Scan.draftAfter d line topLevel l).1.current = l.text.reverse ++ d.ready ∧
      (Scan.draftAfter d line topLevel l).1.spaceDue = false := by
  cases l with
  | quoted quote body closed =>
    refine ⟨?_, ?_⟩
    · rw [Scan.draftAfter, (current_pushRegion _ _).1, current_push]
      simp [Lexeme.text]
    · rw [Scan.draftAfter, (current_pushRegion _ _).2, spaceDue_push]
  | dollarQuoted tag body closed =>
    obtain ⟨hcurrent, hdue⟩ := current_pushAll d line hfits.2.1.ne_nil
    refine ⟨?_, ?_⟩
    · rw [Scan.draftAfter, (current_pushRegion _ _).1, hcurrent]
      simp [Lexeme.text]
    · rw [Scan.draftAfter, (current_pushRegion _ _).2, hdue]
  | semicolon =>
    have htop : topLevel = false := by simpa using fun h => hsemi h rfl
    simp [Scan.draftAfter, htop, Lexeme.text]
  | word letters =>
    obtain ⟨hcurrent, hdue⟩ := current_pushAll d line hfits.1
    exact ⟨hcurrent, hdue⟩
  | symbol c => simp [Scan.draftAfter, Lexeme.text]
  | _ => simp [Lexeme.isGap] at hl

/-! ### What a draft shows -/

/-- The draft has written lexemes and stands behind a gap: the blanks of the gap are written as
well, or one blank is due for them. -/
structure Shows (d : Draft) (body gap : List Lexeme) : Prop where
  isGap_of_mem : ∀ g ∈ gap, g.isGap = true
  isGap_head : ∀ l ∈ body.head?, l.isGap = false
  isGap_getLast : ∀ l ∈ body.getLast?, l.isGap = false
  gap_eq_nil : body = [] → gap = []
  current_eq : d.current.reverse =
    Lexeme.layoutAfter [] body ++ if gap.any Lexeme.isBreak then [] else gap.flatMap Lexeme.shown
  spaceDue_eq : d.spaceDue = gap.any Lexeme.isBreak

variable {body gap : List Lexeme} {l : Lexeme}

/-- What is written for a gap and not held back are blanks. -/
lemma isBlanks_held (hs : ∀ g ∈ gap, g.Sound) :
    IsBlanks (if gap.any Lexeme.isBreak then [] else gap.flatMap Lexeme.shown) := by
  split
  · exact isBlanks_nil
  · exact Lexeme.isBlanks_flatMap_shown hs

lemma Shows.current_ne_nil (h : Shows d body gap) (hw : Lexeme.Whole body) (hne : body ≠ []) :
    d.current ≠ [] := by
  intro hnil
  have hcurrent := h.current_eq
  rw [hnil, List.reverse_nil, eq_comm, List.append_eq_nil_iff] at hcurrent
  exact Lexeme.layoutAfter_ne_nil _ hne h.isGap_getLast (fun l hl => (hw l hl).1) hcurrent.1

lemma Shows.ready_eq (h : Shows d body gap) (hw : Lexeme.Whole body) :
    d.ready.reverse = Lexeme.layoutAfter [] body ++ Lexeme.gapText gap := by
  have hcurrent := h.current_eq
  cases hbreak : gap.any Lexeme.isBreak with
  | false =>
    rw [ready_of_not_spaceDue (h.spaceDue_eq.trans hbreak), hcurrent]
    simp [Lexeme.gapText, hbreak]
  | true =>
    have hne : body ≠ [] := by
      intro hbody
      simp [h.gap_eq_nil hbody] at hbreak
    simp only [hbreak, if_true, List.append_nil] at hcurrent
    have hlast : d.current.head? ≠ some ' ' := by
      intro hhead
      have hblank := Lexeme.isBlank_getLast_layoutAfter [] h.isGap_getLast hw ' '
      rw [← hcurrent, List.getLast?_reverse] at hblank
      exact absurd (hblank hhead) (by decide)
    have hnil := h.current_ne_nil hw hne
    have hready : d.ready = ' ' :: d.current := by
      simp [ready, h.spaceDue_eq.trans hbreak, hnil, hlast]
    rw [hready, List.reverse_cons, hcurrent]
    simp [Lexeme.gapText, hbreak]

/-- Step for a lexeme that is no gap. -/
lemma Shows.concat {e : Draft} (h : Shows d body gap) (hw : Lexeme.Whole body)
    (hl : l.isGap = false) (hcurrent : e.current = l.text.reverse ++ d.ready)
    (hdue : e.spaceDue = false) : Shows e (body ++ gap ++ [l]) [] where
  isGap_of_mem := by simp
  isGap_head := by
    intro k hk
    cases body with
    | nil =>
      rw [h.gap_eq_nil rfl] at hk
      obtain rfl : l = k := by simpa using hk
      exact hl
    | cons b body => exact h.isGap_head k (by simpa using hk)
  isGap_getLast := by simpa using hl
  gap_eq_nil := fun _ => rfl
  current_eq := by
    rw [hcurrent, List.reverse_append, h.ready_eq hw, List.append_assoc body,
      Lexeme.layoutAfter_append (fun _ => rfl) h.isGap_getLast,
      Lexeme.layoutAfter_gap_append h.isGap_of_mem, Lexeme.layoutAfter_of_not_isGap hl]
    simp
  spaceDue_eq := by simpa using hdue

/-- Step for a gap behind something. -/
lemma Shows.concat_gap {e : Draft} (h : Shows d body gap) (hne : body ≠ []) (hl : l.isGap = true)
    (hcurrent : e.current.reverse = Lexeme.layoutAfter [] body ++
      if (gap ++ [l]).any Lexeme.isBreak then [] else (gap ++ [l]).flatMap Lexeme.shown)
    (hdue : e.spaceDue = (gap ++ [l]).any Lexeme.isBreak) : Shows e body (gap ++ [l]) where
  isGap_of_mem := by
    intro g hg
    rcases List.mem_append.mp hg with hg | hg
    · exact h.isGap_of_mem g hg
    · rwa [List.mem_singleton.mp hg]
  isGap_head := h.isGap_head
  isGap_getLast := h.isGap_getLast
  gap_eq_nil := fun hbody => absurd hbody hne
  current_eq := hcurrent
  spaceDue_eq := hdue

lemma Shows.nil_of_eq_nil (h : Shows d [] gap) : d.current = [] ∧ d.spaceDue = false := by
  have hgap := h.gap_eq_nil rfl
  have hcurrent := h.current_eq
  have hdue := h.spaceDue_eq
  subst hgap
  exact ⟨by simpa using hcurrent, by simpa using hdue⟩

/-! ### Gaps -/

lemma current_softBreak (d : Draft) : d.softBreak.current = d.current.dropWhile isBlank := rfl

lemma spaceDue_softBreak (d : Draft) : d.softBreak.spaceDue = !d.softBreak.current.isEmpty := rfl

lemma endLine_eq_softBreak (d : Draft) :
    d.endLine.current = d.softBreak.current ∧ d.endLine.spaceDue = d.softBreak.spaceDue := by
  rw [endLine]
  split <;> exact ⟨rfl, rfl⟩

/-- However many lines end in a comment, its end leaves what one end of line leaves. -/
lemma softBreak_endLines (d : Draft) (line : Nat) (cs : List Char) :
    (d.endLines line cs).1.softBreak.current = d.softBreak.current := by
  induction cs generalizing d line with
  | nil => rfl
  | cons c cs ih =>
    rw [endLines]
    split
    · rw [ih, current_softBreak, (endLine_eq_softBreak d).1, current_softBreak,
        List.dropWhile_idempotent]
    · exact ih d line

/-- A break behind what is written leaves the layout, with a blank due. -/
lemma Shows.softBreak (h : Shows d body gap) (hw : Lexeme.Whole body)
    (hs : ∀ g ∈ gap, g.Sound) :
    d.softBreak.current.reverse = Lexeme.layoutAfter [] body := by
  have htrim := trimEnd_append_of_isBlanks (s := Lexeme.layoutAfter [] body) (isBlanks_held hs)
  rw [← h.current_eq, Lexeme.trimEnd_layoutAfter h.isGap_getLast hw, trimEnd,
    List.reverse_reverse] at htrim
  exact htrim

lemma Shows.concat_break {e : Draft} (h : Shows d body gap) (hw : Lexeme.Whole body)
    (hs : ∀ g ∈ gap, g.Sound) (hne : body ≠ []) (hl : l.isBreak = true)
    (hcurrent : e.current = d.softBreak.current) (hdue : e.spaceDue = d.softBreak.spaceDue) :
    Shows e body (gap ++ [l]) := by
  have hgap : l.isGap = true := by
    cases l <;> simp_all [Lexeme.isBreak, Lexeme.isGap]
  have hany : (gap ++ [l]).any Lexeme.isBreak = true := by simp [hl]
  have hsoft := h.softBreak hw hs
  apply h.concat_gap hne hgap
  · rw [hcurrent, hsoft, hany, if_pos rfl, List.append_nil]
  · have hlayout := Lexeme.layoutAfter_ne_nil [] hne h.isGap_getLast fun l hl => (hw l hl).1
    rw [← hsoft, Ne, List.reverse_eq_nil_iff] at hlayout
    simpa [hdue, spaceDue_softBreak, hany] using hlayout

/-- Step for a gap behind something. -/
lemma Shows.concat_of_isGap {topLevel : Bool} (h : Shows d body gap) (hw : Lexeme.Whole body)
    (hs : ∀ g ∈ gap, g.Sound) (hne : body ≠ []) (hl : l.isGap = true) :
    Shows (Scan.draftAfter d line topLevel l).1 body (gap ++ [l]) := by
  cases l with
  | lineBreak =>
    exact h.concat_break hw hs hne rfl (endLine_eq_softBreak d).1 (endLine_eq_softBreak d).2
  | blockComment comment closed =>
    have hsoft := softBreak_endLines d line comment
    refine h.concat_break hw hs hne rfl hsoft ?_
    rw [Scan.draftAfter, spaceDue_softBreak, hsoft, ← spaceDue_softBreak]
  | blank c =>
    have hcurrent := h.current_eq
    have hdue := h.spaceDue_eq
    have hnil := h.current_ne_nil hw hne
    rw [Scan.draftAfter, pushBlank]
    cases hbreak : gap.any Lexeme.isBreak with
    | true =>
      simp only [hdue.trans hbreak, Bool.or_true, if_true]
      apply h.concat_gap hne rfl
      · simpa [hbreak] using hcurrent
      · simpa [hbreak] using hdue
    | false =>
      simp only [hdue.trans hbreak, Bool.or_false, List.isEmpty_iff, hnil, if_false]
      apply h.concat_gap hne rfl
      · rw [List.reverse_cons, hcurrent]
        simp [hbreak]
      · simpa using hbreak
  | lineComment comment =>
    apply h.concat_gap hne rfl
    · rw [Scan.draftAfter, h.current_eq]
      simp
    · rw [Scan.draftAfter, h.spaceDue_eq]
      simp
  | _ => simp [Lexeme.isGap] at hl

/-- Before anything is written a gap leaves no trace. -/
lemma Shows.leading_gap {topLevel : Bool} (h : Shows d [] gap) (hl : l.isGap = true) :
    Shows (Scan.draftAfter d line topLevel l).1 [] [] := by
  obtain ⟨hcurrent, hdue⟩ := h.nil_of_eq_nil
  have hempty {e : Draft} (he : e.current = []) (hd : e.spaceDue = false) : Shows e [] [] :=
    ⟨by simp, by simp, by simp, by simp, by simpa using he, by simpa using hd⟩
  have hsoft : d.softBreak.current = [] := by rw [current_softBreak, hcurrent, List.dropWhile_nil]
  cases l with
  | lineBreak =>
    obtain ⟨hc, hd⟩ := endLine_eq_softBreak d
    exact hempty (hc.trans hsoft) (by rw [Scan.draftAfter, hd, spaceDue_softBreak, hsoft]; rfl)
  | blockComment comment closed =>
    have hlines := (softBreak_endLines d line comment).trans hsoft
    exact hempty hlines (by rw [Scan.draftAfter, spaceDue_softBreak, hlines]; rfl)
  | blank c =>
    have hblank : d.pushBlank c = d := by simp [pushBlank, hcurrent]
    rw [Scan.draftAfter, hblank]
    exact hempty hcurrent hdue
  | lineComment comment => exact hempty hcurrent hdue
  | _ => simp [Lexeme.isGap] at hl

/-- The draft shows the lexemes of the current part. -/
def Holds (d : Draft) (part : List Lexeme) : Prop :=
  ∃ body gap, part.dropWhile Lexeme.isGap = body ++ gap ∧ Shows d body gap

lemma holds_nil (hcurrent : d.current = []) (hdue : d.spaceDue = false) : Holds d [] :=
  ⟨[], [], rfl, by simp, by simp, by simp, fun _ => rfl, by simp [hcurrent], by simp [hdue]⟩

/-- Step for every lexeme but a terminator outside blocks. -/
lemma Holds.concat {topLevel afterWord : Bool} {part : List Lexeme} {rest : List Char}
    (h : Holds d part) (hw : Lexeme.Whole part) (hfits : l.Fits afterWord rest)
    (hsemi : topLevel = true → l ≠ .semicolon) :
    Holds (Scan.draftAfter d line topLevel l).1 (part ++ [l]) := by
  obtain ⟨body, gap, hpart, hshows⟩ := h
  have hmem : ∀ k ∈ body ++ gap, k ∈ part := by
    intro k hk
    exact (List.dropWhile_suffix Lexeme.isGap).subset (hpart ▸ hk)
  have hbody : Lexeme.Whole body := by
    intro k hk
    exact hw k (hmem k (by simp [hk]))
  have hgap : ∀ g ∈ gap, g.Sound := by
    intro g hg
    exact (hw g (hmem g (by simp [hg]))).1
  rw [Holds, List.dropWhile_append, hpart]
  cases hl : l.isGap with
  | false =>
    obtain ⟨hcurrent, hdue⟩ := current_draftAfter d line hl hfits hsemi
    refine ⟨body ++ gap ++ [l], [], ?_, hshows.concat hbody hl hcurrent hdue⟩
    split
    · next hnil =>
      rw [List.isEmpty_iff.mp hnil]
      simp [hl]
    · simp
  | true =>
    rcases eq_or_ne body [] with rfl | hne
    · have hnil := hshows.gap_eq_nil rfl
      subst hnil
      exact ⟨[], [], by simp [hl], hshows.leading_gap hl⟩
    · exact ⟨body, gap ++ [l], by simp [hne], hshows.concat_of_isGap hbody hgap hne hl⟩

/-- What is finished when a part ends is its statement, if it is not empty. -/
lemma Holds.statement_eq {part : List Lexeme} (h : Holds d part) (hs : ∀ l ∈ part, l.Sound) :
    d.statement = Lexeme.statement part := by
  obtain ⟨body, gap, hpart, hshows⟩ := h
  have hmem : ∀ k ∈ body ++ gap, k.Sound := by
    intro k hk
    exact hs k ((List.dropWhile_suffix Lexeme.isGap).subset (hpart ▸ hk))
  have hblanks := isBlanks_held fun g hg => hmem g (List.mem_append_right body hg)
  have hhead := Lexeme.head?_layoutAfter hshows.isGap_head fun l hl => hmem l (by simp [hl])
  rw [Lexeme.statement, Lexeme.layout_eq hpart hshows.isGap_of_mem hshows.isGap_getLast,
    Draft.statement, hshows.current_eq, trim]
  rcases eq_or_ne body [] with rfl | hne
  · rw [hshows.gap_eq_nil rfl]
    rfl
  · have hlayout := Lexeme.layoutAfter_ne_nil [] hne hshows.isGap_getLast
      fun l hl => hmem l (by simp [hl])
    rw [trimStart_eq_self, trimEnd_append_of_isBlanks hblanks]
    rwa [List.head?_append_of_ne_nil _ hlayout]

end Draft

/-! ### Parts of a script -/

namespace Scan

/-- The lexemes between the terminators outside blocks; `part` are those of the current part. -/
def parts (s : Scan) (part : List Lexeme) : List Lexeme → List (List Lexeme)
  | [] => [part]
  | l :: rest =>
    if l = .semicolon ∧ s.blocks = [] then part :: parts (s.step l rest) [] rest
    else parts (s.step l rest) (part ++ [l]) rest

@[simp] lemma parts_nil {s : Scan} {part : List Lexeme} : s.parts part [] = [part] := rfl

lemma parts_ne_nil (s : Scan) (part ls : List Lexeme) : s.parts part ls ≠ [] := by
  induction ls generalizing s part with
  | nil => simp
  | cons l rest ih =>
    rw [parts]
    split
    · simp
    · exact ih _ _

/-- No lexeme is lost or moved: the parts are the lexemes without the terminators between them. -/
lemma intercalate_parts (s : Scan) (part ls : List Lexeme) :
    [Lexeme.semicolon].intercalate (s.parts part ls) = part ++ ls := by
  induction ls generalizing s part with
  | nil => simp
  | cons l rest ih =>
    rw [parts]
    split
    · next h =>
      rw [List.intercalate_cons_of_ne_nil (parts_ne_nil _ _ _), ih, h.1]
      simp
    · rw [ih]
      simp

/-- The statements of the parts of a script. -/
def statementsOf (parts : List (List Lexeme)) : List String :=
  ((parts.map Lexeme.statement).filter fun cs => !cs.isEmpty).map String.ofList

lemma statementsOf_append (parts more : List (List Lexeme)) :
    statementsOf (parts ++ more) = statementsOf parts ++ statementsOf more := by
  rw [statementsOf, List.map_append, List.filter_append, List.map_append]
  rfl

lemma statementsOf_cons (part : List Lexeme) (parts : List (List Lexeme)) :
    statementsOf (part :: parts) = statementsOf [part] ++ statementsOf parts :=
  statementsOf_append [part] parts

lemma pending_eq {d : Draft} {part : List Lexeme} (h : d.Holds part) (hs : ∀ l ∈ part, l.Sound) :
    d.pending = statementsOf [part] := by
  rw [Draft.pending, h.statement_eq hs]
  cases hempty : (Lexeme.statement part).isEmpty <;> simp [statementsOf, hempty]

lemma finished_draftAfter {d : Draft} {line : Nat} {topLevel : Bool} {l : Lexeme}
    (hsemi : topLevel = true → l ≠ .semicolon) :
    (draftAfter d line topLevel l).1.finished = d.finished := by
  cases l with
  | semicolon =>
    have htop : topLevel = false := by simpa using fun h => hsemi h rfl
    simp [draftAfter, htop]
  | _ => simp [draftAfter]

/-- Run lemma: what is finished after all lexemes are the statements of the parts. -/
lemma statements_run (s : Scan) (part : List Lexeme) {ls : List Lexeme} {afterWord : Bool}
    (hdraft : s.draft.Holds part) (hs : ∀ l ∈ part, l.Sound) (hw : ls ≠ [] → Lexeme.Whole part)
    (hfit : Lexeme.Fitting afterWord ls) :
    (s.run ls).draft.finish.flatMap StatementGroup.statements
      = s.draft.finished ++ statementsOf (s.parts part ls) := by
  induction ls generalizing s part afterWord with
  | nil => rw [run, Draft.flatMap_statements_finish, pending_eq hdraft hs, parts_nil]
  | cons l rest ih =>
    obtain ⟨hl, hrest⟩ := hfit
    have hwhole := hw (by simp)
    rw [run, parts]
    split
    · next h =>
      obtain ⟨rfl, hblocks⟩ := h
      have hdraft' : (s.step .semicolon rest).draft = s.draft.terminate s.line := by
        simp [step, draftAfter, hblocks]
      have hholds : (s.step .semicolon rest).draft.Holds [] := by
        rw [hdraft']
        exact Draft.holds_nil rfl rfl
      rw [ih _ [] hholds (by simp) (by simp [Lexeme.Whole]) hrest, hdraft',
        Draft.finished_terminate,
        pending_eq hdraft hs, statementsOf_cons part (parts _ _ _), List.append_assoc]
    · next h =>
      have hsemi : s.blocks.isEmpty = true → l ≠ .semicolon := by
        intro hblocks hl
        exact h ⟨hl, List.isEmpty_iff.mp hblocks⟩
      have hsound : ∀ k ∈ part ++ [l], k.Sound :=
        List.forall_mem_append.mpr ⟨hs, List.forall_mem_singleton.mpr hl.sound⟩
      have hwhole' : rest ≠ [] → Lexeme.Whole (part ++ [l]) := fun hne =>
        hwhole.concat hl.sound (hl.isOpen_eq_false fun hnil => hne (hrest.eq_nil hnil))
      rw [ih (s.step l rest) (part ++ [l]) (hdraft.concat hwhole hl hsemi) hsound hwhole' hrest]
      congr 1
      exact finished_draftAfter hsemi

lemma filled_run {s : Scan} {ls : List Lexeme} (h : s.draft.Filled) : (s.run ls).draft.Filled := by
  induction ls generalizing s with
  | nil => exact h
  | cons l rest ih => exact ih (s := s.step l rest) h.draftAfter

end Scan

namespace Script

/-- No group of a script is empty. -/
lemma statements_ne_nil {text : String} {g : StatementGroup} (hg : g ∈ groups text) :
    g.statements ≠ [] :=
  (Scan.filled_run (s := {}) (by simp [Draft.Filled])).finish g hg

/-- The parts of a script. -/
def parts (text : String) : List (List Lexeme) :=
  Scan.parts {} [] (Lexeme.ofText text.toList)

/-- The statements of a script are those of its parts, parts of gaps only aside. -/
theorem statements_eq (text : String) :
    statements text = Scan.statementsOf (parts text) := by
  have h := Scan.statements_run {} [] (Draft.holds_nil rfl rfl) (by simp)
    (by simp [Lexeme.Whole]) (Lexeme.fitting_ofText text.toList)
  rw [statements, groups, h, parts]
  rfl

end Script

end SqlWorkbench
