import Mathlib.Data.List.Chain
import Mathlib.Tactic.Common
import SqlWorkbench.Proofs.Script.Composition
import SqlWorkbench.Proofs.Script.Relexing
import SqlWorkbench.Proofs.Script.Significance

/-!
# Statements under a line

The groups of a script follow one another, each from the line of its first significant character to
the one that its last statement ends on, and no line is in two of them. Main statement: a line with
a significant character is in exactly one group, and the group of a line is the only one there.
-/

namespace SqlWorkbench

open Lexeme Text

/-! ### The order of spans -/

/-- The first statement ends before the second begins, on an earlier line if that stands apart. -/
def Span.Precedes (s t : Span) : Prop :=
  s.last ≤ t.first ∧ t.first ≤ t.last ∧ (t.apart = true → s.last < t.first)

instance : Trans Span.Precedes Span.Precedes Span.Precedes where
  trans hst htu := by
    obtain ⟨hle, hspan, -⟩ := hst
    obtain ⟨hle', hspan', hapart⟩ := htu
    refine ⟨by omega, hspan', fun h => ?_⟩
    have := hapart h
    omega

namespace Lexeme

variable {line : Nat} {apart : Bool} {part : List Lexeme} {parts : List (List Lexeme)} {s : Span}

lemma bounds_of_mem_spans (hfits : ∀ p ∈ parts, Placed p) (hs : s ∈ spans line apart parts) :
    line ≤ s.first ∧ s.first ≤ s.last ∧ s.last ≤ line + breaks parts.flatten := by
  induction parts generalizing line apart with
  | nil => simp [spans] at hs
  | cons part parts ih =>
    rw [List.forall_mem_cons] at hfits
    rw [List.flatten_cons, breaks_append]
    rw [spans] at hs
    by_cases hgap : part.all isGap = true
    · rw [if_pos hgap] at hs
      have := ih hfits.2 hs
      omega
    · rw [if_neg hgap] at hs
      rcases List.mem_cons.mp hs with rfl | hs
      · have hbreaks := breaks_leading_le_inkedBreaks hfits.1 (by simpa using hgap)
        dsimp only
        split <;> omega
      · have := ih hfits.2 hs
        omega

/-- A statement stands apart from the line before it if a line has ended. -/
lemma lt_first_of_apart (hs : s ∈ (spans line apart parts).head?) (hapart : s.apart = true)
    (hfits : ∀ p ∈ parts, Placed p) : apart = true ∨ line < s.first := by
  induction parts generalizing line apart with
  | nil => simp [spans] at hs
  | cons part parts ih =>
    rw [List.forall_mem_cons] at hfits
    rw [spans] at hs
    by_cases hgap : part.all isGap = true
    · rw [if_pos hgap] at hs
      have hle := (bounds_of_mem_spans hfits.2 (List.mem_of_mem_head? hs)).1
      rcases ih hs hfits.2 with h | h
      · rw [Bool.or_eq_true, decide_eq_true_eq] at h
        exact h.imp_right fun hpos => by omega
      · exact Or.inr (by omega)
    · rw [if_neg hgap] at hs
      obtain rfl := Option.some.inj hs
      rw [Bool.or_eq_true, decide_eq_true_eq] at hapart
      exact hapart.imp_right fun hpos => by simpa using hpos

lemma isChain_spans (hfits : ∀ p ∈ parts, Placed p) :
    (spans line apart parts).IsChain Span.Precedes := by
  induction parts generalizing line apart with
  | nil => exact .nil
  | cons part parts ih =>
    rw [List.forall_mem_cons] at hfits
    rw [spans]
    by_cases hgap : part.all isGap = true
    · rw [if_pos hgap]
      exact ih hfits.2
    · rw [if_neg hgap]
      refine (ih hfits.2).cons fun t ht => ?_
      have hbounds := bounds_of_mem_spans hfits.2 (List.mem_of_mem_head? ht)
      have hparts : parts.isEmpty = false := by
        cases parts with
        | nil => simp [spans] at ht
        | cons => rfl
      refine ⟨?_, hbounds.2.1, fun happart => ?_⟩
      · simpa [hparts] using hbounds.1
      · have hlt := (lt_first_of_apart ht happart hfits.2).resolve_left (by simp)
        simpa [hparts] using hlt

/-! ### The parts of statements -/

lemma Placed.sound (h : Placed part) : ∀ l ∈ part, l.Sound := by
  intro l hl
  obtain ⟨_, _, hl⟩ := h l hl
  exact hl.sound

lemma statementsOf_singleton (h : Placed part) : Scan.statementsOf [part]
    = if part.all isGap then [] else [String.ofList (statement part)] := by
  have hnil := statement_eq_nil_iff h.sound
  split
  · next hgap => simp [Scan.statementsOf, hnil.mpr hgap]
  · next hgap =>
    have hne : statement part ≠ [] := fun hempty => hgap (hnil.mp hempty)
    simp [Scan.statementsOf, hne]

/-- The statement of a part, with the lines from its first significant character to its end. -/
lemma exists_part_of_spans {xs zs : List Span} (hfits : ∀ p ∈ parts, Placed p)
    (h : spans line apart parts = xs ++ s :: zs) : ∃ init p rest, parts = init ++ p :: rest ∧
      p.all isGap = false ∧ Scan.statementsOf init = xs.map Span.statement ∧
      s.first = line + breaks init.flatten + breaks (leading p) ∧
      s.last = line + breaks init.flatten + if rest.isEmpty then inkedBreaks p else breaks p := by
  induction parts generalizing line apart xs with
  | nil => simp [spans] at h
  | cons part parts ih =>
    rw [List.forall_mem_cons] at hfits
    have hpart := statementsOf_singleton hfits.1
    rw [spans] at h
    by_cases hgap : part.all isGap = true
    · rw [if_pos hgap] at h hpart
      obtain ⟨init, p, rest, rfl, hp, hstatements, hfirst, hlast⟩ := ih hfits.2 h
      refine ⟨part :: init, p, rest, rfl, hp, ?_, ?_, ?_⟩
      · rw [Scan.statementsOf_cons, hpart, hstatements, List.nil_append]
      · rw [hfirst, List.flatten_cons, breaks_append, Nat.add_assoc line]
      · rw [hlast, List.flatten_cons, breaks_append, Nat.add_assoc line]
    · rw [if_neg hgap] at h hpart
      cases xs with
      | nil =>
        obtain ⟨rfl, -⟩ := List.cons_eq_cons.mp h
        exact ⟨[], part, parts, rfl, by simpa using hgap, rfl, rfl, rfl⟩
      | cons x xs =>
        obtain ⟨rfl, htail⟩ := List.cons_eq_cons.mp h
        obtain ⟨init, p, rest, rfl, hp, hstatements, hfirst, hlast⟩ := ih hfits.2 htail
        refine ⟨part :: init, p, rest, rfl, hp, ?_, ?_, ?_⟩
        · rw [Scan.statementsOf_cons, hpart, hstatements]
          rfl
        · rw [hfirst, List.flatten_cons, breaks_append, Nat.add_assoc line]
        · rw [hlast, List.flatten_cons, breaks_append, Nat.add_assoc line]

lemma exists_span_of_part (line : Nat) (apart : Bool) (init rest : List (List Lexeme))
    (hp : part.all isGap = false) : ∃ s ∈ spans line apart (init ++ part :: rest),
      s.first = line + breaks init.flatten + breaks (leading part) ∧
      s.last = line + breaks init.flatten +
        if rest.isEmpty then inkedBreaks part else breaks part := by
  obtain ⟨before, apart', hbefore⟩ := exists_spans_append line apart init
  rw [hbefore _ (by simp), spans, if_neg (by simp [hp])]
  exact ⟨_, List.mem_append_right _ List.mem_cons_self, rfl, rfl⟩

end Lexeme

/-! ### The order of groups -/

namespace StatementGroup

variable {run spans : List Span} {s : Span}

/-- The first group ends on an earlier line than the second begins on. -/
def Precedes (g h : StatementGroup) : Prop :=
  g.endLine < h.startLine ∧ h.startLine ≤ h.endLine

instance : Trans Precedes Precedes Precedes where
  trans hgh hhk := ⟨by have := hgh.1; have := hgh.2; have := hhk.1; omega, hhk.2⟩

/-- A line has ended between the two runs of statements. -/
def Apart (r r' : List Span) : Prop :=
  ∃ s ∈ r.getLast?, ∃ t ∈ r'.head?, s.Precedes t ∧ t.apart = true

/-- The statements of the groups, group by group. -/
lemma exists_runs (run : List Span) (h : (run ++ spans).IsChain Span.Precedes) :
    ∃ runs : List (List Span), gather run spans = runs.map ofSpans ∧ runs.flatten = run ++ spans ∧
      (∀ r ∈ runs, r ≠ [] ∧ r.IsChain Span.Precedes) ∧ runs.IsChain Apart := by
  induction spans generalizing run with
  | nil =>
    rw [List.append_nil] at h
    rcases eq_or_ne run [] with rfl | hne
    · exact ⟨[], rfl, rfl, by simp, .nil⟩
    · exact ⟨[run], by simp [gather, hne], by simp, by simpa using ⟨hne, h⟩, .singleton run⟩
  | cons s spans ih =>
    rw [gather]
    by_cases hapart : (s.apart && !run.isEmpty) = true
    · rw [if_pos hapart]
      rw [Bool.and_eq_true] at hapart
      have hne : run ≠ [] := by simpa using hapart.2
      obtain ⟨hrun, hspans, hlast⟩ := List.isChain_append.mp h
      obtain ⟨runs, hgather, hflatten, hmem, hchain⟩ := ih [s] hspans
      refine ⟨run :: runs, by rw [hgather, List.map_cons], by rw [List.flatten_cons, hflatten]; rfl,
        List.forall_mem_cons.mpr ⟨⟨hne, hrun⟩, hmem⟩, hchain.cons fun r hr => ?_⟩
      obtain ⟨runs, rfl⟩ := List.head?_eq_some_iff.mp hr
      obtain ⟨t, r, rfl⟩ := List.exists_cons_of_ne_nil (hmem r (by simp)).1
      obtain ⟨init, u, rfl⟩ := (List.eq_nil_or_concat run).resolve_left hne
      rw [List.flatten_cons, List.cons_append, List.singleton_append, List.cons_eq_cons] at hflatten
      obtain ⟨rfl, -⟩ := hflatten
      exact ⟨u, by simp, t, by simp, hlast u (by simp) t (by simp), hapart.1⟩
    · rw [if_neg hapart]
      have hassoc : run ++ s :: spans = run ++ [s] ++ spans := by simp
      rw [hassoc] at h ⊢
      exact ih (run ++ [s]) h

/-- A group covers the lines of its statements. -/
lemma bounds_of_mem_run (hchain : run.IsChain Span.Precedes) (hspan : ∀ s ∈ run, s.first ≤ s.last)
    (hs : s ∈ run) : (ofSpans run).startLine ≤ s.first ∧ s.last ≤ (ofSpans run).endLine := by
  have hpairwise := hchain.pairwise
  constructor
  · obtain ⟨t, rest, rfl⟩ := List.exists_cons_of_ne_nil (List.ne_nil_of_mem hs)
    have ht : t.first ≤ t.last := hspan t (by simp)
    rcases List.mem_cons.mp hs with rfl | hs
    · exact Nat.le_refl _
    · have hts : t.Precedes s := List.rel_of_pairwise_cons hpairwise hs
      exact ht.trans hts.1
  · obtain ⟨init, t, rfl⟩ := (List.eq_nil_or_concat run).resolve_left (List.ne_nil_of_mem hs)
    rw [List.concat_eq_append] at hs hpairwise ⊢
    have hend : (ofSpans (init ++ [t])).endLine = t.last := by simp [ofSpans]
    rw [hend]
    rcases List.mem_append.mp hs with hs | hs
    · have hst : s.Precedes t := (List.pairwise_append.mp hpairwise).2.2 s hs t (by simp)
      exact hst.1.trans hst.2.1
    · rw [List.mem_singleton.mp hs]

/-- A group covers each line of its statements. -/
lemma covers_ofSpans {line : Nat} (hchain : run.IsChain Span.Precedes)
    (hspan : ∀ s ∈ run, s.first ≤ s.last) (hs : s ∈ run) (hfirst : s.first ≤ line)
    (hlast : line ≤ s.last) : (ofSpans run).covers line = true := by
  have hbounds := bounds_of_mem_run hchain hspan hs
  rw [covers, Bool.and_eq_true, decide_eq_true_eq, decide_eq_true_eq]
  exact ⟨hbounds.1.trans hfirst, hlast.trans hbounds.2⟩

lemma flatMap_statements_ofSpans (runs : List (List Span)) :
    (runs.map ofSpans).flatMap StatementGroup.statements = runs.flatten.map Span.statement := by
  rw [List.flatMap_map, List.map_flatten]
  rfl

lemma isChain_gather (hchain : spans.IsChain Span.Precedes)
    (hspan : ∀ s ∈ spans, s.first ≤ s.last) : (gather [] spans).IsChain Precedes := by
  obtain ⟨runs, hgather, hflatten, hmem, hruns⟩ := exists_runs [] hchain
  rw [hgather, List.isChain_map]
  refine hruns.imp_of_mem_imp fun r r' hr hr' ⟨s, hs, t, ht, hst, hapart⟩ => ?_
  have hspan' (r : List Span) (hr : r ∈ runs) : ∀ s ∈ r, s.first ≤ s.last := by
    intro s hs
    apply hspan s
    rw [← List.nil_append spans, ← hflatten]
    exact List.mem_flatten_of_mem hr hs
  have hend : (ofSpans r).endLine = s.last := by simp [ofSpans, Option.mem_def.mp hs]
  have hstart : (ofSpans r').startLine = t.first := by simp [ofSpans, Option.mem_def.mp ht]
  have ht' := List.mem_of_mem_head? ht
  have hbounds := bounds_of_mem_run (hmem r' hr').2 (hspan' r' hr') ht'
  have hlt := hst.2.2 hapart
  have hle := hspan' r' hr' t ht'
  exact ⟨by omega, by omega⟩

/-- Of groups that follow one another, at most one covers a line. -/
lemma filter_covers {gs : List StatementGroup} (h : gs.Pairwise Precedes) (line : Nat) :
    gs.filter (·.covers line) = (Script.groupAt gs line).toList := by
  induction gs with
  | nil => rfl
  | cons g gs ih =>
    rw [List.pairwise_cons] at h
    cases hg : g.covers line with
    | true =>
      have hrest : gs.filter (·.covers line) = [] := by
        rw [List.filter_eq_nil_iff]
        intro k hk
        have hgk := (h.1 k hk).1
        simp only [covers, Bool.and_eq_true, decide_eq_true_eq] at hg ⊢
        omega
      rw [List.filter_cons, if_pos hg, hrest, Script.groupAt, List.find?_cons, hg]
      rfl
    | false =>
      rw [List.filter_cons, if_neg (by simp [hg]), ih h.2, Script.groupAt, Script.groupAt,
        List.find?_cons, hg]

end StatementGroup

namespace Script

variable {text : String}

/-! ### Addresses -/

/-- A significant character that is not a terminator of a statement stands on the line. -/
def HasSignificant (text : String) (line : Nat) : Prop :=
  ∃ pre l post, ofText text.toList = pre ++ l :: post ∧
    ¬ (l = semicolon ∧ EndsStatement pre post) ∧ line ∈ significantLines (1 + breaks pre) [l]

/-- The part of the statement behind the statements `before`. It begins on `line`, and other parts
are behind it. -/
def PartAt (text : String) (before : List String) (line : Nat) (part : List Lexeme)
    (behind : List (List Lexeme)) : Prop :=
  ∃ init, parts text = init ++ part :: behind ∧ part.all isGap = false ∧
    Scan.statementsOf init = before ∧ line = 1 + breaks init.flatten

/-- The statement has its first significant character on the line. -/
def BeginsOn (text : String) (before : List String) (line : Nat) : Prop :=
  ∃ start part behind, PartAt text before start part behind ∧
    (significantLines start part).head? = some line

/-- The statement has its terminator on the line or, at the end of the script, its last significant
character. -/
def EndsOn (text : String) (before : List String) (line : Nat) : Prop :=
  ∃ start part behind, PartAt text before start part behind ∧
    if behind = [] then (significantLines start part).getLast? = some line
    else line = start + breaks part

lemma placed_of_mem_parts {part : List Lexeme} (hp : part ∈ parts text) : Placed part := by
  obtain ⟨before, after, hsplit, -⟩ := Scan.exists_append_of_mem_parts hp
  rw [List.nil_append] at hsplit
  intro l hl
  exact (fitting_ofText text.toList).placed l (by rw [hsplit]; simp [hl])

lemma placed_of_parts_eq {part : List Lexeme} {init behind : List (List Lexeme)}
    (h : parts text = init ++ part :: behind) : Placed part := by
  have hp : part ∈ parts text := by simp [h]
  exact placed_of_mem_parts hp

lemma isChain_spans (text : String) : (spans text).IsChain Span.Precedes :=
  Lexeme.isChain_spans fun _ => placed_of_mem_parts

lemma bounds_of_mem_spans {s : Span} (hs : s ∈ spans text) :
    1 ≤ s.first ∧ s.first ≤ s.last ∧ s.last ≤ 1 + text.toList.count '\n' := by
  rw [← breaks_flatten_parts]
  exact Lexeme.bounds_of_mem_spans (fun _ => placed_of_mem_parts) hs

lemma exists_runs (text : String) : ∃ runs : List (List Span),
    groups text = runs.map StatementGroup.ofSpans ∧ runs.flatten = spans text ∧
      ∀ r ∈ runs, r ≠ [] ∧ r.IsChain Span.Precedes := by
  have hchain : ([] ++ spans text).IsChain Span.Precedes := isChain_spans text
  obtain ⟨runs, hgather, hflatten, hruns, -⟩ := StatementGroup.exists_runs [] hchain
  exact ⟨runs, (groups_eq_gather text).trans hgather, hflatten, hruns⟩

/-- A lexeme that ends no statement stands in a part. -/
lemma exists_part_of_lexeme {s : Scan} (part : List Lexeme) {pre post : List Lexeme} {l : Lexeme}
    (hl : ¬ (l = semicolon ∧ (s.after (l :: post) pre).blocks = [])) :
    ∃ init a b rest, s.parts part (pre ++ l :: post) = init ++ (a ++ l :: b) :: rest ∧
      breaks init.flatten + breaks a = breaks part + breaks pre := by
  induction pre generalizing s part with
  | nil =>
    obtain ⟨more, rest, hmore⟩ := Scan.exists_parts_eq (s.step l post) (part ++ [l]) post
    refine ⟨[], part, more, rest, ?_, by simp⟩
    have hcut : ¬ (l = semicolon ∧ s.blocks = []) := hl
    rw [List.nil_append, Scan.parts, if_neg hcut, hmore]
    simp
  | cons k pre ih =>
    rw [List.cons_append, Scan.parts]
    split
    · next hcut =>
      obtain ⟨rfl, -⟩ := hcut
      obtain ⟨init, a, b, rest, hparts, hbreaks⟩ :=
        ih (s := s.step semicolon (pre ++ l :: post)) [] hl
      refine ⟨part :: init, a, b, rest, by rw [hparts, List.cons_append], ?_⟩
      have hsemi : semicolon.text.count '\n' = 0 := by decide
      rw [breaks_nil] at hbreaks
      rw [List.flatten_cons, breaks_append, breaks_cons, hsemi]
      omega
    · obtain ⟨init, a, b, rest, hparts, hbreaks⟩ :=
        ih (s := s.step k (pre ++ l :: post)) (part ++ [k]) hl
      refine ⟨init, a, b, rest, hparts, ?_⟩
      rw [hbreaks, breaks_append, breaks_singleton, breaks_cons, Nat.add_assoc]

/-- A significant character stands in a group. -/
lemma exists_covers_of_hasSignificant {line : Nat} (h : HasSignificant text line) :
    ∃ g ∈ groups text, g.covers line = true := by
  obtain ⟨pre, l, post, hsplit, hends, hline⟩ := h
  have hcut : ¬ (l = semicolon ∧ (Scan.after (l :: post) {} pre).blocks = []) := by
    rintro ⟨rfl, hblocks⟩
    exact hends ⟨rfl, hblocks⟩
  obtain ⟨init, a, b, rest, hparts, hbreaks⟩ := exists_part_of_lexeme [] hcut
  rw [← hsplit] at hparts
  have hparts' : parts text = init ++ (a ++ l :: b) :: rest := hparts
  have hplaced : Placed (a ++ l :: b) := placed_of_parts_eq hparts'
  have hgap : l.isGap = false := by
    by_contra hgap
    have hs : ∀ k ∈ [l], k.Sound := by
      simpa using (hplaced l (by simp)).elim fun _ ⟨_, hl⟩ => hl.sound
    rw [significantLines_of_gap hs (by simpa using hgap)] at hline
    simp at hline
  have hfull : (a ++ l :: b).all isGap = false := by simp [hgap]
  -- The character stands between the first and the last significant one of its part.
  have hmem : line ∈ significantLines (1 + breaks init.flatten) (a ++ l :: b) := by
    rw [breaks_nil, Nat.zero_add] at hbreaks
    rw [← hbreaks, ← Nat.add_assoc, significantLines_singleton] at hline
    rw [significantLines_append]
    exact List.mem_append_right _ (List.mem_append_left _ hline)
  have hbounds := bounds_of_mem_significantLines hplaced hfull hmem
  have hinked := (breaks_leading_le_inkedBreaks hplaced hfull).2
  obtain ⟨s, hs, hfirst, hlast⟩ := exists_span_of_part 1 false init rest hfull
  rw [← hparts', ← spans] at hs
  obtain ⟨runs, hgroups, hflatten, hruns⟩ := exists_runs text
  rw [← hflatten] at hs
  obtain ⟨run, hrun, hs⟩ := List.mem_flatten.mp hs
  refine ⟨StatementGroup.ofSpans run, ?_, ?_⟩
  · rw [hgroups]
    exact List.mem_map_of_mem hrun
  · have hspan : ∀ t ∈ run, t.first ≤ t.last := fun t ht =>
      (bounds_of_mem_spans (hflatten ▸ List.mem_flatten_of_mem hrun ht)).2.1
    apply StatementGroup.covers_ofSpans (hruns run hrun).2 hspan hs
    · omega
    · split at hlast <;> omega

/-- A group is that of a run of spans, and those before it are of the spans before the run. -/
lemma exists_run_of_groups_eq {gs hs : List StatementGroup} {g : StatementGroup}
    (h : groups text = gs ++ g :: hs) : ∃ xs run ys, spans text = xs ++ (run ++ ys) ∧
      gs.flatMap StatementGroup.statements = xs.map Span.statement ∧
      g = StatementGroup.ofSpans run ∧ run ≠ [] ∧ run.IsChain Span.Precedes := by
  obtain ⟨runs, hgroups, hflatten, hruns⟩ := exists_runs text
  rw [hgroups, List.map_eq_append_iff] at h
  obtain ⟨before, others, rfl, rfl, hothers⟩ := h
  obtain ⟨run, after, rfl, rfl, rfl⟩ := List.map_eq_cons_iff.mp hothers
  rw [List.flatten_append, List.flatten_cons] at hflatten
  exact ⟨before.flatten, run, after.flatten, hflatten.symm,
    StatementGroup.flatMap_statements_ofSpans before, rfl, hruns run (by simp)⟩

/-- A group begins with its first statement and ends with its last. -/
lemma ends_of_groups_eq {gs hs : List StatementGroup} {g : StatementGroup}
    (h : groups text = gs ++ g :: hs) :
    BeginsOn text (gs.flatMap StatementGroup.statements) g.startLine ∧
      EndsOn text (gs.flatMap StatementGroup.statements ++ g.statements.dropLast) g.endLine := by
  obtain ⟨xs, run, ys, hspans, hbefore, rfl, hne, -⟩ := exists_run_of_groups_eq h
  rw [hbefore]
  constructor
  · obtain ⟨s, rest, rfl⟩ := List.exists_cons_of_ne_nil hne
    rw [List.cons_append] at hspans
    obtain ⟨init, part, behind, hparts, hfull, hbefore, hfirst, -⟩ :=
      exists_part_of_spans (fun _ => placed_of_mem_parts) hspans
    have hplaced : Placed part := placed_of_parts_eq hparts
    refine ⟨_, part, behind, ⟨init, hparts, hfull, hbefore, rfl⟩, ?_⟩
    rw [head?_significantLines _ hplaced hfull, ← hfirst]
    rfl
  · obtain ⟨rest, s, rfl⟩ := (List.eq_nil_or_concat run).resolve_left hne
    rw [List.concat_eq_append, List.append_assoc, List.singleton_append, ← List.append_assoc]
      at hspans
    obtain ⟨init, part, behind, hparts, hfull, hbefore, -, hlast⟩ :=
      exists_part_of_spans (fun _ => placed_of_mem_parts) hspans
    have hplaced : Placed part := placed_of_parts_eq hparts
    have hend : (StatementGroup.ofSpans (rest.concat s)).endLine = s.last := by
      simp [StatementGroup.ofSpans]
    have hrest : (StatementGroup.ofSpans (rest.concat s)).statements.dropLast
        = rest.map Span.statement := by
      simp [StatementGroup.ofSpans]
    rw [hend, hrest, ← List.map_append]
    refine ⟨_, part, behind, ⟨init, hparts, hfull, hbefore, rfl⟩, ?_⟩
    by_cases hbehind : behind = []
    · rw [if_pos hbehind, getLast?_significantLines _ hplaced hfull, hlast, hbehind]
      rfl
    · rw [if_neg hbehind, hlast, if_neg (by simpa using hbehind)]

lemma isChain_groups (text : String) : (groups text).IsChain StatementGroup.Precedes := by
  rw [groups_eq_gather]
  exact StatementGroup.isChain_gather (isChain_spans text) fun s hs => (bounds_of_mem_spans hs).2.1

/-- A group that covers a line is the only one there. -/
lemma filter_covers_eq_singleton {g : StatementGroup} {line : Nat} (hg : g ∈ groups text)
    (hcovers : g.covers line = true) : (groups text).filter (·.covers line) = [g] := by
  have hmem : g ∈ (groups text).filter (·.covers line) := List.mem_filter.mpr ⟨hg, hcovers⟩
  rw [StatementGroup.filter_covers (isChain_groups text).pairwise line] at hmem ⊢
  rw [Option.mem_toList] at hmem
  rw [Option.mem_def.mp hmem]
  rfl

lemma bounds_of_mem_groups {g : StatementGroup} (hg : g ∈ groups text) :
    1 ≤ g.startLine ∧ g.startLine ≤ g.endLine ∧ g.endLine ≤ text.toList.count '\n' + 1 := by
  obtain ⟨runs, hgroups, hflatten, hruns⟩ := exists_runs text
  rw [hgroups] at hg
  obtain ⟨run, hrun, rfl⟩ := List.mem_map.mp hg
  obtain ⟨hne, hchain⟩ := hruns run hrun
  have hbounds (s : Span) (hs : s ∈ run) :=
    bounds_of_mem_spans (hflatten ▸ List.mem_flatten_of_mem hrun hs)
  have hcovers (s : Span) (hs : s ∈ run) :=
    StatementGroup.bounds_of_mem_run hchain (fun t ht => (hbounds t ht).2.1) hs
  obtain ⟨s, hs⟩ := List.exists_mem_of_ne_nil run hne
  have hfirst : (StatementGroup.ofSpans run).startLine = (run.head hne).first := by
    simp [StatementGroup.ofSpans, List.head?_eq_some_head hne]
  have hlast : (StatementGroup.ofSpans run).endLine = (run.getLast hne).last := by
    simp [StatementGroup.ofSpans, List.getLast?_eq_some_getLast hne]
  have hstart := hbounds _ (List.head_mem hne)
  have hend := hbounds _ (List.getLast_mem hne)
  have hspan := hcovers s hs
  have hs' := hbounds s hs
  omega

/-- The groups of a script address its lines: they are not empty and lie in order within the script,
each from the first significant character of its first statement to the end of its last; a line with
a significant character is in exactly one of them, and the group of a line is the only one there. -/
theorem groups_addressed (text : String) :
    (∀ g ∈ groups text, g.statements ≠ [] ∧
      (∀ s ∈ g.statements, s ≠ "" ∧ trim s.toList = s.toList) ∧
      1 ≤ g.startLine ∧ g.startLine ≤ g.endLine ∧ g.endLine ≤ text.toList.count '\n' + 1) ∧
    (groups text).IsChain (fun g h => g.endLine < h.startLine) ∧
    (∀ gs g hs, groups text = gs ++ g :: hs →
      BeginsOn text (gs.flatMap StatementGroup.statements) g.startLine ∧
      EndsOn text (gs.flatMap StatementGroup.statements ++ g.statements.dropLast) g.endLine) ∧
    (∀ line, HasSignificant text line → ∃ g, (groups text).filter (·.covers line) = [g]) ∧
    ∀ line, (groups text).filter (·.covers line) = (groupAt (groups text) line).toList := by
  have hchain : (groups text).IsChain StatementGroup.Precedes := by
    rw [groups_eq_gather]
    exact StatementGroup.isChain_gather (isChain_spans text)
      fun s hs => (bounds_of_mem_spans hs).2.1
  have hfilter := StatementGroup.filter_covers hchain.pairwise
  refine ⟨?_, hchain.imp fun _ _ h => h.1, fun gs g hs => ends_of_groups_eq, ?_, hfilter⟩
  · intro g hg
    refine ⟨statements_ne_nil hg, fun s hs => ?_, bounds_of_mem_groups hg⟩
    have hmem : s.toList ∈ (statements text).map String.toList :=
      List.mem_map_of_mem (List.mem_flatMap.mpr ⟨g, hg, hs⟩)
    rw [toList_statements] at hmem
    obtain ⟨part, hpart, hstatement⟩ := List.mem_map.mp hmem
    refine ⟨?_, ?_⟩
    · rintro rfl
      exact (renders_of_mem_fullParts hpart).2 hstatement
    · rw [← hstatement]
      exact trim_statement (sound_of_mem_parts (List.mem_filter.mp hpart).1).1
  · intro line hline
    obtain ⟨g, hg, hcovers⟩ := exists_covers_of_hasSignificant hline
    have hmem : g ∈ (groups text).filter (·.covers line) := List.mem_filter.mpr ⟨hg, hcovers⟩
    rw [hfilter line] at hmem ⊢
    obtain hsome : groupAt (groups text) line = some g := by simpa using hmem
    exact ⟨g, by rw [hsome]; rfl⟩

/-- The second line holds the end of a quoted region, and a terminator that ends nothing. -/
theorem groups_addressed_region : HasSignificant "SELECT \x27a\n;\x27 ; ;\n-- b" 2 ∧
    ∃ g, (groups "SELECT \x27a\n;\x27 ; ;\n-- b").filter (·.covers 2) = [g] := by
  have hline : HasSignificant "SELECT \x27a\n;\x27 ; ;\n-- b" 2 := by
    refine ⟨[word "SELECT".toList, blank ' '], quoted '\x27' "a\n;".toList true,
      [blank ' ', semicolon, blank ' ', semicolon, lineBreak, lineComment " b".toList], ?_, ?_, ?_⟩
    · decide +kernel
    · simp
    · decide +kernel
  exact ⟨hline, (groups_addressed _).2.2.2.1 2 hline⟩

end Script

end SqlWorkbench
