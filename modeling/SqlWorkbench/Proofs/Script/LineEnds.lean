import Mathlib.Tactic.Common
import SqlWorkbench.Proofs.Script.Addressing

/-!
# Groups and the ends of lines

A group ends where a line ends between two statements: on the line of a terminator, or further down
where comments and stray terminators stand between them. Main statement: two statements that follow
one another are in different groups exactly if a line breaks between the terminator of the first and
the first significant character of the second, and every statement stands in one group as a whole.
-/

namespace SqlWorkbench

open Lexeme

namespace Lexeme

variable {line : Nat} {apart : Bool} {ls : List Lexeme} {parts init strays : List (List Lexeme)}

/-! ### The statements of parts -/

lemma statementsOf_eq_nil_iff (hfits : ∀ p ∈ parts, Placed p) :
    Scan.statementsOf parts = [] ↔ ∀ p ∈ parts, p.all isGap = true := by
  induction parts with
  | nil => simp [Scan.statementsOf]
  | cons part parts ih =>
    rw [List.forall_mem_cons] at hfits
    rw [Scan.statementsOf_cons, List.append_eq_nil_iff, ih hfits.2, List.forall_mem_cons,
      statementsOf_singleton hfits.1]
    refine and_congr_left fun _ => ?_
    split
    · next hgap => exact iff_of_true rfl hgap
    · next hgap => exact iff_of_false (by simp) hgap

/-- The part of a statement, and the parts around it. -/
lemma exists_part_of_statementsOf {before more : List String} {s : String}
    (hfits : ∀ p ∈ parts, Placed p) (h : Scan.statementsOf parts = before ++ s :: more) :
    ∃ init part rest, parts = init ++ part :: rest ∧ part.all isGap = false ∧
      Scan.statementsOf init = before ∧ String.ofList (statement part) = s ∧
      Scan.statementsOf rest = more := by
  induction parts generalizing before with
  | nil => simp [Scan.statementsOf] at h
  | cons part parts ih =>
    rw [List.forall_mem_cons] at hfits
    have hpart := statementsOf_singleton hfits.1
    rw [Scan.statementsOf_cons, hpart] at h
    by_cases hgap : part.all isGap = true
    · rw [if_pos hgap] at h hpart
      obtain ⟨init, next, rest, rfl, hnext, hinit, hs, hrest⟩ := ih hfits.2 h
      refine ⟨part :: init, next, rest, rfl, hnext, ?_, hs, hrest⟩
      rw [Scan.statementsOf_cons, hpart, hinit, List.nil_append]
    · rw [if_neg hgap, List.singleton_append] at h
      rw [if_neg hgap] at hpart
      cases before with
      | nil =>
        obtain ⟨hs, hmore⟩ := List.cons_eq_cons.mp h
        exact ⟨[], part, parts, rfl, by simpa using hgap, rfl, hs, hmore⟩
      | cons b before =>
        obtain ⟨rfl, hmore⟩ := List.cons_eq_cons.mp h
        obtain ⟨init, next, rest, rfl, hnext, hinit, hs, hrest⟩ := ih hfits.2 hmore
        refine ⟨part :: init, next, rest, rfl, hnext, ?_, hs, hrest⟩
        rw [Scan.statementsOf_cons, hpart, hinit, List.singleton_append]

/-- A part has a first lexeme that is no gap. -/
lemma exists_dropWhile_eq (h : ls.all isGap = false) :
    ∃ l more, ls.dropWhile isGap = l :: more ∧ l.isGap = false := by
  cases hdrop : ls.dropWhile isGap with
  | nil =>
    have hall : ls.all isGap = true := List.all_eq_true.mpr (List.dropWhile_eq_nil_iff.mp hdrop)
    rw [hall] at h
    cases h
  | cons l more => exact ⟨l, more, rfl, isGap_of_mem_head?_dropWhile ls l (by simp [hdrop])⟩

lemma mem_of_mem_intercalate {l : Lexeme} (h : l ∈ [semicolon].intercalate parts) :
    l = semicolon ∨ ∃ p ∈ parts, l ∈ p := by
  induction parts with
  | nil => cases h
  | cons part parts ih =>
    rcases eq_or_ne parts [] with rfl | hne
    · exact Or.inr ⟨part, by simp, by simpa using h⟩
    · rw [List.intercalate_cons_of_ne_nil hne] at h
      simp only [List.mem_append, List.mem_singleton] at h
      rcases h with (h | h) | h
      · exact Or.inr ⟨part, by simp, h⟩
      · exact Or.inl h
      · refine (ih h).imp_right ?_
        rintro ⟨p, hp, hl⟩
        exact ⟨p, List.mem_cons_of_mem part hp, hl⟩

/-! ### The spans of parts -/

lemma map_statement_spans (hfits : ∀ p ∈ parts, Placed p) :
    (spans line apart parts).map Span.statement = Scan.statementsOf parts := by
  induction parts generalizing line apart with
  | nil => rfl
  | cons part parts ih =>
    rw [List.forall_mem_cons] at hfits
    rw [Scan.statementsOf_cons, statementsOf_singleton hfits.1, spans]
    split
    · exact ih hfits.2
    · rw [List.map_cons, ih hfits.2, List.singleton_append]

lemma exists_map_statement_eq (line : Nat) (apart : Bool) (part : List Lexeme)
    (rest : List (List Lexeme)) (hfits : ∀ p ∈ init, Placed p) :
    ∃ xs line' apart', xs.map Span.statement = Scan.statementsOf init ∧
      spans line apart (init ++ part :: rest) = xs ++ spans line' apart' (part :: rest) := by
  induction init generalizing line apart with
  | nil => exact ⟨[], line, apart, rfl, rfl⟩
  | cons first init ih =>
    rw [List.forall_mem_cons] at hfits
    rw [Scan.statementsOf_cons, statementsOf_singleton hfits.1, List.cons_append, spans]
    split
    · exact ih _ _ hfits.2
    · obtain ⟨xs, line', apart', hxs, hspans⟩ := ih (line + breaks first) false hfits.2
      refine ⟨_ :: xs, line', apart', ?_, congrArg (List.cons _) hspans⟩
      rw [List.map_cons, hxs]
      rfl

/-- Stray terminators leave the next statement apart if a line has ended. -/
lemma spans_append_of_gap (hstrays : ∀ p ∈ strays, p.all isGap = true) :
    spans line apart (strays ++ parts)
      = spans (line + breaks strays.flatten) (apart || 0 < breaks strays.flatten) parts := by
  induction strays generalizing line apart with
  | nil => simp
  | cons part strays ih =>
    rw [List.forall_mem_cons] at hstrays
    rw [List.cons_append, spans, if_pos hstrays.1, ih hstrays.2, List.flatten_cons, breaks_append,
      Nat.add_assoc, Bool.or_assoc, ← Bool.decide_or]
    simp only [Nat.add_pos_iff_pos_or_pos]

end Lexeme

/-! ### Where groups end -/

namespace StatementGroup

variable {spans xs ys : List Span} {x y : Span} {runs : List (List Span)}
  {groups : List StatementGroup} {before : List String} {s t : String}

/-- A group ends behind the statements `before`. -/
def Divides (groups : List StatementGroup) (before : List String) : Prop :=
  ∃ gs hs, groups = gs ++ hs ∧ gs.flatMap StatementGroup.statements = before

/-- Behind the statements `before` the statements `s` and `t` stand in one group. -/
def Joins (groups : List StatementGroup) (before : List String) (s t : String) : Prop :=
  ∃ gs g hs us vs, groups = gs ++ g :: hs ∧ g.statements = us ++ s :: t :: vs ∧
    gs.flatMap StatementGroup.statements ++ us = before

/-- No group ends between two statements of one group. -/
lemma Joins.not_divides (hjoins : Joins groups before s t) : ¬ Divides groups (before ++ [s]) := by
  obtain ⟨gs, g, hs, us, vs, rfl, hg, rfl⟩ := hjoins
  rintro ⟨gs', hs', heq, hstatements⟩
  have hlength := congrArg List.length hstatements
  simp only [List.length_append, List.length_singleton] at hlength
  rcases List.append_eq_append_iff.mp heq with ⟨between, rfl, hrest⟩ | ⟨between, rfl, hrest⟩
  · cases between with
    | nil =>
      simp only [List.append_nil] at hlength
      omega
    | cons k between =>
      rw [List.cons_append, List.cons_eq_cons] at hrest
      obtain ⟨rfl, -⟩ := hrest
      simp only [List.flatMap_append, List.flatMap_cons, List.length_append, hg,
        List.length_cons] at hlength
      omega
  · simp only [List.flatMap_append, List.length_append] at hlength
    omega

/-- What stands apart is in another group than what stands before it. -/
lemma divides_of_apart (hchain : (xs ++ y :: ys).IsChain Span.Precedes) (hy : y.apart = true) :
    Divides (gather [] (xs ++ y :: ys)) (xs.map Span.statement) := by
  obtain ⟨runs, hgather, hflatten, -⟩ := exists_runs [] (List.isChain_append.mp hchain).1
  refine ⟨gather [] xs, gather [] (y :: ys), gather_append (by simpa using hy), ?_⟩
  rw [hgather, flatMap_statements_ofSpans, hflatten, List.nil_append]

/-- Of two runs, the second begins with what stands apart. -/
lemma apart_of_flatten_eq {before behind : List (List Span)}
    (hruns : (before ++ behind).IsChain Apart) (hmem : ∀ r ∈ behind, r ≠ [])
    (hbefore : before.flatten = xs ++ [x]) (hbehind : behind.flatten = y :: ys) :
    y.apart = true := by
  obtain ⟨init, r, rfl⟩ : ∃ init r, before = init ++ [r] := by
    rcases List.eq_nil_or_concat before with rfl | ⟨init, r, rfl⟩
    · simp at hbefore
    · exact ⟨init, r, List.concat_eq_append⟩
  obtain ⟨r', more, rfl⟩ : ∃ r' more, behind = r' :: more := by
    cases behind with
    | nil => simp at hbehind
    | cons r' more => exact ⟨r', more, rfl⟩
  obtain ⟨z, r', rfl⟩ := List.exists_cons_of_ne_nil (hmem r' List.mem_cons_self)
  obtain ⟨-, -, t, ht, -, hapart⟩ := (List.isChain_append.mp hruns).2.2 r (by simp) _ rfl
  rw [List.flatten_cons, List.cons_append, List.cons_eq_cons] at hbehind
  obtain rfl : z = t := by simpa using ht
  rwa [hbehind.1] at hapart

/-- What does not stand apart is in the group of what stands before it. -/
lemma joins_of_not_apart (hchain : (xs ++ x :: y :: ys).IsChain Span.Precedes)
    (hy : y.apart = false) :
    Joins (gather [] (xs ++ x :: y :: ys)) (xs.map Span.statement) x.statement y.statement := by
  have hchain' : ([] ++ (xs ++ x :: y :: ys)).IsChain Span.Precedes := hchain
  obtain ⟨runs, hgather, hflatten, hmem, hruns⟩ := exists_runs [] hchain'
  rw [List.nil_append, List.append_cons] at hflatten
  rw [hgather]
  rcases List.flatten_eq_append_iff.mp hflatten with
    ⟨before, behind, rfl, hbefore, hbehind⟩ | ⟨before, run, z, more, behind, rfl, hbefore, hbehind⟩
  · have hapart := apart_of_flatten_eq hruns (fun r hr => (hmem r (List.mem_append_right _ hr)).1)
      hbefore.symm hbehind.symm
    simp [hy] at hapart
  · rw [List.cons_append, List.cons_eq_cons] at hbehind
    obtain ⟨rfl, rfl⟩ := hbehind
    rcases List.eq_nil_or_concat run with rfl | ⟨run, w, rfl⟩
    · rw [List.append_nil] at hbefore
      have hapart := apart_of_flatten_eq hruns (fun r hr => (hmem r (List.mem_append_right _ hr)).1)
        hbefore.symm rfl
      simp [hy] at hapart
    · rw [List.concat_eq_append, ← List.append_assoc] at hbefore
      obtain ⟨rfl, hw⟩ := List.append_inj' hbefore rfl
      cases hw
      refine ⟨before.map ofSpans, ofSpans (run.concat x ++ y :: more), behind.map ofSpans,
        run.map Span.statement, more.map Span.statement, by simp, by simp [ofSpans], ?_⟩
      rw [flatMap_statements_ofSpans, ← List.map_append]

lemma divides_iff (hchain : (xs ++ x :: y :: ys).IsChain Span.Precedes) :
    Divides (gather [] (xs ++ x :: y :: ys)) (xs.map Span.statement ++ [x.statement]) ↔
      y.apart = true := by
  cases hy : y.apart with
  | true =>
    rw [List.append_cons] at hchain ⊢
    have hdivides := divides_of_apart hchain hy
    rw [List.map_append] at hdivides
    exact iff_of_true hdivides rfl
  | false => exact iff_of_false (joins_of_not_apart hchain hy).not_divides (by simp)

lemma joins_iff (hchain : (xs ++ x :: y :: ys).IsChain Span.Precedes) :
    Joins (gather [] (xs ++ x :: y :: ys)) (xs.map Span.statement) x.statement y.statement ↔
      y.apart = false := by
  constructor
  · intro hjoins
    by_contra hy
    exact hjoins.not_divides ((divides_iff hchain).mpr (by simpa using hy))
  · exact joins_of_not_apart hchain

end StatementGroup

namespace Script

open StatementGroup

variable {text s t : String} {before behind : List String} {pre between post : List Lexeme}

/-- The lexemes of the script up to the terminator of the last of the statements `before`, those
between it and the first significant character of the next statement, and those from there on.
Between the two stand gaps, and terminators that end no statement. -/
def Between (text : String) (before : List String) (pre between post : List Lexeme) : Prop :=
  ∃ init ended strays next rest, parts text = init ++ ended :: (strays ++ next :: rest) ∧
    Scan.statementsOf (init ++ [ended]) = before ∧ ended.all isGap = false ∧
    (∀ p ∈ strays, p.all isGap = true) ∧ next.all isGap = false ∧
    pre = [semicolon].intercalate (init ++ [ended]) ∧
    between = [semicolon].intercalate (strays ++ [leading next]) ∧
    post = [semicolon].intercalate (next.dropWhile isGap :: rest)

lemma exists_between (h : statements text = before ++ s :: t :: behind) :
    ∃ pre between post, Between text (before ++ [s]) pre between post := by
  have hfits : ∀ p ∈ parts text, Placed p := fun _ => placed_of_mem_parts
  rw [statements_eq] at h
  obtain ⟨init, ended, rest, hparts, hended, hinit, hs, hrest⟩ :=
    exists_part_of_statementsOf hfits h
  have hfits' : ∀ p ∈ rest, Placed p := fun p hp => hfits p (by simp [hparts, hp])
  have hnext : Scan.statementsOf rest = [] ++ t :: behind := hrest
  obtain ⟨strays, next, rest, rfl, hnext, hstrays, -, -⟩ := exists_part_of_statementsOf hfits' hnext
  refine ⟨_, _, _, init, ended, strays, next, rest, hparts, ?_, hended, ?_, hnext, rfl, rfl, rfl⟩
  · rw [Scan.statementsOf_append, hinit, statementsOf_singleton (placed_of_parts_eq hparts), hended,
      ← hs]
    rfl
  · exact (statementsOf_eq_nil_iff fun p hp => hfits' p (by simp [hp])).mp hstrays

/-- The spans of two statements, of which the second stands apart if a line breaks in between. -/
lemma Between.exists_spans (h : Between text before pre between post) : ∃ xs x y ys,
    spans text = xs ++ x :: y :: ys ∧ (xs ++ [x]).map Span.statement = before ∧
      y.apart = decide (0 < breaks between) := by
  obtain ⟨init, ended, strays, next, rest, hparts, rfl, hended, hstrays, hnext, -, rfl, -⟩ := h
  have hfits : ∀ p ∈ init, Placed p := by
    intro p hp
    have hmem : p ∈ parts text := by simp [hparts, hp]
    exact placed_of_mem_parts hmem
  obtain ⟨xs, line, apart, hxs, hspans⟩ :=
    exists_map_statement_eq 1 false ended (strays ++ next :: rest) hfits
  have hended' : ¬ ended.all isGap = true := by simp [hended]
  have hnext' : ¬ next.all isGap = true := by simp [hnext]
  rw [Lexeme.spans, if_neg hended', spans_append_of_gap hstrays, Lexeme.spans, if_neg hnext']
    at hspans
  refine ⟨xs, _, _, _, (congrArg (Lexeme.spans 1 false) hparts).trans hspans, ?_, ?_⟩
  · rw [List.map_append, hxs, Scan.statementsOf_append,
      statementsOf_singleton (placed_of_parts_eq hparts), hended]
    rfl
  · rw [breaks_intercalate, List.flatten_append, breaks_append, List.flatten_singleton,
      Bool.false_or, ← Bool.decide_or]
    simp only [Nat.add_pos_iff_pos_or_pos]

/-- The three stretches are the script. -/
lemma Between.ofText_eq (h : Between text before pre between post) :
    ofText text.toList = pre ++ semicolon :: (between ++ post) := by
  obtain ⟨init, ended, strays, next, rest, hparts, -, -, -, -, rfl, rfl, rfl⟩ := h
  have hbehind : strays ++ next :: rest ≠ [] := by simp
  have hnext : leading next ++ next.dropWhile isGap = next := List.takeWhile_append_dropWhile
  calc ofText text.toList
      = [semicolon].intercalate (init ++ (ended ++ []) :: (strays ++ next :: rest)) := by
        rw [List.append_nil, ← hparts, intercalate_parts]
    _ = [semicolon].intercalate (init ++ [ended]) ++
          semicolon :: [semicolon].intercalate (strays ++ next :: rest) := by
        rw [intercalate_append_cons, List.intercalate_cons_of_ne_nil hbehind]
        rfl
    _ = _ := by rw [← intercalate_append_cons, hnext]

lemma Between.isGap_head (h : Between text before pre between post) :
    ∃ l ∈ post.head?, l.isGap = false := by
  obtain ⟨init, ended, strays, next, rest, -, -, -, -, hnext, -, -, rfl⟩ := h
  obtain ⟨l, more, hdrop, hl⟩ := exists_dropWhile_eq hnext
  exact ⟨l, by rw [hdrop, List.intercalate_cons_cons_left]; rfl, hl⟩

lemma Between.isGap_of_mem (h : Between text before pre between post) :
    ∀ l ∈ between, l.isGap = true ∨ l = semicolon := by
  obtain ⟨init, ended, strays, next, rest, -, -, -, hstrays, -, -, rfl, -⟩ := h
  intro l hl
  rcases mem_of_mem_intercalate hl with rfl | ⟨p, hp, hl⟩
  · exact Or.inr rfl
  · left
    rcases List.mem_append.mp hp with hp | hp
    · exact List.all_eq_true.mp (hstrays p hp) l hl
    · rw [List.mem_singleton.mp hp] at hl
      exact List.mem_takeWhile_imp hl

/-- The statement behind others is that of its part. -/
lemma PartAt.statement_eq {line : Nat} {part : List Lexeme} {others : List (List Lexeme)}
    (h : PartAt text before line part others) (htext : statements text = before ++ s :: behind) :
    String.ofList (statement part) = s := by
  obtain ⟨init, hparts, hpart, rfl, -⟩ := h
  rw [statements_eq, hparts, List.append_cons, Scan.statementsOf_append, Scan.statementsOf_append,
    statementsOf_singleton (placed_of_parts_eq hparts), hpart, List.append_assoc] at htext
  exact (List.cons_eq_cons.mp (List.append_cancel_left htext)).1

/-- A statement is in its group as a whole: no other group has one of its lines. -/
lemma exists_part_of_groups {gs hs : List StatementGroup} {g : StatementGroup} {us vs : List String}
    (h : groups text = gs ++ g :: hs) (hg : g.statements = us ++ s :: vs) :
    ∃ line part behind, PartAt text (gs.flatMap StatementGroup.statements ++ us) line part behind ∧
      String.ofList (statement part) = s ∧
      ∀ k ∈ significantLines line part, (groups text).filter (·.covers k) = [g] := by
  obtain ⟨xs, run, ys, hspans, hbefore, rfl, -, hrun⟩ := exists_run_of_groups_eq h
  obtain ⟨ws, zs, rfl, rfl, hzs⟩ := List.map_eq_append_iff.mp hg
  obtain ⟨x, zs, rfl, rfl, rfl⟩ := List.map_eq_cons_iff.mp hzs
  have hsplit : spans text = (xs ++ ws) ++ x :: (zs ++ ys) := by simp [hspans]
  have hstatements : statements text = (xs ++ ws).map Span.statement ++
      x.statement :: (zs ++ ys).map Span.statement := by
    rw [statements_eq, ← map_statement_spans fun _ => placed_of_mem_parts, ← spans, hsplit,
      List.map_append, List.map_cons]
  obtain ⟨init, part, rest, hparts, hpart, hinit, hfirst, hlast⟩ :=
    exists_part_of_spans (fun _ => placed_of_mem_parts) hsplit
  have hplaced : Placed part := placed_of_parts_eq hparts
  have hat : PartAt text ((xs ++ ws).map Span.statement) (1 + breaks init.flatten) part rest :=
    ⟨init, hparts, hpart, hinit, rfl⟩
  refine ⟨1 + breaks init.flatten, part, rest, ?_, hat.statement_eq hstatements, fun k hk => ?_⟩
  · rwa [hbefore, ← List.map_append]
  · have hbounds := bounds_of_mem_significantLines hplaced hpart hk
    have hinked := (breaks_leading_le_inkedBreaks hplaced hpart).2
    have hspan : ∀ t ∈ ws ++ x :: zs, t.first ≤ t.last := by
      intro t ht
      have hmem : t ∈ spans text := by
        rw [hspans]
        exact List.mem_append_right _ (List.mem_append_left _ ht)
      exact (bounds_of_mem_spans hmem).2.1
    apply filter_covers_eq_singleton (by simp [h])
    apply StatementGroup.covers_ofSpans hrun hspan (s := x) (by simp)
    · omega
    · split at hlast <;> omega

/-- Groups end exactly where lines do: two statements that follow one another are in different
groups if a line breaks between the terminator of the first and the first significant character of
the second, where only gaps and stray terminators stand, and else in one group; and each statement
is in its group with all its lines, which are in no other group. -/
theorem divides_iff_break (text : String) :
    (∀ before s t behind, statements text = before ++ s :: t :: behind →
      ∃ pre between post, Between text (before ++ [s]) pre between post ∧
        ofText text.toList = pre ++ semicolon :: (between ++ post) ∧
        (∀ l ∈ between, l.isGap = true ∨ l = semicolon) ∧ (∃ l ∈ post.head?, l.isGap = false) ∧
        (Divides (groups text) (before ++ [s]) ↔ '\n' ∈ between.flatMap Lexeme.text) ∧
        (Joins (groups text) before s t ↔ '\n' ∉ between.flatMap Lexeme.text)) ∧
    ∀ gs g hs us s vs, groups text = gs ++ g :: hs → g.statements = us ++ s :: vs →
      ∃ line part behind,
        PartAt text (gs.flatMap StatementGroup.statements ++ us) line part behind ∧
        String.ofList (statement part) = s ∧
        ∀ k ∈ significantLines line part, (groups text).filter (·.covers k) = [g] := by
  refine ⟨fun before s t behind h => ?_, fun gs g hs us s vs => exists_part_of_groups⟩
  obtain ⟨pre, between, post, hbetween⟩ := exists_between h
  refine ⟨pre, between, post, hbetween, hbetween.ofText_eq, hbetween.isGap_of_mem,
    hbetween.isGap_head, ?_⟩
  obtain ⟨xs, x, y, ys, hspans, hbefore, hy⟩ := hbetween.exists_spans
  have hchain := isChain_spans text
  have hbreak : '\n' ∈ between.flatMap Lexeme.text ↔ 0 < breaks between := List.count_pos_iff.symm
  rw [groups_eq_gather, hbreak]
  have hstatements : (spans text).map Span.statement = before ++ s :: t :: behind := by
    rw [← h, statements_eq, spans, map_statement_spans fun _ => placed_of_mem_parts]
  rw [hspans] at hchain hstatements ⊢
  rw [List.map_append, List.map_singleton] at hbefore
  obtain ⟨rfl, hs⟩ := List.append_inj' hbefore rfl
  obtain rfl : x.statement = s := by simpa using hs
  obtain ⟨rfl, -⟩ : y.statement = t ∧ ys.map Span.statement = behind := by
    simpa using hstatements
  rw [StatementGroup.divides_iff hchain, joins_iff hchain, hy]
  simp

/-- The first of three statements spans two lines, and a comment with a line break and a stray
terminator stand between the last two. -/
def strayScript : String :=
  "SELECT\n1; SELECT 2; /* a\n */ ; SELECT 3"

theorem divides_strayScript :
    groups strayScript = [⟨1, 2, ["SELECT 1", "SELECT 2"]⟩, ⟨3, 3, ["SELECT 3"]⟩] ∧
      ∃ pre between post, Between strayScript ["SELECT 1", "SELECT 2"] pre between post ∧
        '\n' ∈ between.flatMap Lexeme.text := by
  have hgroups : groups strayScript
      = [⟨1, 2, ["SELECT 1", "SELECT 2"]⟩, ⟨3, 3, ["SELECT 3"]⟩] := by decide +kernel
  have hstatements : statements strayScript = ["SELECT 1"] ++ "SELECT 2" :: "SELECT 3" :: [] := by
    rw [statements, hgroups]
    rfl
  have hdivides : Divides (groups strayScript) (["SELECT 1"] ++ ["SELECT 2"]) := by
    rw [hgroups]
    exact ⟨[_], [_], rfl, rfl⟩
  obtain ⟨pre, between, post, hbetween, -, -, -, hiff, -⟩ :=
    (divides_iff_break strayScript).1 _ _ _ _ hstatements
  exact ⟨hgroups, pre, between, post, hbetween, hiff.mp hdivides⟩

end Script

end SqlWorkbench
