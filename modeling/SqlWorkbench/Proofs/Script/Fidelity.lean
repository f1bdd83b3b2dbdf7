import Mathlib.Data.List.Chain
import Mathlib.Data.List.Forall2
import Mathlib.Tactic.Common
import SqlWorkbench.Proofs.Script.Drafting

/-!
# Statements are faithful to their script

A statement spells the lexemes of a part of the script: each stands there as it is, and the gaps
between them are blanks. Main statement: the statements of a script, one after the other, lose only
comments, blanks and the terminators outside blocks, and every closed region stands whole in one of
them.
-/

namespace SqlWorkbench

open Text

namespace Lexeme

variable {l : Lexeme} {ls body gap part : List Lexeme} {s : List Char}

/-! ### Spelling -/

/-- A text spells lexemes, from the first that is no gap to the last: each stands there as it is, an
open region without the blanks at its end, and gaps between them are blanks. -/
inductive Spells : List Lexeme → List Char → Prop where
  | last {l : Lexeme} (hl : l.isGap = false) :
      Spells [l] (if l.isOpen then trimEnd l.text else l.text)
  | next {l : Lexeme} {ls : List Lexeme} {s : List Char} (hl : l.isGap = false)
      (h : Spells ls s) : Spells (l :: ls) (l.text ++ s)
  | apart {l : Lexeme} {gap ls : List Lexeme} {blanks s : List Char} (hl : l.isGap = false)
      (hgap : ∀ g ∈ gap, g.isGap = true) (hne : gap ≠ []) (hblanks : IsBlanks blanks)
      (hsome : blanks ≠ []) (h : Spells ls s) :
      Spells (l :: gap ++ ls) (l.text ++ blanks ++ s)

/-- A text renders a part of a script: it spells the part without the gaps at its ends. -/
def Renders (part : List Lexeme) (s : List Char) : Prop :=
  ∃ before body after, part = before ++ body ++ after ∧ (∀ g ∈ before, g.isGap = true) ∧
    (∀ g ∈ after, g.isGap = true) ∧ Spells body s

/-- A lexeme may stand right before another in a script. -/
def Precedes (l k : Lexeme) : Prop :=
  l.isOpen = false ∧ ∀ comment, l = lineComment comment → k = lineBreak

lemma Fits.eq_lineBreak {afterWord : Bool} {rest : List Char} (h : l.Fits afterWord rest)
    (hl : l.text.head? = some '\n') : l = lineBreak := by
  cases l with
  | lineBreak => rfl
  | blank c => exact absurd (by simpa [text] using hl) h.2
  | quoted quote body closed =>
    obtain rfl : quote = '\n' := by simpa [text] using hl
    exact absurd h.1 (by decide)
  | dollarQuoted tag body closed =>
    obtain ⟨name, rfl, -⟩ := h.2.1
    simp [text] at hl
  | word letters =>
    have hpart := h.2.1 '\n' (List.mem_of_mem_head? hl)
    exact absurd hpart (by decide)
  | symbol c => exact absurd (by simpa [text] using hl) h.1.1
  | _ => simp [text] at hl

lemma Fitting.isChain {afterWord : Bool} (h : Fitting afterWord ls) : ls.IsChain Precedes := by
  induction ls generalizing afterWord with
  | nil => exact .nil
  | cons l ls ih =>
    refine (ih h.2).cons fun k hk => ?_
    obtain ⟨ls, rfl⟩ : ∃ rest, ls = k :: rest := List.head?_eq_some_iff.mp hk
    obtain ⟨hl, hfit, -⟩ := h
    have htext : k.text ≠ [] := hfit.text_ne_nil
    refine ⟨hl.isOpen_eq_false (by simp [htext]), ?_⟩
    rintro comment rfl
    obtain ⟨c, letters, hc⟩ := List.exists_cons_of_ne_nil htext
    have hbreak : c = '\n' := hl.2 c (by simp [hc])
    exact hfit.eq_lineBreak (by simp [hc, hbreak])

lemma Fitting.sound {afterWord : Bool} (h : Fitting afterWord ls) : ∀ l ∈ ls, l.Sound := by
  intro l hl
  obtain ⟨_, _, hfits⟩ := h.placed l hl
  exact hfits.sound

/-- A gap between two lexemes holds a blank or a line break: behind a comment the line ends. -/
lemma gapText_ne_nil {k : Lexeme} (hgap : ∀ g ∈ gap, g.isGap = true) (hne : gap ≠ [])
    (hk : k.isGap = false) (hchain : (gap ++ [k]).IsChain Precedes) : gapText gap ≠ [] := by
  rw [gapText]
  split
  · simp
  · next hbreak =>
    obtain ⟨init, g, rfl⟩ := (List.eq_nil_or_concat gap).resolve_left hne
    have hg : g.isGap = true := hgap g (by simp)
    have hprecedes : Precedes g k := by
      simpa using hchain.rel_getLast_head_of_append (by simp) (by simp)
    cases g with
    | blank c => simp
    | lineComment comment =>
      rw [hprecedes.2 comment rfl] at hk
      exact absurd hk (by simp [isGap])
    | lineBreak => simp [isBreak] at hbreak
    | blockComment comment closed => simp [isBreak] at hbreak
    | _ => simp [isGap] at hg

/-- What follows a text and does not vanish keeps the text from being trimmed. -/
lemma trimEnd_append_of_head {t : List Char} (hne : t ≠ [])
    (ht : ∀ c ∈ t.head?, isBlank c = false) : trimEnd (s ++ t) = s ++ trimEnd t := by
  obtain ⟨c, t, rfl⟩ := List.exists_cons_of_ne_nil hne
  have hc : isBlank c = false := ht c (by simp)
  rw [trimEnd, trimEnd, List.reverse_append, List.dropWhile_append, if_neg, List.reverse_append,
    List.reverse_reverse]
  simp only [List.reverse_cons, List.isEmpty_iff, List.dropWhile_eq_nil_iff, not_forall]
  exact ⟨c, by simp, by simp [hc]⟩

/-- The layout of lexemes spells them. -/
lemma spells_layoutAfter (hhead : ∀ l ∈ body.head?, l.isGap = false)
    (hlast : ∀ l ∈ body.getLast?, l.isGap = false) (hne : body ≠ [])
    (hs : ∀ l ∈ body, l.Sound) (hchain : body.IsChain Precedes) :
    Spells body (trimEnd (layoutAfter [] body)) := by
  induction hlen : body.length using Nat.strong_induction_on generalizing body with
  | _ n ih =>
  obtain ⟨l, rest, rfl⟩ := List.exists_cons_of_ne_nil hne
  have hl : l.isGap = false := hhead l (by simp)
  -- The gap behind the first lexeme, and the lexeme after it, from which the layout goes on.
  obtain ⟨gap, ls, hrest, hgap, hls⟩ : ∃ gap ls, rest = gap ++ ls ∧
      (∀ g ∈ gap, g.isGap = true) ∧ ∀ k ∈ ls.head?, k.isGap = false :=
    ⟨rest.takeWhile isGap, rest.dropWhile isGap, List.takeWhile_append_dropWhile.symm,
      fun g hg => List.mem_takeWhile_imp hg, isGap_of_mem_head?_dropWhile _⟩
  subst hrest
  rcases eq_or_ne ls [] with rfl | hlsne
  · have hgapnil : gap = [] := by
      by_contra hgapne
      obtain ⟨init, g, rfl⟩ := (List.eq_nil_or_concat gap).resolve_left hgapne
      have hg := hgap g (by simp)
      rw [hlast g (by simp [List.getLast?_cons])] at hg
      exact absurd hg (by simp)
    subst hgapnil
    have hlayout : trimEnd (layoutAfter [] [l]) = if l.isOpen then trimEnd l.text else l.text := by
      rw [layoutAfter_of_not_isGap hl, gapText_nil, layoutAfter_nil, List.nil_append,
        List.append_nil]
      cases hopen : l.isOpen with
      | true => rfl
      | false => exact trimEnd_eq_self ((hs l (by simp)).ends hl hopen)
    rw [List.append_nil, hlayout]
    exact .last hl
  · have hsound : ∀ k ∈ ls, k.Sound := by
      intro k hk
      apply hs k
      simp [hk]
    have hgapsound : ∀ g ∈ gap, g.Sound := by
      intro g hg
      apply hs g
      simp [hg]
    have hlslast : ∀ k ∈ ls.getLast?, k.isGap = false := by
      intro k hk
      apply hlast k
      rw [← List.cons_append, List.getLast?_append_of_ne_nil _ hlsne]
      exact hk
    have hlschain : ls.IsChain Precedes :=
      hchain.suffix ((List.suffix_append gap ls).trans (List.suffix_cons l (gap ++ ls)))
    have hshorter : ls.length < n := by
      rw [← hlen, List.length_cons, List.length_append]
      omega
    have hspells := ih ls.length hshorter hls hlslast hlsne hsound hlschain rfl
    obtain ⟨k, ls', rfl⟩ := List.exists_cons_of_ne_nil hlsne
    have hk : k.isGap = false := hls k (by simp)
    have hlayout : layoutAfter [] (l :: (gap ++ k :: ls'))
        = l.text ++ gapText gap ++ layoutAfter [] (k :: ls') := by
      rw [layoutAfter_of_not_isGap hl, layoutAfter_gap_append hgap, layoutAfter_of_not_isGap hk,
        layoutAfter_of_not_isGap hk]
      simp
    have hlayoutne := layoutAfter_ne_nil [] hlsne hlslast hsound
    rw [hlayout, trimEnd_append_of_head hlayoutne (head?_layoutAfter hls hsound)]
    rcases eq_or_ne gap [] with rfl | hgapne
    · rw [gapText_nil, List.append_nil, List.nil_append]
      exact .next hl hspells
    · refine .apart hl hgap hgapne (isBlanks_gapText hgapsound) ?_ hspells
      have hgapchain : (gap ++ [k]).IsChain Precedes :=
        List.IsChain.infix hchain ⟨[l], ls', by simp⟩
      exact gapText_ne_nil hgap hgapne hk hgapchain

/-! ### What a spelling keeps -/

/-- A quoted or dollar-quoted region that is closed. -/
def isClosedRegion : Lexeme → Bool
  | quoted _ _ closed | dollarQuoted _ _ closed => closed
  | _ => false

/-- The characters of the lexemes that are no gaps, blanks aside. -/
def content (ls : List Lexeme) : List Char :=
  ((ls.filter (!·.isGap)).flatMap text).filter (!isBlank ·)

lemma content_append : content (ls ++ body) = content ls ++ content body := by
  simp [content]

lemma content_gap (hgap : ∀ g ∈ gap, g.isGap = true) : content gap = [] := by
  have hfilter : gap.filter (!·.isGap) = [] := by
    simpa using hgap
  rw [content, hfilter]
  rfl

lemma content_singleton (hl : l.isGap = false) : content [l] = l.text.filter (!isBlank ·) := by
  simp [content, hl]

lemma content_cons_ne_nil (hs : l.Sound) (hl : l.isGap = false) : content (l :: ls) ≠ [] := by
  obtain ⟨c, cs, htext⟩ := List.exists_cons_of_ne_nil hs.text_ne_nil
  have hc : isBlank c = false := hs.starts hl c (by simp [htext])
  rw [← List.singleton_append, content_append, content_singleton hl, htext]
  simp [hc]

lemma filter_of_isBlanks (hs : IsBlanks s) : s.filter (!isBlank ·) = [] := by
  simpa [IsBlanks] using hs

lemma filter_trimEnd (s : List Char) :
    (trimEnd s).filter (!isBlank ·) = s.filter (!isBlank ·) := by
  obtain ⟨blanks, hs, hblanks⟩ := exists_eq_trimEnd_append s
  conv_rhs => rw [hs, List.filter_append, filter_of_isBlanks hblanks, List.append_nil]

lemma Spells.filter_eq (h : Spells ls s) : s.filter (!isBlank ·) = content ls := by
  induction h with
  | @last l hl =>
    rw [content_singleton hl]
    split
    · exact filter_trimEnd l.text
    · rfl
  | @next l ls s hl _ ih =>
    rw [← List.singleton_append, content_append, content_singleton hl, List.filter_append, ih]
  | @apart l gap ls blanks s hl hgap _ hblanks _ _ ih =>
    rw [List.filter_append, List.filter_append, filter_of_isBlanks hblanks, List.append_nil, ih,
      ← List.singleton_append, content_append, content_append, content_singleton hl,
      content_gap hgap, List.append_nil]

lemma Renders.filter_eq (h : Renders part s) : s.filter (!isBlank ·) = content part := by
  obtain ⟨before, body, after, rfl, hbefore, hafter, hspells⟩ := h
  rw [hspells.filter_eq, content_append, content_append, content_gap hbefore,
    content_gap hafter, List.nil_append, List.append_nil]

lemma Spells.infix_of_mem (h : Spells ls s) (hl : l ∈ ls) (hgap : l.isGap = false)
    (hopen : l.isOpen = false) : l.text <:+: s := by
  induction h with
  | last =>
    obtain rfl := List.mem_singleton.mp hl
    simp [hopen]
  | @next k ls s _ _ ih =>
    rcases List.mem_cons.mp hl with rfl | hl
    · exact (List.prefix_append _ _).isInfix
    · exact (ih hl).trans (List.suffix_append _ _).isInfix
  | @apart k gap ls blanks s _ hgaps _ _ _ _ ih =>
    rcases List.mem_append.mp hl with hl | hl
    · rcases List.mem_cons.mp hl with rfl | hl
      · rw [List.append_assoc]
        exact (List.prefix_append _ _).isInfix
      · rw [hgaps l hl] at hgap
        exact absurd hgap (by simp)
    · exact (ih hl).trans (List.suffix_append _ _).isInfix

lemma Renders.infix_of_mem (h : Renders part s) (hl : l ∈ part) (hgap : l.isGap = false)
    (hopen : l.isOpen = false) : l.text <:+: s := by
  obtain ⟨before, body, after, rfl, hbefore, hafter, hspells⟩ := h
  refine hspells.infix_of_mem ?_ hgap hopen
  have hnot {gap : List Lexeme} (hgaps : ∀ g ∈ gap, g.isGap = true) : l ∉ gap := by
    intro hmem
    rw [hgaps l hmem] at hgap
    exact absurd hgap (by simp)
  simpa [hnot hbefore, hnot hafter] using hl

/-! ### The statement of a part -/

/-- The parts up to a place inside one of them, and those from there on. -/
lemma intercalate_append_cons (init rest : List (List Lexeme)) (ls ms : List Lexeme) :
    [semicolon].intercalate (init ++ (ls ++ ms) :: rest)
      = [semicolon].intercalate (init ++ [ls]) ++ [semicolon].intercalate (ms :: rest) := by
  induction init with
  | nil =>
    rcases eq_or_ne rest [] with rfl | hne
    · simp
    · simp [List.intercalate_cons_of_ne_nil hne]
  | cons first init ih =>
    have hne : init ++ (ls ++ ms) :: rest ≠ [] := by simp
    have hne' : init ++ [ls] ≠ [] := by simp
    rw [List.cons_append, List.cons_append, List.intercalate_cons_of_ne_nil hne,
      List.intercalate_cons_of_ne_nil hne', ih, List.append_assoc, List.append_assoc,
      List.append_assoc]

lemma statement_of_gap (hgap : ∀ g ∈ part, g.isGap = true) : statement part = [] := by
  rw [statement, layout, List.dropWhile_eq_nil_iff.mpr hgap]
  rfl

/-- The statement of a part that is not all gap renders the part. -/
lemma renders_statement (hs : ∀ l ∈ part, l.Sound) (hchain : part.IsChain Precedes)
    (hl : l ∈ part) (hgap : l.isGap = false) :
    Renders part (statement part) ∧ statement part ≠ [] := by
  obtain ⟨body, after, hpart, hafter, hhead, hlast, hnil⟩ := exists_eq_gap_append part
  have hwhole : part = part.takeWhile isGap ++ body ++ after := by
    rw [List.append_assoc, ← hpart, List.takeWhile_append_dropWhile]
  have hne : body ≠ [] := by
    rintro rfl
    rw [hnil rfl, List.append_nil, List.dropWhile_eq_nil_iff] at hpart
    rw [hpart l hl] at hgap
    exact absurd hgap (by simp)
  have hsound : ∀ k ∈ body, k.Sound := by
    intro k hk
    apply hs k
    rw [hwhole]
    simp [hk]
  have hlayout : statement part = trimEnd (layoutAfter [] body) := by
    rw [statement, layout_eq hpart hafter hlast]
  have hbodychain : body.IsChain Precedes :=
    List.IsChain.infix hchain ⟨part.takeWhile isGap, after, hwhole.symm⟩
  have hspells := spells_layoutAfter hhead hlast hne hsound hbodychain
  rw [hlayout]
  refine ⟨⟨_, body, after, hwhole, fun g hg => List.mem_takeWhile_imp hg, hafter, hspells⟩, ?_⟩
  intro htrim
  obtain ⟨k, body, rfl⟩ := List.exists_cons_of_ne_nil hne
  have hcontent := hspells.filter_eq
  rw [htrim, List.filter_nil] at hcontent
  exact content_cons_ne_nil (hsound k (by simp)) (hhead k (by simp)) hcontent.symm

end Lexeme

namespace Scan

/-- A part stands between terminators or ends of the script. -/
lemma exists_append_of_mem_parts {s : Scan} {part ls p : List Lexeme} (hp : p ∈ s.parts part ls) :
    ∃ before after, part ++ ls = before ++ p ++ after ∧
      (∀ l ∈ before.getLast?, l = .semicolon) ∧ ∀ l ∈ after.head?, l = .semicolon := by
  induction ls generalizing s part with
  | nil =>
    obtain rfl := List.mem_singleton.mp hp
    exact ⟨[], [], by simp, by simp, by simp⟩
  | cons l rest ih =>
    rw [parts] at hp
    split at hp
    · next hcut =>
      obtain ⟨rfl, -⟩ := hcut
      rcases List.mem_cons.mp hp with rfl | hp
      · exact ⟨[], .semicolon :: rest, by simp, by simp, by simp⟩
      · obtain ⟨before, after, hrest, hbefore, hafter⟩ := ih hp
        rw [List.nil_append] at hrest
        refine ⟨part ++ .semicolon :: before, after, by simp [hrest], fun l hl => ?_, hafter⟩
        rw [List.getLast?_append_of_ne_nil _ (by simp), List.getLast?_cons] at hl
        cases hlast : before.getLast? with
        | none => simpa [hlast, eq_comm] using hl
        | some k =>
          rw [hlast] at hl
          exact hbefore l (hlast ▸ hl)
    · obtain ⟨before, after, hrest, hends⟩ := ih hp
      exact ⟨before, after, by simpa using hrest, hends⟩

lemma exists_mem_parts {s : Scan} {ls : List Lexeme} (part : List Lexeme) {l : Lexeme}
    (hl : l ∈ part ++ ls) (hsemi : l ≠ .semicolon) : ∃ p ∈ s.parts part ls, l ∈ p := by
  induction ls generalizing s part with
  | nil => exact ⟨part, by simp, by simpa using hl⟩
  | cons k rest ih =>
    rw [parts]
    split
    · next h =>
      rcases List.mem_append.mp hl with hl | hl
      · exact ⟨part, by simp, hl⟩
      · have hrest : l ∈ rest := by simpa [h.1, hsemi] using hl
        obtain ⟨p, hp, hmem⟩ := ih (s := s.step k rest) [] hrest
        exact ⟨p, by simp [hp], hmem⟩
    · exact ih (part ++ [k]) (by simpa using hl)

end Scan

namespace Script

/-- The parts of a script that are not all gap. -/
def fullParts (text : String) : List (List Lexeme) :=
  (parts text).filter (·.any (!·.isGap))

lemma intercalate_parts (text : String) :
    [Lexeme.semicolon].intercalate (parts text) = Lexeme.ofText text.toList :=
  Scan.intercalate_parts {} [] _

lemma sound_of_mem_parts {text : String} {part : List Lexeme} (hp : part ∈ parts text) :
    (∀ l ∈ part, l.Sound) ∧ part.IsChain Lexeme.Precedes := by
  have hfit := Lexeme.fitting_ofText text.toList
  obtain ⟨before, after, hsplit, -⟩ := Scan.exists_append_of_mem_parts hp
  have hsub : part <:+: Lexeme.ofText text.toList := ⟨before, after, hsplit.symm⟩
  exact ⟨fun l hl => hfit.sound l (hsub.subset hl), List.IsChain.infix hfit.isChain hsub⟩

lemma renders_of_mem_fullParts {text : String} {part : List Lexeme} (hp : part ∈ fullParts text) :
    Lexeme.Renders part (Lexeme.statement part) ∧ Lexeme.statement part ≠ [] := by
  obtain ⟨hp, hany⟩ := List.mem_filter.mp hp
  obtain ⟨l, hl, hgap⟩ := List.any_eq_true.mp hany
  obtain ⟨hs, hchain⟩ := sound_of_mem_parts hp
  exact Lexeme.renders_statement hs hchain hl (by simpa using hgap)

lemma toList_statements (text : String) :
    (statements text).map String.toList = (fullParts text).map Lexeme.statement := by
  have hfilter : (parts text).filter (fun p => !(Lexeme.statement p).isEmpty) = fullParts text := by
    refine List.filter_congr fun p hp => ?_
    cases hany : p.any (!·.isGap) with
    | true =>
      have hne := (renders_of_mem_fullParts (List.mem_filter.mpr ⟨hp, hany⟩)).2
      simpa using hne
    | false =>
      have hgap : ∀ g ∈ p, g.isGap = true := by simpa using hany
      simp [Lexeme.statement_of_gap hgap]
  rw [statements_eq, Scan.statementsOf, List.map_map, List.filter_map, ← hfilter]
  simp [Function.comp_def]

lemma flatMap_content_fullParts (text : String) :
    (fullParts text).flatMap Lexeme.content = (parts text).flatMap Lexeme.content := by
  rw [fullParts]
  induction parts text with
  | nil => rfl
  | cons p ps ih =>
    rw [List.filter_cons]
    split
    · rw [List.flatMap_cons, List.flatMap_cons, ih]
    · next hany =>
      have hgap : ∀ g ∈ p, g.isGap = true := by simpa using hany
      rw [List.flatMap_cons, Lexeme.content_gap hgap, List.nil_append, ih]

lemma filter_statements (text : String) : ((statements text).flatMap String.toList).filter
    (!isBlank ·) = (parts text).flatMap Lexeme.content := by
  rw [List.flatMap_def, toList_statements, ← List.flatMap_def, List.filter_flatMap,
    ← flatMap_content_fullParts]
  exact List.flatMap_congr fun part hp => (renders_of_mem_fullParts hp).1.filter_eq

/-- The statements of a script lose only comments, blanks and the terminators outside blocks: the
lexemes of the script are its parts with terminators between them; each part that is not all gap is
rendered by one statement, in order; and a closed region stands whole in a statement. -/
theorem statements_faithful (text : String) :
    ∃ lexemes, [Lexeme.semicolon].intercalate (parts text) = lexemes ∧
      lexemes.flatMap Lexeme.text = text.toList ∧ Lexeme.Fitting false lexemes ∧
      List.Forall₂ Lexeme.Renders (fullParts text) ((statements text).map String.toList) ∧
      ((statements text).flatMap String.toList).filter (!isBlank ·)
        = (parts text).flatMap Lexeme.content ∧
      ∀ l ∈ lexemes, l.isClosedRegion = true → ∃ s ∈ statements text, l.text <:+: s.toList := by
  refine ⟨Lexeme.ofText text.toList, intercalate_parts text, Lexeme.flatMap_text_ofText _,
    Lexeme.fitting_ofText _, ?_, filter_statements text, ?_⟩
  · rw [toList_statements, List.forall₂_map_right_iff, List.forall₂_same]
    exact fun part hp => (renders_of_mem_fullParts hp).1
  · intro l hl hregion
    have hkind : l.isGap = false ∧ l.isOpen = false ∧ l ≠ .semicolon := by
      cases l <;> simp_all [Lexeme.isClosedRegion, Lexeme.isGap, Lexeme.isOpen]
    obtain ⟨part, hpart, hmem⟩ := Scan.exists_mem_parts (s := {}) [] hl hkind.2.2
    have hfull : part ∈ fullParts text :=
      List.mem_filter.mpr ⟨hpart, List.any_eq_true.mpr ⟨l, hmem, by simp [hkind.1]⟩⟩
    have hinside := (renders_of_mem_fullParts hfull).1.infix_of_mem hmem hkind.1 hkind.2.1
    have hstatement : Lexeme.statement part ∈ (statements text).map String.toList := by
      rw [toList_statements]
      exact List.mem_map_of_mem hfull
    obtain ⟨s, hs, htext⟩ := List.mem_map.mp hstatement
    exact ⟨s, hs, htext ▸ hinside⟩

end Script

end SqlWorkbench
