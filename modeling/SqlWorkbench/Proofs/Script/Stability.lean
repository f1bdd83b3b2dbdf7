import Mathlib.Tactic.Common
import SqlWorkbench.Proofs.Script.Comments
import SqlWorkbench.Proofs.Script.SingleStatement
import SqlWorkbench.Proofs.Session.Scripts

/-!
# Statements are stable

When a statement is scanned on its own, no word stands before it. So a `CASE` that followed an `END`
in the script opens a block now, and that block stays below all others; nothing else changes, and
what stood inside a block still does. Main statement: without comments, a statement of a script is a
script of one statement, itself.
-/

namespace SqlWorkbench

open Lexeme Text

variable {s s' : Scan} {tail tail' gap ls : List Lexeme} {l : Lexeme}

namespace Lexeme

/-! ### Gaps of a statement -/

lemma Fitting.ne_break {afterWord : Bool} {c : Char}
    (hfit : Fitting afterWord ls) (hc : blank c ∈ ls) : c ≠ '\n' := by
  obtain ⟨_, _, hfits⟩ := hfit.placed _ hc
  exact hfits.2

lemma break_not_mem_gapText (hbreak : ∀ c, blank c ∈ gap → c ≠ '\n') : '\n' ∉ gapText gap := by
  rw [gapText]
  split
  · decide
  · intro hmem
    obtain ⟨g, hg, hshown⟩ := List.mem_flatMap.mp hmem
    cases g with
    | blank c =>
      obtain rfl : '\n' = c := by simpa using hshown
      exact hbreak _ hg rfl
    | _ => simp [shown] at hshown

/-- The gaps of a statement are blanks. -/
lemma blankGaps_respaced (hbreak : ∀ c, blank c ∈ gap ++ ls → c ≠ '\n') :
    BlankGaps (respaced gap ls) := by
  induction ls generalizing gap with
  | nil => simp [BlankGaps]
  | cons l ls ih =>
    cases hl : l.isGap with
    | true =>
      rw [respaced_of_isGap hl]
      exact ih (by simpa using hbreak)
    | false =>
      rw [respaced_of_not_isGap hl]
      intro k hk hgap
      rcases List.mem_append.mp hk with hk | hk
      · obtain ⟨c, hc, rfl⟩ := List.mem_map.mp hk
        have hnot : '\n' ∉ gapText gap := break_not_mem_gapText fun c hc => hbreak c (by simp [hc])
        have hne : c ≠ '\n' := fun heq => hnot (heq ▸ hc)
        exact ⟨c, if_neg hne⟩
      rcases List.mem_cons.mp hk with rfl | hk
      · rw [isGap_trimmed, hl] at hgap
        exact absurd hgap (by simp)
      · exact ih (fun c hc => hbreak c (by simp at hc; simp [hc])) k hk hgap

/-- White space shows. -/
lemma eq_nil_iff_spaces (hgap : ∀ g ∈ gap, g.isSpace = true) :
    gap = [] ↔ spaces (gapText gap) = [] := by
  constructor
  · rintro rfl
    rfl
  · intro hnil
    rw [spaces, List.map_eq_nil_iff, gapText] at hnil
    split at hnil
    · simp at hnil
    · next hbreak =>
      rw [List.eq_nil_iff_forall_not_mem]
      intro g hg
      have hshown : g.shown = [] := List.flatMap_eq_nil_iff.mp hnil g hg
      have hspace := hgap g hg
      cases g with
      | lineBreak => exact hbreak (List.any_eq_true.mpr ⟨_, hg, rfl⟩)
      | blank c => simp at hshown
      | _ => simp [isSpace] at hspace

/-- A word sees the same behind blanks as behind the gap that they stand for. -/
lemma ofLexemes_respaced (hspace : ∀ l ∈ gap ++ ls, l.isGap = true → l.isSpace = true)
    (hgap : ∀ g ∈ gap, g.isGap = true) (hne : respaced gap ls ≠ []) :
    Upcoming.ofLexemes (respaced gap ls ++ tail') = Upcoming.ofLexemes (gap ++ ls ++ tail) := by
  induction ls generalizing gap with
  | nil => exact absurd rfl hne
  | cons l ls ih =>
    have hassoc : gap ++ l :: ls = gap ++ [l] ++ ls := by simp
    cases hl : l.isGap with
    | true =>
      rw [respaced_of_isGap hl] at hne ⊢
      rw [hassoc] at hspace ⊢
      apply ih hspace _ hne
      exact forall_isGap_concat hgap hl
    | false =>
      rw [respaced_of_not_isGap hl, List.append_assoc, List.append_assoc,
        Upcoming.ofLexemes_append_of_space fun _ => isSpace_of_mem_spaces,
        Upcoming.ofLexemes_append_of_space fun g hg => hspace g (by simp [hg]) (hgap g hg)]
      cases l with
      | quoted quote body closed | dollarQuoted tag body closed => cases closed <;> rfl
      | semicolon | word letters | symbol c => rfl
      | _ => simp [isGap] at hl

end Lexeme

/-! ### A block at the bottom -/

/-- A block `CASE` at the bottom stays there until it is closed. -/
lemma Block.step_append_case (word : String) (before : Option String) (after : Upcoming)
    (blocks : List Block) :
    step word before after (blocks ++ [case]) = step word before after blocks ∨
      step word before after (blocks ++ [case]) = step word before after blocks ++ [case] := by
  have htail : (blocks ++ [case]).tail = blocks.tail ∨
      (blocks ++ [case]).tail = blocks.tail ++ [case] := by
    cases blocks with
    | nil => exact Or.inl rfl
    | cons b blocks => exact Or.inr rfl
  have hhead : (blocks ++ [case]).head? = some transaction ↔ blocks.head? = some transaction := by
    cases blocks <;> simp
  unfold step
  simp only [hhead]
  split
  · exact Or.inr rfl
  split
  · split <;> exact Or.inr rfl
  split
  · split <;> exact Or.inr rfl
  split
  · split
    · split
      · exact Or.inr rfl
      · exact htail
    · exact htail
  split
  · split
    · exact Or.inr rfl
    split
    · exact htail
    · exact Or.inr rfl
  · exact Or.inr rfl

namespace Scan

/-- How a second scan stands to a first one: either no word has come yet, or at most a block `CASE`
lies below the blocks of the first. -/
def Shadows (s s' : Scan) : Prop :=
  s'.afterPoint = s.afterPoint ∧
    (s.blocks = [] ∧ s'.blocks = [] ∧ s'.lastWord = none ∨
      s'.lastWord = s.lastWord ∧ (s'.blocks = s.blocks ∨ s'.blocks = s.blocks ++ [.case]))

lemma Shadows.ne_nil (h : Shadows s s') (hs : s.blocks ≠ []) : s'.blocks ≠ [] := by
  rcases h.2 with ⟨hnil, -, -⟩ | ⟨-, hblocks | hblocks⟩
  · exact absurd hnil hs
  · rwa [hblocks]
  · simp [hblocks]

/-- What a word does to the blocks. -/
lemma Shadows.blocks_step (word : String) (after : Upcoming) (h : Shadows s s') :
    Block.step word s'.lastWord after s'.blocks = Block.step word s.lastWord after s.blocks ∨
      Block.step word s'.lastWord after s'.blocks
        = Block.step word s.lastWord after s.blocks ++ [.case] := by
  rcases h.2 with ⟨hnil, hnil', hnone⟩ | ⟨hword, hblocks | hblocks⟩
  · rw [hnil, hnil', hnone]
    by_cases hcase : word = "CASE" ∧ s.lastWord = some "END"
    · right
      rw [hcase.1, hcase.2]
      rfl
    · left
      apply step_before_congr
      simpa using hcase
  · rw [hword, hblocks]
    exact Or.inl rfl
  · rw [hword, hblocks]
    exact Block.step_append_case word s.lastWord after s.blocks

/-- Step lemma: a lexeme behind which both scans see the same. -/
lemma Shadows.step {rest rest' : List Lexeme} (h : Shadows s s')
    (hrest : Upcoming.ofLexemes rest' = Upcoming.ofLexemes rest) :
    Shadows (s.step l rest) (s'.step l.trimmed rest') := by
  cases l with
  | word letters =>
    refine ⟨rfl, Or.inr ⟨rfl, ?_⟩⟩
    have hblocks := h.blocks_step (capitals letters) (Upcoming.ofLexemes rest)
    simp only [Lexeme.trimmed, Scan.step, blocksAfter, h.1, hrest]
    split
    · rcases h.2 with ⟨hnil, hnil', -⟩ | ⟨-, hsame⟩
      · exact Or.inl (hnil'.trans hnil.symm)
      · exact hsame
    · exact hblocks
  | quoted quote body closed | dollarQuoted tag body closed =>
    cases closed <;> exact ⟨rfl, h.2⟩
  | symbol c => exact ⟨rfl, h.2⟩
  | _ => exact ⟨rfl, h.2⟩

/-- Blanks in place of a gap. -/
lemma Shadows.after_gap {gap' : List Lexeme} (h : Shadows s s') (hgap : gap.all isGap = true)
    (hgap' : gap'.all isGap = true) (hnil : gap = [] ↔ gap' = []) :
    Shadows (s.after tail gap) (s'.after tail' gap') := by
  obtain ⟨hblocks, hword, hpoint⟩ : (s.after tail gap).blocks = s.blocks ∧ _ ∧ _ :=
    Scan.after_gap hgap
  obtain ⟨hblocks', hword', hpoint'⟩ : (s'.after tail' gap').blocks = s'.blocks ∧ _ ∧ _ :=
    Scan.after_gap hgap'
  rw [Shadows, hblocks, hblocks', hword, hword']
  refine ⟨?_, h.2⟩
  rcases eq_or_ne gap [] with heq | hne
  · rw [heq, hnil.mp heq]
    exact h.1
  · rw [hpoint hne, hpoint' fun heq => hne (hnil.mpr heq)]

/-! ### The second scan -/

/-- Run lemma: no terminator of the first scan ends a statement, so none of the second does. -/
lemma Shadows.uncut (h : Shadows s s')
    (hspace : ∀ l ∈ gap ++ ls, l.isGap = true → l.isSpace = true)
    (hgap : ∀ g ∈ gap, g.isGap = true) (huncut : Uncut tail s (gap ++ ls)) :
    Uncut [] s' (respaced gap ls) := by
  induction ls generalizing gap s s' with
  | nil => trivial
  | cons l ls ih =>
    have hassoc : gap ++ l :: ls = gap ++ [l] ++ ls := by simp
    cases hl : l.isGap with
    | true =>
      rw [hassoc] at hspace huncut
      rw [respaced_of_isGap hl]
      apply ih h hspace _ huncut
      exact forall_isGap_concat hgap hl
    | false =>
      rw [respaced_of_not_isGap hl, uncut_append]
      rw [uncut_append] at huncut
      have hspaces : semicolon ∉ spaces (gapText gap) := fun hmem => by
        simpa [isSpace] using isSpace_of_mem_spaces hmem
      have hafter : Shadows (s.after (l :: ls ++ tail) gap)
          (s'.after (l.trimmed :: respaced [] ls ++ []) (spaces (gapText gap))) :=
        h.after_gap (List.all_eq_true.mpr hgap) (all_isGap_spaces _)
          (eq_nil_iff_spaces fun g hg => hspace g (by simp [hg]) (hgap g hg))
      obtain ⟨-, hcut, hrest⟩ := huncut
      refine ⟨uncut_of_not_mem hspaces, fun hsemi => hafter.ne_nil (hcut ?_), ?_⟩
      · cases l with
        | quoted quote body closed | dollarQuoted tag body closed =>
          cases closed <;> simp [trimmed] at hsemi
        | _ => exact hsemi
      · rcases eq_or_ne (respaced [] ls) [] with hnil | hne
        · rw [hnil]
          trivial
        · have htail : ∀ k ∈ [] ++ ls, k.isGap = true → k.isSpace = true := by
            intro k hk
            exact hspace k (by simp at hk; simp [hk])
          exact ih (hafter.step (ofLexemes_respaced htail (by simp) hne)) htail (by simp) hrest

/-- No terminator in a part ends a statement: a part begins where no block is open. -/
lemma exists_uncut_of_mem_parts (s₀ : Scan) (part : List Lexeme) {p : List Lexeme}
    (hs : s = s₀.after ls part) (hpart : Uncut ls s₀ part) (hblocks : s₀.blocks = [])
    (hpoint : s₀.afterPoint = false) (hp : p ∈ s.parts part ls) :
    ∃ s' tail, s'.blocks = [] ∧ s'.afterPoint = false ∧ Uncut tail s' p := by
  induction ls generalizing s₀ s part with
  | nil =>
    obtain rfl := List.mem_singleton.mp hp
    exact ⟨s₀, [], hblocks, hpoint, hpart⟩
  | cons l rest ih =>
    rw [parts] at hp
    by_cases hcut : l = semicolon ∧ s.blocks = []
    · rw [if_pos hcut] at hp
      obtain ⟨rfl, hnil⟩ := hcut
      rcases List.mem_cons.mp hp with rfl | hp
      · exact ⟨s₀, semicolon :: rest, hblocks, hpoint, hpart⟩
      · exact ih (s.step semicolon rest) [] rfl trivial hnil rfl hp
    · rw [if_neg hcut] at hp
      refine ih s₀ (part ++ [l]) ?_ ?_ hblocks hpoint hp
      · rw [after_append, hs]
        rfl
      · rw [uncut_append]
        refine ⟨hpart, fun hl hnil => hcut ⟨hl, ?_⟩, trivial⟩
        rw [hs]
        exact hnil

end Scan

namespace Script

/-- No comment stands outside regions: the gaps of the script are white space. -/
def IsUncommented (text : String) : Prop :=
  ∀ l ∈ ofText text.toList, l.isGap = true → l.isSpace = true

instance (text : String) : Decidable (IsUncommented text) :=
  inferInstanceAs (Decidable (∀ l ∈ ofText text.toList, _))

variable {text s : String}

/-- The lexemes of a statement, scanned on their own. -/
lemma uncut_statement {part : List Lexeme} (huncommented : IsUncommented text)
    (hp : part ∈ parts text) : Scan.Uncut [] {} (ofText (statement part)) := by
  obtain ⟨first, last, hsplit, -⟩ := Scan.exists_append_of_mem_parts hp
  have hmem : ∀ l ∈ part, l ∈ ofText text.toList := by
    intro l hl
    rw [List.nil_append] at hsplit
    rw [hsplit]
    simp [hl]
  have hspace : ∀ l ∈ part, l.isGap = true → l.isSpace = true := fun l hl =>
    huncommented l (hmem l hl)
  obtain ⟨s, tail, hblocks, hpoint, huncut⟩ :=
    Scan.exists_uncut_of_mem_parts {} [] rfl trivial rfl rfl hp
  rw [ofText_statement hp]
  rw [← part.takeWhile_append_dropWhile (p := isGap), Scan.uncut_append] at huncut
  have hleading : (part.takeWhile isGap).all isGap = true :=
    List.all_eq_true.mpr fun g hg => List.mem_takeWhile_imp hg
  obtain ⟨hblocks', -, hpoint'⟩ : (s.after (part.dropWhile isGap ++ tail) _).blocks = _ ∧ _ ∧ _ :=
    Scan.after_gap hleading
  have hshadows :
      Scan.Shadows (s.after (part.dropWhile isGap ++ tail) (part.takeWhile isGap)) {} := by
    refine ⟨?_, Or.inl ⟨hblocks'.trans hblocks, rfl, rfl⟩⟩
    rcases eq_or_ne (part.takeWhile isGap) [] with hnil | hne
    · rw [hnil]
      exact hpoint.symm
    · exact (hpoint' hne).symm
  refine hshadows.uncut (fun l hl => ?_) (by simp) huncut.2
  exact hspace l ((List.dropWhile_suffix isGap).subset hl)

/-- A statement of a script is the one statement of itself. -/
theorem statements_of_mem_statements (huncommented : IsUncommented text)
    (hs : s ∈ statements text) : statements s = [s] := by
  have hmem : s.toList ∈ (fullParts text).map statement := by
    rw [← toList_statements]
    exact List.mem_map_of_mem hs
  obtain ⟨part, hfull, hstatement⟩ := List.mem_map.mp hmem
  have hp : part ∈ parts text := (List.mem_filter.mp hfull).1
  have htrim := trim_statement (sound_of_mem_parts hp).1
  have hne := (renders_of_mem_fullParts hfull).2
  have hgaps : BlankGaps (ofText (statement part)) := by
    rw [ofText_statement hp]
    obtain ⟨post, hfit⟩ := fitting_of_mem_parts hp
    exact blankGaps_respaced fun c hc => hfit.ne_break (List.mem_append_left post hc)
  have hsingle : statements s = [String.ofList (trim s.toList)] := by
    apply statements_of_uncut
    · rwa [← hstatement]
    · rw [← hstatement]
      exact uncut_statement huncommented hp
    · rwa [← hstatement, htrim]
  rw [hsingle, ← hstatement, htrim, hstatement, String.ofList_toList]

/-- Without comments, a statement of a script is a script of one group with one statement, itself.
So a statement that a script sends to a server of PostgreSQL is not taken for several there. -/
theorem statements_stable (text : String) (huncommented : IsUncommented text) :
    (∀ g ∈ groups text, ∀ s ∈ g.statements, ∃ h, groups s = [h] ∧ h.statements = [s]) ∧
    ∀ (session : Session) (t : Transport) (c : Connection), c.dialect = .postgres →
      ∃ sent, (session.runScript t c text).1.calls = session.calls ++ sent ∧
        ∀ call ∈ sent, call.sql ∈ statements text ∧
          Postgres.Exchange.hasSeveralStatements call.sql = false := by
  have hstable (s : String) (hs : s ∈ statements text) :
      ∃ h, groups s = [h] ∧ h.statements = [s] :=
    exists_groups_eq (statements_of_mem_statements huncommented hs)
  refine ⟨fun g hg s hs => hstable s (List.mem_flatMap.mpr ⟨g, hg, hs⟩), ?_⟩
  intro session t c hdialect
  obtain ⟨sent, hprefix, hcalls⟩ := Session.calls_runScript (t := t) (c := c) session text
  refine ⟨_, hcalls, fun call hcall => ?_⟩
  obtain ⟨s, hs, rfl⟩ := List.mem_map.mp hcall
  have hsql : (Session.scriptCall c s).sql = s := by
    rw [Session.scriptCall, hdialect]
    rfl
  have hmem : s ∈ statements text := hprefix.subset hs
  obtain ⟨h, hgroups, hstatements⟩ := hstable s hmem
  rw [hsql]
  exact ⟨hmem, hasSeveralStatements_of_groups hgroups hstatements⟩

/-- Behind the last word of the first statement the `CASE` opens nothing; in its own statement it
does. -/
theorem statements_stable_caseBehindEnd :
    IsUncommented "SELECT 1 END; CASE BEGIN a;\n b; END; c" ∧
      ∃ h, groups "CASE BEGIN a; b; END" = [h] ∧ h.statements = ["CASE BEGIN a; b; END"] := by
  have huncommented : IsUncommented "SELECT 1 END; CASE BEGIN a;\n b; END; c" := by decide +kernel
  have hgroups : groups "SELECT 1 END; CASE BEGIN a;\n b; END; c"
      = [⟨1, 2, ["SELECT 1 END", "CASE BEGIN a; b; END", "c"]⟩] := by
    decide +kernel
  have hstable := (statements_stable _ huncommented).1
  rw [hgroups] at hstable
  exact ⟨huncommented, hstable _ List.mem_cons_self _ (by simp)⟩

/-- A comment hides from `BEGIN` that a transaction starts, and the statement is cut when it is
scanned on its own. -/
example : statements "BEGIN /* x */ ; COMMIT; SELECT 1; END"
      = ["BEGIN ; COMMIT; SELECT 1; END"] ∧
    statements "BEGIN ; COMMIT; SELECT 1; END" = ["BEGIN ; COMMIT", "SELECT 1", "END"] := by
  decide +kernel

end Script

end SqlWorkbench
