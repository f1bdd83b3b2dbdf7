import Mathlib.Data.List.Flatten
import Mathlib.Tactic.Common
import SqlWorkbench.Proofs.Script.Inert
import SqlWorkbench.Proofs.Script.Stability

/-!
# Terminated texts

A text with a terminator behind it is its own statement if it has no comments and no line breaks
between its lexemes, no terminator in it ends a statement, and the one behind it does. Nothing else
will do: the characters that are no blanks are all in the statement, so that none is left for a
comment, and one is left for the terminator. Main statement: this tells exactly when a text with a
terminator behind it is a script of one group with one statement, the text itself.
-/

namespace SqlWorkbench

open Lexeme Text

namespace Lexeme

variable {l : Lexeme} {ls ms gap : List Lexeme} {c : Char}

/-! ### Characters that are no blanks -/

/-- A comment, also one that is never closed. -/
def isRemark : Lexeme → Bool
  | lineComment _ | blockComment _ _ => true
  | _ => false

/-- The number of characters of the lexemes that are no blanks. -/
def visible (ls : List Lexeme) : Nat :=
  (ls.flatMap text).countP (!isBlank ·)

@[simp] lemma visible_nil : visible [] = 0 := rfl

@[simp] lemma visible_append (ls ms : List Lexeme) :
    visible (ls ++ ms) = visible ls + visible ms := by
  simp [visible]

lemma visible_cons (l : Lexeme) (ls : List Lexeme) : visible (l :: ls) = visible [l] + visible ls :=
  visible_append [l] ls

/-- The two marks of a comment are no blanks. -/
lemma two_le_visible (hl : l.isRemark = true) : 2 ≤ visible [l] := by
  have hmarks : isBlank '-' = false ∧ isBlank '/' = false ∧ isBlank '*' = false := by decide
  cases l with
  | lineComment body | blockComment body closed => simp [visible, text, hmarks]
  | _ => simp [isRemark] at hl

lemma isRemark_of_isGap_eq_false (hgap : l.isGap = false) : l.isRemark = false := by
  cases l with
  | lineComment body | blockComment body closed => simp [isGap] at hgap
  | _ => rfl

lemma Sound.isBlank_of_mem (hs : l.Sound) (hgap : l.isGap = true) (hl : l.isRemark = false)
    (hc : c ∈ l.text) : isBlank c = true := by
  cases l with
  | blank b =>
    obtain rfl := List.mem_singleton.mp hc
    exact hs.isBlank_of_blank c rfl
  | lineBreak =>
    obtain rfl := List.mem_singleton.mp hc
    decide
  | lineComment body => simp [isRemark] at hl
  | blockComment body closed => simp [isRemark] at hl
  | _ => simp [isGap] at hgap

lemma visible_singleton (hl : l.Sound) :
    visible [l] = (content [l]).length + visible ([l].filter isRemark) := by
  cases hgap : l.isGap with
  | false =>
    rw [content_singleton hgap, visible, List.countP_eq_length_filter]
    simp [isRemark_of_isGap_eq_false hgap]
  | true =>
    rw [content_gap (by simpa using hgap)]
    cases hremark : l.isRemark with
    | true => simp [hremark]
    | false =>
      have hzero : visible [l] = 0 := by
        simpa [visible] using fun c hc => hl.isBlank_of_mem hgap hremark hc
      simp [hremark, hzero]

/-- Besides comments, the statements have all characters that are no blanks. -/
lemma visible_eq (hs : ∀ l ∈ ls, l.Sound) :
    visible ls = (content ls).length + visible (ls.filter isRemark) := by
  induction ls with
  | nil => rfl
  | cons l ls ih =>
    rw [List.forall_mem_cons] at hs
    have hcontent : content (l :: ls) = content [l] ++ content ls := by
      rw [← content_append, List.singleton_append]
    have hremarks : (l :: ls).filter isRemark = [l].filter isRemark ++ ls.filter isRemark :=
      List.filter_append [l] ls
    rw [visible_cons, visible_singleton hs.1, ih hs.2, hcontent, hremarks, List.length_append,
      visible_append]
    omega

/-- Lexemes with a character that is no blank, and without comments, are not all gap. -/
lemma any_of_mem (hs : ∀ l ∈ ls, l.Sound) (hremarks : ∀ l ∈ ls, l.isRemark = false)
    (hc : c ∈ ls.flatMap text) (hblank : isBlank c = false) : ls.any (!·.isGap) = true := by
  obtain ⟨l, hl, hmem⟩ := List.mem_flatMap.mp hc
  refine List.any_eq_true.mpr ⟨l, hl, ?_⟩
  by_contra hgap
  rw [(hs l hl).isBlank_of_mem (by simpa using hgap) (hremarks l hl) hmem] at hblank
  exact absurd hblank (by simp)

/-! ### Line breaks -/

lemma breaks_filter_le (ls : List Lexeme) : breaks (ls.filter (!·.isGap)) ≤ breaks ls :=
  List.Sublist.count_le '\n' (List.filter_sublist.flatMap text)

/-- A line break between lexemes is in no statement. -/
lemma breaks_filter_lt (h : lineBreak ∈ ls) : breaks (ls.filter (!·.isGap)) < breaks ls := by
  obtain ⟨before, behind, rfl⟩ := List.append_of_mem h
  have hbefore := breaks_filter_le before
  have hbehind := breaks_filter_le behind
  rw [List.filter_append, List.filter_cons_of_neg (by simp [isGap]), breaks_append, breaks_append,
    breaks_cons, text, List.count_singleton_self]
  omega

lemma count_layoutAfter (hgap : ∀ c, blank c ∈ gap ++ ls → c ≠ '\n') :
    (layoutAfter gap ls).count '\n' = breaks (ls.filter (!·.isGap)) := by
  induction ls generalizing gap with
  | nil => rfl
  | cons l ls ih =>
    cases hl : l.isGap with
    | true =>
      rw [layoutAfter_of_isGap hl, ih (by simpa using hgap), List.filter_cons_of_neg (by simp [hl])]
    | false =>
      have hnone : (gapText gap).count '\n' = 0 :=
        List.count_eq_zero.mpr (break_not_mem_gapText fun c hc => hgap c (by simp [hc]))
      rw [layoutAfter_of_not_isGap hl, List.count_append, List.count_append, hnone,
        ih fun c hc => hgap c (by simp at hc; simp [hc]), List.filter_cons_of_pos (by simp [hl]),
        breaks_cons, Nat.zero_add]

lemma count_statement_le (hls : ∀ c, blank c ∈ ls → c ≠ '\n') :
    (statement ls).count '\n' ≤ breaks (ls.filter (!·.isGap)) := by
  have hsub : ls.dropWhile isGap <:+ ls := List.dropWhile_suffix isGap
  have hlayout : (layoutAfter [] (ls.dropWhile isGap)).count '\n' = _ :=
    count_layoutAfter fun c hc => hls c (hsub.subset hc)
  obtain ⟨blanks, htext, -⟩ := exists_eq_trimEnd_append (layout ls)
  calc (statement ls).count '\n' ≤ (layout ls).count '\n' := by
        rw [statement]
        conv_rhs => rw [htext, List.count_append]
        omega
    _ = breaks ((ls.dropWhile isGap).filter (!·.isGap)) := hlayout
    _ ≤ breaks (ls.filter (!·.isGap)) :=
        List.Sublist.count_le '\n' ((hsub.sublist.filter _).flatMap text)

end Lexeme

namespace Scan

variable {s : Scan} {ls tail : List Lexeme}

/-- One terminator ends a statement, and nothing is behind it. -/
lemma parts_concat_eq_iff (part : List Lexeme) :
    s.parts part (ls ++ [.semicolon]) = [part ++ ls, []] ↔
      Uncut [.semicolon] s ls ∧ (s.after [.semicolon] ls).blocks = [] := by
  constructor
  · intro hparts
    have huncut : Uncut [.semicolon] s ls := by
      by_contra hcut
      obtain ⟨pre, post, s', rfl, hs'⟩ := parts_of_not_uncut part hcut
      rw [hs'] at hparts
      have hlength := congrArg List.length (List.cons_eq_cons.mp hparts).1
      simp at hlength
    rw [parts_append_of_uncut part huncut, parts] at hparts
    refine ⟨huncut, ?_⟩
    split at hparts
    · next hcut => exact hcut.2
    · simp at hparts
  · rintro ⟨huncut, hblocks⟩
    rw [parts_append_of_uncut part huncut, parts, if_pos ⟨rfl, hblocks⟩, parts_nil]

end Scan

namespace Script

variable {sql : String} {ls p q : List Lexeme}

/-! ### Terminated texts -/

/-- Blanks alone stand between the lexemes of the text, no terminator in it ends a statement, and
one that is put behind it does. -/
def IsTerminated (sql : String) : Prop :=
  ∃ ls, ofText (sql ++ ";").toList = ls ++ [semicolon] ∧ BlankGaps ls ∧
    Scan.Uncut [semicolon] {} ls ∧ EndsStatement ls []

/-- The text with a terminator behind it is a script of one group with one statement, itself without
the blanks around it. -/
def IsOwnStatement (sql : String) : Prop :=
  ∃ g, groups (sql ++ ";") = [g] ∧ g.statements = [String.ofList (trim sql.toList)]

lemma flatMap_text_of_ofText (h : ofText (sql ++ ";").toList = ls ++ [semicolon]) :
    ls.flatMap text = sql.toList := by
  have htext := flatMap_text_ofText (sql ++ ";").toList
  rw [h, List.flatMap_append, String.toList_append] at htext
  exact List.append_cancel_right htext

lemma IsTerminated.isOwnStatement (h : IsTerminated sql) (hne : trim sql.toList ≠ []) :
    IsOwnStatement sql := by
  obtain ⟨ls, hls, hgaps, huncut, hends⟩ := h
  have hsound : ∀ l ∈ ls, l.Sound := by
    intro l hl
    exact (fitting_ofText (sql ++ ";").toList).sound l (hls ▸ List.mem_append_left _ hl)
  have hparts : parts (sql ++ ";") = [ls, []] := by
    rw [parts, hls]
    exact (Scan.parts_concat_eq_iff []).mpr ⟨huncut, hends⟩
  have hstatement := statement_eq_trim hsound hgaps
  rw [flatMap_text_of_ofText hls] at hstatement
  have hnil : statement [] = [] := rfl
  apply exists_groups_eq
  rw [statements_eq, hparts, Scan.statementsOf]
  simp [hstatement, hne, hnil]

/-- The terminators that end statements are no parts of them. -/
lemma visible_ofText (text : String) :
    visible (ofText text.toList) + 1 = visible (parts text).flatten + (parts text).length := by
  have hintercalate (ps : List (List Lexeme)) (hne : ps ≠ []) :
      visible ([semicolon].intercalate ps) + 1 = visible ps.flatten + ps.length := by
    induction ps with
    | nil => exact absurd rfl hne
    | cons p ps ih =>
      rcases eq_or_ne ps [] with rfl | hps
      · simp
      · have hsemi : visible [semicolon] = 1 := by decide
        have := ih hps
        rw [List.intercalate_cons_of_ne_nil hps, visible_append, visible_append, hsemi,
          List.flatten_cons, visible_append, List.length_cons]
        omega
  rw [← intercalate_parts]
  exact hintercalate _ (Scan.parts_ne_nil _ _ _)

lemma content_flatten (ps : List (List Lexeme)) : content ps.flatten = ps.flatMap content := by
  induction ps with
  | nil => rfl
  | cons p ps ih => rw [List.flatten_cons, content_append, ih, List.flatMap_cons]

lemma countP_trim (s : List Char) : (trim s).countP (!isBlank ·) = s.countP (!isBlank ·) := by
  have hstart : (trimStart s).filter (!isBlank ·) = s.filter (!isBlank ·) := by
    conv_rhs => rw [← List.takeWhile_append_dropWhile (p := isBlank) (l := s), List.filter_append,
      filter_of_isBlanks fun c hc => List.mem_takeWhile_imp hc, List.nil_append]
    rfl
  rw [List.countP_eq_length_filter, List.countP_eq_length_filter, trim, filter_trimEnd, hstart]

/-- If the text is its own statement, the script has no comments, and one of its terminators ends a
statement. -/
lemma exists_parts_of_statements
    (h : statements (sql ++ ";") = [String.ofList (trim sql.toList)]) :
    ∃ p q, parts (sql ++ ";") = [p, q] ∧ ∀ l ∈ p ++ q, l.isRemark = false := by
  have hsound : ∀ l ∈ (parts (sql ++ ";")).flatten, l.Sound := by
    intro l hl
    obtain ⟨part, hpart, hmem⟩ := List.mem_flatten.mp hl
    exact (sound_of_mem_parts hpart).1 l hmem
  have hcontent : (content (parts (sql ++ ";")).flatten).length
      = sql.toList.countP (!isBlank ·) := by
    have hfilter := filter_statements (sql ++ ";")
    rw [h, List.flatMap_singleton, String.toList_ofList, ← content_flatten] at hfilter
    rw [← hfilter, ← List.countP_eq_length_filter, countP_trim]
  have hall : visible (ofText (sql ++ ";").toList) = sql.toList.countP (!isBlank ·) + 1 := by
    rw [visible, flatMap_text_ofText, String.toList_append, List.countP_append]
    rfl
  have hlength := visible_ofText (sql ++ ";")
  rw [hall, visible_eq hsound, hcontent] at hlength
  -- One character is left, which is too few for a comment and so is a terminator.
  have hremarks : (parts (sql ++ ";")).flatten.filter isRemark = [] := by
    by_contra hne
    obtain ⟨l, ls, hls⟩ := List.exists_cons_of_ne_nil hne
    have hl : l.isRemark = true := (List.mem_filter.mp (hls ▸ List.mem_cons_self)).2
    have htwo := two_le_visible hl
    have hone := List.length_pos_iff.mpr (Scan.parts_ne_nil {} [] (ofText (sql ++ ";").toList))
    rw [hls, visible_cons] at hlength
    rw [parts] at hlength
    omega
  rw [hremarks] at hlength
  obtain ⟨p, q, hparts⟩ : ∃ p q, parts (sql ++ ";") = [p, q] :=
    List.length_eq_two.mp (by simp at hlength; omega)
  refine ⟨p, q, hparts, ?_⟩
  rw [hparts, List.filter_eq_nil_iff] at hremarks
  intro l hl
  simpa using hremarks l (by simpa using hl)

/-- If the text is its own statement, its lexemes are followed by the terminator alone. -/
lemma exists_parts_eq (hhead : ∃ c ∈ sql.toList.head?, isBlank c = false ∧ c ≠ ';')
    (h : statements (sql ++ ";") = [String.ofList (trim sql.toList)]) :
    ∃ ls, parts (sql ++ ";") = [ls, []] ∧ ofText (sql ++ ";").toList = ls ++ [semicolon] ∧
      ∀ l ∈ ls, l.isRemark = false := by
  obtain ⟨p, q, hparts, hremarks⟩ := exists_parts_of_statements h
  have hlexemes : ofText (sql ++ ";").toList = p ++ semicolon :: q := by
    rw [← intercalate_parts, hparts]
    simp [List.intercalate]
  have htext : p.flatMap text ++ ';' :: q.flatMap text = sql.toList ++ [';'] := by
    have hall := flatMap_text_ofText (sql ++ ";").toList
    rw [hlexemes, String.toList_append] at hall
    rw [← List.singleton_append, ← List.append_assoc] at hall ⊢
    simpa [text] using hall
  have hfull (part : List Lexeme) (hpart : part ∈ parts (sql ++ ";")) {c : Char}
      (hc : c ∈ part.flatMap text) (hblank : isBlank c = false) : part.any (!·.isGap) = true := by
    refine any_of_mem (sound_of_mem_parts hpart).1 (fun l hl => hremarks l ?_) hc hblank
    rw [hparts] at hpart
    rcases List.mem_pair.mp hpart with rfl | rfl <;> simp [hl]
  have hp : p.any (!·.isGap) = true := by
    obtain ⟨c, hc, hblank, hsemi⟩ := hhead
    refine hfull p (by simp [hparts]) (c := c) ?_ hblank
    obtain ⟨s, hs⟩ := List.head?_eq_some_iff.mp hc
    cases hp : p.flatMap text with
    | nil =>
      rw [hp, hs, List.nil_append, List.cons_append, List.cons_eq_cons] at htext
      exact absurd htext.1.symm hsemi
    | cons d t =>
      rw [hp, hs, List.cons_append, List.cons_append, List.cons_eq_cons] at htext
      simp [htext.1]
  have hq : q = [] := by
    have hone := congrArg List.length (toList_statements (sql ++ ";"))
    rw [h, fullParts, hparts] at hone
    cases hq : q with
    | nil => rfl
    | cons l ls =>
      have hmem : q ∈ parts (sql ++ ";") := by simp [hparts]
      have hl : l.Sound := (sound_of_mem_parts hmem).1 l (by simp [hq])
      have hne : q.flatMap text ≠ [] := by simp [hq, hl.text_ne_nil]
      have hlast : ';' ∈ q.flatMap text := by
        have hgetLast := congrArg List.getLast? htext
        rw [List.getLast?_append_cons, List.getLast?_cons_of_ne_nil hne,
          List.getLast?_concat] at hgetLast
        exact List.mem_of_getLast? hgetLast
      have hany := hfull q hmem hlast (by decide)
      simp [hp, hany] at hone
  subst hq
  refine ⟨p, hparts, hlexemes, fun l hl => hremarks l (by simp [hl])⟩

/-- The line breaks of a text that is its own statement are all in regions. -/
lemma lineBreak_not_mem (hbreaks : (trim sql.toList).count '\n' = sql.toList.count '\n')
    (hls : ofText (sql ++ ";").toList = ls ++ [semicolon])
    (hstatement : statement ls = trim sql.toList) : lineBreak ∉ ls := by
  intro hmem
  have hfit := fitting_ofText (sql ++ ";").toList
  rw [hls] at hfit
  have hblank : ∀ c, blank c ∈ ls → c ≠ '\n' := fun c hc =>
    hfit.ne_break (List.mem_append_left _ hc)
  have hle := count_statement_le hblank
  have hlt := breaks_filter_lt hmem
  rw [hstatement, hbreaks] at hle
  rw [breaks, breaks, flatMap_text_of_ofText hls] at hlt
  rw [breaks] at hle
  omega

lemma isTerminated_of_statements (hhead : ∃ c ∈ sql.toList.head?, isBlank c = false ∧ c ≠ ';')
    (hbreaks : (trim sql.toList).count '\n' = sql.toList.count '\n')
    (h : statements (sql ++ ";") = [String.ofList (trim sql.toList)]) : IsTerminated sql := by
  obtain ⟨ls, hparts, hls, hremarks⟩ := exists_parts_eq hhead h
  have hstatement : statement ls = trim sql.toList := by
    have hmap := toList_statements (sql ++ ";")
    rw [h, fullParts, hparts] at hmap
    cases hany : ls.any (!·.isGap) with
    | false => simp [hany] at hmap
    | true => simpa [hany, eq_comm] using hmap
  have hbreak := lineBreak_not_mem hbreaks hls hstatement
  have hcut : Scan.parts {} [] (ls ++ [semicolon]) = [[] ++ ls, []] := by
    rw [← hls]
    exact hparts
  obtain ⟨huncut, hends⟩ := (Scan.parts_concat_eq_iff []).mp hcut
  refine ⟨ls, hls, fun l hl hgap => ?_, huncut, hends⟩
  cases l with
  | blank c => exact ⟨c, rfl⟩
  | lineBreak => exact absurd hl hbreak
  | lineComment body | blockComment body closed => exact absurd (hremarks _ hl) (by simp [isRemark])
  | _ => simp [isGap] at hgap

/-- A text that begins with no blank and no terminator, and has no line break at its ends, is its
own statement with a terminator behind it exactly if it is terminated. -/
theorem isOwnStatement_iff (hhead : ∃ c ∈ sql.toList.head?, isBlank c = false ∧ c ≠ ';')
    (hbreaks : (trim sql.toList).count '\n' = sql.toList.count '\n') :
    IsOwnStatement sql ↔ IsTerminated sql := by
  constructor
  · rintro ⟨g, hgroups, hg⟩
    apply isTerminated_of_statements hhead hbreaks
    simp [statements, hgroups, hg]
  · intro h
    obtain ⟨c, hc, hblank, -⟩ := hhead
    exact h.isOwnStatement (trim_ne_nil (List.mem_of_mem_head? hc) hblank)

end Script

end SqlWorkbench
