import Mathlib.Tactic.Common
import SqlWorkbench.Proofs.Script.Nesting

/-!
# The lexemes of a statement

A statement brings lexemes closer together, but a blank stays wherever a gap stood, and so it is
read back as the lexemes of its part. An open region, which ends with the script, loses the blanks
at its end. Main statement: white space aside, the lexemes of a statement are those of its part
without the gaps.
-/

namespace SqlWorkbench

open Text

namespace Lexeme

variable {afterWord : Bool} {l : Lexeme} {gap ls post : List Lexeme} {s t rest : List Char}

/-! ### The end of an open region -/

/-- The lexeme as it stands at the end of a statement. -/
def trimmed : Lexeme → Lexeme
  | quoted quote body false => quoted quote (trimEnd body) false
  | dollarQuoted tag body false => dollarQuoted tag (trimEnd body) false
  | l => l

@[simp] lemma trimmed_of_closed (h : l.isOpen = false) : l.trimmed = l := by
  cases l with
  | quoted quote body closed | dollarQuoted tag body closed =>
    obtain rfl : closed = true := by simpa [isOpen] using h
    rfl
  | _ => rfl

lemma isGap_trimmed (l : Lexeme) : l.trimmed.isGap = l.isGap := by
  cases l with
  | quoted quote body closed | dollarQuoted tag body closed => cases closed <;> rfl
  | _ => rfl

lemma isBlank_getLast_trimEnd (s : List Char) : ∀ c ∈ (trimEnd s).getLast?, isBlank c = false := by
  intro c hc
  rw [trimEnd, List.getLast?_reverse] at hc
  exact eq_false_of_mem_head?_dropWhile hc

/-- No blank stands at either end of a statement. -/
lemma trim_statement {part : List Lexeme} (hs : ∀ l ∈ part, l.Sound) :
    trim (statement part) = statement part := by
  have hsub : part.dropWhile isGap ⊆ part := (List.dropWhile_suffix isGap).subset
  have hhead : ∀ c ∈ (statement part).head?, isBlank c = false := by
    intro c hc
    obtain ⟨blanks, hlayout, -⟩ := exists_eq_trimEnd_append (layout part)
    obtain ⟨body, after, hpart, hafter, hhead, hlast, -⟩ := exists_eq_gap_append part
    rw [layout_eq hpart hafter hlast] at hlayout
    apply head?_layoutAfter hhead (fun l hl => hs l (hsub (by simp [hpart, hl]))) c
    rw [hlayout, ← layout_eq hpart hafter hlast, List.head?_append, ← statement,
      Option.mem_def.mp hc]
    rfl
  rw [trim, trimStart_eq_self hhead, statement, trimEnd_eq_self (isBlank_getLast_trimEnd _)]

/-- What does not end with a blank keeps its end when a text behind it is trimmed. -/
lemma trimEnd_append_of_getLast (hs : ∀ c ∈ s.getLast?, isBlank c = false) :
    trimEnd (s ++ t) = s ++ trimEnd t := by
  obtain ⟨blanks, ht, hblanks⟩ := exists_eq_trimEnd_append t
  conv_lhs => rw [ht, ← List.append_assoc, trimEnd_append_of_isBlanks hblanks]
  apply trimEnd_eq_self
  intro c hc
  rcases eq_or_ne (trimEnd t) [] with hnil | hne
  · rw [hnil, List.append_nil] at hc
    exact hs c hc
  · rw [List.getLast?_append_of_ne_nil _ hne] at hc
    exact isBlank_getLast_trimEnd t c hc

lemma text_trimmed (hl : l.isGap = false) (hfits : l.Fits afterWord rest) :
    l.trimmed.text = if l.isOpen then trimEnd l.text else l.text := by
  cases hopen : l.isOpen with
  | false => rw [trimmed_of_closed hopen, if_neg (by simp)]
  | true =>
    cases l with
    | quoted quote body closed =>
      obtain rfl : closed = false := by simpa [isOpen] using hopen
      have hquote : ∀ c ∈ [quote].getLast?, isBlank c = false := by
        simpa using isBlank_of_isQuote hfits.1
      have htrim := trimEnd_append_of_getLast (t := body) hquote
      simpa [trimmed, text] using htrim.symm
    | dollarQuoted tag body closed =>
      obtain rfl : closed = false := by simpa [isOpen] using hopen
      have htrim := trimEnd_append_of_getLast (t := body) hfits.2.1.isBlank_getLast
      simpa [trimmed, text] using htrim.symm
    | blockComment body closed => simp [isGap] at hl
    | _ => simp [isOpen] at hopen

/-- Blanks at the end of a region do not stand between the quotes of a pair. -/
lemma Doubled.of_append {quote : Char} (h : Doubled quote (s ++ t)) (ht : quote ∉ t) :
    Doubled quote s := by
  generalize hst : s ++ t = st at h
  induction h generalizing s with
  | nil =>
    rw [(List.append_eq_nil_iff.mp hst).1]
    exact .nil
  | other hc _ ih =>
    cases s with
    | nil => exact .nil
    | cons d s =>
      obtain ⟨rfl, rfl⟩ := List.cons_eq_cons.mp hst
      exact .other hc (ih rfl)
  | pair _ ih =>
    rcases s with _ | ⟨d, _ | ⟨e, s⟩⟩
    · exact .nil
    · rw [List.singleton_append, List.cons_eq_cons] at hst
      exact absurd (hst.2 ▸ List.mem_cons_self) ht
    · obtain ⟨rfl, hst⟩ := List.cons_eq_cons.mp hst
      obtain ⟨rfl, rfl⟩ := List.cons_eq_cons.mp hst
      exact .pair (ih rfl)

lemma Fits.trimmed (hl : l.isGap = false) (hfits : l.Fits afterWord rest) :
    l.trimmed.Fits afterWord [] := by
  cases hopen : l.isOpen with
  | false =>
    rw [trimmed_of_closed hopen]
    refine hfits.of_sees (sees_of_isPrefix List.nil_prefix) hopen ?_
    rintro body rfl
    simp [isGap] at hl
  | true =>
    cases l with
    | quoted quote body closed =>
      obtain rfl : closed = false := by simpa [isOpen] using hopen
      obtain ⟨blanks, hbody, hblanks⟩ := exists_eq_trimEnd_append body
      have hnot : quote ∉ blanks := by
        intro hmem
        have hblank := hblanks quote hmem
        rw [isBlank_of_isQuote hfits.1] at hblank
        exact Bool.false_ne_true hblank
      exact ⟨hfits.1, (hbody ▸ hfits.2.1).of_append hnot, rfl⟩
    | dollarQuoted tag body closed =>
      obtain rfl : closed = false := by simpa [isOpen] using hopen
      obtain ⟨blanks, hbody, -⟩ := exists_eq_trimEnd_append body
      refine ⟨hfits.1, hfits.2.1, fun htag => hfits.2.2.1 ?_, rfl⟩
      exact htag.trans ⟨[], blanks, hbody.symm⟩
    | blockComment body closed => simp [isGap] at hl
    | _ => simp [isOpen] at hopen

/-- What a statement holds of its part. -/
def ink (part : List Lexeme) : List Lexeme :=
  (part.filter (!·.isGap)).map trimmed

@[simp] lemma ink_append (ks ls : List Lexeme) : ink (ks ++ ls) = ink ks ++ ink ls := by
  simp [ink]

lemma ink_cons (hl : l.isGap = false) (ls : List Lexeme) :
    ink (l :: ls) = l.trimmed :: ink ls := by
  simp [ink, hl]

lemma ink_eq_nil_iff : ink ls = [] ↔ ∀ l ∈ ls, l.isGap = true := by
  simp [ink]

/-! ### White space -/

lemma sees_of_isBlanks {blanks : List Char} (hblanks : IsBlanks blanks) (hsome : blanks ≠ []) :
    Sees s (blanks ++ t) := by
  refine sees_of_head fun c hc => ?_
  rw [List.head?_append_of_ne_nil _ hsome] at hc
  simp [isSeparator, hblanks c (List.mem_of_mem_head? hc)]

/-- White space, character by character. -/
def spaces (blanks : List Char) : List Lexeme :=
  blanks.map fun c => if c = '\n' then lineBreak else blank c

@[simp] lemma flatMap_text_spaces (blanks : List Char) : (spaces blanks).flatMap text = blanks := by
  induction blanks with
  | nil => rfl
  | cons c blanks ih =>
    rw [spaces, List.map_cons, List.flatMap_cons, ← spaces, ih]
    split
    · next hc => rw [hc]; rfl
    · rfl

lemma isSpace_of_mem_spaces {blanks : List Char} (h : l ∈ spaces blanks) : l.isSpace = true := by
  obtain ⟨c, -, rfl⟩ := List.mem_map.mp h
  split <;> rfl

lemma filter_spaces (blanks : List Char) : (spaces blanks).filter (!·.isSpace) = [] := by
  rw [List.filter_eq_nil_iff]
  intro l hl
  simp [isSpace_of_mem_spaces hl]

/-- White space may stand anywhere, with anything behind it. -/
lemma fitting_spaces_append {blanks : List Char} (hblanks : IsBlanks blanks) (hsome : blanks ≠ [])
    (h : Fitting false ls) : Fitting afterWord (spaces blanks ++ ls) := by
  induction blanks generalizing afterWord with
  | nil => exact absurd rfl hsome
  | cons c blanks ih =>
    rw [isBlanks_cons] at hblanks
    have hrest (w : Bool) (hw : w = false) : Fitting w (spaces blanks ++ ls) := by
      rcases eq_or_ne blanks [] with rfl | hne
      · rw [hw]
        exact h
      · exact ih hblanks.2 hne
    rw [spaces, List.map_cons, List.cons_append, fitting_cons]
    split
    · exact ⟨trivial, hrest _ rfl⟩
    · next hc => exact ⟨⟨hblanks.1, hc⟩, hrest _ rfl⟩

/-- Behind what does not end with a word, lexemes fit as they do at the start. -/
lemma Fitting.drop {pre : List Lexeme} (h : Fitting afterWord (pre ++ ls))
    (hlast : ∀ l ∈ pre.getLast?, l.isWord = false) (hnil : pre = [] → afterWord = false) :
    Fitting false ls := by
  induction pre generalizing afterWord with
  | nil => exact hnil rfl ▸ h
  | cons k pre ih =>
    refine ih h.2 (fun l hl => hlast l ?_) fun hpre => hlast k (by simp [hpre])
    simp [List.getLast?_cons, Option.mem_def.mp hl]

lemma isSpace_of_isGap_eq_false (hl : l.isGap = false) : l.isSpace = false := by
  cases l with
  | lineBreak | blank => simp [isGap] at hl
  | _ => rfl

lemma isWord_of_isGap (hl : l.isGap = true) : l.isWord = false := by
  cases l with
  | word letters => simp [isGap] at hl
  | _ => rfl

/-- A lexeme of a statement that others follow may stand in front of what looks the same. -/
lemma Fits.next {rest' : List Char} (h : l.Fits afterWord rest) (hl : l.isGap = false)
    (hrest : rest ≠ []) (hsees : Sees rest rest') : l.Fits afterWord rest' ∧ l.trimmed = l := by
  have hopen := h.isOpen_eq_false hrest
  refine ⟨h.of_sees hsees hopen ?_, trimmed_of_closed hopen⟩
  rintro body rfl
  simp [isGap] at hl

/-! ### Reading a statement back -/

/-- The lexemes of a statement: those of its part behind a gap, with blanks for the gaps. -/
def respaced (gap : List Lexeme) : List Lexeme → List Lexeme
  | [] => []
  | l :: ls =>
    if l.isGap then respaced (gap ++ [l]) ls
    else spaces (gapText gap) ++ l.trimmed :: respaced [] ls

@[simp] lemma respaced_nil : respaced gap [] = [] := rfl

lemma respaced_of_isGap (hl : l.isGap = true) :
    respaced gap (l :: ls) = respaced (gap ++ [l]) ls := by
  simp [respaced, hl]

lemma respaced_of_not_isGap (hl : l.isGap = false) :
    respaced gap (l :: ls) = spaces (gapText gap) ++ l.trimmed :: respaced [] ls := by
  simp [respaced, hl]

/-- White space aside, nothing but the gaps is left out. -/
lemma filter_respaced (gap ls : List Lexeme) :
    (respaced gap ls).filter (!·.isSpace) = ink ls := by
  induction ls generalizing gap with
  | nil => rfl
  | cons l ls ih =>
    cases hl : l.isGap with
    | true =>
      rw [respaced_of_isGap hl, ih]
      simp [ink, hl]
    | false =>
      have hspace := isSpace_of_isGap_eq_false ((isGap_trimmed l).trans hl)
      rw [respaced_of_not_isGap hl, List.filter_append, filter_spaces, List.nil_append, ink_cons hl,
        List.filter_cons_of_pos (by simp [hspace]), ih]

/-- An open region is the last lexeme of the script. -/
lemma Fitting.eq_nil_of_isOpen (hfit : Fitting afterWord (l :: ls ++ post))
    (hopen : l.isOpen = true) : ls = [] := by
  have hnil : (ls ++ post).flatMap text = [] := by
    by_contra hne
    rw [hfit.1.isOpen_eq_false hne] at hopen
    exact Bool.false_ne_true hopen
  exact (List.append_eq_nil_iff.mp (Fitting.eq_nil hfit.2 hnil)).1

lemma flatMap_text_respaced (gap : List Lexeme) (hfit : Fitting afterWord (ls ++ post)) :
    (respaced gap ls).flatMap text = trimEnd (layoutAfter gap ls) := by
  induction ls generalizing gap afterWord with
  | nil => rfl
  | cons l ls ih =>
    have hl := hfit.1
    cases hgap : l.isGap with
    | true =>
      rw [respaced_of_isGap hgap, layoutAfter_of_isGap hgap]
      exact ih _ hfit.2
    | false =>
      have hne : l.text ≠ [] := hl.sound.text_ne_nil
      have hhead : ∀ c ∈ (l.text ++ layoutAfter [] ls).head?, isBlank c = false := by
        rw [List.head?_append_of_ne_nil _ hne]
        exact hl.sound.starts hgap
      rw [respaced_of_not_isGap hgap, layoutAfter_of_not_isGap hgap, List.flatMap_append,
        flatMap_text_spaces, List.flatMap_cons, ih [] hfit.2, List.append_assoc,
        trimEnd_append_of_head (by simp [hne]) hhead, text_trimmed hgap hl]
      congr 1
      cases hopen : l.isOpen with
      | true =>
        rw [hfit.eq_nil_of_isOpen hopen]
        simp
      | false => exact (trimEnd_append_of_getLast (hl.sound.ends hgap hopen)).symm

/-- Between two lexemes of a script a gap shows as blanks. -/
lemma blanks_gapText (hfit : Fitting afterWord (gap ++ l :: post))
    (hgap : ∀ g ∈ gap, g.isGap = true) (hne : gap ≠ []) (hl : l.isGap = false) :
    IsBlanks (gapText gap) ∧ gapText gap ≠ [] := by
  refine ⟨isBlanks_gapText fun g hg => hfit.sound g (by simp [hg]), gapText_ne_nil hgap hne hl ?_⟩
  exact List.IsChain.infix hfit.isChain ⟨[], post, by simp⟩

/-- What is seen of a statement stands in its part as well. -/
lemma sees_respaced (gap : List Lexeme) (hfit : Fitting afterWord (gap ++ (ls ++ post)))
    (hgap : ∀ g ∈ gap, g.isGap = true) :
    Sees ((gap ++ (ls ++ post)).flatMap text) ((respaced gap ls).flatMap text) := by
  induction ls generalizing gap afterWord with
  | nil => exact sees_of_head (by simp)
  | cons l ls ih =>
    cases hl : l.isGap with
    | true =>
      have hgap' := forall_isGap_concat hgap hl
      have hassoc : gap ++ (l :: ls ++ post) = gap ++ [l] ++ (ls ++ post) := by simp
      rw [hassoc] at hfit ⊢
      rw [respaced_of_isGap hl]
      exact ih _ hfit hgap'
    | false =>
      rcases eq_or_ne gap [] with rfl | hne
      · rw [List.nil_append, respaced_of_not_isGap hl, gapText_nil, List.cons_append,
          List.flatMap_cons]
        cases hopen : l.isOpen with
        | true =>
          obtain ⟨blanks, htext, -⟩ := exists_eq_trimEnd_append l.text
          obtain rfl := hfit.eq_nil_of_isOpen hopen
          refine sees_of_isPrefix (List.IsPrefix.trans ?_ (List.prefix_append l.text _))
          simpa [spaces, text_trimmed hl hfit.1, hopen] using ⟨blanks, htext.symm⟩
        | false =>
          have hsees := ih [] hfit.2 (by simp)
          simpa [spaces, trimmed_of_closed hopen] using hsees.append_left l.text
      · obtain ⟨hblanks, hsome⟩ := blanks_gapText hfit hgap hne hl
        have htext : (respaced gap (l :: ls)).flatMap text
            = gapText gap ++ (l.trimmed :: respaced [] ls).flatMap text := by
          rw [respaced_of_not_isGap hl, List.flatMap_append, flatMap_text_spaces]
        rw [htext]
        exact sees_of_isBlanks hblanks hsome

/-- The lexemes of a statement may stand as they do. -/
lemma fitting_respaced (gap : List Lexeme) (hfit : Fitting afterWord (gap ++ (ls ++ post)))
    (hgap : ∀ g ∈ gap, g.isGap = true) : Fitting afterWord (respaced gap ls) := by
  induction ls generalizing gap afterWord with
  | nil => trivial
  | cons l ls ih =>
    cases hl : l.isGap with
    | true =>
      rw [respaced_of_isGap hl]
      refine ih _ ?_ (forall_isGap_concat hgap hl)
      simpa using hfit
    | false =>
      have hrespaced (w : Bool) (hfit : Fitting w (l :: ls ++ post)) :
          Fitting w (l.trimmed :: respaced [] ls) := by
        rcases eq_or_ne (respaced [] ls) [] with hnil | hne
        · rw [hnil]
          exact ⟨hfit.1.trimmed hl, trivial⟩
        · have hrest : (ls ++ post).flatMap text ≠ [] := by
            intro hnil
            apply hne
            rw [(List.append_eq_nil_iff.mp (Fitting.eq_nil hfit.2 hnil)).1, respaced_nil]
          have hsees := sees_respaced [] hfit.2 (by simp)
          obtain ⟨hfits, htrimmed⟩ := Fits.next hfit.1 hl hrest hsees
          rw [htrimmed]
          exact ⟨hfits, ih [] hfit.2 (by simp)⟩
      rw [respaced_of_not_isGap hl]
      rcases eq_or_ne gap [] with rfl | hne
      · exact hrespaced afterWord hfit
      · have hword : ∀ g ∈ gap.getLast?, g.isWord = false := by
          intro g hg
          exact isWord_of_isGap (hgap g (List.mem_of_getLast? hg))
        obtain ⟨hblanks, hsome⟩ := blanks_gapText hfit hgap hne hl
        exact fitting_spaces_append hblanks hsome
          (hrespaced false (hfit.drop hword fun h => absurd h hne))

end Lexeme

namespace Script

open Lexeme

variable {text : String} {part : List Lexeme}

/-- A part stands in its script where lexemes fit as they do at the start. -/
lemma fitting_of_mem_parts (hp : part ∈ parts text) :
    ∃ post, Fitting false (part.dropWhile isGap ++ post) := by
  obtain ⟨first, post, hsplit, hfirst, -⟩ := Scan.exists_append_of_mem_parts hp
  have hfit := fitting_ofText text.toList
  rw [List.nil_append] at hsplit
  rw [hsplit, ← part.takeWhile_append_dropWhile (p := isGap), ← List.append_assoc first,
    List.append_assoc] at hfit
  refine ⟨post, hfit.drop ?_ fun _ => rfl⟩
  intro l hl
  rcases eq_or_ne (part.takeWhile isGap) [] with hnil | hne
  · rw [hnil, List.append_nil] at hl
    rw [hfirst l hl]
    rfl
  · rw [List.getLast?_append_of_ne_nil _ hne] at hl
    exact isWord_of_isGap (List.mem_takeWhile_imp (List.mem_of_getLast? hl))

/-- A statement is read back as the lexemes of its part, with blanks for the gaps. -/
theorem ofText_statement (hp : part ∈ parts text) :
    ofText (statement part) = respaced [] (part.dropWhile isGap) := by
  obtain ⟨post, hfit⟩ := fitting_of_mem_parts hp
  exact ofText_eq_iff.mpr ⟨flatMap_text_respaced [] hfit, fitting_respaced [] hfit (by simp)⟩

/-- White space aside, the lexemes of a statement are those of its part without the gaps. -/
theorem tokens_statement (hp : part ∈ parts text) :
    tokens (String.ofList (statement part)) = ink part := by
  have hleading : ink (part.takeWhile isGap) = [] :=
    ink_eq_nil_iff.mpr fun g hg => List.mem_takeWhile_imp hg
  conv_rhs => rw [← part.takeWhile_append_dropWhile (p := isGap), ink_append, hleading]
  rw [tokens, String.toList_ofList, ofText_statement hp, filter_respaced]
  rfl

end Script

end SqlWorkbench
