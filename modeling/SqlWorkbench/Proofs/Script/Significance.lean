import Mathlib.Tactic.Common
import SqlWorkbench.Proofs.Script.Lines

/-!
# Significant characters

A character of a script is significant if it stands in a quoted or dollar-quoted region and is no
line break, or if it is no white space and stands in no comment. Main statement: what lexemes span
from the end of their first gap to the last of them that is no gap are the lines of their
significant characters.
-/

namespace SqlWorkbench.Lexeme

open Text

variable {l : Lexeme} {ls ms gap : List Lexeme} {line k : Nat} {s t : List Char} {p : Char → Bool}
  {c : Char}

/-- The character of the lexeme is significant. -/
def isSignificant : Lexeme → Char → Bool
  | lineComment _, _ | blockComment _ _, _ => false
  | quoted _ _ _, c | dollarQuoted _ _ _, c => c != '\n'
  | _, c => !isBlank c

/-- The lines of the characters with a property, in a text that begins on `line`. -/
def linesWhere (p : Char → Bool) (line : Nat) : List Char → List Nat
  | [] => []
  | c :: s =>
    (if p c then [line] else []) ++ linesWhere p (if c = '\n' then line + 1 else line) s

/-- The lines of the significant characters of lexemes that begin on `line`. -/
def significantLines (line : Nat) : List Lexeme → List Nat
  | [] => []
  | l :: ls => linesWhere l.isSignificant line l.text ++ significantLines (line + breaks [l]) ls

/-! ### Lines of characters -/

lemma linesWhere_append : linesWhere p line (s ++ t)
    = linesWhere p line s ++ linesWhere p (line + s.count '\n') t := by
  induction s generalizing line with
  | nil => rfl
  | cons c s ih =>
    rw [List.cons_append, linesWhere, linesWhere, ih, List.append_assoc]
    have hline : (if c = '\n' then line + 1 else line) + s.count '\n'
        = line + (c :: s).count '\n' := by
      by_cases hc : c = '\n'
      · simp only [hc, if_true, List.count_cons_self]
        omega
      · simp [hc]
    rw [hline]

lemma linesWhere_eq_nil (h : ∀ c ∈ s, p c = false) : linesWhere p line s = [] := by
  induction s generalizing line with
  | nil => rfl
  | cons c s ih =>
    rw [linesWhere, h c (by simp), ih fun d hd => h d (by simp [hd])]
    rfl

/-- The last line is that of the last character that is no line break. -/
lemma getLast?_linesWhere (h : ∀ c ∈ s, p c = (c != '\n')) (hsome : ∃ c ∈ s, c ≠ '\n') :
    (linesWhere p line s).getLast? = some (line + innerBreaks s) := by
  induction s using List.reverseRecOn with
  | nil => simp at hsome
  | append_singleton s c ih =>
    rw [linesWhere_append]
    by_cases hc : c = '\n'
    · have hlast : linesWhere p (line + s.count '\n') [c] = [] := by
        apply linesWhere_eq_nil
        simpa [hc] using h c (by simp)
      rw [hlast, List.append_nil, hc, innerBreaks_concat_break]
      apply ih fun d hd => h d (by simp [hd])
      simpa [hc] using hsome
    · have hlast : linesWhere p (line + s.count '\n') [c] = [line + s.count '\n'] := by
        simp [linesWhere, h c, hc]
      rw [hlast, innerBreaks_concat s hc, List.getLast?_append_of_ne_nil _ (by simp)]
      rfl

lemma of_mem_linesWhere (hk : k ∈ linesWhere p line s) :
    line ≤ k ∧ k ≤ line + s.count '\n' := by
  induction s generalizing line with
  | nil => simp [linesWhere] at hk
  | cons c s ih =>
    rw [linesWhere, List.mem_append] at hk
    rcases hk with hk | hk
    · obtain rfl : k = line := by
        split at hk <;> simp_all
      omega
    · have hrest := ih hk
      by_cases hc : c = '\n'
      · simp only [hc, if_true, List.count_cons_self] at hrest ⊢
        omega
      · simpa [hc] using hrest

/-- The lines do not go back. -/
lemma pairwise_linesWhere (s : List Char) : (linesWhere p line s).Pairwise (· ≤ ·) := by
  induction s generalizing line with
  | nil => exact .nil
  | cons c s ih =>
    rw [linesWhere]
    split
    · refine List.pairwise_cons.mpr ⟨fun k hk => ?_, ih⟩
      have := (of_mem_linesWhere hk).1
      split at this <;> omega
    · exact ih

/-! ### Lines of a lexeme -/

/-- In what is no gap, only line breaks are not significant. -/
lemma Fits.isSignificant_eq {afterWord : Bool} {rest : List Char} (h : l.Fits afterWord rest)
    (hl : l.isGap = false) : ∀ c ∈ l.text, l.isSignificant c = (c != '\n') := by
  have hblank {c : Char} (hc : isBlank c = false) : (!isBlank c) = (c != '\n') := by
    have hne : c ≠ '\n' := by
      rintro rfl
      exact absurd hc (by decide)
    simp [hc, hne]
  intro c hc
  cases l with
  | quoted quote body closed | dollarQuoted tag body closed => rfl
  | semicolon =>
    obtain rfl := List.mem_singleton.mp hc
    rfl
  | word letters => exact hblank (isBlank_of_isWordPart (h.2.1 c hc))
  | symbol d =>
    obtain rfl := List.mem_singleton.mp hc
    exact hblank h.1.2.2.2.2
  | _ => simp [isGap] at hl

lemma Sound.isSignificant_eq_false (h : l.Sound) (hl : l.isGap = true) :
    ∀ c ∈ l.text, l.isSignificant c = false := by
  intro c hc
  cases l with
  | lineBreak =>
    obtain rfl := List.mem_singleton.mp hc
    rfl
  | blank d =>
    obtain rfl := List.mem_singleton.mp hc
    have hblank : isBlank c = true := h.isBlank_of_blank c rfl
    change (!isBlank c) = false
    rw [hblank]
    rfl
  | lineComment body | blockComment body closed => rfl
  | _ => simp [isGap] at hl

/-! ### Lines of a part -/

lemma significantLines_append : significantLines line (ls ++ ms)
    = significantLines line ls ++ significantLines (line + breaks ls) ms := by
  induction ls generalizing line with
  | nil => rfl
  | cons l ls ih =>
    rw [List.cons_append, significantLines, significantLines, ih, List.append_assoc,
      ← List.singleton_append (l := ls), breaks_append, Nat.add_assoc]

lemma significantLines_singleton :
    significantLines line [l] = linesWhere l.isSignificant line l.text :=
  List.append_nil _

lemma of_mem_significantLines (hk : k ∈ significantLines line ls) :
    line ≤ k ∧ k ≤ line + breaks ls := by
  induction ls generalizing line with
  | nil => simp [significantLines] at hk
  | cons l ls ih =>
    rw [breaks_cons]
    rcases List.mem_append.mp hk with hk | hk
    · have := of_mem_linesWhere hk
      omega
    · have := ih hk
      rw [breaks_singleton] at this
      omega

lemma pairwise_significantLines (line : Nat) (ls : List Lexeme) :
    (significantLines line ls).Pairwise (· ≤ ·) := by
  induction ls generalizing line with
  | nil => exact .nil
  | cons l ls ih =>
    refine List.pairwise_append.mpr ⟨pairwise_linesWhere l.text, ih _, fun j hj k hk => ?_⟩
    have hj' := (of_mem_linesWhere hj).2
    have hk' := (of_mem_significantLines hk).1
    rw [breaks_singleton] at hk'
    omega

lemma significantLines_of_gap (hs : ∀ l ∈ ls, l.Sound) (hgap : ls.all isGap = true) :
    significantLines line ls = [] := by
  induction ls generalizing line with
  | nil => rfl
  | cons l ls ih =>
    rw [List.all_cons, Bool.and_eq_true] at hgap
    rw [significantLines, linesWhere_eq_nil ((hs l (by simp)).isSignificant_eq_false hgap.1),
      ih (fun k hk => hs k (by simp [hk])) hgap.2]
    rfl

/-- The first line is that of the first lexeme that is no gap. -/
lemma head?_significantLines (line : Nat) (hfits : Placed ls)
    (hls : ls.all isGap = false) :
    (significantLines line ls).head? = some (line + breaks (leading ls)) := by
  induction ls generalizing line with
  | nil => simp at hls
  | cons l ls ih =>
    obtain ⟨w, rest, hl⟩ := hfits l (by simp)
    cases hgap : l.isGap with
    | true =>
      have hleading : leading (l :: ls) = l :: leading ls := List.takeWhile_cons_of_pos hgap
      rw [significantLines, linesWhere_eq_nil (hl.sound.isSignificant_eq_false hgap),
        List.nil_append, ih _ (fun k hk => hfits k (by simp [hk])) (by simpa [hgap] using hls),
        hleading, ← List.singleton_append (l := leading ls), breaks_append, Nat.add_assoc]
    | false =>
      have hleading : leading (l :: ls) = [] := List.takeWhile_cons_of_neg (by simp [hgap])
      obtain ⟨c, s, htext⟩ := List.exists_cons_of_ne_nil hl.text_ne_nil
      have hc : isBlank c = false := hl.sound.starts hgap c (by simp [htext])
      have hbreak : c ≠ '\n' := by
        rintro rfl
        exact absurd hc (by decide)
      have hsignificant : l.isSignificant c = true := by
        rw [hl.isSignificant_eq hgap c (by simp [htext])]
        simpa using hbreak
      rw [significantLines, hleading, htext, linesWhere, hsignificant]
      rfl

/-- The last line is that of the last lexeme that is no gap. -/
lemma getLast?_significantLines (line : Nat) (hfits : Placed ls)
    (hls : ls.all isGap = false) :
    (significantLines line ls).getLast? = some (line + inkedBreaks ls) := by
  induction ls using List.reverseRecOn with
  | nil => simp at hls
  | append_singleton ls l ih =>
    obtain ⟨w, rest, hl⟩ := hfits l (by simp)
    rw [significantLines_append]
    cases hgap : l.isGap with
    | true =>
      have hlast : significantLines (line + breaks ls) [l] = [] :=
        significantLines_of_gap (by simpa using hl.sound) (by simpa using hgap)
      rw [hlast, List.append_nil, inkedBreaks_append_gap (by simpa using hgap)]
      exact ih (fun k hk => hfits k (by simp [hk])) (by simpa [hgap] using hls)
    | false =>
      have hsome : ∃ c ∈ l.text, c ≠ '\n' := by
        obtain ⟨c, s, htext⟩ := List.exists_cons_of_ne_nil hl.text_ne_nil
        refine ⟨c, by simp [htext], ?_⟩
        rintro rfl
        exact absurd (hl.sound.starts hgap '\n' (by simp [htext])) (by decide)
      have hlast : (significantLines (line + breaks ls) [l]).getLast?
          = some (line + breaks ls + innerBreaks l.text) := by
        rw [significantLines_singleton]
        exact getLast?_linesWhere (hl.isSignificant_eq hgap) hsome
      have hne : significantLines (line + breaks ls) [l] ≠ [] := by
        intro hnil
        simp [hnil] at hlast
      rw [List.getLast?_append_of_ne_nil _ hne, hlast, inkedBreaks_append (by simpa using hgap),
        inkedBreaks_singleton hgap, Nat.add_assoc]

/-- The significant characters stand between the end of the first gap and the last lexeme that is no
gap. -/
lemma bounds_of_mem_significantLines (hfits : Placed ls) (hls : ls.all isGap = false)
    (hk : k ∈ significantLines line ls) :
    line + breaks (leading ls) ≤ k ∧ k ≤ line + inkedBreaks ls := by
  have hsorted := pairwise_significantLines line ls
  have hhead := head?_significantLines line hfits hls
  have hlast := getLast?_significantLines line hfits hls
  obtain ⟨init, hinit⟩ := List.getLast?_eq_some_iff.mp hlast
  obtain ⟨tail, htail⟩ := List.head?_eq_some_iff.mp hhead
  constructor
  · rw [htail] at hk hsorted
    rcases List.mem_cons.mp hk with rfl | hk
    · exact Nat.le_refl _
    · exact List.rel_of_pairwise_cons hsorted hk
  · rw [hinit] at hk hsorted
    rcases List.mem_append.mp hk with hk | hk
    · exact (List.pairwise_append.mp hsorted).2.2 k hk _ (by simp)
    · exact (List.mem_singleton.mp hk).le

lemma breaks_leading_le_inkedBreaks (hfits : Placed ls) (hls : ls.all isGap = false) :
    breaks (leading ls) ≤ inkedBreaks ls ∧ inkedBreaks ls ≤ breaks ls := by
  have hlast := List.mem_of_getLast? (getLast?_significantLines 0 hfits hls)
  have hbounds := bounds_of_mem_significantLines hfits hls hlast
  have hle := of_mem_significantLines hlast
  omega

end SqlWorkbench.Lexeme
