import Mathlib.Data.List.Infix
import SqlWorkbench.Proofs.Script.Words
import SqlWorkbench.Session.Wording

/-!
# Reworded updates

The table of an update is taken to end in front of the first word that could open assignments, be
it in a quoted name or not. Main statements: a reworded statement is not reworded again, and an
update of a quoted table is reworded between its table and its assignments exactly if that word
does not stand between blanks in the table and no blank is in front of the assignments.
-/

namespace SqlWorkbench

namespace Text

variable {s t w x y : List Char} {c : Char}

/-! ### Stretches of a text -/

lemma prefix_of_not_mem (h : w <+: x ++ c :: y) (hc : c ∉ w) : w <+: x := by
  have hx : x ++ [c] <+: x ++ c :: y := ⟨y, by simp⟩
  rcases List.prefix_or_prefix_of_prefix h hx with hw | hw
  · rcases List.prefix_concat_iff.mp hw with rfl | hw
    · simp at hc
    · exact hw
  · exact absurd (hw.mem (by simp)) hc

/-- A stretch without a character lies at one side of it. -/
lemma infix_of_not_mem (h : w <:+: x ++ c :: y) (hc : c ∉ w) : w <:+: x ∨ w <:+: y := by
  obtain ⟨p, q, h⟩ := h
  rw [List.append_assoc] at h
  rcases List.append_eq_append_iff.mp h with ⟨z, rfl, hz⟩ | ⟨z, rfl, hz⟩
  · have hw : w <+: z := prefix_of_not_mem ⟨q, hz⟩ hc
    exact .inl (hw.isInfix.trans (List.suffix_append p z).isInfix)
  · cases z with
    | nil =>
      have hw : w <+: [] := prefix_of_not_mem (y := y) ⟨q, hz.symm⟩ hc
      exact .inl (hw.isInfix.trans (List.nil_infix))
    | cons d z =>
      obtain ⟨-, rfl⟩ := List.cons_eq_cons.mp hz
      exact .inr ⟨z, q, by simp⟩

lemma infix_cons_iff_of_not_mem (hc : c ∉ w) : w <:+: c :: s ↔ w <:+: s := by
  constructor
  · intro h
    rcases infix_of_not_mem (x := []) h hc with hw | hw
    · exact hw.trans (List.nil_infix)
    · exact hw
  · exact fun h => h.trans (List.suffix_cons c s).isInfix

/-- Doubling a character leaves the stretches without it. -/
lemma prefix_replaceChar_iff (hc : c ∉ w) : w <+: replaceChar c [c, c] s ↔ w <+: s := by
  induction s generalizing w with
  | nil => rfl
  | cons d s ih =>
    cases w with
    | nil => simp
    | cons e w =>
      rw [List.mem_cons, not_or] at hc
      rw [replaceChar_cons]
      by_cases hd : d = c
      · have he : e ≠ d := fun h => hc.1 (h.trans hd).symm
        simp [hd, List.cons_prefix_cons, hd ▸ he]
      · rw [if_neg hd, List.singleton_append, List.cons_prefix_cons, List.cons_prefix_cons, ih hc.2]

lemma infix_replaceChar_iff (hc : c ∉ w) : w <:+: replaceChar c [c, c] s ↔ w <:+: s := by
  induction s with
  | nil => rfl
  | cons d s ih =>
    by_cases hd : d = c
    · subst hd
      rw [replaceChar_cons, if_pos rfl, List.cons_append, List.singleton_append]
      iterate 3 rw [infix_cons_iff_of_not_mem hc]
      rw [ih]
    · have hprefix := prefix_replaceChar_iff (s := d :: s) hc
      rw [replaceChar_cons, if_neg hd, List.singleton_append] at hprefix ⊢
      rw [List.infix_cons_iff, List.infix_cons_iff, hprefix, ih]

end Text

namespace Wording

open Text

variable {s t w table rest : List Char} {c : Char}

/-! ### Statements that are kept -/

/-- Behind blanks, what is no update is kept. -/
lemma altered_append (hs : IsBlanks s) (hblank : isBlank c = false)
    (hletter : isLetter 'U' c = false) : altered (s ++ c :: t) = s ++ c :: t := by
  have hstart : trimStart (s ++ c :: t) = c :: t := by
    rw [trimStart, List.dropWhile_append_of_pos hs]
    exact trimStart_eq_self (by simpa using hblank)
  have hword : dropWord? "UPDATE".toList (c :: t) = none := by
    show (if isLetter 'U' c = true then _ else none) = none
    rw [if_neg (by simp [hletter])]
  rw [altered, hstart, hword]
  rfl

/-- What is no update is sent as it is. -/
lemma forDispatch_of_toList {sql : String} (d : Dialect) (hsql : sql.toList = c :: t)
    (hblank : isBlank c = false) (hletter : isLetter 'U' c = false) : forDispatch d sql = sql := by
  cases d with
  | clickhouse =>
    rw [forDispatch, hsql]
    have hkept := altered_append (s := []) (t := t) (by simp) hblank hletter
    rw [List.nil_append] at hkept
    rw [hkept, ← hsql, String.ofList_toList]
  | postgres => rfl
  | mysql => rfl
  | mssql => rfl
  | sqlite => rfl

/-- A statement is reworded at most once. -/
theorem altered_altered : altered (altered s) = altered s := by
  rw [altered.eq_def s]
  split
  · next table rest h =>
    have hblanks : IsBlanks (s.takeWhile isBlank) := fun c hc => List.mem_takeWhile_imp hc
    rw [List.append_assoc, List.append_assoc, List.append_assoc]
    exact altered_append (c := 'A') hblanks (by decide) (by decide)
  · next h => rw [altered, h]

/-! ### The word that opens assignments -/

/-- The word that opens assignments, in any case, with a blank at either side. -/
inductive IsOpener : List Char → Prop
  | intro {b c : Char} {word : List Char} (hb : isBlank b = true)
    (hword : IsForm "SET".toList word) (hc : isBlank c = true) : IsOpener (b :: (word ++ [c]))

/-- The word stands between blanks in the text. -/
def HasOpener (s : List Char) : Prop :=
  ∃ w, IsOpener w ∧ w <:+: s

lemma HasOpener.mono (h : HasOpener s) (hs : s <:+: t) : HasOpener t := by
  obtain ⟨w, hw, hinfix⟩ := h
  exact ⟨w, hw, hinfix.trans hs⟩

/-- Assignments come next, behind their opening word. -/
def Opens (s rest : List Char) : Prop :=
  ∃ blanks w more, s = blanks ++ w ++ more ∧ IsBlanks blanks ∧ IsOpener w ∧ rest = trimStart more

lemma isForm_set_iff {word : List Char} : IsForm "SET".toList word ↔
    ∃ x y z, word = [x, y, z] ∧ isLetter 'S' x = true ∧ isLetter 'E' y = true ∧
      isLetter 'T' z = true := by
  constructor
  · rintro (_ | ⟨hx, _ | ⟨hy, _ | ⟨hz, _ | _⟩⟩⟩)
    exact ⟨_, _, _, rfl, hx, hy, hz⟩
  · rintro ⟨x, y, z, rfl, hx, hy, hz⟩
    exact .cons hx (.cons hy (.cons hz .nil))

/-- No backtick is in the opening word and its blanks. -/
lemma IsOpener.not_mem (hw : IsOpener w) : '\x60' ∉ w := by
  obtain ⟨hb, hword, hc⟩ := hw
  obtain ⟨x, y, z, rfl, hx, hy, hz⟩ := isForm_set_iff.mp hword
  simp only [List.cons_append, List.nil_append, List.mem_cons, List.not_mem_nil, or_false, not_or]
  refine ⟨?_, ?_, ?_, ?_, ?_⟩
  · rintro rfl
    exact absurd hb (by decide)
  · rintro rfl
    exact absurd hx (by decide)
  · rintro rfl
    exact absurd hy (by decide)
  · rintro rfl
    exact absurd hz (by decide)
  · rintro rfl
    exact absurd hc (by decide)

/-- What the opening of assignments is tested for. -/
lemma of_assignments? (h : assignments? s = some rest) :
    ∃ c s' b more, s = c :: s' ∧ isBlank c = true ∧
      dropWord? "SET".toList (trimStart s) = some (b :: more) ∧ isBlank b = true ∧
      rest = trimStart more := by
  cases s with
  | nil => cases h
  | cons c s =>
    rw [assignments?] at h
    split at h
    · next hc =>
      split at h
      · next b more hword =>
        split at h
        · next hb => exact ⟨c, s, b, more, rfl, hc, hword, hb, (Option.some.inj h).symm⟩
        · cases h
      · cases h
    · cases h

lemma opens_of_assignments? (h : assignments? s = some rest) : Opens s rest := by
  obtain ⟨c, s', b, more, rfl, hc, hword, hb, hrest⟩ := of_assignments? h
  obtain ⟨word, hstart, hform⟩ := dropWord?_eq_some_iff.mp hword
  have hsplit : c :: s' = (c :: s').takeWhile isBlank ++ trimStart (c :: s') :=
    List.takeWhile_append_dropWhile.symm
  have hall : IsBlanks ((c :: s').takeWhile isBlank) := fun d hd => List.mem_takeWhile_imp hd
  have hne : (c :: s').takeWhile isBlank ≠ [] := by simp [hc]
  -- The blank next to the word belongs to its opening.
  obtain ⟨blanks, last, hlast⟩ := (List.eq_nil_or_concat _).resolve_left hne
  rw [hlast] at hall hsplit
  rw [hstart] at hsplit
  refine ⟨blanks, last :: (word ++ [b]), more, ?_, ?_, .intro ?_ hform hb, hrest⟩
  · rw [hsplit]
    simp
  · exact fun d hd => hall d (by simp [hd])
  · exact hall last (by simp)

lemma Opens.assignments?_eq (h : Opens s rest) : assignments? s = some rest := by
  obtain ⟨blanks, w, more, rfl, hblanks, hw, rfl⟩ := h
  cases hw with
  | @intro b c word hb hword hc =>
    have hall : IsBlanks (blanks ++ [b]) := by
      intro d hd
      rcases List.mem_append.mp hd with hd | hd
      · exact hblanks d hd
      · rwa [List.mem_singleton.mp hd]
    have hs : blanks ++ b :: (word ++ [c]) ++ more = blanks ++ [b] ++ (word ++ c :: more) := by simp
    have htrim : trimStart (blanks ++ [b] ++ (word ++ c :: more)) = word ++ c :: more := by
      rw [trimStart, List.dropWhile_append_of_pos hall]
      apply trimStart_eq_self
      obtain ⟨x, y, z, rfl, hx, -, -⟩ := isForm_set_iff.mp hword
      simpa using isBlank_of_isLetter (by decide) hx
    have hdrop : dropWord? "SET".toList (word ++ c :: more) = some (c :: more) :=
      dropWord?_eq_some_iff.mpr ⟨word, rfl, hword⟩
    rw [hs]
    cases hfront : blanks ++ [b] with
    | nil => simp at hfront
    | cons d front =>
      rw [hfront] at hall htrim
      rw [List.cons_append] at htrim ⊢
      rw [assignments?, if_pos (hall d (by simp)), htrim, hdrop]
      exact if_pos hc

lemma assignments?_eq_some_iff : assignments? s = some rest ↔ Opens s rest :=
  ⟨opens_of_assignments?, Opens.assignments?_eq⟩

/-! ### The table -/

/-- The table is the shortest text, not empty, with assignments behind it. -/
structure IsTable (s table rest : List Char) : Prop where
  ne_nil : table ≠ []
  opens : ∃ more, s = table ++ more ∧ Opens more rest
  shortest : ∀ before more r, s = before ++ more → before ≠ [] → Opens more r →
    table.length ≤ before.length

lemma Opens.unique {r : List Char} (h : Opens s rest) (hr : Opens s r) : rest = r := by
  rw [← assignments?_eq_some_iff] at h hr
  exact Option.some.inj (h.symm.trans hr)

/-- The table ends as soon as assignments follow. -/
lemma isTable_cons_iff_of_opens {r : List Char} (h : Opens s r) :
    IsTable (c :: s) table rest ↔ table = [c] ∧ rest = r := by
  constructor
  · rintro ⟨hne, ⟨more, hs, hmore⟩, hshortest⟩
    have hlength := hshortest [c] s r rfl (by simp) h
    have hpos := List.length_pos_iff.mpr hne
    obtain ⟨d, rfl⟩ := List.length_eq_one_iff.mp (Nat.le_antisymm hlength hpos)
    obtain ⟨rfl, rfl⟩ := List.cons_eq_cons.mp hs
    exact ⟨rfl, hmore.unique h⟩
  · rintro ⟨rfl, rfl⟩
    refine ⟨by simp, ⟨s, rfl, h⟩, ?_⟩
    intro before more r _ hne _
    exact List.length_pos_iff.mpr hne

/-- The table goes on where no assignments follow. -/
lemma isTable_cons_iff_of_not_opens (h : ∀ r, ¬ Opens s r) :
    IsTable (c :: s) table rest ↔ ∃ t, table = c :: t ∧ IsTable s t rest := by
  constructor
  · rintro ⟨hne, ⟨more, hs, hmore⟩, hshortest⟩
    obtain ⟨d, t, rfl⟩ := List.exists_cons_of_ne_nil hne
    obtain ⟨rfl, rfl⟩ := List.cons_eq_cons.mp hs
    refine ⟨t, rfl, ?_, ⟨more, rfl, hmore⟩, ?_⟩
    · rintro rfl
      exact h rest hmore
    · intro before after r hs' hbefore hafter
      apply Nat.le_of_succ_le_succ
      exact hshortest (c :: before) after r (congrArg (c :: ·) hs') (by simp) hafter
  · rintro ⟨t, rfl, hne, ⟨more, rfl, hmore⟩, hshortest⟩
    refine ⟨by simp, ⟨more, rfl, hmore⟩, ?_⟩
    intro before after r hs hbefore hafter
    obtain ⟨d, before, rfl⟩ := List.exists_cons_of_ne_nil hbefore
    obtain ⟨-, hs⟩ := List.cons_eq_cons.mp hs
    have hne : before ≠ [] := by
      rintro rfl
      exact h r (hs ▸ hafter)
    exact Nat.succ_le_succ (hshortest before after r hs hne hafter)

lemma tableAndAssignments?_eq_some_iff :
    tableAndAssignments? s = some (table, rest) ↔ IsTable s table rest := by
  induction s generalizing table with
  | nil =>
    constructor
    · intro h
      cases h
    · rintro ⟨hne, ⟨more, hs, -⟩, -⟩
      exact absurd (List.append_eq_nil_iff.mp hs.symm).1 hne
  | cons c s ih =>
    rw [tableAndAssignments?]
    split
    · next r hr =>
      rw [isTable_cons_iff_of_opens (assignments?_eq_some_iff.mp hr), Option.some.injEq,
        Prod.mk.injEq, eq_comm, @eq_comm _ r]
    · next hnone =>
      have hclosed : ∀ r, ¬ Opens s r := by
        intro r hr
        rw [← assignments?_eq_some_iff, hnone] at hr
        cases hr
      rw [isTable_cons_iff_of_not_opens hclosed, Option.map_eq_some_iff]
      constructor
      · rintro ⟨⟨t, r⟩, hparts, heq⟩
        obtain ⟨rfl, rfl⟩ := Prod.mk.inj heq
        exact ⟨t, rfl, ih.mp hparts⟩
      · rintro ⟨t, rfl, ht⟩
        exact ⟨(t, rest), ih.mpr ht, rfl⟩

/-- Where assignments follow some text, they follow a table. -/
lemma exists_isTable {before more : List Char} (hne : before ≠ []) (h : Opens more rest) :
    ∃ table r, IsTable (before ++ more) table r := by
  suffices ∃ parts, tableAndAssignments? (before ++ more) = some parts by
    obtain ⟨⟨table, r⟩, hparts⟩ := this
    exact ⟨table, r, tableAndAssignments?_eq_some_iff.mp hparts⟩
  induction before with
  | nil => exact absurd rfl hne
  | cons c before ih =>
    rw [List.cons_append, tableAndAssignments?]
    split
    · exact ⟨_, rfl⟩
    · next hnone =>
      have hbefore : before ≠ [] := by
        rintro rfl
        rw [List.nil_append, assignments?_eq_some_iff.mpr h] at hnone
        cases hnone
      obtain ⟨parts, hparts⟩ := ih hbefore
      exact ⟨_, by rw [hparts]; rfl⟩

/-- An update with one blank in front of its table is reworded behind the table. -/
lemma altered_update (h : IsTable (c :: s) table rest) (hc : isBlank c = false) :
    altered ("UPDATE ".toList ++ c :: s)
      = "ALTER TABLE ".toList ++ table ++ " UPDATE ".toList ++ rest := by
  have hblanks : afterBlanks? (' ' :: c :: s) = some (table, rest) := by
    have hnone : afterBlanks? (c :: s) = none := by rw [afterBlanks?, hc]; rfl
    rw [afterBlanks?, hnone, tableAndAssignments?_eq_some_iff.mpr h]
    rfl
  have hword : dropWord? "UPDATE".toList (trimStart ("UPDATE ".toList ++ c :: s))
      = some (' ' :: c :: s) := rfl
  rw [altered, hword, Option.bind_some, hblanks]
  rfl

/-! ### Tables in quotes -/

/-- The text begins and ends with a backtick. -/
def IsQuoted (s : List Char) : Prop :=
  ∃ inside, s = '\x60' :: (inside ++ ['\x60'])

lemma IsQuoted.ne_nil (h : IsQuoted s) : s ≠ [] := by
  obtain ⟨inside, rfl⟩ := h
  simp

/-- What is left of a quoted text ends with a backtick. -/
lemma IsQuoted.of_append (h : IsQuoted (s ++ t)) (ht : t ≠ []) : ∃ u, t = u ++ ['\x60'] := by
  obtain ⟨inside, hs⟩ := h
  obtain ⟨u, c, rfl⟩ := (List.eq_nil_or_concat t).resolve_left ht
  rw [List.concat_eq_append, ← List.append_assoc, ← List.cons_append] at hs
  obtain ⟨-, hc⟩ := List.append_inj' hs rfl
  exact ⟨u, by rw [List.concat_eq_append, hc]⟩

lemma opens_set (a : List Char) : Opens (" SET ".toList ++ a) (trimStart a) := by
  have hform : IsForm "SET".toList "SET".toList := isForm_set_iff.mpr ⟨_, _, _, rfl, by decide⟩
  have hopener : IsOpener (' ' :: ("SET".toList ++ [' '])) := .intro (by decide) hform (by decide)
  exact ⟨[], _, a, rfl, by simp, hopener, rfl⟩

lemma not_opens_update (a : List Char) : ¬ Opens (' ' :: 'U' :: a) rest := by
  intro h
  rw [← assignments?_eq_some_iff] at h
  cases h

/-- Behind a part of a quoted text, assignments open within the text. -/
lemma hasOpener_of_opens (hs : IsQuoted (s ++ t)) (ht : t ≠ []) {a : List Char}
    (h : Opens (t ++ a) rest) : HasOpener t := by
  obtain ⟨u, rfl⟩ := hs.of_append ht
  obtain ⟨blanks, w, more, heq, hblanks, hw, -⟩ := h
  have hfree : '\x60' ∉ blanks ++ w := by
    rw [List.mem_append, not_or]
    refine ⟨fun hmem => ?_, hw.not_mem⟩
    exact absurd (hblanks _ hmem) (by decide)
  have hprefix : blanks ++ w <+: u := by
    apply prefix_of_not_mem (y := a) ⟨more, ?_⟩ hfree
    rw [← heq]
    simp
  refine ⟨w, hw, ?_⟩
  calc w <:+: blanks ++ w := (List.suffix_append blanks w).isInfix
    _ <:+: u := hprefix.isInfix
    _ <:+: u ++ ['\x60'] := (List.prefix_append u _).isInfix

/-- A quoted text is the table if the word that opens assignments is not in it. -/
lemma isTable_iff {a : List Char} (ht : IsQuoted t) :
    IsTable (t ++ (" SET ".toList ++ a)) t (trimStart a) ↔ ¬ HasOpener t := by
  constructor
  · rintro htable ⟨w, hw, p, q, rfl⟩
    have hopens : Opens (w ++ (q ++ (" SET ".toList ++ a))) (trimStart (q ++ _)) :=
      ⟨[], w, _, rfl, by simp, hw, rfl⟩
    have hp : p ≠ [] := by
      rintro rfl
      obtain ⟨inside, hinside⟩ := ht
      obtain ⟨hb, hword, hc⟩ := hw
      obtain ⟨rfl, -⟩ := List.cons_eq_cons.mp hinside
      exact absurd hb (by decide)
    have hlength := htable.shortest p _ _ (by simp) hp hopens
    obtain ⟨hb, hword, hc⟩ := hw
    simp only [List.length_append, List.length_cons] at hlength
    omega
  · intro hfree
    refine ⟨ht.ne_nil, ⟨_, rfl, opens_set a⟩, ?_⟩
    intro before more r hs _ hmore
    by_contra hlength
    rcases List.append_eq_append_iff.mp hs with ⟨u, rfl, -⟩ | ⟨u, rfl, hu⟩
    · exact hlength (by simp)
    · have hne : u ≠ [] := by
        rintro rfl
        exact hlength (by simp)
      have hopener : HasOpener u := hasOpener_of_opens ht hne (hu ▸ hmore)
      exact hfree (hopener.mono (List.suffix_append before u).isInfix)

/-- Reworded as it should be, an update has the quoted text for its table. -/
lemma eq_of_isTable {a : List Char} (ht : IsQuoted t)
    (h : IsTable (t ++ (" SET ".toList ++ a)) table rest)
    (heq : table ++ (" UPDATE ".toList ++ rest) = t ++ (" UPDATE ".toList ++ a)) :
    table = t ∧ rest = a := by
  obtain ⟨-, ⟨more, hsplit, hopens⟩, hshortest⟩ := h
  have hlength := hshortest t _ _ rfl ht.ne_nil (opens_set a)
  rcases List.append_eq_append_iff.mp hsplit with ⟨u, rfl, -⟩ | ⟨u, rfl, hu⟩
  · have hu : u = [] := by
      rw [← List.length_eq_zero_iff]
      simp only [List.length_append] at hlength
      omega
    subst hu
    rw [List.append_nil, List.append_cancel_left_eq, List.append_cancel_left_eq] at heq
    exact ⟨List.append_nil t, heq⟩
  · rw [List.append_assoc, List.append_cancel_left_eq] at heq
    cases u with
    | nil =>
      rw [List.nil_append, List.append_cancel_left_eq] at heq
      exact ⟨(List.append_nil table).symm, heq⟩
    | cons c u =>
      -- The rest of the text would begin as ` UPDATE ` does, which opens no assignments.
      obtain ⟨v, hv⟩ := ht.of_append (List.cons_ne_nil c u)
      have hupdate : " UPDATE ".toList = ' ' :: 'U' :: "PDATE ".toList := by decide
      rw [hupdate, List.cons_append, List.cons_append, List.cons_append, List.cons_eq_cons] at heq
      obtain ⟨rfl, heq⟩ := heq
      cases u with
      | nil =>
        cases v with
        | nil => exact absurd hv (by decide)
        | cons d v => simp at hv
      | cons d u =>
        rw [List.cons_append, List.cons_eq_cons] at heq
        obtain ⟨rfl, -⟩ := heq
        rw [hu] at hopens
        exact absurd hopens (not_opens_update _)

/-- An update of a quoted table is reworded between its table and its assignments exactly if the
word that opens assignments is not in the table, and no blank is in front of the assignments. -/
theorem altered_update_eq_iff {a : List Char} (ht : IsQuoted t) :
    altered ("UPDATE ".toList ++ t ++ " SET ".toList ++ a)
        = "ALTER TABLE ".toList ++ t ++ " UPDATE ".toList ++ a ↔
      ¬ HasOpener t ∧ ∀ c ∈ a.head?, isBlank c = false := by
  have haltered : ∀ {table rest : List Char}, IsTable (t ++ (" SET ".toList ++ a)) table rest →
      altered ("UPDATE ".toList ++ t ++ " SET ".toList ++ a)
        = "ALTER TABLE ".toList ++ (table ++ (" UPDATE ".toList ++ rest)) := by
    intro table rest htable
    obtain ⟨inside, rfl⟩ := ht
    rw [List.cons_append] at htable
    rw [List.append_assoc, List.append_assoc, List.cons_append, altered_update htable (by decide),
      List.append_assoc, List.append_assoc]
  constructor
  · intro h
    obtain ⟨table, rest, htable⟩ := exists_isTable ht.ne_nil (opens_set a)
    rw [haltered htable, List.append_assoc, List.append_assoc, List.append_cancel_left_eq] at h
    obtain ⟨rfl, rfl⟩ := eq_of_isTable ht htable h
    obtain ⟨more, hmore, hopens⟩ := htable.opens
    obtain rfl := List.append_cancel_left hmore
    have hrest : trimStart rest = rest := (opens_set rest).unique hopens
    refine ⟨(isTable_iff (a := rest) ht).mp (by rwa [hrest]), fun c hc => ?_⟩
    rw [← hrest] at hc
    have hfirst := List.head?_dropWhile_not isBlank rest
    rw [← trimStart, Option.mem_def.mp hc] at hfirst
    exact hfirst
  · rintro ⟨hfree, hhead⟩
    have htable := (isTable_iff (a := a) ht).mpr hfree
    rw [trimStart_eq_self hhead] at htable
    rw [haltered htable, List.append_assoc, List.append_assoc]

end Wording

end SqlWorkbench
