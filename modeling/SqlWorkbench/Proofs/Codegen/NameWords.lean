import Mathlib.Data.List.Basic
import Mathlib.Tactic.Common
import SqlWorkbench.Codegen.Naming

/-!
# Words of a name

The words of a name are its letters and digits in order, with a cut wherever another character
stands and between two of them where the case changes. Whether a character ends a word is decided by
the one or two behind it, so the words are told from the end of the name: a character is a word of
its own or joins the first of the words behind it. Main statement: the words of a name are the one
way to part its letters and digits with exactly these cuts.
-/

namespace SqlWorkbench.Naming

variable {a b c d : Char} {s p q name before after w : List Char}
  {parts others ws : List (List Char)}

/-! ### Cuts -/

/-- A part ends between the two texts that the parts make up. -/
def IsCut (parts : List (List Char)) (p q : List Char) : Prop :=
  ∃ front back, parts = front ++ back ∧ front.flatten = p ∧ back.flatten = q

lemma isCut_front (parts : List (List Char)) : IsCut parts [] parts.flatten :=
  ⟨[], parts, rfl, rfl, rfl⟩

lemma isCut_back (parts : List (List Char)) : IsCut parts parts.flatten [] :=
  ⟨parts, [], (List.append_nil parts).symm, rfl, rfl⟩

lemma isCut_head (w : List Char) (ws : List (List Char)) : IsCut (w :: ws) w ws.flatten :=
  ⟨[w], ws, rfl, List.append_nil w, rfl⟩

lemma not_isCut_nil (hp : p ≠ []) : ¬ IsCut [] p q := by
  rintro ⟨front, back, hparts, rfl, -⟩
  obtain ⟨rfl, -⟩ := List.append_eq_nil_iff.mp hparts.symm
  exact hp rfl

lemma IsCut.flatten_eq (h : IsCut parts p q) : parts.flatten = p ++ q := by
  obtain ⟨front, back, rfl, rfl, rfl⟩ := h
  exact List.flatten_append

/-- No cut leaves out a piece of the first part. -/
lemma IsCut.isPrefix (h : IsCut (w :: ws) p q) (hp : p ≠ []) : w <+: p := by
  obtain ⟨_ | ⟨v, front⟩, back, hparts, rfl, -⟩ := h
  · exact absurd rfl hp
  · obtain ⟨rfl, -⟩ := List.cons_eq_cons.mp hparts
    exact List.prefix_append w front.flatten

/-- Behind a whole part lie the cuts of those that follow it. -/
lemma isCut_cons_append (hw : w ≠ []) : IsCut (w :: ws) (w ++ p) q ↔ IsCut ws p q := by
  constructor
  · rintro ⟨_ | ⟨v, front⟩, back, hparts, hfront, hback⟩
    · exact absurd (List.append_eq_nil_iff.mp hfront.symm).1 hw
    · obtain ⟨rfl, rfl⟩ := List.cons_eq_cons.mp hparts
      exact ⟨front, back, rfl, List.append_cancel_left hfront, hback⟩
  · rintro ⟨front, back, rfl, rfl, rfl⟩
    exact ⟨w :: front, back, rfl, rfl, rfl⟩

/-- A character that joins the first part moves the cuts, the one in front of all parts aside. -/
lemma isCut_cons_cons (hp : p ≠ []) : IsCut ((c :: w) :: ws) (c :: p) q ↔ IsCut (w :: ws) p q := by
  constructor
  · rintro ⟨_ | ⟨v, front⟩, back, hparts, hfront, hback⟩
    · cases hfront
    · obtain ⟨rfl, rfl⟩ := List.cons_eq_cons.mp hparts
      exact ⟨w :: front, back, rfl, List.tail_eq_of_cons_eq hfront, hback⟩
  · rintro ⟨_ | ⟨v, front⟩, back, hparts, hfront, hback⟩
    · exact absurd hfront.symm hp
    · obtain ⟨rfl, rfl⟩ := List.cons_eq_cons.mp hparts
      exact ⟨(c :: w) :: front, back, rfl, congrArg (c :: ·) hfront, hback⟩

/-- Parts that are not empty are known by their cuts. -/
lemma eq_of_isCut_iff (hparts : [] ∉ parts) (hothers : [] ∉ others)
    (h : ∀ p q, IsCut parts p q ↔ IsCut others p q) : parts = others := by
  induction parts generalizing others with
  | nil =>
    cases others with
    | nil => rfl
    | cons v vs =>
      have hv : v ≠ [] := (List.ne_of_not_mem_cons hothers).symm
      exact absurd ((h v vs.flatten).mpr (isCut_head v vs)) (not_isCut_nil hv)
  | cons w ws ih =>
    have hw : w ≠ [] := (List.ne_of_not_mem_cons hparts).symm
    cases others with
    | nil => exact absurd ((h w ws.flatten).mp (isCut_head w ws)) (not_isCut_nil hw)
    | cons v vs =>
      have hv : v ≠ [] := (List.ne_of_not_mem_cons hothers).symm
      have hvw : v <+: w := ((h w ws.flatten).mp (isCut_head w ws)).isPrefix hw
      have hwv : w <+: v := ((h v vs.flatten).mpr (isCut_head v vs)).isPrefix hv
      obtain rfl := hwv.eq_of_length_le hvw.length_le
      have hrest := ih (List.not_mem_of_not_mem_cons hparts)
        (List.not_mem_of_not_mem_cons hothers) fun p q => by
          rw [← isCut_cons_append hw, h, isCut_cons_append hw]
      rw [hrest]

/-! ### Words from the end of a name -/

/-- The case changes between two letters or digits that stand side by side: to a capital behind a
small letter, or to the last of several capitals, which a small letter follows. -/
def ChangesCase (a b : Char) (after : List Char) : Prop :=
  Text.isUpper b = true ∧ (Text.isLower a = true ∨ Text.isUpper a = true ∧
    ∃ c ∈ after.head?, Text.isAlphanumeric c = true ∧ Text.isLower c = true)

/-- No letter or digit follows, or the case changes to the one that does. -/
def EndsWord (c : Char) (s : List Char) : Prop :=
  ∀ d ∈ s.head?, Text.isAlphanumeric d = true → ChangesCase c d s.tail

@[simp] lemma endsWord_nil (c : Char) : EndsWord c [] := by simp [EndsWord]

@[simp] lemma endsWord_cons : EndsWord c (d :: s) ↔
    (Text.isAlphanumeric d = true → ChangesCase c d s) := by
  simp [EndsWord]

/-- The words of a name, told from its end: a letter or digit is a word of its own or joins the next
word, and other characters are left out. -/
inductive Splits : List Char → List (List Char) → Prop
  | nil : Splits [] []
  | gap {c : Char} {s : List Char} {ws : List (List Char)} (hc : Text.isAlphanumeric c = false)
      (h : Splits s ws) : Splits (c :: s) ws
  | last {c : Char} {s : List Char} {ws : List (List Char)} (hc : Text.isAlphanumeric c = true)
      (hs : EndsWord c s) (h : Splits s ws) : Splits (c :: s) ([c] :: ws)
  | join {c : Char} {s w : List Char} {ws : List (List Char)} (hc : Text.isAlphanumeric c = true)
      (hs : ¬ EndsWord c s) (h : Splits s (w :: ws)) : Splits (c :: s) ((c :: w) :: ws)

lemma words_cons_of_neg (hc : Text.isAlphanumeric c = false) : words (c :: s) = words s := by
  rw [words, alphanumericRuns, alphanumericRuns.go, if_neg (by simp [hc])]
  rfl

/-- The run that is collected goes on with the letters and digits that follow. -/
lemma alphanumericRuns_go (hw : w ≠ []) (s : List Char) :
    alphanumericRuns.go s w = (w.reverse ++ s.takeWhile Text.isAlphanumeric) ::
      alphanumericRuns (s.dropWhile Text.isAlphanumeric) := by
  fun_induction alphanumericRuns.go s w with
  | case1 run hempty => exact absurd (List.isEmpty_iff.mp hempty) hw
  | case2 run hempty => simp [alphanumericRuns, alphanumericRuns.go]
  | case3 c rest run hc ih => simp [ih, hc]
  | case4 c rest run hc hempty ih => exact absurd (List.isEmpty_iff.mp hempty) hw
  | case5 c rest run hc hempty ih =>
    rw [List.takeWhile_cons_of_neg hc, List.dropWhile_cons_of_neg hc, List.append_nil,
      alphanumericRuns, alphanumericRuns.go, if_neg hc]
    rfl

lemma words_cons_of_pos (hc : Text.isAlphanumeric c = true) : words (c :: s) =
    wordsOfRun (c :: s.takeWhile Text.isAlphanumeric) ++
      words (s.dropWhile Text.isAlphanumeric) := by
  rw [words, alphanumericRuns, alphanumericRuns.go, if_pos hc,
    alphanumericRuns_go (List.cons_ne_nil c [])]
  rfl

/-- The word that is collected is the beginning of the first one. -/
lemma exists_wordsOfRun_go (previous : Char) (s : List Char) : ∃ w ws, ∀ word,
    wordsOfRun.go previous word s = (word.reverse ++ w) :: ws := by
  induction s generalizing previous with
  | nil => exact ⟨[], [], fun word => by simp [wordsOfRun.go]⟩
  | cons c s ih =>
    by_cases h : isBoundary previous c s.head? = true
    · exact ⟨[], wordsOfRun.go c [c] s, fun word => by simp [wordsOfRun.go, h]⟩
    · obtain ⟨w, ws, hgo⟩ := ih c
      exact ⟨c :: w, ws, fun word => by simp [wordsOfRun.go, h, hgo]⟩

lemma wordsOfRun_of_isBoundary (h : isBoundary c d s.head? = true) :
    wordsOfRun (c :: d :: s) = [c] :: wordsOfRun (d :: s) := by
  rw [wordsOfRun, wordsOfRun.go, if_pos h]
  rfl

lemma exists_wordsOfRun (h : ¬ isBoundary c d s.head? = true) : ∃ w ws,
    wordsOfRun (d :: s) = w :: ws ∧ wordsOfRun (c :: d :: s) = (c :: w) :: ws := by
  obtain ⟨w, ws, hgo⟩ := exists_wordsOfRun_go d s
  refine ⟨d :: w, ws, hgo [d], ?_⟩
  rw [wordsOfRun, wordsOfRun.go, if_neg h]
  exact hgo [d, c]

/-- The character behind the next one is looked at only in the same run. -/
lemma isBoundary_iff_changesCase (a b : Char) (after : List Char) :
    isBoundary a b (after.takeWhile Text.isAlphanumeric).head? = true ↔ ChangesCase a b after := by
  cases after with
  | nil => simp [isBoundary, ChangesCase]
  | cons c rest =>
    by_cases hc : Text.isAlphanumeric c = true <;> simp [isBoundary, ChangesCase, hc]

/-- Two letters or digits that stand side by side are in one run. -/
lemma splits_words_cons_cons (hc : Text.isAlphanumeric c = true)
    (hd : Text.isAlphanumeric d = true) (h : Splits (d :: s) (words (d :: s))) :
    Splits (c :: d :: s) (words (c :: d :: s)) := by
  have hends : EndsWord c (d :: s) ↔
      isBoundary c d (s.takeWhile Text.isAlphanumeric).head? = true := by
    rw [endsWord_cons, forall_prop_of_true hd, isBoundary_iff_changesCase]
  rw [words_cons_of_pos hd] at h
  rw [words_cons_of_pos hc, List.takeWhile_cons_of_pos hd, List.dropWhile_cons_of_pos hd]
  by_cases hboundary : isBoundary c d (s.takeWhile Text.isAlphanumeric).head? = true
  · rw [wordsOfRun_of_isBoundary hboundary]
    exact .last hc (hends.mpr hboundary) h
  · obtain ⟨w, ws, hnext, hjoined⟩ := exists_wordsOfRun hboundary
    rw [hnext] at h
    rw [hjoined]
    exact .join hc (mt hends.mp hboundary) h

lemma splits_words (name : List Char) : Splits name (words name) := by
  induction name with
  | nil => exact .nil
  | cons c s ih =>
    cases hc : Text.isAlphanumeric c with
    | false =>
      rw [words_cons_of_neg hc]
      exact .gap hc ih
    | true =>
      rcases s with _ | ⟨d, s⟩
      · exact words_cons_of_pos hc ▸ .last hc (endsWord_nil c) ih
      cases hd : Text.isAlphanumeric d with
      | false =>
        rw [words_cons_of_pos hc, List.takeWhile_cons_of_neg (by simp [hd]),
          List.dropWhile_cons_of_neg (by simp [hd])]
        exact .last hc (by simp [hd]) ih
      | true => exact splits_words_cons_cons hc hd ih

/-! ### The cuts between words -/

lemma Splits.nil_notMem (h : Splits name ws) : [] ∉ ws := by
  induction h with
  | nil => exact List.not_mem_nil
  | gap _ _ ih => exact ih
  | last _ _ _ ih => exact List.not_mem_cons_of_ne_of_not_mem (List.cons_ne_nil _ _).symm ih
  | join _ _ _ ih =>
    exact List.not_mem_cons_of_ne_of_not_mem (List.cons_ne_nil _ _).symm
      (List.not_mem_of_not_mem_cons ih)

lemma Splits.flatten_eq (h : Splits name ws) : ws.flatten = name.filter Text.isAlphanumeric := by
  induction h with
  | nil => rfl
  | gap hc _ ih => rw [ih, List.filter_cons_of_neg (by simpa using hc)]
  | last hc _ _ ih =>
    rw [List.filter_cons_of_pos hc, ← ih]
    rfl
  | join hc _ _ ih =>
    rw [List.filter_cons_of_pos hc, ← ih]
    rfl

/-- A word has only letters and digits of the name. -/
lemma mem_of_mem_words (hw : w ∈ words name) (hc : c ∈ w) :
    c ∈ name ∧ Text.isAlphanumeric c = true := by
  rw [← List.mem_filter, ← (splits_words name).flatten_eq]
  exact List.mem_flatten_of_mem hw hc

/-- The cuts behind the first character are those of the words without it. The cut in front of all
of them counts only if the character is a word of its own. -/
lemma Splits.exists_tail (h : Splits (c :: s) ws) : ∃ vs, Splits s vs ∧
    ∀ p q, (p.filter Text.isAlphanumeric = [] → EndsWord c s) →
      (IsCut ws ((c :: p).filter Text.isAlphanumeric) q ↔
        IsCut vs (p.filter Text.isAlphanumeric) q) := by
  cases h with
  | gap hc h => exact ⟨ws, h, fun p q _ => by rw [List.filter_cons_of_neg (by simp [hc])]⟩
  | @last _ _ vs hc _ h =>
    refine ⟨vs, h, fun p q _ => ?_⟩
    rw [List.filter_cons_of_pos hc]
    exact isCut_cons_append (List.cons_ne_nil c [])
  | @join _ _ w vs hc hs h =>
    refine ⟨w :: vs, h, fun p q hp => ?_⟩
    rw [List.filter_cons_of_pos hc]
    exact isCut_cons_cons (mt hp hs)

/-- There is a cut wherever another character than a letter or digit stands. -/
lemma Splits.isCut_of_gap (h : Splits (before ++ c :: after) ws)
    (hc : Text.isAlphanumeric c = false) :
    IsCut ws (before.filter Text.isAlphanumeric) (after.filter Text.isAlphanumeric) := by
  induction before generalizing ws with
  | nil =>
    cases h with
    | gap _ h => exact h.flatten_eq ▸ isCut_front ws
    | last hc' | join hc' => simp [hc] at hc'
  | cons d before ih =>
    obtain ⟨vs, hvs, hcut⟩ := h.exists_tail
    refine (hcut before _ fun hbefore => ?_).mpr (ih hvs)
    -- The cut is right behind `d`: what follows it is no letter or digit.
    cases before with
    | nil => simp [hc]
    | cons e before =>
      have he : ¬ Text.isAlphanumeric e = true :=
        List.filter_eq_nil_iff.mp hbefore e List.mem_cons_self
      simp [he]

/-- Between two letters or digits that stand side by side, there is a cut where the case changes. -/
lemma Splits.isCut_iff (h : Splits (before ++ a :: b :: after) ws)
    (ha : Text.isAlphanumeric a = true) (hb : Text.isAlphanumeric b = true) :
    IsCut ws ((before ++ [a]).filter Text.isAlphanumeric)
      ((b :: after).filter Text.isAlphanumeric) ↔ ChangesCase a b after := by
  induction before generalizing ws with
  | nil =>
    rw [List.nil_append, List.filter_cons_of_pos ha, List.filter_nil]
    cases h with
    | gap ha' => simp [ha] at ha'
    | @last _ _ vs _ hs h =>
      rw [← h.flatten_eq]
      exact iff_of_true (isCut_head [a] vs) (endsWord_cons.mp hs hb)
    | @join _ _ w vs _ hs h =>
      have hw : w ≠ [] := (List.ne_of_not_mem_cons h.nil_notMem).symm
      refine iff_of_false (fun hcut => hw ?_) fun hcase => hs (endsWord_cons.mpr fun _ => hcase)
      exact List.prefix_nil.mp (List.cons_prefix_cons.mp (hcut.isPrefix (List.cons_ne_nil a []))).2
  | cons d before ih =>
    obtain ⟨vs, hvs, hcut⟩ := h.exists_tail
    rw [List.cons_append, hcut _ _ (by simp [ha])]
    exact ih hvs

/-! ### Partitions -/

/-- The words partition the letters and digits of a name: none is empty, they hold nothing else and
all of it in order, and one ends wherever another character stands, and between two letters or
digits that stand side by side exactly if the case changes. -/
structure Partitions (name : List Char) (ws : List (List Char)) : Prop where
  nil_notMem : [] ∉ ws
  isAlphanumeric : ∀ w ∈ ws, ∀ c ∈ w, Text.isAlphanumeric c = true
  flatten_eq : ws.flatten = name.filter Text.isAlphanumeric
  isCut_gap : ∀ before c after, name = before ++ c :: after → Text.isAlphanumeric c = false →
    IsCut ws (before.filter Text.isAlphanumeric) (after.filter Text.isAlphanumeric)
  isCut_adjacent : ∀ before a b after, name = before ++ a :: b :: after →
    Text.isAlphanumeric a = true → Text.isAlphanumeric b = true →
      (IsCut ws ((before ++ [a]).filter Text.isAlphanumeric)
        ((b :: after).filter Text.isAlphanumeric) ↔ ChangesCase a b after)

lemma Splits.partitions (h : Splits name ws) : Partitions name ws where
  nil_notMem := h.nil_notMem
  isAlphanumeric w hw c hc := by
    have hmem : c ∈ name.filter Text.isAlphanumeric :=
      h.flatten_eq ▸ List.mem_flatten_of_mem hw hc
    exact (List.mem_filter.mp hmem).2
  flatten_eq := h.flatten_eq
  isCut_gap before c after hname hc := by
    subst hname
    exact h.isCut_of_gap hc
  isCut_adjacent before a b after hname ha hb := by
    subst hname
    exact h.isCut_iff ha hb

/-- Wherever a name is divided, it is said whether there is a cut. -/
lemma Partitions.isCut_filter_iff (h : Partitions (p ++ q) ws) (h' : Partitions (p ++ q) others) :
    IsCut ws (p.filter Text.isAlphanumeric) (q.filter Text.isAlphanumeric) ↔
      IsCut others (p.filter Text.isAlphanumeric) (q.filter Text.isAlphanumeric) := by
  rcases List.eq_nil_or_concat' p with rfl | ⟨before, a, rfl⟩
  · exact iff_of_true (h.flatten_eq ▸ isCut_front ws) (h'.flatten_eq ▸ isCut_front others)
  rcases q with _ | ⟨b, after⟩
  · rw [List.append_nil] at h h'
    exact iff_of_true (h.flatten_eq ▸ isCut_back ws) (h'.flatten_eq ▸ isCut_back others)
  have hname : before ++ [a] ++ b :: after = before ++ a :: b :: after := by simp
  cases ha : Text.isAlphanumeric a with
  | false =>
    have hfilter : (before ++ [a]).filter Text.isAlphanumeric
        = before.filter Text.isAlphanumeric := by simp [ha]
    rw [hfilter]
    exact iff_of_true (h.isCut_gap _ _ _ hname ha) (h'.isCut_gap _ _ _ hname ha)
  | true =>
    cases hb : Text.isAlphanumeric b with
    | false =>
      rw [List.filter_cons_of_neg (by simp [hb])]
      exact iff_of_true (h.isCut_gap _ _ _ rfl hb) (h'.isCut_gap _ _ _ rfl hb)
    | true =>
      exact (h.isCut_adjacent _ _ _ _ hname ha hb).trans
        (h'.isCut_adjacent _ _ _ _ hname ha hb).symm

lemma Partitions.isCut_of_isCut (h : Partitions name ws) (h' : Partitions name others)
    (hcut : IsCut ws p q) : IsCut others p q := by
  obtain ⟨front, back, rfl, rfl, rfl⟩ :=
    List.filter_eq_append_iff.mp (h.flatten_eq.symm.trans hcut.flatten_eq)
  exact (h.isCut_filter_iff h').mp hcut

/-- The words of a name partition its letters and digits, and nothing else does so. -/
theorem partitions_iff (name : List Char) (ws : List (List Char)) :
    Partitions name ws ↔ ws = words name := by
  constructor
  · intro h
    have hwords := (splits_words name).partitions
    exact eq_of_isCut_iff h.nil_notMem hwords.nil_notMem fun p q =>
      ⟨h.isCut_of_isCut hwords, hwords.isCut_of_isCut h⟩
  · rintro rfl
    exact (splits_words name).partitions

example : words "HTTPServer_id".toList = ["HTTP".toList, "Server".toList, "id".toList] := by
  decide

end SqlWorkbench.Naming
