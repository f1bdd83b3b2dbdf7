import Mathlib.Logic.Relation
import Mathlib.Tactic.Common
import SqlWorkbench.Query.Compile

/-!
# Junctions keep their meaning

A tree of junctions is written with few parentheses: only around a junction of several conditions
that stands in another junction. The text is read back by the rule that `AND` binds tighter than
`OR`, with the texts of the leaves as atoms. Main statement: the text has exactly one meaning, that
of the tree, whatever holds of the leaves, and the leaves stand in the order of the tree.
-/

namespace SqlWorkbench

open Text

/-! ### Reading conditions -/

/-- How tightly the parts of a condition are held together. -/
inductive Tightness where
  | operand | conjunction | disjunction

/-- A text is a condition over atoms, each a text of which it is given whether it holds; the atoms
are used up from left to right. Operands are atoms and conditions in parentheses, conjunctions join
operands, and disjunctions join conjunctions. -/
inductive Reads : Tightness → List (String × Bool) → String → Bool → Prop where
  | atom (text : String) (holds : Bool) : Reads .operand [(text, holds)] text holds
  | group {atoms : List (String × Bool)} {text : String} {holds : Bool}
    (h : Reads .disjunction atoms text holds) : Reads .operand atoms ("(" ++ text ++ ")") holds
  | factor {atoms : List (String × Bool)} {text : String} {holds : Bool}
    (h : Reads .operand atoms text holds) : Reads .conjunction atoms text holds
  | and {as bs : List (String × Bool)} {s t : String} {a b : Bool}
    (hs : Reads .operand as s a) (ht : Reads .conjunction bs t b) :
    Reads .conjunction (as ++ bs) (s ++ " AND " ++ t) (a && b)
  | term {atoms : List (String × Bool)} {text : String} {holds : Bool}
    (h : Reads .conjunction atoms text holds) : Reads .disjunction atoms text holds
  | or {as bs : List (String × Bool)} {s t : String} {a b : Bool}
    (hs : Reads .conjunction as s a) (ht : Reads .disjunction bs t b) :
    Reads .disjunction (as ++ bs) (s ++ " OR " ++ t) (a || b)

/-! ### One reading at most -/

/-- A scanner of conditions in front of an operand or behind one. For each open parenthesis it knows
whether a finished term holds and whether all factors of the current term hold. -/
inductive Scanner where
  | operand (frames : List (Bool × Bool)) (atoms : List (String × Bool)) (text : List Char)
  | connective (frames : List (Bool × Bool)) (atoms : List (String × Bool)) (text : List Char)

namespace Scanner

/-- One step of the scanner. -/
def step? : Scanner → Option Scanner
  | operand frames atoms ('(' :: rest) => some (operand ((false, true) :: frames) atoms rest)
  | operand ((terms, factors) :: frames) ((text, holds) :: atoms) s =>
    (dropPrefix? text.toList s).map (connective ((terms, factors && holds) :: frames) atoms)
  | operand _ _ _ => none
  | connective frames atoms (' ' :: 'A' :: 'N' :: 'D' :: ' ' :: rest) =>
    some (operand frames atoms rest)
  | connective ((terms, factors) :: frames) atoms (' ' :: 'O' :: 'R' :: ' ' :: rest) =>
    some (operand ((terms || factors, true) :: frames) atoms rest)
  | connective ((terms, factors) :: (terms', factors') :: frames) atoms (')' :: rest) =>
    some (connective ((terms', factors' && (terms || factors)) :: frames) atoms rest)
  | connective _ _ _ => none

/-- Any number of steps. -/
abbrev Steps : Scanner → Scanner → Prop :=
  Relation.ReflTransGen fun s t => s.step? = some t

lemma Steps.unique {s t u : Scanner} (hst : Steps s t) (ht : t.step? = none) (hsu : Steps s u)
    (hu : u.step? = none) : t = u := by
  have hstuck {t u : Scanner} (ht : t.step? = none) (htu : Steps t u) : t = u := by
    rcases Relation.ReflTransGen.cases_head htu with rfl | ⟨v, htv, -⟩
    · rfl
    · rw [ht] at htv
      cases htv
  have hdeterministic : Relator.RightUnique fun s t : Scanner => s.step? = some t :=
    fun s t u ht hu => Option.some.inj (ht.symm.trans hu)
  rcases Relation.ReflTransGen.total_of_right_unique hdeterministic hst hsu with htu | hut
  · exact hstuck ht htu
  · exact (hstuck hu hut).symm

/-- What the scanner does with a condition. In a disjunction it may have finished terms on the way,
so that only the two parts of its frame together are determined. -/
def Takes : Tightness → List (String × Bool) → String → Bool → Prop
  | .disjunction, atoms, text, holds => ∀ terms frames more rest, ∃ terms' factors',
    (terms' || factors') = (terms || holds) ∧
      Steps (operand ((terms, true) :: frames) (atoms ++ more) (text.toList ++ rest))
        (connective ((terms', factors') :: frames) more rest)
  | _, atoms, text, holds => ∀ terms factors frames more rest,
      Steps (operand ((terms, factors) :: frames) (atoms ++ more) (text.toList ++ rest))
        (connective ((terms, factors && holds) :: frames) more rest)

/-- The text begins like no parenthesis. -/
def IsPlain (text : String) : Prop :=
  ∃ c s, text.toList = c :: s ∧ c ≠ '('

lemma step?_atom {text : String} (htext : IsPlain text) (terms factors holds : Bool)
    (frames : List (Bool × Bool)) (more : List (String × Bool)) (rest : List Char) :
    (operand ((terms, factors) :: frames) ((text, holds) :: more) (text.toList ++ rest)).step?
      = some (connective ((terms, factors && holds) :: frames) more rest) := by
  obtain ⟨c, s, heq, hc⟩ := htext
  have hdrop : dropPrefix? (c :: s) (c :: (s ++ rest)) = some rest :=
    dropPrefix?_eq_some_iff.mpr rfl
  rw [heq, List.cons_append, step?, heq, hdrop, Option.map_some]
  intro rest' h
  exact hc (List.cons_eq_cons.mp h).1

/-- The scanner takes in every condition over plain atoms, and whatever follows. -/
lemma takes_of_reads {level : Tightness} {atoms : List (String × Bool)} {text : String}
    {holds : Bool} (h : Reads level atoms text holds) (hatoms : ∀ a ∈ atoms, IsPlain a.1) :
    Takes level atoms text holds := by
  -- What follows is arbitrary in the induction: a part of a condition is followed by the others.
  induction h with
  | atom text holds =>
    intro terms factors frames more rest
    exact .single (step?_atom (hatoms _ List.mem_cons_self) terms factors holds frames more rest)
  | @group atoms text holds _ ih =>
    -- Between the parentheses there is a frame of its own, which counts as one factor outside.
    intro terms factors frames more rest
    obtain ⟨terms', factors', hholds, hsteps⟩ :=
      ih hatoms false ((terms, factors) :: frames) more (')' :: rest)
    have hfirst : (operand ((terms, factors) :: frames) (atoms ++ more)
        ('(' :: (text.toList ++ ')' :: rest))).step?
          = some (operand ((false, true) :: (terms, factors) :: frames) (atoms ++ more)
            (text.toList ++ ')' :: rest)) := rfl
    have hlast : (connective ((terms', factors') :: (terms, factors) :: frames) more
        (')' :: rest)).step?
          = some (connective ((terms, factors && holds) :: frames) more rest) := by
      rw [Bool.false_or] at hholds
      rw [step?, hholds]
    have htext : ("(" ++ text ++ ")").toList ++ rest = '(' :: (text.toList ++ ')' :: rest) := by
      simp
    rw [htext]
    exact .head hfirst (hsteps.tail hlast)
  | factor _ ih => exact ih hatoms
  | @and as bs s t a b _ _ ihs iht =>
    intro terms factors frames more rest
    rw [List.forall_mem_append] at hatoms
    have hs := ihs hatoms.1 terms factors frames (bs ++ more) (" AND ".toList ++ (t.toList ++ rest))
    have hstep : (connective ((terms, factors && a) :: frames) (bs ++ more)
        (" AND ".toList ++ (t.toList ++ rest))).step?
          = some (operand ((terms, factors && a) :: frames) (bs ++ more) (t.toList ++ rest)) := rfl
    have ht := iht hatoms.2 terms (factors && a) frames more rest
    rw [Bool.and_assoc] at ht
    simp only [String.toList_append, List.append_assoc] at hs ⊢
    exact hs.trans (.head hstep ht)
  | @term _ _ holds _ ih =>
    intro terms frames more rest
    exact ⟨terms, true && holds, by rw [Bool.true_and], ih hatoms terms true frames more rest⟩
  | @or as bs s t a b _ _ ihs iht =>
    intro terms frames more rest
    rw [List.forall_mem_append] at hatoms
    have hs := ihs hatoms.1 terms true frames (bs ++ more) (" OR ".toList ++ (t.toList ++ rest))
    have hstep : (connective ((terms, true && a) :: frames) (bs ++ more)
        (" OR ".toList ++ (t.toList ++ rest))).step?
          = some (operand ((terms || a, true) :: frames) (bs ++ more) (t.toList ++ rest)) := rfl
    obtain ⟨terms', factors', hholds, ht⟩ := iht hatoms.2 (terms || a) frames more rest
    refine ⟨terms', factors', by rw [hholds, Bool.or_assoc], ?_⟩
    simp only [String.toList_append, List.append_assoc] at hs ⊢
    exact hs.trans (.head hstep ht)

end Scanner

/-- A text has at most one meaning as a condition over plain atoms. -/
lemma Reads.unique {atoms : List (String × Bool)} {text : String} {a b : Bool}
    (hatoms : ∀ a ∈ atoms, Scanner.IsPlain a.1) (ha : Reads .disjunction atoms text a)
    (hb : Reads .disjunction atoms text b) : a = b := by
  obtain ⟨terms, factors, hholds, hsteps⟩ := Scanner.takes_of_reads ha hatoms false [] [] []
  obtain ⟨terms', factors', hholds', hsteps'⟩ := Scanner.takes_of_reads hb hatoms false [] [] []
  have hsame := hsteps.unique rfl hsteps' rfl
  obtain ⟨rfl, rfl⟩ : terms = terms' ∧ factors = factors' := by simpa using hsame
  simpa using hholds.symm.trans hholds'

/-! ### Trees of conditions -/

/-- What a connective makes of two truth values. -/
def Connective.apply : Connective → Bool → Bool → Bool
  | and, a, b => a && b
  | or, a, b => a || b

/-- The truth of nothing joined by a connective. -/
def Connective.neutral : Connective → Bool
  | and => true
  | or => false

namespace Expression

mutual

/-- What stands below the junctions of a tree, from left to right. -/
def leaves : Expression → List Expression
  | .junction _ items => leavesOfItems items
  | e => [e]

/-- The leaves of trees one after the other. -/
def leavesOfItems : List Expression → List Expression
  | [] => []
  | item :: rest => leaves item ++ leavesOfItems rest

end

mutual

/-- Whether a tree holds if it is given which of its leaves hold, numbered from left to right. -/
def truth (holds : Nat → Bool) : Expression → Bool
  | .junction connective items => truthOfItems connective holds items
  | _ => holds 0

/-- Whether trees joined by a connective hold, their leaves numbered through. -/
def truthOfItems (connective : Connective) (holds : Nat → Bool) : List Expression → Bool
  | [] => connective.neutral
  | item :: rest => connective.apply (truth holds item)
    (truthOfItems connective (fun i => holds (i + (leaves item).length)) rest)

end

lemma leavesOfItems_eq_flatMap (items : List Expression) :
    leavesOfItems items = items.flatMap leaves := by
  induction items with
  | nil => rw [leavesOfItems, List.flatMap_nil]
  | cons item items ih => rw [leavesOfItems, ih, List.flatMap_cons]

/-- A tree of junctions, none of them empty, over conditions of filters. -/
inductive IsConditionTree : Expression → Prop where
  | leaf {d : Dialect} {f : Filter} {e : Expression} (h : f.condition d = .ok e) :
    IsConditionTree e
  | junction {connective : Connective} {items : List Expression} (hne : items ≠ [])
    (h : ∀ item ∈ items, IsConditionTree item) : IsConditionTree (.junction connective items)

end Expression

/-- Texts, each with whether it holds. -/
def marked (holds : Nat → Bool) (texts : List String) : List (String × Bool) :=
  texts.mapIdx fun i text => (text, holds i)

lemma marked_append (holds : Nat → Bool) (texts more : List String) :
    marked holds (texts ++ more)
      = marked holds texts ++ marked (fun i => holds (i + texts.length)) more :=
  List.mapIdx_append

/-! ### Joining operands -/

/-- The level of what a connective joins. -/
def Connective.tightness : Connective → Tightness
  | and => .conjunction
  | or => .disjunction

namespace Reads

variable {atoms as bs : List (String × Bool)} {text s t : String} {holds a b : Bool}

lemma of_operand (h : Reads .operand atoms text holds) (connective : Connective) :
    Reads connective.tightness atoms text holds := by
  cases connective with
  | and => exact .factor h
  | or => exact .term (.factor h)

lemma to_disjunction {connective : Connective} (h : Reads connective.tightness atoms text holds) :
    Reads .disjunction atoms text holds := by
  cases connective with
  | and => exact .term h
  | or => exact h

lemma join {connective : Connective} (hs : Reads .operand as s a)
    (ht : Reads connective.tightness bs t b) : Reads connective.tightness (as ++ bs)
      (s ++ (" " ++ connective.keyword ++ " ") ++ t) (connective.apply a b) := by
  cases connective with
  | and => exact .and hs ht
  | or => exact .or (.factor hs) ht

end Reads

/-! ### Rendering trees -/

namespace Expression

variable {style : SqlStyle} {item e : Expression} {items : List Expression}

lemma run_renderItems_cons (item : Expression) (items : List Expression) (bound : List Datum) :
    (renderItems style (item :: items)).run bound =
      let first := (render style item).run bound
      let rest := (renderItems style items).run first.2
      (first.1 :: rest.1, rest.2) := by
  rw [renderItems]
  rfl

lemma run_renderItems_append (items more : List Expression) (bound : List Datum) :
    (renderItems style (items ++ more)).run bound =
      let first := (renderItems style items).run bound
      let rest := (renderItems style more).run first.2
      (first.1 ++ rest.1, rest.2) := by
  induction items generalizing bound with
  | nil =>
    rw [renderItems]
    rfl
  | cons item items ih => simp only [List.cons_append, run_renderItems_cons, ih]

lemma length_run_renderItems (items : List Expression) (bound : List Datum) :
    ((renderItems style items).run bound).1.length = items.length := by
  induction items generalizing bound with
  | nil =>
    rw [renderItems]
    rfl
  | cons item items ih => simp only [run_renderItems_cons, List.length_cons, ih]

/-- What stands for the text of a tree among others: parentheses hold several conditions
together. -/
def enclosed (item : Expression) (text : String) : String :=
  if item.isWideJunction then "(" ++ text ++ ")" else text

lemma run_render_singleton (connective : Connective) (item : Expression) (bound : List Datum) :
    (render style (.junction connective [item])).run bound =
      let only := (render style item).run bound
      (item.enclosed only.1, only.2) := by
  rw [render, renderConditions, renderConditions]
  rfl

lemma run_render_cons_cons (connective : Connective) (item next : Expression)
    (items : List Expression) (bound : List Datum) :
    (render style (.junction connective (item :: next :: items))).run bound =
      let first := (render style item).run bound
      let rest := (render style (.junction connective (next :: items))).run first.2
      (item.enclosed first.1 ++ (" " ++ connective.keyword ++ " ") ++ rest.1, rest.2) := by
  rw [render, renderConditions, render, renderConditions]
  rfl

lemma run_renderItems_leaves_cons (connective : Connective) (item : Expression)
    (items : List Expression) (bound : List Datum) :
    (renderItems style (leaves (.junction connective (item :: items)))).run bound =
      let first := (renderItems style item.leaves).run bound
      let rest := (renderItems style (leaves (.junction connective items))).run first.2
      (first.1 ++ rest.1, rest.2) := by
  rw [leaves, leavesOfItems, run_renderItems_append, leaves]

/-! ### Rendered trees are read back -/

/-- Rendered behind any data, the tree is shown as a condition over its leaves, which are rendered
one after the other and bind the same data. -/
def ShowsAs (style : SqlStyle) (level : Tightness) (shown : String → String) (e : Expression) :
    Prop :=
  ∀ holds bound, ∃ texts text after, (renderItems style e.leaves).run bound = (texts, after) ∧
    (render style e).run bound = (text, after) ∧
      Reads level (marked holds texts) (shown text) (e.truth holds)

/-- The text of the tree is a condition. -/
abbrev RendersAs (style : SqlStyle) (level : Tightness) (e : Expression) : Prop :=
  ShowsAs style level id e

/-- What stands for the tree among others is an operand. -/
abbrev IsOperand (style : SqlStyle) (item : Expression) : Prop :=
  ShowsAs style .operand item.enclosed item

lemma ShowsAs.mono {level level' : Tightness} {shown shown' : String → String}
    (h : ShowsAs style level shown e) (hlevel : ∀ {atoms text holds},
      Reads level atoms (shown text) holds → Reads level' atoms (shown' text) holds) :
    ShowsAs style level' shown' e := by
  intro holds bound
  obtain ⟨texts, text, after, hleaves, htext, hreads⟩ := h holds bound
  exact ⟨texts, text, after, hleaves, htext, hlevel hreads⟩

lemma RendersAs.isOperand_of_wide (hwide : item.isWideJunction = true)
    (h : RendersAs style .disjunction item) : IsOperand style item := by
  refine ShowsAs.mono h fun hreads => ?_
  rw [enclosed, if_pos hwide]
  exact .group hreads

lemma RendersAs.isOperand_of_narrow (hnarrow : item.isWideJunction = false)
    (h : RendersAs style .operand item) : IsOperand style item := by
  refine ShowsAs.mono h fun hreads => ?_
  rw [enclosed, hnarrow, if_neg Bool.false_ne_true]
  exact hreads

/-- The only condition of a junction is all that it says. -/
lemma rendersAs_singleton (connective : Connective) (hitem : IsOperand style item) :
    RendersAs style .operand (.junction connective [item]) := by
  intro holds bound
  obtain ⟨texts, text, after, hleaves, htext, hreads⟩ := hitem holds bound
  have htruth : truth holds (.junction connective [item]) = truth holds item := by
    cases connective <;> simp [truth, truthOfItems, Connective.apply, Connective.neutral]
  refine ⟨texts, item.enclosed text, after, ?_, ?_, ?_⟩
  · rw [leaves, leavesOfItems, leavesOfItems, List.append_nil, hleaves]
  · rw [run_render_singleton, htext]
  · rw [htruth]
    exact hreads

/-- Operands with a connective between them are what the connective joins. -/
lemma rendersAs_junction (connective : Connective) (hne : items ≠ [])
    (hitems : ∀ item ∈ items, IsOperand style item) :
    RendersAs style connective.tightness (.junction connective items) := by
  induction items with
  | nil => exact absurd rfl hne
  | cons item items ih =>
    obtain ⟨hitem, hrest⟩ := List.forall_mem_cons.mp hitems
    cases items with
    | nil =>
      exact ShowsAs.mono (rendersAs_singleton connective hitem) fun h => h.of_operand connective
    | cons next items =>
      intro holds bound
      obtain ⟨texts, text, between, hleaves, htext, hreads⟩ := hitem holds bound
      -- The leaves of the rest are numbered on from those of the first.
      obtain ⟨texts', text', after, hleaves', htext', hreads'⟩ :=
        ih (List.cons_ne_nil next items) hrest (fun i => holds (i + item.leaves.length)) between
      have hlength : ((renderItems style item.leaves).run bound).1.length = item.leaves.length :=
        length_run_renderItems item.leaves bound
      rw [hleaves] at hlength
      refine ⟨texts ++ texts', item.enclosed text ++ (" " ++ connective.keyword ++ " ") ++ text',
        after, ?_, ?_, ?_⟩
      · simp only [run_renderItems_leaves_cons, hleaves, hleaves']
      · simp only [run_render_cons_cons, htext, htext']
      · rw [marked_append, hlength, truth, truthOfItems]
        exact hreads.join hreads'

/-! ### The conditions of filters -/

/-- A tree that is one leaf, with a text that can be told from what stands around it. -/
structure IsLeaf (e : Expression) : Prop where
  leaves_eq : e.leaves = [e]
  truth_eq (holds : Nat → Bool) : e.truth holds = holds 0
  narrow : e.isWideJunction = false
  plain (style : SqlStyle) (bound : List Datum) : Scanner.IsPlain ((render style e).run bound).1

/-- A column begins with a quote; without a name, what stands behind it begins with a blank. -/
lemma isPlain_column (d : Dialect) (name s : String) :
    Scanner.IsPlain (d.quotePath [name] ++ (" " ++ s)) := by
  cases h : name.isEmpty with
  | true => exact ⟨' ', s.toList, by simp [Dialect.quotePath, h], by decide⟩
  | false =>
    refine ⟨d.openQuote, _, by simp [Dialect.quotePath, h, Dialect.quotedName]; rfl, ?_⟩
    cases d <;> decide

lemma isLeaf_comparison (name operator : String) (right : Option Expression) :
    IsLeaf (.comparison (.column name) operator right) where
  leaves_eq := by
    rw [leaves]
    rintro _ _ ⟨⟩
  truth_eq holds := by
    rw [truth]
    rintro _ _ ⟨⟩
  narrow := rfl
  plain style bound := by
    cases right with
    | none =>
      rw [render, column, render]
      exact isPlain_column style.dialect name operator
    | some right =>
      have htext : ((render style (.comparison (.column name) operator (some right))).run bound).1
          = style.dialect.quotePath [name] ++ (" " ++ operator ++ " ")
            ++ ((render style right).run bound).1 := by
        rw [render, column, render]
        rfl
      rw [htext]
      simpa only [String.append_assoc] using isPlain_column style.dialect name
        (operator ++ " " ++ ((render style right).run bound).1)

lemma isLeaf_raw {sql : String} (h : Scanner.IsPlain sql) : IsLeaf (.raw sql) where
  leaves_eq := by
    rw [leaves]
    rintro _ _ ⟨⟩
  truth_eq holds := by
    rw [truth]
    rintro _ _ ⟨⟩
  narrow := rfl
  plain style bound := by
    rw [render]
    exact h

lemma isLeaf_of_condition {d : Dialect} {f : Filter} (h : f.condition d = .ok e) : e.IsLeaf := by
  rw [Filter.condition] at h
  split at h
  · cases h
  split at h
  · cases h
    exact isLeaf_comparison _ _ _
  split at h
  · split at h
    · cases h
      refine isLeaf_raw ?_
      split
      · exact ⟨'1', _, rfl, by decide⟩
      · exact ⟨'1', _, rfl, by decide⟩
    · cases h
      exact isLeaf_comparison _ _ _
  · split at h
    · cases h
      exact isLeaf_comparison _ _ _
    · cases h

/-- An expression that is no junction is its only leaf. -/
lemma IsLeaf.rendersAs (h : e.IsLeaf) : RendersAs style .operand e := by
  intro holds bound
  refine ⟨[((render style e).run bound).1], ((render style e).run bound).1,
    ((render style e).run bound).2, ?_, rfl, ?_⟩
  · rw [h.leaves_eq, run_renderItems_cons, renderItems]
    rfl
  · rw [h.truth_eq]
    exact .atom _ _

/-- The texts of leaves are plain, whatever is bound before them. -/
lemma isPlain_of_mem_renderItems (hitems : ∀ item ∈ items, IsLeaf item) (bound : List Datum) :
    ∀ text ∈ ((renderItems style items).run bound).1, Scanner.IsPlain text := by
  induction items generalizing bound with
  | nil =>
    rw [renderItems]
    exact List.forall_mem_nil _
  | cons item items ih =>
    rw [List.forall_mem_cons] at hitems
    rw [run_renderItems_cons, List.forall_mem_cons]
    exact ⟨hitems.1.plain style bound, ih hitems.2 _⟩

/-! ### One meaning -/

namespace IsConditionTree

lemma rendersAs (he : e.IsConditionTree) (style : SqlStyle) :
    RendersAs style .disjunction e ∧ IsOperand style e := by
  induction he with
  | leaf h =>
    have hleaf := isLeaf_of_condition h
    exact ⟨ShowsAs.mono hleaf.rendersAs fun h => .term (.factor h),
      hleaf.rendersAs.isOperand_of_narrow hleaf.narrow⟩
  | @junction connective items hne _ ih =>
    have hitems : ∀ item ∈ items, IsOperand style item := fun item hitem => (ih item hitem).2
    have hjoined : RendersAs style .disjunction (.junction connective items) :=
      ShowsAs.mono (rendersAs_junction connective hne hitems) Reads.to_disjunction
    refine ⟨hjoined, ?_⟩
    match items with
    | [item] =>
      have hitem : IsOperand style item := hitems item (List.mem_singleton_self item)
      exact (rendersAs_singleton connective hitem).isOperand_of_narrow rfl
    | _ :: _ :: _ => exact hjoined.isOperand_of_wide (by simp [isWideJunction])

lemma isLeaf_of_mem_leaves (he : e.IsConditionTree) : ∀ leaf ∈ e.leaves, leaf.IsLeaf := by
  induction he with
  | leaf h =>
    have hleaf := isLeaf_of_condition h
    rw [hleaf.leaves_eq]
    exact List.forall_mem_singleton.mpr hleaf
  | junction _ _ ih =>
    intro leaf hleaf
    rw [leaves, leavesOfItems_eq_flatMap] at hleaf
    obtain ⟨item, hitem, hleaf⟩ := List.mem_flatMap.mp hleaf
    exact ih item hitem leaf hleaf

end IsConditionTree

/-- Rendered in any style behind any data, a tree of conditions is a text that has exactly one
meaning: if its leaves, rendered from left to right, are taken for atoms, the text holds if the tree
holds, whatever holds of the leaves. -/
theorem reads_render_iff (he : e.IsConditionTree) (style : SqlStyle) (bound : List Datum)
    (holds : Nat → Bool) :
    let leaves := (renderItems style e.leaves).run bound
    let whole := (e.render style).run bound
    whole.2 = leaves.2 ∧
      ∀ b, Reads .disjunction (marked holds leaves.1) whole.1 b ↔ b = e.truth holds := by
  obtain ⟨texts, text, after, hleaves, htext, hreads⟩ := (he.rendersAs style).1 holds bound
  have hplain : ∀ text ∈ ((renderItems style e.leaves).run bound).1, Scanner.IsPlain text :=
    isPlain_of_mem_renderItems he.isLeaf_of_mem_leaves bound
  have hatoms : ∀ atom ∈ marked holds texts, Scanner.IsPlain atom.1 := by
    rw [hleaves] at hplain
    intro atom hatom
    obtain ⟨i, hi, rfl⟩ := List.mem_mapIdx.mp hatom
    exact hplain _ (List.getElem_mem hi)
  simp only [hleaves, htext, true_and]
  exact fun b => ⟨fun hb => hb.unique hatoms hreads, fun hb => hb ▸ hreads⟩

/-- A disjunction that is the only condition of another, beside a third condition. -/
def nestedConditions : Expression :=
  .junction .and [.junction .or [.junction .or [
      .comparison (.column "a") "=" (some (.parameter (.int 1))),
      .comparison (.column "b") "IS NULL" none]],
    .comparison (.column "c") "IN" (some (.list [.parameter (.int 2), .parameter (.int 3)]))]

theorem reads_render_iff_nested : nestedConditions.IsConditionTree ∧ ∀ holds : Nat → Bool, ∀ b,
    Reads .disjunction [("\"a\" = $1", holds 0), ("\"b\" IS NULL", holds 1),
      ("\"c\" IN ($2, $3)", holds 2)] "(\"a\" = $1 OR \"b\" IS NULL) AND \"c\" IN ($2, $3)" b
      ↔ b = ((holds 0 || holds 1) && holds 2) := by
  have ha : IsConditionTree (.comparison (.column "a") "=" (some (.parameter (.int 1)))) :=
    .leaf (d := .postgres) (f := ⟨"a", .eq, [.int 1]⟩) rfl
  have hb : IsConditionTree (.comparison (.column "b") "IS NULL" none) :=
    .leaf (d := .postgres) (f := ⟨"b", .isNull, []⟩) rfl
  have hc : IsConditionTree (.comparison (.column "c") "IN"
      (some (.list [.parameter (.int 2), .parameter (.int 3)]))) :=
    .leaf (d := .postgres) (f := ⟨"c", .isIn, [.int 2, .int 3]⟩) rfl
  have htree : nestedConditions.IsConditionTree := by
    refine .junction (List.cons_ne_nil _ _) (List.forall_mem_cons.mpr ⟨?_, by simpa using hc⟩)
    refine .junction (List.cons_ne_nil _ _) (List.forall_mem_singleton.mpr ?_)
    exact .junction (List.cons_ne_nil _ _) (by simpa using And.intro ha hb)
  refine ⟨htree, fun holds b => ?_⟩
  have hreads := (reads_render_iff htree (.binding .postgres) [] holds).2 b
  have htruth : nestedConditions.truth holds = ((holds 0 || holds 1) && holds 2) := by
    simp [nestedConditions, truth, truthOfItems, leaves, leavesOfItems, Connective.apply,
      Connective.neutral]
  rw [htruth] at hreads
  exact hreads

end Expression

end SqlWorkbench
