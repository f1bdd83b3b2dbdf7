import Mathlib.Tactic.Common
import SqlWorkbench.Codegen.Snippet

/-!
# Where objects

A Prisma call has one entry for each column, in which the clauses of all its filters have to find
room: two objects become one, and anything else takes the place of what stands there. Main
statement: every filter keeps its clause exactly if any two clauses of one column agree, that is,
if they are equal or are objects with the same value under each name they share.
-/

namespace SqlWorkbench

lemma Json.object?_eq_some {j : Json} {members : List (String × Json)}
    (h : j.object? = some members) : j = .object members := by
  unfold Json.object? at h
  split at h
  · cases h
    rfl
  · cases h

namespace Snippet

variable {clauses : List (String × Json)} {f g : Filter} {filters : List Filter}
  {entry clause other : Json} {members others : List (String × Json)} {key : String}

/-! ### Clauses in an entry -/

/-- The entry has the clause in it: it is the clause, or an object with each member of it. -/
def Includes (entry clause : Json) : Prop :=
  match clause.object? with
  | some members =>
    ∃ entries, entry = .object entries ∧ ∀ m ∈ members, Keyed.find? entries m.1 = some m.2
  | none => entry = clause

/-- The clauses fit into one entry: they are objects that have the same value under each name they
share, or they are no objects and equal. -/
def Agrees (clause other : Json) : Prop :=
  match clause.object?, other.object? with
  | some members, some others => ∀ m ∈ members, ∀ o ∈ others, m.1 = o.1 → m.2 = o.2
  | none, none => clause = other
  | _, _ => False

/-- What becomes of an entry when a clause is entered. -/
def merged (entry : Option Json) (clause : Json) : Json :=
  match entry.bind Json.object?, clause.object? with
  | some entries, some members => .object (Keyed.putAll entries members)
  | _, _ => clause

lemma enterClause_eq (clauses : List (String × Json)) (f : Filter) :
    enterClause clauses f = Keyed.put clauses (Naming.camelCase f.column)
      (merged (Keyed.find? clauses (Naming.camelCase f.column)) (prismaClause f)) := by
  rw [enterClause]
  split
  · next entries members hentry hclause =>
    rw [hentry, hclause]
    rfl
  · next hother =>
    rw [merged]
    split
    · next entries members hentry hclause =>
      obtain ⟨j, hj, hentries⟩ := Option.bind_eq_some_iff.mp hentry
      rw [Json.object?_eq_some hentries] at hj
      exact absurd (Json.object?_eq_some hclause) (hother entries members hj)
    · rfl

lemma includes_object :
    Includes entry (.object members) ↔
      ∃ entries, entry = .object entries ∧ ∀ m ∈ members, Keyed.find? entries m.1 = some m.2 :=
  Iff.rfl

lemma includes_of_object? (h : clause.object? = none) : Includes entry clause ↔ entry = clause := by
  simp [Includes, h]

/-- A clause that is entered is in the entry. -/
lemma includes_merged_self (entry : Option Json) (h : Agrees clause clause) :
    Includes (merged entry clause) clause := by
  rcases hclause : clause.object? with _ | members
  · simp [includes_of_object? hclause, merged, hclause]
  · obtain rfl := Json.object?_eq_some hclause
    rw [includes_object]
    have hself : ∀ m ∈ members, ∀ o ∈ members, o.1 = m.1 → o.2 = m.2 :=
      fun m hm o ho hname => h o ho m hm hname
    rcases hentry : entry.bind Json.object? with _ | entries
    · refine ⟨members, by simp [merged, hentry], fun m hm => ?_⟩
      exact Keyed.find?_of_mem (hself m hm) hm
    · refine ⟨Keyed.putAll entries members, by simp [merged, hentry, Json.object?], fun m hm => ?_⟩
      exact Keyed.find?_putAll_of_mem (hself m hm) hm

lemma Agrees.cases (h : Agrees clause other) :
    (clause.object? = none ∧ other = clause) ∨
      ∃ members others, clause = .object members ∧ other = .object others ∧
        ∀ m ∈ members, ∀ o ∈ others, m.1 = o.1 → m.2 = o.2 := by
  unfold Agrees at h
  split at h
  · next members others hclause hother =>
    exact .inr ⟨members, others, Json.object?_eq_some hclause, Json.object?_eq_some hother, h⟩
  · next hclause _ => exact .inl ⟨hclause, h.symm⟩
  · exact h.elim

/-- A clause stays in the entry if it agrees with the clause that is entered. -/
lemma Includes.merged (h : Includes entry clause) (hagrees : Agrees clause other) :
    Includes (merged (some entry) other) clause := by
  rcases hagrees.cases with ⟨hclause, rfl⟩ | ⟨members, others, rfl, rfl, hvalues⟩
  · simp [includes_of_object? hclause, Snippet.merged, hclause]
  · obtain ⟨entries, rfl, hentries⟩ := includes_object.mp h
    refine includes_object.mpr ⟨Keyed.putAll entries others, rfl, fun m hm => ?_⟩
    refine Keyed.find?_putAll_of_find? (fun o ho hname => ?_) (hentries m hm)
    exact (hvalues m hm o ho hname.symm).symm

/-- Clauses in one entry agree. -/
lemma Includes.agrees (h : Includes entry clause) (hother : Includes entry other) :
    Agrees clause other := by
  rcases hc : clause.object? with _ | members
  · obtain rfl := (includes_of_object? hc).mp h
    rcases ho : other.object? with _ | others
    · obtain rfl := (includes_of_object? ho).mp hother
      simp [Agrees, hc]
    · obtain rfl := Json.object?_eq_some ho
      obtain ⟨entries, rfl, -⟩ := includes_object.mp hother
      cases hc
  · obtain rfl := Json.object?_eq_some hc
    obtain ⟨entries, rfl, hentries⟩ := includes_object.mp h
    rcases ho : other.object? with _ | others
    · cases (includes_of_object? ho).mp hother
      cases ho
    · obtain rfl := Json.object?_eq_some ho
      obtain ⟨_, hsame, hothers⟩ := includes_object.mp hother
      cases hsame
      intro m hm o ho hname
      have hm' := hentries m hm
      rw [hname, hothers o ho] at hm'
      exact (Option.some.inj hm').symm

/-! ### Filters of a list -/

/-- The clause of the filter is in the entry of its column. -/
def Keeps (clauses : List (String × Json)) (f : Filter) : Prop :=
  ∃ entry, Keyed.find? clauses (Naming.camelCase f.column) = some entry ∧
    Includes entry (prismaClause f)

/-- Any two clauses of one column agree; with itself a clause does, as its names are distinct. -/
def AllAgree (filters : List Filter) : Prop :=
  ∀ f ∈ filters, ∀ g ∈ filters, Naming.camelCase f.column = Naming.camelCase g.column →
    Agrees (prismaClause f) (prismaClause g)

lemma keeps_enterClause_self (clauses : List (String × Json))
    (h : Agrees (prismaClause f) (prismaClause f)) : Keeps (enterClause clauses f) f := by
  rw [Keeps, enterClause_eq, Keyed.find?_put_self]
  exact ⟨_, rfl, includes_merged_self _ h⟩

lemma Keeps.enterClause (h : Keeps clauses f)
    (hagrees : Naming.camelCase f.column = Naming.camelCase g.column →
      Agrees (prismaClause f) (prismaClause g)) : Keeps (enterClause clauses g) f := by
  obtain ⟨entry, hentry, hincludes⟩ := h
  rw [Keeps, enterClause_eq]
  by_cases hcolumn : Naming.camelCase f.column = Naming.camelCase g.column
  · rw [hcolumn, Keyed.find?_put_self]
    rw [hcolumn] at hentry
    exact ⟨_, rfl, hentry ▸ hincludes.merged (hagrees hcolumn)⟩
  · rw [Keyed.find?_put_of_ne _ _ (Ne.symm hcolumn)]
    exact ⟨entry, hentry, hincludes⟩

lemma Keeps.foldl (h : Keeps clauses f)
    (hagrees : ∀ g ∈ filters, Naming.camelCase f.column = Naming.camelCase g.column →
      Agrees (prismaClause f) (prismaClause g)) :
    Keeps (filters.foldl Snippet.enterClause clauses) f := by
  induction filters generalizing clauses with
  | nil => exact h
  | cons g filters ih =>
    rw [List.foldl_cons]
    exact ih (h.enterClause (hagrees g (by simp))) fun k hk => hagrees k (by simp [hk])

lemma keeps_foldl (hf : f ∈ filters)
    (hagrees : ∀ g ∈ filters, Naming.camelCase f.column = Naming.camelCase g.column →
      Agrees (prismaClause f) (prismaClause g)) :
    Keeps (filters.foldl enterClause clauses) f := by
  induction filters generalizing clauses with
  | nil => cases hf
  | cons g filters ih =>
    rw [List.foldl_cons]
    have hrest : ∀ k ∈ filters, Naming.camelCase f.column = Naming.camelCase k.column →
        Agrees (prismaClause f) (prismaClause k) := fun k hk => hagrees k (by simp [hk])
    rcases List.mem_cons.mp hf with rfl | hf
    · exact (keeps_enterClause_self clauses (hagrees f hf rfl)).foldl hrest
    · exact ih hf hrest

lemma keeps_prismaClauses_iff :
    (∀ f ∈ filters, Keeps (prismaClauses filters) f) ↔ AllAgree filters := by
  constructor
  · intro h f hf g hg hcolumn
    obtain ⟨entry, hentry, hincludes⟩ := h f hf
    obtain ⟨entry', hentry', hincludes'⟩ := h g hg
    rw [hcolumn, hentry'] at hentry
    cases hentry
    exact hincludes.agrees hincludes'
  · intro h f hf
    exact keeps_foldl hf (h f hf)

/-! ### Rows -/

/-- The mode in which the operators of an entry are read. -/
def mode? (entry : Json) : Option Json :=
  entry.object?.bind (Keyed.find? · "mode")

/-- What a row has to satisfy: the field equals a value, or an operator of an entry, read in the
mode of the entry, holds between the field and a value. -/
structure Reading (ρ : Type) where
  equals : String → Json → ρ → Prop
  compares : Option Json → String → String → Json → ρ → Prop

namespace Reading

variable {ρ : Type} (R : Reading ρ)

/-- The row satisfies an entry: the value that it is, or all operators of an object. -/
def Meets (field : String) (entry : Json) (row : ρ) : Prop :=
  match entry.object? with
  | some members => ∀ m ∈ members, m.1 ≠ "mode" → R.compares (mode? entry) field m.1 m.2 row
  | none => R.equals field entry row

/-- The row satisfies all entries. -/
def MeetsAll (clauses : List (String × Json)) (row : ρ) : Prop :=
  ∀ e ∈ clauses, R.Meets e.1 e.2 row

lemma Meets.of_includes {R : Reading ρ} {field : String} {row : ρ} (h : R.Meets field entry row)
    (hincludes : Includes entry clause) (hmode : mode? entry = mode? clause) :
    R.Meets field clause row := by
  rcases hc : clause.object? with _ | members
  · rwa [(includes_of_object? hc).mp hincludes] at h
  · obtain rfl := Json.object?_eq_some hc
    obtain ⟨entries, rfl, hentries⟩ := includes_object.mp hincludes
    intro m hm hname
    rw [← hmode]
    exact h m (Keyed.mem_of_find? (hentries m hm)) hname

end Reading

/-- Clauses of one mode make an entry of this mode. -/
lemma mode?_merged {mode : Option Json} {found : Option Json} (hself : Agrees clause clause)
    (hfound : ∀ e ∈ found, mode? e = mode) (hclause : mode? clause = mode) :
    mode? (merged found clause) = mode := by
  rcases hc : clause.object? with _ | members
  · simpa [merged, hc] using hclause
  · obtain rfl := Json.object?_eq_some hc
    rcases hentries : found.bind Json.object? with _ | entries
    · simpa [merged, hentries] using hclause
    · obtain ⟨e, rfl, he⟩ := Option.bind_eq_some_iff.mp hentries
      obtain rfl := Json.object?_eq_some he
      have hmembers : Keyed.find? members "mode" = mode := hclause
      show Keyed.find? (Keyed.putAll entries members) "mode" = mode
      cases mode with
      | none =>
        rw [Keyed.find?_putAll_of_ne (Keyed.find?_eq_none_iff.mp hmembers)]
        exact hfound _ rfl
      | some value =>
        have hmem := Keyed.mem_of_find? hmembers
        exact Keyed.find?_putAll_of_mem (fun o ho hname => hself o ho _ hmem hname) hmem

/-- An entry is in the mode that all clauses of its column have. -/
lemma mode?_of_find?_foldl (clauses : List (String × Json)) {mode : Option Json}
    (hfilters : ∀ f ∈ filters, Naming.camelCase f.column = key →
      Agrees (prismaClause f) (prismaClause f) ∧ mode? (prismaClause f) = mode)
    (hclauses : ∀ e ∈ Keyed.find? clauses key, mode? e = mode) :
    ∀ e ∈ Keyed.find? (filters.foldl enterClause clauses) key, mode? e = mode := by
  induction filters generalizing clauses with
  | nil => exact hclauses
  | cons g filters ih =>
    rw [List.foldl_cons]
    apply ih _ fun f hf => hfilters f (by simp [hf])
    rw [enterClause_eq]
    by_cases hcolumn : Naming.camelCase g.column = key
    · obtain ⟨hself, hmode⟩ := hfilters g (by simp) hcolumn
      rw [hcolumn, Keyed.find?_put_self]
      intro e he
      cases he
      exact mode?_merged hself hclauses hmode
    · rwa [Keyed.find?_put_of_ne _ _ hcolumn]

/-- Clauses of one column are read in one mode. -/
def AllAlike (filters : List Filter) : Prop :=
  ∀ f ∈ filters, ∀ g ∈ filters, Naming.camelCase f.column = Naming.camelCase g.column →
    mode? (prismaClause f) = mode? (prismaClause g)

/-- Where all clauses have found room, a row satisfies no less than each of them. -/
lemma Reading.MeetsAll.meets {ρ : Type} {R : Reading ρ} {row : ρ}
    (h : R.MeetsAll (prismaClauses filters) row) (hagree : AllAgree filters)
    (halike : AllAlike filters) (hf : f ∈ filters) :
    R.Meets (Naming.camelCase f.column) (prismaClause f) row := by
  obtain ⟨entry, hentry, hincludes⟩ := keeps_prismaClauses_iff.mpr hagree f hf
  have hmode : mode? entry = mode? (prismaClause f) := by
    refine mode?_of_find?_foldl [] (fun g hg hcolumn => ?_) (by simp) entry hentry
    exact ⟨hagree g hg g hg rfl, halike g hg f hf hcolumn⟩
  exact (h _ (Keyed.mem_of_find? hentry)).of_includes hincludes hmode

/-! ### Calls -/

/-- A call for the rows that the entries keep. -/
def findMany (model : String) (clauses : List (String × Json)) : String :=
  "await prisma." ++ model ++
    if clauses.isEmpty then ".findMany()"
    else ".findMany(\x7b\n  where: " ++ moveIn (object 0 (.object clauses)) ++ "\n\x7d)"

lemma prisma_eq (table : String) (filters : List Filter) :
    prisma table filters = findMany (Naming.tableVariable table) (prismaClauses filters) := by
  rw [prisma, findMany]
  split
  · rfl
  · simp only [String.append_assoc]

/-- The filters of a call keep their clauses exactly if any two clauses of one column agree, and
then, if these are read in one mode, the call gives no row that one of the filters leaves out. -/
theorem keeps_iff_allAgree (table : String) (filters : List Filter) (d : Dialect) :
    text .prisma table filters d
        = .ok (findMany (Naming.tableVariable table) (prismaClauses filters)) ∧
      ((∀ f ∈ filters, Keeps (prismaClauses filters) f) ↔ AllAgree filters) ∧
      (AllAgree filters → AllAlike filters →
        ∀ (ρ : Type) (R : Reading ρ) (row : ρ), R.MeetsAll (prismaClauses filters) row →
          ∀ f ∈ filters, R.Meets (Naming.camelCase f.column) (prismaClause f) row) := by
  refine ⟨?_, keeps_prismaClauses_iff, fun hagree halike ρ R row hrow f hf => ?_⟩
  · rw [text, prisma_eq]
  · exact hrow.meets hagree halike hf

/-- Two bounds on one column. -/
def ageBounds : List Filter :=
  [⟨"age", .gt, [.int 5]⟩, ⟨"age", .lt, [.int 10]⟩]

/-- Two bounds are both kept, and a row between them is one that satisfies each. -/
theorem keeps_ageBounds :
    (∀ f ∈ ageBounds, Keeps (prismaClauses ageBounds) f) ∧
      ∀ (ρ : Type) (R : Reading ρ) (row : ρ), R.MeetsAll (prismaClauses ageBounds) row →
        ∀ f ∈ ageBounds, R.Meets (Naming.camelCase f.column) (prismaClause f) row := by
  have hgt : prismaClause ⟨"age", .gt, [.int 5]⟩ = .object [("gt", .int 5)] := rfl
  have hlt : prismaClause ⟨"age", .lt, [.int 10]⟩ = .object [("lt", .int 10)] := rfl
  have hagree : AllAgree ageBounds := by
    simp [ageBounds, AllAgree, hgt, hlt, Agrees, Json.object?]
  have halike : AllAlike ageBounds := by
    simp [ageBounds, AllAlike, hgt, hlt, mode?, Json.object?, Keyed.find?_cons]
  obtain ⟨-, hkeeps, hmeets⟩ := keeps_iff_allAgree "people" ageBounds .postgres
  exact ⟨hkeeps.mpr hagree, hmeets hagree halike⟩

/-- A value takes the place of the comparison that stands in the entry of its column. -/
theorem not_keeps_comparison :
    text .prisma "people" [⟨"age", .gt, [.int 5]⟩, ⟨"age", .eq, [.int 3]⟩] .postgres
        = .ok "await prisma.people.findMany(\x7b\n  where: \x7b\n    age: 3\n  \x7d\n\x7d)" ∧
      prismaClause ⟨"age", .gt, [.int 5]⟩ = .object [("gt", .int 5)] ∧
      ¬ Keeps (prismaClauses [⟨"age", .gt, [.int 5]⟩, ⟨"age", .eq, [.int 3]⟩])
        ⟨"age", .gt, [.int 5]⟩ := by
  refine ⟨congrArg Except.ok (by decide +kernel), rfl, ?_⟩
  rintro ⟨entry, hentry, hincludes⟩
  have hfind : Keyed.find?
      (prismaClauses [⟨"age", .gt, [.int 5]⟩, ⟨"age", .eq, [.int 3]⟩]) "age" = some (.int 3) := rfl
  have hage : Naming.camelCase "age" = "age" := by decide +kernel
  rw [hage, hfind] at hentry
  cases hentry
  obtain ⟨entries, hobject, -⟩ := includes_object.mp hincludes
  cases hobject

end Snippet

end SqlWorkbench
