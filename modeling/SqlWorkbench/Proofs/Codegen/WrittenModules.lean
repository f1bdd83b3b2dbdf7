import SqlWorkbench.Proofs.Codegen.ModuleOutlines

/-!
# Modules are read as their outlines

A module is data first: columns with what builds them, indexes, relations, and the names that are
imported. Each line is a phrase of the calls and links of the part that it is written for. Main
statement: the text of a module is read as the imports and definitions of its data.
-/

namespace SqlWorkbench.Drizzle

open Naming

variable {s d v f : String} {fs vs : List String} {m : TableModel} {c : Column}

/-! ### Names and numbers -/

lemma isName_append (hs : IsNameText s.toList) (hd : IsName d) : IsName (s ++ d) := by
  obtain ⟨hne, hchars⟩ := hd
  refine ⟨by simp [hne], fun c hc => ?_⟩
  rw [String.toList_append] at hc
  rcases List.mem_append.mp hc with hc | hc
  · exact hs c hc
  · exact hchars c hc

lemma isName_toString (n : ℕ) : IsName (toString n) := by
  rw [IsName, ne_eq, ← String.toList_eq_nil_iff, toList_toString_nat]
  exact ⟨Nat.toDigits_ne_nil, fun c hc =>
    isNameChar_of_isWordChar (Text.isWordChar_of_isDigit (isDigit_of_mem_toDigits hc))⟩

lemma decide_mem (rules : TypeMap.Rules) (otherwise : String) (type : List Char) :
    TypeMap.decide rules otherwise type ∈ otherwise :: rules.map Prod.snd := by
  induction rules with
  | nil => exact List.mem_singleton_self otherwise
  | cons rule rules ih =>
    rw [TypeMap.decide, List.map_cons, List.mem_cons, List.mem_cons]
    rw [List.mem_cons] at ih
    split
    · exact .inr (.inl rfl)
    · exact ih.imp_right .inr

lemma isName_typeOf (m : TableModel) (c : Column) : IsName (m.typeOf .drizzle c) := by
  have hrules : ∀ e, ∀ f ∈ "text" :: (TypeMap.drizzleRules e).map Prod.snd, isBare f = true := by
    intro e
    cases e <;> decide
  exact isName_of_isBare (hrules m.dialect _ (decide_mem _ _ _))

lemma isName_tableFunction (e : Dialect) : IsName (tableFunction e) :=
  isName_of_isBare (by cases e <;> decide)

lemma isName_indexFunction (i : Index) : IsName (indexFunction i) := by
  rw [indexFunction]
  split <;> exact isName_of_isBare (by decide)

lemma isName_of_enumStyle {e : Dialect} (h : enumStyle e = .declared f ∨ enumStyle e = .inline f) :
    IsName f := by
  cases e <;> simp only [enumStyle, EnumStyle.declared.injEq, EnumStyle.inline.injEq, reduceCtorEq,
    or_false, false_or, or_self] at h
  all_goals
    subst h
    exact isName_of_isBare (by decide)

lemma isName_enumVar (e : EnumDeclaration) : IsName e.var :=
  isName_append (isNameText_camelCase e.name) (isName_of_isBare (by decide))

/-! ### Parts of lines -/

lemma phrase_indent : Phrase "  " [] [] :=
  ⟨[], rfl, by simp, fun _ => rfl, fun _ => rfl⟩

lemma phrase_comma : Phrase ", " [] [] :=
  ⟨[.mark ','], rfl, by simp, fun _ => rfl, fun _ => rfl⟩

lemma phrase_close : Phrase ")" [] [] :=
  ⟨[.mark ')'], rfl, by simp, fun _ => rfl, fun _ => rfl⟩

lemma phrase_closeLine : Phrase ")," [] [] :=
  ⟨[.mark ')', .mark ','], rfl, by simp, fun _ => rfl, fun _ => rfl⟩

lemma phrase_openBracket : Phrase "[" [] [] :=
  ⟨[.mark '['], rfl, by simp, fun _ => rfl, fun _ => rfl⟩

lemma phrase_closeBracket : Phrase "]" [] [] :=
  ⟨[.mark ']'], rfl, by simp, fun _ => rfl, fun _ => rfl⟩

/-- A call with a text as its first argument. -/
lemma phrase_call (hf : IsName f) (v : String) : Phrase (f ++ "(" ++ singleQuoted v) [f] [] := by
  have hopen : Lexes "(" [.mark '('] := rfl
  have hapart : StartsApart "(" := by decide
  refine ⟨[.word f, .mark '(', .text v], ?_, ?_, fun rest => ?_, fun rest => ?_⟩
  · rw [String.append_assoc]
    exact Lexes.word hf (hopen.append (lexes_singleQuoted v)) (hapart.append _)
  · simp
  · simp [calls]
  · simp [targets, targetAt?]

lemma stem_key (name : String) : Stem (key name) [] [] := by
  rw [key]
  split
  · next h => exact stem_of_isName (isName_of_isBare h)
  · exact (phrase_singleQuoted name).stem

/-- A member of the same name is written the same way behind any object. -/
lemma exists_columnOf (column : String) : ∃ tail, (∀ v, columnOf v column = v ++ tail) ∧
    StartsMarked tail ∧ Stem tail [] [] := by
  by_cases h : isBare (camelCase column)
  · have hlex : Lexes "." [.mark '.'] := rfl
    have hmark : StartsMarked "." := by decide
    refine ⟨"." ++ camelCase column, fun v => ?_, hmark.append _, ?_⟩
    · rw [columnOf, member, if_pos h, String.append_assoc]
    · refine stem_append_name hlex (by simp) (isName_of_isBare h) (fun c rest hopen => ?_)
        fun c rest hopen => ?_
      · simp [calls]
      · simp [targets, targetAt?, hopen]
  · have hmark : StartsMarked "[" := by decide
    have hphrase := (phrase_openBracket.append (phrase_singleQuoted (camelCase column))).append
      phrase_closeBracket
    refine ⟨"[" ++ singleQuoted (camelCase column) ++ "]", fun v => ?_,
      (hmark.append _).append _, hphrase.stem⟩
    rw [columnOf, member, if_neg h, String.append_assoc, String.append_assoc, String.append_assoc]

/-- Behind the variable of a table may stand one of its columns. -/
lemma Stem.columnOf (h : Stem (s ++ v) fs vs) (column : String) :
    Stem (s ++ columnOf v column) fs vs := by
  obtain ⟨tail, htail, hmark, hstem⟩ := exists_columnOf column
  have := h.append hmark hstem
  rwa [List.append_nil, List.append_nil, String.append_assoc, ← htail] at this

lemma stem_columnOf (hv : IsName v) (column : String) : Stem (Drizzle.columnOf v column) [] [] := by
  have hstem : Stem ("" ++ v) [] [] := by
    rw [String.empty_append]
    exact stem_of_isName hv
  simpa only [String.empty_append] using hstem.columnOf column

lemma phrase_literals {separator : String} (hsep : Phrase separator [] []) (values : List String) :
    Phrase (Text.joinWith separator (values.map singleQuoted)) [] [] := by
  have hlist := phrase_joinWith hsep values fun v _ => phrase_singleQuoted v
  rwa [List.flatMap_eq_nil_iff.mpr fun _ _ => rfl] at hlist

lemma phrase_valueList (values : List String) : Phrase (valueList values) [] [] :=
  (phrase_openBracket.append (phrase_literals phrase_comma values)).append phrase_closeBracket

lemma phrase_union (c : Column) (e : EnumType) : Phrase (TypeScript.union c e) [] [] := by
  have hopen : Phrase "(" [] [] := ⟨[.mark '('], rfl, by simp, fun _ => rfl, fun _ => rfl⟩
  have hclose : Phrase ")[]" [] [] :=
    ⟨[.mark ')', .mark '[', .mark ']'], rfl, by simp, fun _ => rfl, fun _ => rfl⟩
  have hbar : Phrase " | " [] [] := ⟨[.mark '|'], rfl, by simp, fun _ => rfl, fun _ => rfl⟩
  have hlist := phrase_literals hbar e.values
  rw [TypeScript.union]
  split
  · exact (hopen.append hlist).append hclose
  · exact hlist

/-- A number in front of the brace that closes the options. -/
lemma phrase_lastNumber (n : ℕ) : Phrase (toString n ++ " \x7d") [] [] := by
  have hclose : Lexes " \x7d" [.mark '\x7d'] := rfl
  have hapart : StartsApart " \x7d" := by decide
  refine ⟨_, Lexes.word (isName_toString n) hclose hapart, by simp, fun rest => ?_, fun rest => ?_⟩
  · simp [calls]
  · simp [targets, targetAt?]

lemma phrase_scalarOptions (c : Column) (f : String) : Phrase (scalarOptions c f) [] [] := by
  have hlength : Phrase ", \x7b length: " [] [] :=
    ⟨[.mark ',', .mark '\x7b', .word "length", .mark ':'], rfl, by simp, fun _ => rfl, fun _ => rfl⟩
  have hprecision : Phrase ", \x7b precision: " [] [] :=
    ⟨[.mark ',', .mark '\x7b', .word "precision", .mark ':'], rfl, by simp, fun _ => rfl,
      fun _ => rfl⟩
  have hscale : Phrase ", scale: " [] [] :=
    ⟨[.mark ',', .word "scale", .mark ':'], rfl, by simp, fun _ => rfl, fun _ => rfl⟩
  have hmark : StartsMarked ", scale: " := by decide
  rw [scalarOptions]
  split
  · split
    · next n hn =>
      obtain ⟨k, rfl⟩ : ∃ k : ℕ, n = k := by
        obtain ⟨-, hpos⟩ := Option.filter_eq_some_iff.mp hn
        exact ⟨n.toNat, by simp at hpos; omega⟩
      rw [String.append_assoc]
      exact hlength.append (phrase_lastNumber k)
    · exact phrase_empty
  · split
    · split
      · next p _ =>
        split
        · next q _ =>
          have hnumber := stem_of_isName (isName_toString p) _ [] [] hmark hscale
          have hall := hprecision.append (hnumber.append (phrase_lastNumber q))
          simpa only [String.append_assoc, List.append_nil] using hall
        · rw [String.append_assoc]
          exact hprecision.append (phrase_lastNumber p)
      · exact phrase_empty
    · exact phrase_empty

/-! ### Columns -/

/-- The function that a builder calls. -/
def Builder.called : Builder → String
  | core function _ _ => function
  | declared e => e.var

lemma phrase_core {options : String} {narrowed : Option String} (hf : IsName f)
    (hoptions : Phrase options [] []) (hnarrowed : ∀ type ∈ narrowed, Phrase type [] [])
    (id : String) : Phrase ((Builder.core f options narrowed).text id) [f] [] := by
  have htype : Phrase ".$type<" [] [] :=
    ⟨[.mark '.', .word "$type", .mark '<'], rfl, by simp, fun _ => rfl, fun _ => rfl⟩
  have hend : Phrase ">()" [] [] :=
    ⟨[.mark '>', .mark '(', .mark ')'], rfl, by simp, fun _ => rfl, fun _ => rfl⟩
  have hcall := ((phrase_call hf id).append hoptions).append phrase_close
  rw [Builder.text]
  cases narrowed with
  | none => exact hcall.append phrase_empty
  | some type => exact hcall.append ((htype.append (hnarrowed type rfl)).append hend)

lemma phrase_declared (e : EnumDeclaration) (id : String) :
    Phrase ((Builder.declared e).text id) [e.var] [] := by
  exact (phrase_call (isName_enumVar e) id).append phrase_close

/-- What builds a column of a table, by cases. -/
lemma phrase_builder (m : TableModel) (c : Column) (id : String) :
    Phrase ((Builder.ofColumn m c).text id) [(Builder.ofColumn m c).called] [] := by
  have hopen : Phrase ", \x7b enum: " [] [] :=
    ⟨[.mark ',', .mark '\x7b', .word "enum", .mark ':'], rfl, by simp, fun _ => rfl, fun _ => rfl⟩
  have hclose : Phrase " \x7d" [] [] := ⟨[.mark '\x7d'], rfl, by simp, fun _ => rfl, fun _ => rfl⟩
  have hname := isName_typeOf m c
  have hoptions := phrase_scalarOptions c (m.typeOf .drizzle c)
  rw [Builder.ofColumn]
  split
  · exact phrase_core hname hoptions (by simp) id
  · next e _ =>
    have hunion : ∀ type ∈ some (TypeScript.union c e), Phrase type [] [] := by
      simpa using phrase_union c e
    have hnarrowed := phrase_core hname hoptions hunion id
    have hvalues := phrase_valueList e.values
    dsimp only
    split
    · exact hnarrowed
    · split
      · exact phrase_declared _ id
      · next f hf =>
        exact phrase_core (isName_of_enumStyle (.inr hf)) (phrase_comma.append hvalues) (by simp) id
      · exact phrase_core (isName_of_isBare (by decide)) ((hopen.append hvalues).append hclose)
          (by simp) id
      · exact hnarrowed

/-- The variables of the tables that a column links to. -/
def ColumnField.linked (c : ColumnField) : List String :=
  (c.references.map Target.var).toList

lemma phrase_references (t : Target) :
    Phrase (".references(() => " ++ t.text ++ ")") [] [t.var] := by
  have hmark : StartsMarked ")" := by decide
  have hlex : Lexes ".references(() => " [.mark '.', .word "references", .mark '(', .mark '(',
    .mark ')', .mark '=', .mark '>'] := rfl
  have hstem : Stem (".references(() => " ++ t.var) [] [t.var] := by
    refine stem_append_name hlex (by simp) (isName_tableVariable t.table) (fun c rest hopen => ?_)
      fun c rest hopen => ?_
    · simp [calls, hopen]
    · simp [targets, targetAt?, hopen]
  exact hstem.columnOf t.column ")" [] [] hmark phrase_close

lemma ColumnField.phrase_text (c : ColumnField)
    (hbuilder : Phrase (c.builder.text c.id) [c.builder.called] []) :
    Phrase c.text [c.builder.called] c.linked := by
  have hcolon : Phrase ": " [] [] := ⟨[.mark ':'], rfl, by simp, fun _ => rfl, fun _ => rfl⟩
  have hcolonMark : StartsMarked ": " := by decide
  have hcomma : Phrase "," [] [] := ⟨[.mark ','], rfl, by simp, fun _ => rfl, fun _ => rfl⟩
  have hkey := stem_key (camelCase c.id) ": " [] [] hcolonMark hcolon
  have hnull : Phrase (if c.isNullable then "" else ".notNull()") [] [] := by
    split
    · exact phrase_empty
    · exact ⟨[.mark '.', .word "notNull", .mark '(', .mark ')'], rfl, by simp, fun _ => rfl,
        fun _ => rfl⟩
  have hunique : Phrase (if c.isPrimary then ".primaryKey()" else if c.isUnique then ".unique()"
      else "") [] [] := by
    split
    · exact ⟨[.mark '.', .word "primaryKey", .mark '(', .mark ')'], rfl, by simp, fun _ => rfl,
        fun _ => rfl⟩
    · split
      · exact ⟨[.mark '.', .word "unique", .mark '(', .mark ')'], rfl, by simp, fun _ => rfl,
          fun _ => rfl⟩
      · exact phrase_empty
  have hlinks : Phrase ((c.references.map fun t => ".references(() => " ++ t.text ++ ")").getD "")
      [] c.linked := by
    rw [linked]
    cases c.references with
    | none => exact phrase_empty
    | some t => exact phrase_references t
  have hline := ((((phrase_indent.append hkey).append hbuilder).append hnull).append hunique).append
    (hlinks.append hcomma)
  simpa only [text, String.append_assoc, List.append_nil, List.nil_append] using hline

/-! ### Indexes and relations -/

lemma phrase_indexLine (i : Index) : Phrase (Module.indexLine i) [indexFunction i] [] := by
  have hon : Phrase ").on(" [] [] :=
    ⟨[.mark ')', .mark '.', .word "on", .mark '('], rfl, by simp, fun _ => rfl, fun _ => rfl⟩
  have hcommaMark : StartsMarked ", " := by decide
  have hcloseMark : StartsMarked ")," := by decide
  have hcall := phrase_call (isName_indexFunction i) i.name
  have hobject : IsName "t" := isName_of_isBare (by decide)
  have hcolumns := stem_joinWith phrase_comma hcommaMark i.columns
    fun column _ => stem_columnOf hobject column
  have hline := ((phrase_indent.append hcall).append hon).append
    (hcolumns ")," [] [] hcloseMark phrase_closeLine)
  simpa only [Module.indexLine, String.append_assoc, List.append_nil, List.nil_append] using hline

/-- The function that makes a relation. -/
def Relation.function : Relation → String
  | one _ _ _ => "one"
  | many _ _ => "many"

lemma stem_link (hf : f = "one" ∨ f = "many") (table : String) :
    Stem (": " ++ f ++ "(" ++ tableVariable table) [f] [tableVariable table] := by
  have hlex : Lexes (": " ++ f ++ "(") [.mark ':', .word f, .mark '('] := by
    rcases hf with rfl | rfl <;> rfl
  refine stem_append_name hlex (by simp) (isName_tableVariable table) (fun c rest hopen => ?_)
    fun c rest hopen => ?_
  · simp [calls, hopen]
  · rcases hf with rfl | rfl <;> simp [targets, targetAt?, hopen]

lemma Relation.phrase_text (hv : IsName v) (r : Relation) :
    Phrase (r.text v) [r.function] [r.var] := by
  have hcolonMark : StartsMarked ": " := by decide
  have hkey {f : String} (hf : f = "one" ∨ f = "many") (name table : String) :=
    (stem_key name).append (((hcolonMark.append f).append "(").append _) (stem_link hf table)
  cases r with
  | one name target source =>
    have hfields : Phrase ", \x7b\n    fields: [" [] [] :=
      ⟨[.mark ',', .mark '\x7b', .word "fields", .mark ':', .mark '['], rfl, by simp, fun _ => rfl,
        fun _ => rfl⟩
    have hfieldsMark : StartsMarked ", \x7b\n    fields: [" := by decide
    have hreferences : Phrase "],\n    references: [" [] [] :=
      ⟨[.mark ']', .mark ',', .word "references", .mark ':', .mark '['], rfl, by simp, fun _ => rfl,
        fun _ => rfl⟩
    have hreferencesMark : StartsMarked "],\n    references: [" := by decide
    have hclose : Phrase "],\n  \x7d)," [] [] :=
      ⟨[.mark ']', .mark ',', .mark '\x7d', .mark ')', .mark ','], rfl, by simp, fun _ => rfl,
        fun _ => rfl⟩
    have hcloseMark : StartsMarked "],\n  \x7d)," := by decide
    have hone := hkey (.inl rfl) name target.table _ [] [] hfieldsMark hfields
    have hsource := stem_columnOf hv source _ [] [] hreferencesMark hreferences
    have htarget := stem_columnOf (isName_tableVariable target.table) target.column _ [] []
      hcloseMark hclose
    have hline := ((phrase_indent.append hone).append hsource).append htarget
    simpa only [text, function, var, Target.text, Target.var, String.reduceAppend,
      String.append_assoc, List.append_nil, List.nil_append] using hline
  | many name table =>
    have hcloseMark : StartsMarked ")," := by decide
    have hmany := hkey (.inr rfl) name table _ [] [] hcloseMark phrase_closeLine
    simpa only [text, function, var, String.reduceAppend, String.append_assoc, List.append_nil,
      List.nil_append] using phrase_indent.append hmany

/-! ### Outlines -/

namespace Module

/-- What the module imports. -/
def imports (m : Module) : List Import :=
  (if m.relations.isEmpty then [] else [⟨["relations"], "drizzle-orm"⟩])
    ++ m.tableImports.map (fun t => ⟨[tableVariable t], "./" ++ t⟩)
    ++ [⟨m.coreImports, corePath m.dialect⟩]

/-- The definition of an enum. -/
def enumOutline (e : EnumDeclaration) : Definition :=
  ⟨e.var, e.function, [], []⟩

/-- The definition of the table: it calls what builds the columns and the indexes, and links to the
tables that the columns point at. -/
def tableOutline (m : Module) : Definition :=
  { var := m.var
    function := tableFunction m.dialect
    calls := m.columns.map (fun c => c.builder.called) ++ m.indexes.map indexFunction
    targets := m.columns.flatMap ColumnField.linked }

/-- The definition of the relations. -/
def relationsOutline (m : Module) : Definition :=
  { var := m.var ++ "Relations"
    function := "relations"
    calls := m.relations.map Relation.function
    targets := m.relations.map Relation.var }

/-- What the module imports and defines. -/
def outline (m : Module) : Outline :=
  { imports := m.imports
    definitions := m.enums.map enumOutline ++ [m.tableOutline]
      ++ if m.relations.isEmpty then [] else [m.relationsOutline] }

variable {m : Module}

lemma tells_enumLine {e : EnumDeclaration} (hf : IsName e.function) :
    Tells Definition.read? (enumLine e) [enumOutline e] := by
  have hbody := (((phrase_singleQuoted e.name).append phrase_comma).append
    (phrase_valueList e.values)).append phrase_close
  have hline := tells_definition (isName_enumVar e) hf hbody
  unfold enumLine
  simpa only [enumOutline, String.append_assoc, String.reduceAppend, List.append_nil] using hline

lemma phrase_lines {α : Type} {write : α → String} {called : α → String} {linked : α → List String}
    (as : List α) (h : ∀ a ∈ as, Phrase (write a) [called a] (linked a)) :
    Phrase (Text.joinWith "\n" (as.map write)) (as.map called) (as.flatMap linked) := by
  have hbreak : Phrase "\n" [] [] := ⟨[], rfl, by simp, fun _ => rfl, fun _ => rfl⟩
  simpa only [List.map_eq_flatMap] using phrase_joinWith hbreak as h

lemma tells_tableDefinition (m : Module)
    (h : ∀ c ∈ m.columns, Phrase (c.builder.text c.id) [c.builder.called] []) :
    Tells Definition.read? m.tableDefinition [m.tableOutline] := by
  have hopen : Phrase ", \x7b\n" [] [] :=
    ⟨[.mark ',', .mark '\x7b'], rfl, by simp, fun _ => rfl, fun _ => rfl⟩
  have hbrace : Phrase "\n\x7d" [] [] := ⟨[.mark '\x7d'], rfl, by simp, fun _ => rfl, fun _ => rfl⟩
  have harrow : Phrase ", (t) => [\n" [] [] :=
    ⟨[.mark ',', .mark '(', .word "t", .mark ')', .mark '=', .mark '>', .mark '['], rfl, by simp,
      fun _ => rfl, fun _ => rfl⟩
  have hbracket : Phrase "\n]" [] [] := ⟨[.mark ']'], rfl, by simp, fun _ => rfl, fun _ => rfl⟩
  have hcolumns := phrase_lines m.columns fun c hc => c.phrase_text (h c hc)
  have hindexes := phrase_lines m.indexes fun i _ => phrase_indexLine i
  rw [List.flatMap_eq_nil_iff.mpr fun _ _ => rfl] at hindexes
  have hextra : Phrase (if m.indexes.isEmpty then "" else
      ", (t) => [\n" ++ Text.joinWith "\n" (m.indexes.map indexLine) ++ "\n]")
        (m.indexes.map indexFunction) [] := by
    cases hempty : m.indexes with
    | nil => exact phrase_empty
    | cons i rest =>
      rw [← hempty, if_neg (by simp [hempty])]
      simpa only [List.nil_append, List.append_nil] using (harrow.append hindexes).append hbracket
  have hbody := (((phrase_singleQuoted m.table).append hopen).append
    ((hcolumns.append hbrace).append hextra)).append phrase_close
  have hline := tells_definition (isName_tableVariable m.table) (isName_tableFunction m.dialect)
    hbody
  unfold tableDefinition
  simpa only [tableOutline, var, String.append_assoc, String.reduceAppend, List.append_nil,
    List.nil_append] using hline

lemma tells_relationsDefinition (m : Module) :
    Tells Definition.read? m.relationsDefinition [m.relationsOutline] := by
  have hopen : Phrase ", (\x7b one, many \x7d) => (\x7b\n" [] [] :=
    ⟨[.mark ',', .mark '(', .mark '\x7b', .word "one", .mark ',', .word "many", .mark '\x7d',
      .mark ')', .mark '=', .mark '>', .mark '(', .mark '\x7b'], rfl, by simp, fun _ => rfl,
      fun _ => rfl⟩
  have hopenMark : StartsMarked ", (\x7b one, many \x7d) => (\x7b\n" := by decide
  have hclose : Phrase "\n\x7d))" [] [] :=
    ⟨[.mark '\x7d', .mark ')', .mark ')'], rfl, by simp, fun _ => rfl, fun _ => rfl⟩
  have hvar := isName_tableVariable m.table
  have hrelations : IsName "Relations" := isName_of_isBare (by decide)
  have hfunction : IsName "relations" := isName_of_isBare (by decide)
  have hlines := phrase_lines m.relations fun r _ => r.phrase_text hvar
  rw [← List.map_eq_flatMap] at hlines
  have hbody := ((stem_of_isName hvar _ [] [] hopenMark hopen).append hlines).append hclose
  have hline := tells_definition (isName_append hvar.2 hrelations) hfunction hbody
  have hcalled : "Relations = relations(" = "Relations" ++ " = " ++ "relations" ++ "(" := rfl
  have hclosed : "\n\x7d));" = "\n\x7d))" ++ ";" := rfl
  unfold relationsDefinition
  rw [hcalled, hclosed]
  simpa only [relationsOutline, var, String.append_assoc, -String.reduceAppend, List.append_nil,
    List.nil_append] using hline

/-- What the parts of a module have to be for its text to be read. -/
structure Readable (m : Module) : Prop where
  coreImports_ne_nil : m.coreImports ≠ []
  isName_coreImports : ∀ f ∈ m.coreImports, IsName f
  isName_enums : ∀ e ∈ m.enums, IsName e.function
  builders : ∀ c ∈ m.columns, Phrase (c.builder.text c.id) [c.builder.called] []

lemma tells_importLines (hm : m.Readable) :
    Tells Import.read? (Text.joinWith "\n" m.importLines ++ "\n\n") m.imports := by
  have hbreak : Lexes "\n" [] := rfl
  have hgap : Lexes "\n\n" [] := rfl
  have hrelations : List.Forall₂ (fun s i => Tells Import.read? s [i])
      (if m.relations.isEmpty then [] else [importLine ["relations"] "drizzle-orm"])
      (if m.relations.isEmpty then [] else [⟨["relations"], "drizzle-orm"⟩]) := by
    split
    · exact .nil
    · exact .cons (tells_importLine (by simp) (by simpa using isName_of_isBare (by decide)) _) .nil
  have htables : List.Forall₂ (fun s i => Tells Import.read? s [i])
      (m.tableImports.map fun t => importLine [tableVariable t] ("./" ++ t))
      (m.tableImports.map fun t => ⟨[tableVariable t], "./" ++ t⟩) := by
    rw [List.forall₂_map_left_iff, List.forall₂_map_right_iff, List.forall₂_same]
    exact fun t _ => tells_importLine (by simp) (by simpa using isName_tableVariable t) _
  have hcore : List.Forall₂ (fun s i => Tells Import.read? s [i])
      [importLine m.coreImports (corePath m.dialect)] [⟨m.coreImports, corePath m.dialect⟩] :=
    .cons (tells_importLine hm.coreImports_ne_nil hm.isName_coreImports _) .nil
  have himports := tells_joinWith_of_each hbreak
    (List.rel_append (List.rel_append hrelations htables) hcore)
  have hall := himports.append (tells_of_lexes_nil hgap)
  rwa [List.append_nil] at hall

lemma tells_definitions (hm : m.Readable) : Tells Definition.read? (Text.joinWith "\n\n"
    ((if m.enums.isEmpty then [] else [Text.joinWith "\n" (m.enums.map enumLine)])
      ++ [m.tableDefinition] ++ if m.relations.isEmpty then [] else [m.relationsDefinition]))
    m.outline.definitions := by
  have hbreak : Lexes "\n" [] := rfl
  have hgap : Lexes "\n\n" [] := rfl
  have hlines : Tells Definition.read? (Text.joinWith "\n" (m.enums.map enumLine))
      (m.enums.map enumOutline) := by
    apply tells_joinWith_of_each hbreak
    rw [List.forall₂_map_left_iff, List.forall₂_map_right_iff, List.forall₂_same]
    exact fun e he => tells_enumLine (hm.isName_enums e he)
  have henums : List.Forall₂ (Tells Definition.read?)
      (if m.enums.isEmpty then [] else [Text.joinWith "\n" (m.enums.map enumLine)])
      (if m.enums.isEmpty then [] else [m.enums.map enumOutline]) := by
    split
    · exact .nil
    · exact .cons hlines .nil
  have htable : List.Forall₂ (Tells Definition.read?) [m.tableDefinition] [[m.tableOutline]] :=
    .cons (tells_tableDefinition m hm.builders) .nil
  have hrelations : List.Forall₂ (Tells Definition.read?)
      (if m.relations.isEmpty then [] else [m.relationsDefinition])
      (if m.relations.isEmpty then [] else [[m.relationsOutline]]) := by
    split
    · exact .nil
    · exact .cons (tells_relationsDefinition m) .nil
  have hall := tells_joinWith hgap (List.rel_append (List.rel_append henums htable) hrelations)
  have hflat : ((if m.enums.isEmpty then [] else [m.enums.map enumOutline]) ++ [[m.tableOutline]]
      ++ if m.relations.isEmpty then [] else [[m.relationsOutline]]).flatten
        = m.outline.definitions := by
    rw [outline]
    cases m.enums <;> cases m.relations <;> simp
  rwa [hflat] at hall

/-- The text of a module is read as its outline. -/
lemma outline_read?_text (hm : m.Readable) : Outline.read? m.text = some m.outline := by
  unfold text
  exact outline_read?_append (tells_importLines hm) (tells_definitions hm)

end Module

/-! ### Modules of tables -/

lemma isName_coreFunction (m : TableModel) (c : Column) :
    IsName (Builder.ofColumn m c).coreFunction := by
  have hname := isName_typeOf m c
  have htext : IsName "text" := isName_of_isBare (by decide)
  rw [Builder.ofColumn]
  split
  · exact hname
  · dsimp only
    split
    · exact hname
    · split
      · next f hf => exact isName_of_enumStyle (.inl hf)
      · next f hf => exact isName_of_enumStyle (.inr hf)
      · exact htext
      · exact hname

lemma mem_coreImports : f ∈ (Module.ofTable m).coreImports ↔
    (∃ c ∈ m.columns, (Builder.ofColumn m c).coreFunction = f) ∨
      (∃ i ∈ m.explicitIndexes, indexFunction i = f) ∨ f = tableFunction m.dialect := by
  simp [Module.ofTable, ColumnField.ofColumn, List.mem_eraseDups]

lemma mem_enums {e : EnumDeclaration} : e ∈ (Module.ofTable m).enums ↔
    ∃ c ∈ m.columns, (Builder.ofColumn m c).declaration? = some e := by
  simp [Module.ofTable, ColumnField.ofColumn, List.mem_eraseDups]

/-- A declared enum is what builds a column of a dialect that declares enums. -/
lemma Builder.declaration?_eq_some {b : Builder} {e : EnumDeclaration}
    (h : b.declaration? = some e) : b = .declared e := by
  cases b with
  | core function options narrowed => cases h
  | declared e' => rw [Option.some.inj h]

lemma enumStyle_of_declaration? {e : EnumDeclaration}
    (h : (Builder.ofColumn m c).declaration? = some e) :
    enumStyle m.dialect = .declared e.function := by
  rw [Builder.ofColumn] at h
  split at h
  · cases h
  · dsimp only at h
    split at h
    · cases h
    · split at h
      · next f hf =>
        rw [← Option.some.inj h]
        exact hf
      all_goals cases h

lemma readable_ofTable (m : TableModel) : (Module.ofTable m).Readable where
  coreImports_ne_nil := List.ne_nil_of_mem (mem_coreImports.mpr (.inr (.inr rfl)))
  isName_coreImports f hf := by
    obtain ⟨c, -, rfl⟩ | ⟨i, -, rfl⟩ | rfl := mem_coreImports.mp hf
    · exact isName_coreFunction m c
    · exact isName_indexFunction i
    · exact isName_tableFunction m.dialect
  isName_enums e he := by
    obtain ⟨c, -, hc⟩ := mem_enums.mp he
    exact isName_of_enumStyle (.inl (enumStyle_of_declaration? hc))
  builders c hc := by
    obtain ⟨column, -, rfl⟩ := List.mem_map.mp hc
    exact phrase_builder m column column.id

/-- The text of a table is read as the outline of its module. -/
theorem outline_read?_text (m : TableModel) :
    Outline.read? (text m) = some (Module.ofTable m).outline :=
  Module.outline_read?_text (readable_ofTable m)

end SqlWorkbench.Drizzle
