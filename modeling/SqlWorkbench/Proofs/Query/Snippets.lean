import SqlWorkbench.Codegen.Snippet
import SqlWorkbench.Proofs.Query.Requests
import SqlWorkbench.Proofs.Query.Styles
import SqlWorkbench.Proofs.Query.Tokens
import SqlWorkbench.Proofs.Script.Calm

/-!
# Statements of snippets

A snippet is a selection with a terminator behind it. Names and data stand in it in the quotes of
its dialect, and a script knows the quotes of all dialects alike: it takes brackets for symbols, and
a backslash in front of a quote does not keep the quote from closing. Main statement: a snippet is
a script of one group with one statement exactly if it is terminated as scripts read it, and so it
is where nothing but calm text stands in brackets and no quote behind a backslash.
-/

namespace SqlWorkbench

open Text Lexeme

variable {d : Dialect} {filters : List Filter}

/-! ### Calm tokens -/

lemma toUpper_of_isDigit {c : Char} (hc : c.isDigit = true) : c.toNat < 128 ∧ c.toUpper = c := by
  have hcode := toNat_of_isDigit hc
  refine ⟨by omega, ?_⟩
  delta Char.toUpper
  rw [dif_neg]
  rintro ⟨hlow, -⟩
  rw [UInt32.le_iff_toNat_le] at hlow
  have hletter : 97 ≤ c.toNat := hlow
  omega

/-- A word that begins with a digit opens no block. -/
lemma capitals_not_mem_of_isDigit {c : Char} {letters : List Char} (hc : c.isDigit = true) :
    capitals (c :: letters) ∉ openingWords := by
  obtain ⟨hascii, hupper⟩ := toUpper_of_isDigit hc
  intro hmem
  rw [capitals, toUpper_cons, upperChars_of_isAscii hascii, hupper] at hmem
  simp only [openingWords, List.mem_cons, List.not_mem_nil, or_false] at hmem
  rcases hmem with hword | hword | hword
  all_goals
    have hhead := congrArg (fun w => w.toList.head?) hword
    simp only [String.toList_ofList, List.cons_append, List.head?_cons] at hhead
    obtain rfl := Option.some.inj hhead
    exact absurd hc (by decide)

lemma calmText_of_isNumeral {s : List Char} (hs : ∀ c ∈ s, isNumeral c = true) : CalmText s := by
  intro l hl
  have hmem : ∀ c ∈ l.text, isNumeral c = true := by
    intro c hc
    apply hs c
    rw [← flatMap_text_ofText s]
    exact List.mem_flatMap_of_mem hl hc
  obtain ⟨afterWord, rest, hfits⟩ := (fitting_ofText s).placed l hl
  cases l with
  | blank c | symbol c => rfl
  | lineBreak | semicolon => exact absurd (hmem _ List.mem_cons_self) (by decide)
  | lineComment body | blockComment body closed =>
    exact absurd (hmem _ List.mem_cons_self) (by decide)
  | quoted quote body closed =>
    have hquote := hmem quote (by simp [text])
    have hmarks := mem_marks_of_isQuote hfits.1
    exact absurd hmarks (not_mem_marks_of_isNumeral hquote)
  | dollarQuoted tag body closed =>
    obtain ⟨-, ⟨name, rfl, -⟩, -⟩ := hfits
    exact absurd (hmem '$' (by simp [text])) (by decide)
  | word letters =>
    obtain ⟨hne, hpart, -⟩ := hfits
    obtain ⟨c, letters, rfl⟩ := List.exists_cons_of_ne_nil hne
    have hdigit : c.isDigit = true := by
      have hnumeral := hmem c List.mem_cons_self
      rw [isNumeral, Bool.or_eq_true, beq_iff_eq] at hnumeral
      refine hnumeral.resolve_right ?_
      rintro rfl
      exact absurd (hpart '.' List.mem_cons_self) (by decide)
    simpa [isCalm] using capitals_not_mem_of_isDigit hdigit

lemma IsNumber.calmText {s : List Char} (hs : IsNumber s) : CalmText s := by
  obtain ⟨body, -, hbody, rfl | rfl⟩ := hs
  · exact calmText_of_isNumeral hbody
  · refine (calmText_of_isNumeral hbody).cons_hyphen fun hhead => ?_
    exact absurd (hbody '-' (List.mem_of_head? hhead)) (by decide)

namespace Dialect

lemma calmText_quotedName (hd : d ≠ mssql) (name : List Char) : CalmText (d.quotedName name) := by
  have hclose : d.closeQuote = d.openQuote := by cases d <;> first | rfl | exact absurd rfl hd
  have hquote : isQuote d.openQuote = true := by cases d <;> first | rfl | exact absurd rfl hd
  rw [quotedName, hclose]
  exact calmText_quoted hquote (doubled_replaceChar _ _)

/-- Where only backslashes escape, a quoted text has to be without quotes. -/
lemma doubled_flatMap_quotedChar {s : List Char} (h : d = clickhouse → '\x27' ∉ s) :
    Doubled '\x27' (s.flatMap d.quotedChar) := by
  induction s with
  | nil => exact .nil
  | cons c s ih =>
    have hrest := ih fun hd hc => h hd (List.mem_cons_of_mem c hc)
    rw [List.flatMap_cons]
    by_cases hc : c = '\x27'
    · have hd : d.quotedChar c = ['\x27', '\x27'] := by
        subst hc
        cases d <;> first | rfl | exact absurd List.mem_cons_self (h rfl)
      rw [hd]
      exact .pair hrest
    · have hd : d.quotedChar c = [c] ∨ c = '\\' ∧ d.quotedChar c = ['\\', '\\'] := by
        by_cases hbackslash : c = '\\'
        · subst hbackslash
          cases d <;> simp [quotedChar]
        · left
          cases d <;> simp [quotedChar, hc, hbackslash]
      rcases hd with hd | ⟨rfl, hd⟩
      · rw [hd]
        exact .other hc hrest
      · rw [hd]
        exact .other hc (.other hc hrest)

lemma calmText_quoteText {s : String} (h : d = clickhouse → '\x27' ∉ s.toList) :
    CalmText (d.quoteText s).toList := by
  rw [toList_quoteText]
  exact calmText_quoted (by decide) (doubled_flatMap_quotedChar h)

lemma calmText_momentLiteral {s : String} (h : d = clickhouse → '\x27' ∉ s.toList) :
    CalmText (d.momentLiteral s).toList := by
  have htext := calmText_quoteText h
  rw [momentLiteral]
  split
  · have hname : CalmText "parseDateTime64BestEffort".toList := by decide
    have hopen : "parseDateTime64BestEffort(".toList
        = "parseDateTime64BestEffort".toList ++ ['('] := by decide
    have hcall : CalmText ("parseDateTime64BestEffort".toList ++ ['('] ++ (d.quoteText s).toList) :=
      separates_of_mem (by decide) _ _ hname htext
    rw [String.toList_append, String.toList_append, hopen]
    exact hcall.join (by decide) calmText_nil
  · exact htext

lemma calmText_literal {value : Datum}
    (h : d = clickhouse → '\x27' ∉ value.display.toList) : CalmText (d.literal value).toList := by
  cases value with
  | null => exact (by decide : CalmText "NULL".toList)
  | bool b =>
    have hall : ∀ s ∈ ["1", "0", "TRUE", "FALSE"], CalmText s.toList := by decide
    rw [literal]
    split_ifs <;> exact hall _ (by simp)
  | int i => exact (isNumber_toString_int i).calmText
  | float x =>
    rw [literal]
    split
    · next hx => exact (Double.isNumber_plainText hx).calmText
    · exact (by decide : CalmText "NULL".toList)
  | text s =>
    rw [literal]
    split
    · exact calmText_momentLiteral h
    · exact calmText_quoteText h
  | date t => exact calmText_momentLiteral h
  | moment t => exact calmText_momentLiteral h
  | json j => exact calmText_quoteText h

lemma calmText_quotePath {name : String} (h : CalmText (d.quotedName name.toList)) :
    CalmText (d.quotePath [name]).toList := by
  rw [quotePath, List.filter_singleton]
  cases name.isEmpty with
  | true => exact calmText_nil
  | false => simpa using h

end Dialect

/-! ### Written conditions -/

namespace Template

@[simp] lemma literalSql_ofText (sql : String) : (ofText sql).literalSql d = sql := by
  simp [ofText, literalSql]

@[simp] lemma literalSql_slot (value : Datum) : literalSql d [.slot value] = d.literal value := by
  simp [literalSql]

lemma literalSql_joinWith (separator : String) (ts : List Template) :
    (joinWith separator ts).literalSql d = Text.joinWith separator (ts.map (literalSql d)) := by
  fun_induction joinWith separator ts with
  | case1 => rfl
  | case2 t => rfl
  | case3 t next rest ih =>
    rw [literalSql_append, literalSql_append, ih, literalSql_ofText]
    rfl

end Template

namespace Expression

@[simp] lemma literalSql_column (name : String) :
    ((column name).template d).literalSql d = d.quotePath [name] := by
  rw [column, template, Template.literalSql_ofText]

@[simp] lemma literalSql_parameter (value : Datum) :
    ((parameter value).template d).literalSql d = d.literal value := by
  rw [template, Template.literalSql_slot]

lemma literalSql_parameters (values : List Datum) :
    ((list (values.map .parameter)).template d).literalSql d
      = "(" ++ joinWith ", " (values.map d.literal) ++ ")" := by
  have hitems : (templates d (values.map .parameter)).map (Template.literalSql d)
      = values.map d.literal := by
    induction values with
    | nil => rfl
    | cons value values ih =>
      rw [List.map_cons, templates, List.map_cons, ih, literalSql_parameter, List.map_cons]
  rw [template, Template.literalSql_append, Template.literalSql_append, Template.literalSql_ofText,
    Template.literalSql_ofText, Template.literalSql_joinWith, hitems]

lemma literalSql_comparison (left right : Expression) (operator : String) :
    ((comparison left operator (some right)).template d).literalSql d
      = (left.template d).literalSql d ++ (" " ++ operator ++ " ")
        ++ (right.template d).literalSql d := by
  rw [template, Template.literalSql_append, Template.literalSql_append, Template.literalSql_ofText]

end Expression

/-- How the condition of a filter is written out. -/
inductive Filter.Written (d : Dialect) (f : Filter) : String → Prop
  /-- The column with the operator behind it. -/
  | operator : Written d f (d.quotePath [f.column] ++ (" " ++ f.operator.symbol))
  /-- A comparison of numbers, if there is nothing to look for. -/
  | constant {sql : String} (h : sql ∈ ["1 = 1", "1 = 0"]) : Written d f sql
  /-- The column, the operator and all data in parentheses. -/
  | list : Written d f (d.quotePath [f.column] ++ (" " ++ f.operator.symbol ++ " ")
      ++ ("(" ++ joinWith ", " (f.operands.map d.literal) ++ ")"))
  /-- The column, the operator and a datum. -/
  | datum {value : Datum} (h : value ∈ f.operands) :
      Written d f (d.quotePath [f.column] ++ (" " ++ f.operator.symbol ++ " ") ++ d.literal value)

/-- A condition stands among others without parentheses, and is written in one of four ways. -/
lemma Filter.written_condition {f : Filter} {e : Expression} (h : f.condition d = .ok e) :
    e.isWideJunction = false ∧ f.Written d ((e.template d).literalSql d) := by
  rw [condition] at h
  split at h
  · cases h
  split at h
  · cases h
    rw [Expression.template, Template.literalSql_append, Template.literalSql_ofText,
      Expression.literalSql_column]
    exact ⟨rfl, .operator⟩
  split at h
  · split at h
    · cases h
      rw [Expression.template, Template.literalSql_ofText]
      refine ⟨rfl, .constant ?_⟩
      split <;> simp
    · cases h
      rw [Expression.literalSql_comparison, Expression.literalSql_column,
        Expression.literalSql_parameters]
      exact ⟨rfl, .list⟩
  · split at h
    · next value values hvalues =>
      cases h
      rw [Expression.literalSql_comparison, Expression.literalSql_column,
        Expression.literalSql_parameter]
      exact ⟨rfl, .datum (by simp [hvalues])⟩
    · cases h

lemma written_conditions {conditions : List Expression}
    (h : List.Forall₂ (fun f e => f.condition d = .ok e) filters conditions) :
    List.Forall₂ (Filter.Written d) filters
      ((Expression.conditions d conditions).map (Template.literalSql d)) := by
  induction h with
  | nil => exact .nil
  | cons hf _ ih =>
    obtain ⟨hnarrow, hwritten⟩ := Filter.written_condition hf
    rw [Expression.conditions, hnarrow, List.map_cons]
    exact .cons hwritten ih

/-- The restriction is written as the conditions of the filters with a keyword between them. -/
lemma written_whereTemplate {t : Template} (h : whereTemplate d filters .and = .ok (some t)) :
    filters ≠ [] ∧ ∃ conditions, List.Forall₂ (Filter.Written d) filters conditions ∧
      t.literalSql d = "WHERE " ++ joinWith " AND " conditions := by
  obtain ⟨-, ⟨⟩⟩ | ⟨conditions, hconditions, ht⟩ := whereTemplate_cases h
  refine ⟨?_, _, written_conditions hconditions, ?_⟩
  · rintro rfl
    cases h
  · obtain rfl := Option.some.inj ht
    rw [Template.literalSql_append, Template.literalSql_ofText, Expression.template,
      Template.literalSql_joinWith]
    rfl

/-! ### Calm conditions -/

lemma calmText_joinWith {separator : String} {pieces : List String}
    (hseparator : Separates separator.toList) (hpieces : ∀ piece ∈ pieces, CalmText piece.toList) :
    CalmText (joinWith separator pieces).toList := by
  fun_induction joinWith separator pieces with
  | case1 => exact calmText_nil
  | case2 piece => exact hpieces piece (by simp)
  | case3 piece next rest ih =>
    rw [List.forall_mem_cons] at hpieces
    rw [String.toList_append, String.toList_append]
    exact hseparator _ _ hpieces.1 (ih hpieces.2)

/-- A text with a blank on either side. -/
lemma separates_spaced {s : List Char} (hs : CalmText s) : Separates (' ' :: s ++ [' ']) :=
  (separates_of_mem (by decide)).append hs (separates_of_mem (by decide))

lemma Operator.calmText_symbol (operator : Operator) : CalmText operator.symbol.toList := by
  cases operator <;> decide

/-- A condition is calm if the column and the data are: delimiters stand between them. -/
lemma Filter.Written.calmText {f : Filter} {sql : String} (h : f.Written d sql)
    (hcolumn : CalmText (d.quotedName f.column.toList))
    (hdata : ∀ value ∈ f.operands, CalmText (d.literal value).toList) : CalmText sql.toList := by
  have hpath := Dialect.calmText_quotePath hcolumn
  have hspaced : Separates (" " ++ f.operator.symbol ++ " ").toList := by
    rw [String.toList_append, String.toList_append]
    exact separates_spaced f.operator.calmText_symbol
  cases h with
  | operator =>
    rw [String.toList_append, String.toList_append]
    exact hpath.join (by decide) f.operator.calmText_symbol
  | constant hsql =>
    have hall : ∀ s ∈ ["1 = 1", "1 = 0"], CalmText s.toList := by decide
    exact hall sql hsql
  | list =>
    have hcomma : Separates ", ".toList :=
      (separates_of_mem (by decide)).append calmText_nil (separates_of_mem (by decide))
    have hitems := calmText_joinWith hcomma (List.forall_mem_map.mpr hdata)
    have hlist : CalmText ("(" ++ joinWith ", " (f.operands.map d.literal) ++ ")").toList := by
      rw [String.toList_append, String.toList_append]
      exact (hitems.cons_delimiter (by decide)).join (by decide) calmText_nil
    rw [String.toList_append, String.toList_append]
    exact hspaced _ _ hpath hlist
  | datum hvalue =>
    rw [String.toList_append, String.toList_append]
    exact hspaced _ _ hpath (hdata _ hvalue)

lemma calmText_written {conditions : List String}
    (h : List.Forall₂ (Filter.Written d) filters conditions)
    (hcolumns : ∀ f ∈ filters, CalmText (d.quotedName f.column.toList))
    (hdata : ∀ value ∈ filters.flatMap Filter.operands, CalmText (d.literal value).toList) :
    ∀ sql ∈ conditions, CalmText sql.toList := by
  induction h with
  | nil => simp
  | cons hf _ ih =>
    rw [List.forall_mem_cons] at hcolumns ⊢
    rw [List.flatMap_cons, List.forall_mem_append] at hdata
    exact ⟨hf.calmText hcolumns.1 hdata.1, ih hcolumns.2 hdata.2⟩

/-! ### The end of a statement -/

/-- The last character of the text is no blank. -/
def EndsVisibly (s : List Char) : Prop :=
  s.getLast?.any (!isBlank ·) = true

instance (s : List Char) : Decidable (EndsVisibly s) :=
  inferInstanceAs (Decidable (_ = true))

lemma endsVisibly_concat {c : Char} (hc : isBlank c = false) (s : List Char) :
    EndsVisibly (s ++ [c]) := by
  simp [EndsVisibly, hc]

lemma EndsVisibly.append_left {s : List Char} (hs : EndsVisibly s) (t : List Char) :
    EndsVisibly (t ++ s) := by
  have hne : s ≠ [] := by
    rintro rfl
    simp [EndsVisibly] at hs
  rwa [EndsVisibly, List.getLast?_append_of_ne_nil _ hne]

/-- Joined pieces end as the last one does. -/
lemma endsVisibly_joinWith {separator piece : String} {pieces : List String}
    (hlast : pieces.getLast? = some piece) (hpiece : EndsVisibly piece.toList) :
    EndsVisibly (joinWith separator pieces).toList := by
  fun_induction joinWith separator pieces with
  | case1 => simp at hlast
  | case2 first =>
    obtain rfl : first = piece := by simpa using hlast
    exact hpiece
  | case3 first next rest ih =>
    rw [String.toList_append]
    exact (ih (by simpa using hlast)).append_left _

lemma IsNumber.endsVisibly {s : List Char} (hs : IsNumber s) : EndsVisibly s := by
  obtain ⟨body, hne, hbody, hs⟩ := hs
  have hlast : EndsVisibly body := by
    have hnumeral := hbody _ (List.getLast_mem hne)
    rw [EndsVisibly, List.getLast?_eq_getLast_of_ne_nil hne, Option.any_some, Bool.not_eq_true']
    rw [isNumeral, Bool.or_eq_true, beq_iff_eq] at hnumeral
    rcases hnumeral with hdigit | hpoint
    · exact isBlank_of_isWordPart (isWordPart_of_isTagPart (by simp [isTagPart, hdigit]))
    · rw [hpoint]
      decide
  rcases hs with rfl | rfl
  · exact hlast
  · exact hlast.append_left ['-']

namespace Dialect

lemma endsVisibly_quoteText (s : String) : EndsVisibly (d.quoteText s).toList := by
  rw [toList_quoteText]
  exact endsVisibly_concat (by decide) _

lemma endsVisibly_momentLiteral (s : String) : EndsVisibly (d.momentLiteral s).toList := by
  rw [momentLiteral]
  split
  · rw [String.toList_append]
    exact endsVisibly_concat (by decide) _
  · exact endsVisibly_quoteText s

lemma endsVisibly_literal (value : Datum) : EndsVisibly (d.literal value).toList := by
  cases value with
  | null => exact (by decide : EndsVisibly "NULL".toList)
  | bool b =>
    rw [literal]
    split_ifs <;> decide
  | int i => exact (isNumber_toString_int i).endsVisibly
  | float x =>
    rw [literal]
    split
    · next hx => exact (Double.isNumber_plainText hx).endsVisibly
    · exact (by decide : EndsVisibly "NULL".toList)
  | text s =>
    rw [literal]
    split
    · exact endsVisibly_momentLiteral s
    · exact endsVisibly_quoteText s
  | date t => exact endsVisibly_momentLiteral _
  | moment t => exact endsVisibly_momentLiteral _
  | json j => exact endsVisibly_quoteText _

end Dialect

/-- The condition of a filter ends with an operator, a number, a parenthesis or a literal. -/
lemma Filter.Written.endsVisibly {f : Filter} {sql : String} (h : f.Written d sql) :
    EndsVisibly sql.toList := by
  cases h with
  | operator =>
    have hsymbol : EndsVisibly f.operator.symbol.toList := by cases f.operator <;> decide
    rw [String.toList_append, String.toList_append]
    exact (hsymbol.append_left _).append_left _
  | constant hsql =>
    have hall : ∀ s ∈ ["1 = 1", "1 = 0"], EndsVisibly s.toList := by decide
    exact hall sql hsql
  | list =>
    have hclose : EndsVisibly ")".toList := by decide
    rw [String.toList_append, String.toList_append (s := "(" ++ _)]
    exact (hclose.append_left _).append_left _
  | datum hvalue =>
    rw [String.toList_append]
    exact (Dialect.endsVisibly_literal _).append_left _

lemma endsVisibly_written {conditions : List String}
    (h : List.Forall₂ (Filter.Written d) filters conditions) :
    ∀ sql ∈ conditions, EndsVisibly sql.toList := by
  induction h with
  | nil => simp
  | cons hf _ ih =>
    rw [List.forall_mem_cons]
    exact ⟨hf.endsVisibly, ih⟩

lemma EndsVisibly.trimEnd_eq {s : List Char} (hs : EndsVisibly s) : trimEnd s = s := by
  refine trimEnd_eq_self fun c hc => ?_
  rw [Option.mem_def] at hc
  simpa [EndsVisibly, hc] using hs

lemma Dialect.endsVisibly_quotePath {name : String} (hname : name.isEmpty = false) :
    EndsVisibly (d.quotePath [name]).toList := by
  have hclose : isBlank d.closeQuote = false := by cases d <;> decide
  rw [quotePath, List.filter_singleton, hname]
  simpa [quotedName] using endsVisibly_concat hclose (d.openQuote :: _)

/-! ### Snippets -/

namespace Snippet

variable {table text : String} {clause : Option Template}

/-- The statement of a snippet, with the clause for its filters. -/
def statement (d : Dialect) (table : String) (clause : Option Template) : String :=
  joinWith " " (["SELECT *", "FROM " ++ d.quotePath [table]]
    ++ (clause.map (Template.literalSql d)).toList)

/-- A snippet is a statement with a terminator behind it. -/
lemma exists_statement (h : Snippet.text .sql table filters d = .ok text) :
    ∃ clause, whereTemplate d filters .and = .ok clause ∧
      text = statement d table clause ++ ";" := by
  rw [Snippet.text, sql, SqlStyle.select_eq_query, SqlStyle.dialect_inlining] at h
  cases ht : SelectRequest.template d { table, filters } with
  | error e =>
    rw [ht] at h
    cases h
  | ok t =>
    rw [ht] at h
    obtain ⟨clause, hclause, rfl⟩ := exists_of_restricted ht
    refine ⟨clause, hclause, ?_⟩
    have hpaging : paging d none none = [] := by cases d <;> rfl
    cases h
    rw [Template.query, Template.queryAfter_inlining, Template.literalSql_joinWith]
    cases clause <;> simp [statement, orderText, hpaging, tableName, projectionText]

lemma head?_statement (d : Dialect) (table : String) (clause : Option Template) :
    (statement d table clause).toList.head? = some 'S' := by
  rw [statement, List.cons_append, List.cons_append, joinWith_cons_cons]
  simp

lemma endsVisibly_whereTemplate {t : Template}
    (h : whereTemplate d filters .and = .ok (some t)) : EndsVisibly (t.literalSql d).toList := by
  obtain ⟨hfilters, conditions, hwritten, ht⟩ := written_whereTemplate h
  have hne : conditions ≠ [] := by
    rintro rfl
    exact hfilters (List.forall₂_nil_right_iff.mp hwritten)
  rw [ht, String.toList_append]
  refine EndsVisibly.append_left ?_ _
  exact endsVisibly_joinWith (List.getLast?_eq_getLast_of_ne_nil hne)
    (endsVisibly_written hwritten _ (List.getLast_mem hne))

/-- Only without filters and without a name for the table there may be a blank at the end. -/
lemma endsVisibly_statement (table : String) (h : whereTemplate d filters .and = .ok clause) :
    EndsVisibly (statement d table clause).toList ∨ table.isEmpty = true ∧ clause = none := by
  cases clause with
  | some t => exact Or.inl (endsVisibly_joinWith (by simp) (endsVisibly_whereTemplate h))
  | none =>
    cases htable : table.isEmpty with
    | true => exact Or.inr ⟨rfl, rfl⟩
    | false =>
      have hfrom : EndsVisibly ("FROM " ++ d.quotePath [table]).toList := by
        rw [String.toList_append]
        exact (Dialect.endsVisibly_quotePath htable).append_left _
      exact Or.inl (endsVisibly_joinWith (by simp) hfrom)

lemma count_trim_statement (h : whereTemplate d filters .and = .ok clause) :
    (trim (statement d table clause).toList).count '\n'
      = (statement d table clause).toList.count '\n' := by
  have hstart : trimStart (statement d table clause).toList
      = (statement d table clause).toList := by
    refine trimStart_eq_self fun c hc => ?_
    rw [head?_statement, Option.mem_some_iff] at hc
    subst hc
    decide
  rw [trim, hstart]
  obtain hends | ⟨htable, rfl⟩ := endsVisibly_statement table h
  · rw [hends.trimEnd_eq]
  · obtain rfl := String.isEmpty_iff.mp htable
    cases d <;> decide

/-! ### Calm snippets -/

lemma calmText_whereTemplate {t : Template} (h : whereTemplate d filters .and = .ok (some t))
    (hcolumns : ∀ f ∈ filters, CalmText (d.quotedName f.column.toList))
    (hdata : ∀ value ∈ filters.flatMap Filter.operands, CalmText (d.literal value).toList) :
    CalmText (t.literalSql d).toList := by
  obtain ⟨-, conditions, hwritten, ht⟩ := written_whereTemplate h
  have hwhere : CalmText "WHERE".toList := by decide
  have hkeyword : "WHERE ".toList = "WHERE".toList ++ [' '] := by decide
  have hand : Separates " AND ".toList := separates_spaced (s := "AND".toList) (by decide)
  have hconditions := calmText_joinWith hand (calmText_written hwritten hcolumns hdata)
  rw [ht, String.toList_append, hkeyword, List.append_assoc]
  exact hwhere.join (by decide) hconditions

lemma calmText_statement (h : whereTemplate d filters .and = .ok clause)
    (htable : CalmText (d.quotedName table.toList))
    (hcolumns : ∀ f ∈ filters, CalmText (d.quotedName f.column.toList))
    (hdata : ∀ value ∈ filters.flatMap Filter.operands, CalmText (d.literal value).toList) :
    CalmText (statement d table clause).toList := by
  have hfrom : CalmText ("FROM " ++ d.quotePath [table]).toList := by
    have hname : CalmText "FROM".toList := by decide
    have hkeyword : "FROM ".toList = "FROM".toList ++ [' '] := by decide
    rw [String.toList_append, hkeyword, List.append_assoc]
    exact hname.join (by decide) (Dialect.calmText_quotePath htable)
  refine calmText_joinWith (separates_of_mem (by decide)) fun piece hpiece => ?_
  simp only [List.mem_append, List.mem_cons, List.not_mem_nil, or_false, Option.mem_toList,
    Option.map_eq_some_iff] at hpiece
  rcases hpiece with (rfl | rfl) | ⟨t, rfl, rfl⟩
  · decide
  · exact hfrom
  · exact calmText_whereTemplate h hcolumns hdata

/-- A snippet is a script of one group with one statement, its own, exactly if the statement is
terminated as scripts read it. For Postgres, MySQL and SQLite it always is; for MSSQL it is if
nothing but calm text stands in brackets, and for ClickHouse if no datum has a quote in it. -/
theorem isOwnStatement_iff_isTerminated (h : Snippet.text .sql table filters d = .ok text) :
    ∃ sql, text = sql ++ ";" ∧ (Script.IsOwnStatement sql ↔ Script.IsTerminated sql) ∧
      ((d = .mssql → ∀ name ∈ table :: filters.map Filter.column,
          CalmText (d.quotedName name.toList)) →
        (d = .clickhouse → ∀ value ∈ filters.flatMap Filter.operands,
          '\x27' ∉ value.display.toList) →
        Script.IsOwnStatement sql) := by
  obtain ⟨clause, hclause, rfl⟩ := exists_statement h
  have hhead := head?_statement d table clause
  have hiff : Script.IsOwnStatement (statement d table clause)
      ↔ Script.IsTerminated (statement d table clause) :=
    Script.isOwnStatement_iff ⟨'S', hhead, by decide⟩ (count_trim_statement hclause)
  refine ⟨_, rfl, hiff, fun hnames hquotes => hiff.mpr ?_⟩
  have hcalm : ∀ name ∈ table :: filters.map Filter.column,
      CalmText (d.quotedName name.toList) := by
    intro name hname
    by_cases hd : d = .mssql
    · exact hnames hd name hname
    · exact Dialect.calmText_quotedName hd name.toList
  rw [List.forall_mem_cons, List.forall_mem_map] at hcalm
  have hdata : ∀ value ∈ filters.flatMap Filter.operands, CalmText (d.literal value).toList :=
    fun value hvalue => Dialect.calmText_literal fun hd => hquotes hd value hvalue
  exact Script.isTerminated_of_calmText (calmText_statement hclause hcalm.1 hcalm.2 hdata)

/-- A terminator and the mark of a comment between quotes, and names between brackets. -/
theorem isOwnStatement_orders :
    Snippet.text .sql "orders" [⟨"note", .eq, [.text "it's; --"]⟩] .mssql
        = .ok ("SELECT * FROM [orders] WHERE [note] = 'it''s; --'" ++ ";") ∧
      Script.IsOwnStatement "SELECT * FROM [orders] WHERE [note] = 'it''s; --'" := by
  have h : Snippet.text .sql "orders" [⟨"note", .eq, [.text "it's; --"]⟩] .mssql
      = .ok ("SELECT * FROM [orders] WHERE [note] = 'it''s; --'" ++ ";") := by decide +kernel
  obtain ⟨sql, htext, -, hown⟩ := isOwnStatement_iff_isTerminated h
  obtain rfl := (String.append_left_inj ";").mp htext
  refine ⟨h, hown (fun _ => ?_) (fun hd => by cases hd)⟩
  decide +kernel

/-- Scripts do not take brackets for quotes, so that the terminator in the name is one. Nor does a
backslash keep a quote from closing, so that the one behind the text opens another. -/
theorem not_isOwnStatement_brackets :
    (Snippet.text .sql "a;b" [] .mssql = .ok ("SELECT * FROM [a;b]" ++ ";") ∧
      ¬ Script.IsOwnStatement "SELECT * FROM [a;b]") ∧
    (Snippet.text .sql "t" [⟨"c", .eq, [.text "it's"]⟩] .clickhouse
        = .ok ("SELECT * FROM `t` WHERE `c` = 'it\\'s'" ++ ";") ∧
      ¬ Script.IsOwnStatement "SELECT * FROM `t` WHERE `c` = 'it\\'s'") := by
  refine ⟨⟨by decide +kernel, ?_⟩, by decide +kernel, ?_⟩
  · rintro ⟨g, hgroups, hg⟩
    have htwo : (Script.statements ("SELECT * FROM [a;b]" ++ ";")).length = 2 := by decide +kernel
    rw [Script.statements, hgroups, List.flatMap_singleton, hg] at htwo
    exact absurd htwo (by decide)
  · rintro ⟨g, hgroups, hg⟩
    have hwhole : Script.statements ("SELECT * FROM `t` WHERE `c` = 'it\\'s'" ++ ";")
        = ["SELECT * FROM `t` WHERE `c` = 'it\\'s';"] := by decide +kernel
    rw [Script.statements, hgroups, List.flatMap_singleton, hg] at hwhole
    exact absurd hwhole (by decide +kernel)

end Snippet

end SqlWorkbench
