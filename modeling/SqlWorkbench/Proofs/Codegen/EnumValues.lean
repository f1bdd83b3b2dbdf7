import Mathlib.Tactic.Common
import SqlWorkbench.Codegen.Generate
import SqlWorkbench.Proofs.Codegen.EnumMembers

/-!
# Values of enum types in generated code

The values of an enum type stand in every kind of generated code, each time as a list of literals of
the language that the code is written in. What an emitter writes for a column is read back with the
reader of that language. Main statement: each emitter's text is part of the generated code and is
read back as exactly the values, in their order. A Postgres type is created once for its name, with
the values of the first column that has a type of that name.
-/

namespace SqlWorkbench

open Text

/-! ### Parts of texts -/

namespace Text

/-- A run of neighbouring characters of a text. -/
def IsPart (part text : String) : Prop :=
  part.toList <:+: text.toList

namespace IsPart

variable {part s t separator : String} {pieces : List String}

lemma refl (s : String) : IsPart s s :=
  List.infix_rfl

lemma trans (hs : IsPart part s) (ht : IsPart s t) : IsPart part t :=
  List.IsInfix.trans hs ht

lemma append_right (h : IsPart part s) (t : String) : IsPart part (s ++ t) := by
  rw [IsPart, String.toList_append]
  exact List.infix_append_of_infix_left h

lemma append_left (h : IsPart part t) (s : String) : IsPart part (s ++ t) := by
  rw [IsPart, String.toList_append]
  exact List.infix_append_of_infix_right h

lemma joinWith (h : part ∈ pieces) : IsPart part (joinWith separator pieces) := by
  fun_induction Text.joinWith separator pieces with
  | case1 => cases h
  | case2 piece =>
    rw [List.mem_singleton.mp h]
    exact refl piece
  | case3 piece next rest ih =>
    rcases List.mem_cons.mp h with rfl | h
    · exact ((refl part).append_right _).append_right _
    · exact (ih h).append_left _

lemma joinWith_map {α : Type} {f : α → String} {a : α} {l : List α} (ha : a ∈ l)
    (h : IsPart part (f a)) : IsPart part (Text.joinWith separator (l.map f)) :=
  h.trans (.joinWith (List.mem_map_of_mem ha))

lemma join (h : part ∈ pieces) : IsPart part (String.join pieces) := by
  rw [IsPart, String.toList_join]
  exact List.infix_of_mem_flatten (List.mem_map_of_mem h)

end IsPart

end Text

/-! ### Interfaces and validators -/

variable {m : TableModel} {c : Column} {e : EnumType} {next : List Char}

namespace TypeScript

/-- The values in a union of literals; the elements of a list have it in parentheses. -/
def valuesReader (isSet : Bool) : Reader (List String) :=
  if isSet then Reader.within "(" ")[]" (Naming.literal.many " | ") else Naming.literal.many " | "

/-- A union is read back as the values. -/
lemma takes_union (c : Column) (hne : e.values ≠ []) (hnext : EndsList " | " next) :
    (valuesReader (c.isSetOf e)).Takes (union c e) e.values next := by
  rw [union, valuesReader]
  split
  · refine Reader.Takes.within (Naming.takes_literals isSeparator_bar ?_ hne) _
    exact endsList_of_head? (by simp) (by simp)
  · exact Naming.takes_literals isSeparator_bar hnext hne

end TypeScript

namespace Zod

/-- The values in the list of a validator. -/
def valuesReader : Reader (List String) :=
  Reader.within "z.enum([" "])" (Naming.literal.many ", ")

/-- The validator of an enum type is read back as the values; what it does with lists is left. -/
lemma takes_enumValidator (c : Column) (hne : e.values ≠ []) : valuesReader
    ((enumValidator c e).toList ++ next)
      = some (e.values, (if c.isSetOf e then ".array()" else "").toList ++ next) := by
  rw [enumValidator, String.toList_append, List.append_assoc]
  refine Reader.Takes.within (Naming.takes_literals isSeparator_comma ?_ hne) _
  exact endsList_of_head? (by simp) (by simp)

end Zod

namespace Kysely

/-- The values in the type of a column; the type of a key is an argument. -/
def valuesReader (c : Column) (e : EnumType) : Reader (List String) :=
  if c.primaryKey then Reader.within "Generated<" ">" (TypeScript.valuesReader (c.isSetOf e))
  else TypeScript.valuesReader (c.isSetOf e)

lemma endsList_null : EndsList " | " " | null".toList := by
  refine ⟨by simp, fun s hs => ?_⟩
  obtain rfl : "null".toList = s := by simpa using hs
  simp

lemma takes_columnType (hne : e.values ≠ []) (henum : m.enumOf? c = some e) :
    valuesReader c e (columnType m c).toList
      = some (e.values, (if c.isNullable then " | null" else "").toList) := by
  have htype : TypeScript.columnType m c = TypeScript.union c e := by
    rw [TypeScript.columnType, henum]
  rw [columnType, valuesReader, htype, String.toList_append]
  split
  · refine Reader.Takes.within (TypeScript.takes_union c hne ?_) _
    exact endsList_of_head? (by simp) (by simp)
  · refine TypeScript.takes_union c hne ?_
    split
    · exact endsList_null
    · exact endsList_of_head? (by simp) (by simp)

end Kysely

/-! ### Modules -/

namespace Drizzle

/-- The text of a module that has the values of a column: the declaration of its enum, or else the
column itself. -/
def valuesText (m : TableModel) (c : Column) : String :=
  match Builder.ofColumn m c with
  | .declared declaration => Module.enumLine declaration
  | builder => builder.text c.id

/-- The column without an enum type. -/
def scalarText (m : TableModel) (c : Column) : String :=
  (Builder.core (m.typeOf .drizzle c) (scalarOptions c (m.typeOf .drizzle c)) none).text c.id

/-- The values to which the type of a column is narrowed. -/
def narrowedReader (m : TableModel) (c : Column) (e : EnumType) : Reader (List String) :=
  Reader.within (scalarText m c ++ ".$type<") ">()" (TypeScript.valuesReader (c.isSetOf e))

/-- The values in an argument of a call, behind a name. -/
def callReader (function name mark tail : String) : Reader (List String) :=
  Reader.within (function ++ "(" ++ Naming.singleQuoted name ++ mark) (tail ++ ")")
    (Reader.within "[" "]" (Naming.literal.many ", "))

/-- The values behind the name of a column or of a declared enum, in the way of the dialect. -/
def valuesReader (m : TableModel) (c : Column) (e : EnumType) : Reader (List String) :=
  if c.isSetOf e then narrowedReader m c e
  else match m.dialect with
    | .postgres =>
      Reader.within ("export const " ++ (EnumDeclaration.mk "pgEnum" e.name e.values).var ++ " = ")
        ";" (callReader "pgEnum" e.name ", " "")
    | .mysql => callReader "mysqlEnum" c.id ", " ""
    | .clickhouse => callReader "enum" c.id ", " ""
    | .sqlite => callReader "text" c.id ", \x7b enum: " " \x7d"
    | .mssql => narrowedReader m c e

lemma takes_call {values : List String} (hne : values ≠ []) (function name mark tail : String) :
    (callReader function name mark tail).Takes (function ++ "(" ++ Naming.singleQuoted name ++
      (mark ++ valueList values ++ tail) ++ ")") values next := by
  have hlist : (callReader function name mark tail).Takes (function ++ "(" ++
      Naming.singleQuoted name ++ mark ++ valueList values ++ (tail ++ ")")) values next := by
    refine Reader.Takes.within (Reader.Takes.within
      (Naming.takes_literals isSeparator_comma ?_ hne) _) _
    exact endsList_of_head? (by simp) (by simp)
  simpa only [String.append_assoc] using hlist

lemma takes_enumLine (d : EnumDeclaration) (hne : d.values ≠ []) :
    (Reader.within ("export const " ++ d.var ++ " = ") ";"
      (callReader d.function d.name ", " "")).Takes (Module.enumLine d) d.values next := by
  have hline : Module.enumLine d = "export const " ++ d.var ++ " = " ++ (d.function ++ "(" ++
      Naming.singleQuoted d.name ++ (", " ++ valueList d.values ++ "") ++ ")") ++ ";" := by
    have hend : ")" ++ ";" = ");" := by decide
    unfold Module.enumLine
    simp only [String.append_empty, String.append_assoc]
    rw [hend]
  rw [hline]
  exact Reader.Takes.within (takes_call hne _ _ _ _) _

lemma takes_narrowed (hne : e.values ≠ []) : (narrowedReader m c e).Takes
    (scalarText m c ++ (".$type<" ++ TypeScript.union c e ++ ">()")) e.values next := by
  have hunion : (narrowedReader m c e).Takes
      (scalarText m c ++ ".$type<" ++ TypeScript.union c e ++ ">()") e.values next := by
    refine Reader.Takes.within (TypeScript.takes_union c hne ?_) _
    exact endsList_of_head? (by simp) (by simp)
  simpa only [String.append_assoc] using hunion

lemma valuesText_narrowed (hbuilder : Builder.ofColumn m c = .core (m.typeOf .drizzle c)
      (scalarOptions c (m.typeOf .drizzle c)) (some (TypeScript.union c e))) :
    valuesText m c = scalarText m c ++ (".$type<" ++ TypeScript.union c e ++ ">()") := by
  rw [valuesText, hbuilder, scalarText]
  simp only [Builder.text, Option.map_some, Option.map_none, Option.getD_some, Option.getD_none,
    String.append_empty]

lemma valuesText_call {function options : String}
    (hbuilder : Builder.ofColumn m c = .core function options none) :
    valuesText m c = function ++ "(" ++ Naming.singleQuoted c.id ++ options ++ ")" := by
  rw [valuesText, hbuilder]
  exact String.append_empty

/-- What a module has for a column is read back as the values. -/
lemma takes_valuesText (hne : e.values ≠ []) (henum : m.enumOf? c = some e) :
    (valuesReader m c e).Takes (valuesText m c) e.values next := by
  rw [valuesReader]
  by_cases hset : c.isSetOf e = true
  · have hbuilder : Builder.ofColumn m c = .core (m.typeOf .drizzle c)
        (scalarOptions c (m.typeOf .drizzle c)) (some (TypeScript.union c e)) := by
      simp only [Builder.ofColumn, henum, hset, if_true]
    rw [if_pos hset, valuesText_narrowed hbuilder]
    exact takes_narrowed hne
  · rw [if_neg hset]
    have hstyle : ∀ d, m.dialect = d → Builder.ofColumn m c = match d with
        | .postgres => .declared ⟨"pgEnum", e.name, e.values⟩
        | .mysql => .core "mysqlEnum" (", " ++ valueList e.values) none
        | .clickhouse => .core "enum" (", " ++ valueList e.values) none
        | .sqlite => .core "text" (", \x7b enum: " ++ valueList e.values ++ " \x7d") none
        | .mssql => .core (m.typeOf .drizzle c) (scalarOptions c (m.typeOf .drizzle c))
            (some (TypeScript.union c e)) := by
      intro d hd
      simp only [Builder.ofColumn, henum, hset, hd]
      cases d <;> rfl
    cases hd : m.dialect with
    | postgres =>
      rw [valuesText, hstyle _ hd]
      exact takes_enumLine ⟨"pgEnum", e.name, e.values⟩ hne
    | mysql =>
      rw [valuesText_call (hstyle _ hd), ← String.append_empty (s := ", " ++ valueList e.values)]
      exact takes_call hne _ _ _ _
    | mssql =>
      rw [valuesText_narrowed (hstyle _ hd)]
      exact takes_narrowed hne
    | clickhouse =>
      rw [valuesText_call (hstyle _ hd), ← String.append_empty (s := ", " ++ valueList e.values)]
      exact takes_call hne _ _ _ _
    | sqlite =>
      rw [valuesText_call (hstyle _ hd)]
      exact takes_call hne _ _ _ _

end Drizzle

/-! ### Statements -/

namespace Ddl

/-- The statement that creates a type. -/
def createType (d : Dialect) (e : EnumType) : String :=
  "CREATE TYPE " ++ d.quoteName e.name ++ " AS ENUM (" ++ valueList d e.values ++ ");\n"

/-- The values of a created type. -/
def createdReader (d : Dialect) (name : String) : Reader (List String) :=
  Reader.within ("CREATE TYPE " ++ d.quoteName name ++ " AS ENUM (") ");\n"
    (d.textLiteral.many ", ")

/-- The values whose numbers count from one. -/
def inOrder (items : List (String × Nat)) : Option (List String) :=
  if items.map Prod.snd = List.range' 1 items.length then some (items.map Prod.fst) else none

/-- The values in the type of a column. -/
def valuesReader (d : Dialect) (c : Column) (e : EnumType) : Reader (List String) :=
  let literals := d.textLiteral.many ", "
  match d with
  | .mysql => Reader.within (if c.isSetOf e then "SET(" else "ENUM(") ")" literals
  | .sqlite => Reader.within ("TEXT CHECK (" ++ d.quoteName c.id ++ " IN (") "))" literals
  | .clickhouse => fun s => do
    let name := if e.values.length > mostByteValues then "Enum16(" else "Enum8("
    let (items, s) ← Reader.within ((if c.isNullable then "Nullable(" else "") ++ name)
      (if c.isNullable then "))" else ")") (d.numberedLiteral.many ", ") s
    return (← inOrder items, s)
  | .postgres | .mssql => fun _ => none

variable {d : Dialect}

lemma takes_createType (hne : e.values ≠ []) :
    (createdReader d e.name).Takes (createType d e) e.values next := by
  refine Reader.Takes.within (Dialect.takes_textLiterals isSeparator_comma ?_ hne) _
  exact endsList_of_head? (by simp) (by simp)

/-- A list of numbered literals is read back as the values with their numbers. -/
lemma takes_numberedValues (hne : e.values ≠ []) (hnext : next.head? = some ')') :
    Reader.Takes (d.numberedLiteral.many ", ") (numberedValues d e.values) (e.values.zipIdx 1)
      next := by
  have hlist : numberedValues d e.values = joinWith ", "
      ((e.values.zipIdx 1).map fun item => d.quoteText item.1 ++ " = " ++ toString item.2) := by
    rw [numberedValues]
    congr 1
    refine List.ext_getElem (by simp) fun i hi hi' => ?_
    simp [Nat.add_comm]
  have hitems : e.values.zipIdx 1 ≠ [] := by simpa using hne
  rw [hlist, ← List.map_id (e.values.zipIdx 1), List.map_map]
  refine Reader.takes_joinWith _ id (fun s => ∀ c, s.head? = some c → c.isDigit = false)
    isSeparator_comma.ne_empty ?_ (fun item _ s hs => Dialect.takes_numbered item.1 item.2 hs) ?_ ?_
    hitems
  · intro s c hc
    obtain rfl : ',' = c := by simpa using hc
    rfl
  · intro c hc
    obtain rfl : ')' = c := by simpa [hnext] using hc
    rfl
  · intro s hs
    simp [hs] at hnext

lemma inOrder_zipIdx (values : List String) : inOrder (values.zipIdx 1) = some values := by
  rw [inOrder, List.zipIdx_map_snd, List.length_zipIdx, if_pos rfl, List.zipIdx_map_fst]

/-- What stands around the numbered values in the type of a column. -/
lemma enumType_clickhouse (c : Column) (e : EnumType) : enumType .clickhouse c e
    = (if c.isNullable then "Nullable(" else "")
        ++ (if e.values.length > mostByteValues then "Enum16(" else "Enum8(")
        ++ numberedValues .clickhouse e.values ++ (if c.isNullable then "))" else ")") := by
  rw [enumType.eq_def]
  by_cases hnull : c.isNullable = true <;> by_cases hmany : e.values.length > mostByteValues
  all_goals
    rw [← String.toList_inj]
    simp [hnull, hmany]

/-- The type of a column is read back as the values where it has them. -/
lemma takes_enumType (hne : e.values ≠ []) (hd : d = .mysql ∨ d = .clickhouse ∨ d = .sqlite) :
    (valuesReader d c e).Takes (enumType d c e) e.values next := by
  rcases hd with rfl | rfl | rfl
  · have hkeyword : (if c.isSetOf e then "SET" else "ENUM") ++ "("
        = if c.isSetOf e then "SET(" else "ENUM(" := by
      split <;> decide
    rw [enumType.eq_def]
    simp only [hkeyword]
    refine Reader.Takes.within (Dialect.takes_textLiterals isSeparator_comma ?_ hne) _
    exact endsList_of_head? (by simp) (by simp)
  · have hclosing : ((if c.isNullable then "))" else ")").toList ++ next).head? = some ')' := by
      split <;> simp
    have hitems := (takes_numberedValues (d := .clickhouse) hne hclosing).within
      ((if c.isNullable then "Nullable(" else "")
        ++ if e.values.length > mostByteValues then "Enum16(" else "Enum8(")
    rw [Reader.Takes] at hitems
    rw [enumType_clickhouse, Reader.Takes, valuesReader]
    simp only [hitems, inOrder_zipIdx, Option.bind_eq_bind, Option.bind_some]
    rfl
  · refine Reader.Takes.within (Dialect.takes_textLiterals isSeparator_comma ?_ hne) _
    exact endsList_of_head? (by simp) (by simp)

/-! ### Created types -/

/-- Types with one name: of them one is kept, the first. -/
lemma filter_foldl (name : String) (used types : List EnumType) :
    (types.foldl (fun types e => if types.any fun t => t.name == e.name then types
      else types ++ [e]) used).filter (fun t => t.name == name)
      = if (used.filter fun t => t.name == name) = []
        then (types.find? fun t => t.name == name).toList
        else used.filter fun t => t.name == name := by
  induction types generalizing used with
  | nil =>
    split
    · next hused => exact hused
    · rfl
  | cons t types ih =>
    rw [List.foldl_cons, ih]
    by_cases hname : t.name = name
    · subst hname
      have hused : (used.any fun k => k.name == t.name) = true ↔
          (used.filter fun k => k.name == t.name) ≠ [] := by
        rw [ne_eq, List.filter_eq_nil_iff, List.any_eq_true]
        push Not
        rfl
      by_cases hfilter : (used.filter fun k => k.name == t.name) = []
      · rw [if_neg (mt hused.mp (not_not_intro hfilter)), List.filter_append, hfilter]
        simp
      · rw [if_pos (hused.mpr hfilter), if_neg hfilter, if_neg hfilter]
    · have hskip : ((if used.any fun k => k.name == t.name then used else used ++ [t]).filter
          fun k => k.name == name) = used.filter fun k => k.name == name := by
        split
        · rfl
        · rw [List.filter_append]
          simp [hname]
      rw [hskip, List.find?_cons_of_neg (by simpa using hname)]

/-- Of the types with one name the first is created. -/
lemma filter_createdTypes (hdialect : m.dialect = .postgres) (name : String) :
    ((createdTypes m).filter fun t => t.name == name)
      = ((m.columns.filterMap m.enumOf?).find? fun t => t.name == name).toList := by
  rw [createdTypes, if_pos hdialect, filter_foldl]
  rfl

end Ddl

/-! ### All kinds of generated code -/

namespace TableModel

/-- The generated code has the text, which is read as the values; what is left of it has none. -/
def Tells (m : TableModel) (format : CodeFormat) (text : String) (read : Reader (List String))
    (values : List String) (left : String) : Prop :=
  IsPart text (m.code format) ∧ read text.toList = some (values, left.toList)

/-- What each kind of generated code has for a column is read back as the values of its enum
type. -/
structure TellsValues (m : TableModel) (c : Column) (e : EnumType) : Prop where
  ts : m.Tells .ts (TypeScript.columnType m c) (TypeScript.valuesReader (c.isSetOf e)) e.values ""
  kysely : m.Tells .kysely (Kysely.columnType m c) (Kysely.valuesReader c e) e.values
    (if c.isNullable then " | null" else "")
  zod : m.Tells .zod (Zod.validator m c) Zod.valuesReader e.values
    ((if c.isSetOf e then ".array()" else "") ++ if c.isNullable then ".nullable()" else "")
  drizzle : m.Tells .drizzle (Drizzle.valuesText m c) (Drizzle.valuesReader m c e) e.values ""
  prisma : m.Tells .prisma (Prisma.EnumBlock.ofType (Prisma.enumName m.table c e) e).text
    (Prisma.valuesReader (Prisma.enumName m.table c e)) e.values ""
  columnType : m.dialect = .mysql ∨ m.dialect = .clickhouse ∨ m.dialect = .sqlite →
    m.Tells .sql (Ddl.columnType m c) (Ddl.valuesReader m.dialect c e) e.values ""
  /-- The column has a type by its name, which is created once, as the first of that name. -/
  createdType : m.dialect = .postgres → Ddl.columnType m c = m.dialect.quoteName e.name ∧
    ∃ first, ((m.columns.filterMap m.enumOf?).find? fun t => t.name == e.name) = some first ∧
      ((Ddl.createdTypes m).filter fun t => t.name == e.name) = [first] ∧
      m.Tells .sql (Ddl.createType m.dialect first) (Ddl.createdReader m.dialect e.name)
        first.values ""

variable {m : TableModel} {c : Column} {e : EnumType}

lemma isPart_ts (hc : c ∈ m.columns) : IsPart (TypeScript.columnType m c) (m.code .ts) := by
  refine IsPart.append_right (IsPart.append_left (.joinWith_map hc ?_) _) _
  exact ((IsPart.refl _).append_left _).append_right _

lemma isPart_kysely (hc : c ∈ m.columns) : IsPart (Kysely.columnType m c) (m.code .kysely) := by
  refine IsPart.trans (.joinWith_map hc ?_) (.joinWith (.tail _ (.tail _ (.tail _ (.head _)))))
  exact ((IsPart.refl _).append_left _).append_right _

lemma isPart_zod (hc : c ∈ m.columns) : IsPart (Zod.validator m c) (m.code .zod) := by
  refine IsPart.trans (.joinWith_map hc ?_) (.joinWith (.tail _ (.tail _ (.tail _ (.head _)))))
  exact ((IsPart.refl _).append_left _).append_right _

lemma isPart_enumBlock (hc : c ∈ m.columns) (henum : m.enumOf? c = some e) :
    IsPart (Prisma.EnumBlock.ofType (Prisma.enumName m.table c e) e).text (m.code .prisma) := by
  have hblock : Prisma.EnumBlock.ofType (Prisma.enumName m.table c e) e
      ∈ (m.columns.filterMap (Prisma.enumBlock? m)).eraseDups := by
    rw [List.mem_eraseDups, List.mem_filterMap]
    exact ⟨c, hc, by rw [Prisma.enumBlock?, henum, Option.map_some]⟩
  refine IsPart.append_left (IsPart.trans ?_ (.join (List.mem_map_of_mem hblock))) _
  exact (IsPart.refl _).append_left _

lemma isPart_definition {definition : String} (h : definition ∈
      (if (Drizzle.Module.ofTable m).enums.isEmpty then []
        else [joinWith "\n" ((Drizzle.Module.ofTable m).enums.map Drizzle.Module.enumLine)])
      ++ [(Drizzle.Module.ofTable m).tableDefinition]) : IsPart definition (m.code .drizzle) :=
  IsPart.append_left (.joinWith (List.mem_append_left _ h)) _

lemma isPart_drizzle (hc : c ∈ m.columns) : IsPart (Drizzle.valuesText m c) (m.code .drizzle) := by
  have hfield : Drizzle.ColumnField.ofColumn m c ∈ (Drizzle.Module.ofTable m).columns :=
    List.mem_map_of_mem hc
  cases hbuilder : Drizzle.Builder.ofColumn m c with
  | declared d =>
    have hd : d ∈ (Drizzle.Module.ofTable m).enums := by
      refine List.mem_eraseDups.mpr (List.mem_filterMap.mpr ⟨_, hfield, ?_⟩)
      rw [Drizzle.ColumnField.ofColumn, hbuilder, Drizzle.Builder.declaration?]
    have hsome : (Drizzle.Module.ofTable m).enums.isEmpty = false := by
      rw [List.isEmpty_eq_false_iff]
      exact List.ne_nil_of_mem hd
    have hpart : IsPart (Drizzle.Module.enumLine d)
        (joinWith "\n" ((Drizzle.Module.ofTable m).enums.map Drizzle.Module.enumLine)) :=
      .joinWith_map hd (.refl _)
    rw [Drizzle.valuesText, hbuilder]
    exact hpart.trans (isPart_definition (by simp [hsome]))
  | core function options narrowed =>
    have hpart : IsPart ((Drizzle.Builder.core function options narrowed).text c.id)
        (Drizzle.ColumnField.ofColumn m c).text := by
      have hcolumn : (Drizzle.ColumnField.ofColumn m c).builder.text
          (Drizzle.ColumnField.ofColumn m c).id
            = (Drizzle.Builder.core function options narrowed).text c.id :=
        congrArg (Drizzle.Builder.text c.id) hbuilder
      rw [← hcolumn, Drizzle.ColumnField.text]
      refine .append_right (.append_right (.append_right (.append_right ?_ _) _) _) _
      exact .append_left (.refl _) _
    have hdefinition : IsPart ((Drizzle.Builder.core function options narrowed).text c.id)
        (Drizzle.Module.ofTable m).tableDefinition := by
      unfold Drizzle.Module.tableDefinition
      refine .append_right (.append_right (.append_right (.append_left ?_ _) _) _) _
      exact .joinWith_map hfield hpart
    rw [Drizzle.valuesText, hbuilder]
    exact hdefinition.trans (isPart_definition (by simp))

lemma isPart_columnType (hc : c ∈ m.columns) : IsPart (Ddl.columnType m c) (m.code .sql) := by
  have hpart : IsPart (Ddl.columnType m c) (Ddl.columnLine m c) :=
    IsPart.append_left (.joinWith (by simp)) _
  have hline : Ddl.columnLine m c ∈ m.columns.map (Ddl.columnLine m) ++ Ddl.compositeLine m
      ++ m.columns.filterMap (Ddl.foreignLine? m.dialect) :=
    List.mem_append_left _ (List.mem_append_left _ (List.mem_map_of_mem hc))
  exact (((((hpart.trans (.joinWith hline)).append_left _).append_right _).append_right
    _).append_right _).append_right _

lemma isPart_createType (he : e ∈ Ddl.createdTypes m) :
    IsPart (Ddl.createType m.dialect e) (m.code .sql) := by
  have hpart : IsPart (Ddl.createType m.dialect e) (Ddl.typeStatements m) := by
    have hsome :
        ((Ddl.createdTypes m).map fun e => Ddl.createType m.dialect e).isEmpty = false := by
      rw [List.isEmpty_eq_false_iff]
      exact List.ne_nil_of_mem (List.mem_map_of_mem he)
    have htext : Ddl.typeStatements m
        = String.join ((Ddl.createdTypes m).map fun e => Ddl.createType m.dialect e) ++ "\n" :=
      if_neg (by simpa using hsome)
    rw [htext]
    exact (IsPart.join (List.mem_map_of_mem he)).append_right _
  exact ((((((((hpart.append_right _).append_right _).append_right _).append_right _).append_right
    _).append_right _).append_right _).append_right _)

lemma values_ne_nil (henum : m.enumOf? c = some e) : e.values ≠ [] := by
  rw [enumOf?, Option.filter_eq_some_iff] at henum
  simpa using henum.2

/-- The first of the types with a name that the columns have. -/
lemma exists_first (hc : c ∈ m.columns) (henum : m.enumOf? c = some e) :
    ∃ first, ((m.columns.filterMap m.enumOf?).find? fun t => t.name == e.name) = some first ∧
      first.name = e.name ∧ first.values ≠ [] := by
  have hmem : e ∈ m.columns.filterMap m.enumOf? := List.mem_filterMap.mpr ⟨c, hc, henum⟩
  obtain ⟨first, hfirst⟩ : ∃ first,
      ((m.columns.filterMap m.enumOf?).find? fun t => t.name == e.name) = some first :=
    Option.isSome_iff_exists.mp (List.find?_isSome.mpr ⟨e, hmem, beq_self_eq_true _⟩)
  obtain ⟨k, -, hk⟩ := List.mem_filterMap.mp (List.mem_of_find?_eq_some hfirst)
  exact ⟨first, hfirst, by simpa using List.find?_some hfirst, values_ne_nil hk⟩

/-- In each kind of generated code the values of an enum type stand as literals that are read back
as exactly the values, in their order: in the type of the column, in what is declared for it, or, in
Postgres, in the type that is created for the name, which has the values of the first type with that
name. -/
theorem tellsValues (hc : c ∈ m.columns) (henum : m.enumOf? c = some e) : m.TellsValues c e := by
  have hne := values_ne_nil henum
  have hts : TypeScript.columnType m c = TypeScript.union c e := by
    rw [TypeScript.columnType, henum]
  have hzod : Zod.validator m c
      = Zod.enumValidator c e ++ if c.isNullable then ".nullable()" else "" := by
    rw [Zod.validator, henum]
  have hsql : Ddl.columnType m c = Ddl.enumType m.dialect c e := by
    rw [Ddl.columnType, henum]
  refine ⟨⟨isPart_ts hc, ?_⟩, ⟨isPart_kysely hc, Kysely.takes_columnType hne henum⟩,
    ⟨isPart_zod hc, ?_⟩, ⟨isPart_drizzle hc, (Drizzle.takes_valuesText hne henum).read_eq⟩,
    ⟨isPart_enumBlock hc henum, (Prisma.takes_enumBlock _ hne _).read_eq⟩,
    fun hd => ⟨isPart_columnType hc, ?_⟩, fun hd => ⟨?_, ?_⟩⟩
  · rw [hts]
    exact (TypeScript.takes_union c hne (endsList_of_head? (by simp) (by simp))).read_eq
  · rw [hzod, String.toList_append, Zod.takes_enumValidator c hne, String.toList_append]
  · rw [hsql]
    exact (Ddl.takes_enumType hne hd).read_eq
  · rw [hsql, hd]
    rfl
  · obtain ⟨first, hfirst, hname, hvalues⟩ := exists_first hc henum
    have hcreated : ((Ddl.createdTypes m).filter fun t => t.name == e.name) = [first] := by
      rw [Ddl.filter_createdTypes hd, hfirst]
      rfl
    have hmem : first ∈ Ddl.createdTypes m :=
      List.mem_of_mem_filter (hcreated ▸ List.mem_singleton_self first)
    refine ⟨first, hfirst, hcreated, isPart_createType hmem, ?_⟩
    rw [← hname]
    exact (Ddl.takes_createType hvalues).read_eq

/-- An enum type whose values have separators, quotes, a backslash, a line break or no
characters. -/
def moodType : EnumType where
  schema := ""
  name := "mood"
  values := ["a | b, c", "it\x27s", "C:\\", "two\nlines", "", "ok"]

/-- A table with a column of the type. -/
def moodTable : TableModel where
  table := "t"
  columns := [.ofType "state" "mood"]
  enums := [moodType]
  dialect := .mysql

theorem tellsValues_moodType : moodTable.TellsValues (.ofType "state" "mood") moodType ∧
    Ddl.columnType moodTable (.ofType "state" "mood")
      = "ENUM(\x27a | b, c\x27, \x27it\x27\x27s\x27, \x27C:\\\\\x27, " ++
          "\x27two\nlines\x27, \x27\x27, \x27ok\x27)" :=
  ⟨tellsValues (by decide) rfl, by decide +kernel⟩

/-- A type of the name that is bound to a column. -/
def statusOf (column value : String) : EnumType where
  schema := ""
  name := "status"
  values := [value]
  binding := some { table := some "t", column := some column }

/-- A table with two types of one name. -/
def statusTable : TableModel where
  table := "t"
  columns := [.ofType "x" "text", .ofType "y" "text"]
  enums := [statusOf "x" "a", statusOf "y" "b"]
  dialect := .postgres

/-- Of two types with one name the second is not created, though its column has the type of the
name: its value stands nowhere. -/
theorem code_statusTable :
    statusTable.enumOf? (.ofType "y" "text") = some (statusOf "y" "b") ∧
    statusTable.code .sql
      = "CREATE TYPE \"status\" AS ENUM (\x27a\x27);\n\n" ++
          "CREATE TABLE \"t\" (\n  \"x\" \"status\" NOT NULL,\n  \"y\" \"status\" NOT NULL\n);" ∧
    Ddl.createdTypes statusTable = [statusOf "x" "a"] ∧
    (statusOf "x" "a").values ≠ (statusOf "y" "b").values := by
  refine ⟨rfl, by decide +kernel, by decide +kernel, by decide⟩

end TableModel

end SqlWorkbench
