import SqlWorkbench.Proofs.Schema.Gathering
import SqlWorkbench.Schema.Rows

/-!
# Enum types from rows of values

PostgreSQL lists the values of its enum types one by one, each with the schema and the name of its
type. The rows are gathered under schema and name with a point between them, which does not tell
where the schema ends if it has a point itself. Main statement: the rows are gathered by type
exactly if no two types of the rows are written alike in this way.
-/

namespace SqlWorkbench

/-- The schema and the name of a type. -/
def EnumType.path (e : EnumType) : String × String :=
  (e.schema, e.name)

namespace Catalog

variable {rows : List Row}

/-! ### What is gathered -/

/-- The schema and the name of the type that a row is about. -/
def typePath (row : Row) : String × String :=
  (textCell row "schema", textCell row "name")

/-- Schema and name with a point between them. -/
def dotted (path : String × String) : String :=
  path.1 ++ "." ++ path.2

/-- The type that a row begins, under its dotted name. -/
def typeOfRow (row : Row) : String × EnumType :=
  (dotted (typePath row),
    { schema := textCell row "schema", name := textCell row "name",
      values := [textCell row "value"] })

/-- The value of a row joins the others of its type. -/
def addValue (entry : String × EnumType) (row : Row) : String × EnumType :=
  (entry.1, { entry.2 with values := entry.2.values ++ [textCell row "value"] })

/-- Enter the row of a value. -/
def enterRow (types : List (String × EnumType)) (row : Row) : List (String × EnumType) :=
  enterValue types (dotted (typePath row)) (textCell row "schema") (textCell row "name")
    (textCell row "value")

lemma gathers_enterRow :
    Gathers (fun row => dotted (typePath row)) Prod.fst typeOfRow addValue enterRow where
  enter_nil _ := rfl
  enter_cons_of_eq t types row h := by rw [enterRow, enterValue, if_pos h, addValue, h]
  enter_cons_of_ne _ _ _ h := if_neg h
  key_first _ := rfl
  key_add _ _ := rfl

lemma foldl_addValue (entry : String × EnumType) (rows : List Row) :
    rows.foldl addValue entry = (entry.1, { entry.2 with
      values := entry.2.values ++ rows.map fun row => textCell row "value" }) := by
  induction rows generalizing entry with
  | nil => simp
  | cons row rows ih => simp [ih, addValue]

/-- Each type is begun by a row, and has the values of the rows with the same dotted name. -/
lemma exists_of_mem_enumsOfRows {e : EnumType} (he : e ∈ enumsOfRows .postgres rows) :
    ∃ row ∈ rows, e =
      { schema := textCell row "schema", name := textCell row "name"
        values := (rows.filter fun r => dotted (typePath r) = dotted (typePath row)).map
          fun r => textCell r "value" } := by
  obtain ⟨t, ht, rfl⟩ := List.mem_map.mp he
  obtain ⟨row, rest, hrows, hmade⟩ := (Gathered.of_rows gathers_enterRow rows).group t ht
  rw [foldl_addValue] at hmade
  have hrow : row ∈ rows := List.mem_of_mem_filter (hrows ▸ List.mem_cons_self)
  have hkey : t.1 = dotted (typePath row) := by rw [hmade, typeOfRow]
  refine ⟨row, hrow, ?_⟩
  rw [← hkey, hrows, hmade, List.map_cons]
  rfl

/-- The dotted names of the types are those of the rows, in order of first appearance. -/
lemma map_dotted_enumsOfRows (rows : List Row) :
    (enumsOfRows .postgres rows).map (fun e => dotted e.path)
      = (rows.map fun row => dotted (typePath row)).eraseDups := by
  have hgathered := Gathered.of_rows gathers_enterRow rows
  rw [← hgathered.keys, enumsOfRows, namedEnums, List.map_map]
  refine List.map_congr_left fun t ht => ?_
  obtain ⟨row, rest, -, hmade⟩ := hgathered.group t ht
  rw [hmade, foldl_addValue]
  rfl

/-! ### Gathered by type -/

lemma eq_of_map_eq_map {α β : Type} {f : α → β} {l l' : List α}
    (hf : ∀ a ∈ l, ∀ b ∈ l', f a = f b → a = b) (h : l.map f = l'.map f) : l = l' := by
  induction l generalizing l' with
  | nil => exact (List.map_eq_nil_iff.mp h.symm).symm
  | cons a l ih =>
    obtain ⟨b, r, rfl, hb, hr⟩ := List.map_eq_cons_iff.mp h.symm
    rw [hf a (by simp) b (by simp) hb.symm,
      ih (fun c hc d hd => hf c (by simp [hc]) d (by simp [hd])) hr.symm]

/-- The rows are gathered by type: each has one entry, in order of first appearance, with the values
of exactly its rows. -/
structure GathersTypes (rows : List Row) (types : List EnumType) : Prop where
  paths : types.map EnumType.path = (rows.map typePath).eraseDups
  entry : ∀ e ∈ types, e =
    { schema := e.schema, name := e.name
      values := (rows.filter fun row => typePath row = e.path).map fun row => textCell row "value" }

/-- No two types of the rows have the same dotted name. -/
def TellsTypes (rows : List Row) : Prop :=
  ∀ r ∈ rows, ∀ s ∈ rows, dotted (typePath r) = dotted (typePath s) → typePath r = typePath s

instance (rows : List Row) : Decidable (TellsTypes rows) :=
  inferInstanceAs (Decidable (∀ r ∈ rows, ∀ s ∈ rows, _ → _))

lemma TellsTypes.gathersTypes (h : TellsTypes rows) :
    GathersTypes rows (enumsOfRows .postgres rows) := by
  have hpath : ∀ p ∈ (enumsOfRows .postgres rows).map EnumType.path, p ∈ rows.map typePath := by
    intro p hp
    obtain ⟨e, he, rfl⟩ := List.mem_map.mp hp
    obtain ⟨row, hrow, rfl⟩ := exists_of_mem_enumsOfRows he
    exact List.mem_map.mpr ⟨row, hrow, rfl⟩
  have hinj : ∀ p ∈ rows.map typePath, ∀ q ∈ rows.map typePath, dotted p = dotted q → p = q := by
    intro p hp q hq heq
    obtain ⟨r, hr, rfl⟩ := List.mem_map.mp hp
    obtain ⟨s, hs, rfl⟩ := List.mem_map.mp hq
    exact h r hr s hs heq
  refine ⟨?_, fun e he => ?_⟩
  · refine eq_of_map_eq_map (f := dotted) (fun p hp q hq => ?_) ?_
    · exact hinj p (hpath p hp) q (List.mem_eraseDups.mp hq)
    · rw [← eraseDups_map_of_inj_on hinj, List.map_map, List.map_map]
      exact map_dotted_enumsOfRows rows
  · obtain ⟨row, hrow, heq⟩ := exists_of_mem_enumsOfRows he
    have hsame : ∀ r ∈ rows, decide (dotted (typePath r) = dotted (typePath row))
        = decide (typePath r = typePath row) := by
      intro r hr
      exact decide_eq_decide.mpr ⟨h r hr row hrow, congrArg dotted⟩
    have hrow : e.path = typePath row := by rw [heq]; rfl
    rw [List.filter_congr hsame, ← hrow] at heq
    conv_lhs => rw [heq]
    rw [heq]

lemma GathersTypes.tellsTypes (h : GathersTypes rows (enumsOfRows .postgres rows)) :
    TellsTypes rows := by
  have hnodup : ((enumsOfRows .postgres rows).map fun e => dotted e.path).Nodup := by
    rw [map_dotted_enumsOfRows]
    exact nodup_eraseDups _
  have hmem : ∀ r ∈ rows, ∃ e ∈ enumsOfRows .postgres rows, e.path = typePath r := by
    intro r hr
    have hpath : typePath r ∈ (enumsOfRows .postgres rows).map EnumType.path := by
      rw [h.paths, List.mem_eraseDups]
      exact List.mem_map_of_mem hr
    exact List.mem_map.mp hpath
  intro r hr s hs heq
  obtain ⟨e, he, hre⟩ := hmem r hr
  obtain ⟨f, hf, hsf⟩ := hmem s hs
  rw [← hre, ← hsf] at heq ⊢
  rw [List.inj_on_of_nodup_map hnodup he hf heq]

/-! ### Points in names -/

/-- Two paths that are written alike are the same, or a schema has a point and a name has one. -/
lemma eq_or_point_mem {s n s' n' : List Char} (h : s ++ '.' :: n = s' ++ '.' :: n') :
    (s = s' ∧ n = n') ∨ ('.' ∈ s' ∧ '.' ∈ n) ∨ ('.' ∈ s ∧ '.' ∈ n') := by
  rcases List.append_eq_append_iff.mp h with ⟨t, rfl, ht⟩ | ⟨t, rfl, ht⟩
  · cases t with
    | nil => exact .inl ⟨by simp, by simpa using ht⟩
    | cons c t =>
      obtain ⟨rfl, rfl⟩ := List.cons_eq_cons.mp ht
      exact .inr (.inl ⟨by simp, by simp⟩)
  · cases t with
    | nil => exact .inl ⟨by simp, by simpa using ht.symm⟩
    | cons c t =>
      obtain ⟨rfl, rfl⟩ := List.cons_eq_cons.mp ht
      exact .inr (.inr ⟨by simp, by simp⟩)

lemma tellsTypes_of_points (h : ∀ r ∈ rows, ∀ s ∈ rows,
    '.' ∈ (textCell r "schema").toList → '.' ∉ (textCell s "name").toList) : TellsTypes rows := by
  intro r hr s hs heq
  have htext := congrArg String.toList heq
  simp only [dotted, typePath, String.toList_append, List.append_assoc] at htext
  rcases eq_or_point_mem htext with ⟨hschema, hname⟩ | ⟨hschema, hname⟩ | ⟨hschema, hname⟩
  · rw [typePath, typePath, String.toList_injective hschema, String.toList_injective hname]
  · exact absurd hname (h s hs r hr hschema)
  · exact absurd hname (h r hr s hs hschema)

/-- The rows of enum values are gathered by type exactly if the dotted names tell the types apart;
they do wherever no schema or no name has a point. -/
theorem gathersTypes_iff_tellsTypes (rows : List Row) :
    (GathersTypes rows (enumsOfRows .postgres rows) ↔ TellsTypes rows) ∧
      ((∀ r ∈ rows, ∀ s ∈ rows,
        '.' ∈ (textCell r "schema").toList → '.' ∉ (textCell s "name").toList) →
          GathersTypes rows (enumsOfRows .postgres rows)) :=
  ⟨⟨GathersTypes.tellsTypes, TellsTypes.gathersTypes⟩,
    fun h => (tellsTypes_of_points h).gathersTypes⟩

/-- The values of two types, one in a schema with a point and one with a point in its name. -/
def pointRows : List Row :=
  [[("schema", .string "a.b"), ("name", .string "c"), ("value", .string "x")],
    [("schema", .string "a"), ("name", .string "b.c"), ("value", .string "y")]]

/-- The second type is missing, and its value stands among those of the first. -/
theorem not_gathersTypes_points :
    enumsOfRows .postgres pointRows = [{ schema := "a.b", name := "c", values := ["x", "y"] }] ∧
      ¬ GathersTypes pointRows (enumsOfRows .postgres pointRows) := by
  refine ⟨by decide, fun h => ?_⟩
  exact absurd h.tellsTypes (by decide)

end Catalog

end SqlWorkbench
