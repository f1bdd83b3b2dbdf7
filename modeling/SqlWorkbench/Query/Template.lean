import SqlWorkbench.Datum

/-!
# Statement templates

A statement is put together as a template: pieces of text with data between them. One template
gives both forms of a statement. Where data are bound, each stands as a numbered placeholder and
goes into the list of parameters; where they are written out, each stands as a literal.
-/

namespace SqlWorkbench

/-- A piece of a template. -/
inductive Piece where
  /-- Text that is taken as it is. -/
  | text (sql : String)
  /-- A datum to be bound or written out. -/
  | slot (value : Datum)

/-- A statement with its data in place. -/
abbrev Template := List Piece

/-- A statement and the data bound to its placeholders, in their order. -/
structure Query where
  sql : String
  parameters : List Datum

/-- A statement without parameters. -/
def Query.ofSql (sql : String) : Query :=
  ⟨sql, []⟩

/-- A dialect, and whether all data are written out. -/
structure SqlStyle where
  dialect : Dialect
  inline : Bool
deriving DecidableEq

/-- Data are bound where the dialect can. -/
def SqlStyle.binding (d : Dialect) : SqlStyle :=
  ⟨d, d.inlinesParameters⟩

/-- All data are written out. -/
def SqlStyle.inlining (d : Dialect) : SqlStyle :=
  ⟨d, true⟩

/-- The two styles are one for a dialect that binds no data. -/
theorem SqlStyle.binding_eq_inlining {d : Dialect} (h : d.inlinesParameters = true) :
    binding d = inlining d := by
  simp [binding, inlining, h]

namespace Template

/-- A template of text only. -/
def ofText (sql : String) : Template :=
  [.text sql]

/-- Templates with a text between neighbours. -/
def joinWith (separator : String) : List Template → Template
  | [] => []
  | [t] => t
  | t :: next :: rest => t ++ ofText separator ++ joinWith separator (next :: rest)

/-- The data of a template from left to right. -/
def slots : Template → List Datum
  | [] => []
  | .text _ :: rest => slots rest
  | .slot value :: rest => value :: slots rest

@[simp] theorem slots_nil : slots [] = [] := rfl

@[simp] theorem slots_text (sql : String) (t : Template) : slots (.text sql :: t) = slots t := rfl

@[simp] theorem slots_slot (value : Datum) (t : Template) :
    slots (.slot value :: t) = value :: slots t := rfl

@[simp] theorem slots_append (s t : Template) : slots (s ++ t) = slots s ++ slots t := by
  induction s with
  | nil => rfl
  | cons p s ih => cases p <;> simp [ih]

/-- The text with the data written as literals. -/
def literalSql (d : Dialect) : Template → String
  | [] => ""
  | .text sql :: rest => sql ++ literalSql d rest
  | .slot value :: rest => d.literal value ++ literalSql d rest

/-- The text with the data as placeholders, numbered on from `count`. -/
def boundSql (d : Dialect) (count : Nat) : Template → String
  | [] => ""
  | .text sql :: rest => sql ++ boundSql d count rest
  | .slot _ :: rest => d.placeholder (count + 1) ++ boundSql d (count + 1) rest

/-- The statement in the given style when `count` data are bound already. -/
def queryAfter (style : SqlStyle) (count : Nat) (t : Template) : Query :=
  if style.inline then ⟨t.literalSql style.dialect, []⟩
  else ⟨t.boundSql style.dialect count, t.slots⟩

/-- The statement in the given style. -/
def query (style : SqlStyle) (t : Template) : Query :=
  t.queryAfter style 0

end Template

end SqlWorkbench
