/-!
# Joining texts

Texts are put together from pieces with a separator between them, and taken apart at line breaks.
-/

namespace SqlWorkbench.Text

/-! ### Joining -/

/-- The pieces one after the other, with `separator` between neighbours. -/
def joinWith (separator : String) : List String → String
  | [] => ""
  | [piece] => piece
  | piece :: next :: rest => piece ++ separator ++ joinWith separator (next :: rest)

@[simp] theorem joinWith_nil (separator : String) : joinWith separator [] = "" := rfl

@[simp] theorem joinWith_singleton (separator piece : String) :
    joinWith separator [piece] = piece := rfl

theorem joinWith_cons_cons (separator piece next : String) (rest : List String) :
    joinWith separator (piece :: next :: rest)
      = piece ++ separator ++ joinWith separator (next :: rest) := rfl

/-! ### Lines -/

/-- The line break that ended a line may leave a carriage return behind. -/
def dropCarriageReturn (backwards : List Char) : List Char :=
  match backwards with
  | '\r' :: rest => rest.reverse
  | _ => backwards.reverse

/-- The lines of a text: a line break ends a line, and nothing follows the last one. -/
def lines (s : List Char) : List (List Char) :=
  go s []
where
  /-- Collects the current line backwards. -/
  go : List Char → List Char → List (List Char)
    | [], [] => []
    | [], line => [line.reverse]
    | '\n' :: rest, line => dropCarriageReturn line :: go rest []
    | c :: rest, line => go rest (c :: line)

@[simp] theorem lines_nil : lines [] = [] := rfl

/-! ### Replacing -/

/-- Each occurrence of the character is replaced by a text. -/
def replaceChar (old : Char) (new : List Char) (s : List Char) : List Char :=
  s.flatMap fun c => if c = old then new else [c]

@[simp] theorem replaceChar_nil (old : Char) (new : List Char) : replaceChar old new [] = [] := rfl

@[simp] theorem replaceChar_cons (old : Char) (new : List Char) (c : Char) (s : List Char) :
    replaceChar old new (c :: s)
      = (if c = old then new else [c]) ++ replaceChar old new s := rfl

/-! ### Prefixes -/

/-- What follows `start`, if the text begins with it. -/
def dropPrefix? : List Char → List Char → Option (List Char)
  | [], s => some s
  | _ :: _, [] => none
  | p :: start, c :: s => if p = c then dropPrefix? start s else none

theorem dropPrefix?_eq_some_iff {start s rest : List Char} :
    dropPrefix? start s = some rest ↔ s = start ++ rest := by
  induction start generalizing s with
  | nil => simp [dropPrefix?, eq_comm]
  | cons p start ih =>
    cases s with
    | nil => simp [dropPrefix?]
    | cons c s =>
      by_cases h : p = c
      · simp [dropPrefix?, h, ih]
      · simp [dropPrefix?, h, Ne.symm h]

/-- The parts of the text around the first occurrence of `needle`. -/
def splitAt? (needle : List Char) : List Char → Option (List Char × List Char)
  | [] => (dropPrefix? needle []).map fun rest => ([], rest)
  | c :: s =>
    match dropPrefix? needle (c :: s) with
    | some rest => some ([], rest)
    | none => (splitAt? needle s).map fun parts => (c :: parts.1, parts.2)

/-- The text contains `needle` as a run of neighbouring characters. -/
def containsText (needle s : List Char) : Bool :=
  (splitAt? needle s).isSome

end SqlWorkbench.Text
