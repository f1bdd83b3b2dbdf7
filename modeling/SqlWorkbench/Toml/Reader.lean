import SqlWorkbench.Toml.Number
import SqlWorkbench.Toml.Text

/-!
# Reading TOML

A document is read line by line: pairs of a dotted key and a value, headers, and headers that are
repeated. The pairs behind a header belong to its table. A key has less than 80 parts, and values
are nested less than 80 deep.
-/

namespace SqlWorkbench.Toml

/-- The least number of parts of a key, or of levels of nesting, that is refused. -/
def depthLimit : Nat :=
  80

/-! ### Keys -/

/-- A character of a key without quotes. -/
def isKeyChar (c : Char) : Bool :=
  c.isAlphanum || c == '-' || c == '_'

/-- One part of a key. -/
def readName? (s : List Char) : Option (String × List Char) :=
  match s with
  | [] => none
  | c :: _ =>
    if c == '"' || c == '\x27' then readLineText? s
    else
      let name := s.takeWhile isKeyChar
      if name.isEmpty then none else some (String.ofList name, s.dropWhile isKeyChar)

/-- A key of at most as many parts as given, with blanks around each of them. -/
def readParts? : Nat → List Char → Option (List String × List Char)
  | 0, _ => none
  | limit + 1, s =>
    match readName? (skipBlanks s) with
    | none => none
    | some (name, rest) =>
      match skipBlanks rest with
      | '.' :: rest => (readParts? limit rest).map fun p => (name :: p.1, p.2)
      | rest => some ([name], rest)

/-- A key. -/
def readKey? (s : List Char) : Option (List String × List Char) :=
  readParts? (depthLimit - 1) s

/-! ### Values -/

/-- Without the blanks, line breaks and comments in front. -/
def skipComments : Nat → List Char → List Char
  | 0, s => s
  | fuel + 1, s =>
    match skipLines s with
    | '#' :: rest => skipComments fuel (rest.dropWhile isPlain)
    | s => s

/-- A value without parts. -/
def readScalar? (s : List Char) : Option (Toml × List Char) :=
  match s with
  | 't' :: 'r' :: 'u' :: 'e' :: rest => some (.boolean true, rest)
  | 'f' :: 'a' :: 'l' :: 's' :: 'e' :: rest => some (.boolean false, rest)
  | c :: _ =>
    if c == '"' || c == '\x27' then (readText? s).map fun p => (.string p.1, p.2)
    else readNumber? s
  | [] => none

mutual

/-- A value, nested at most as deep as given; every call spends fuel. -/
def readValue? : Nat → Nat → List Char → Option (Toml × List Char)
  | 0, _, _ => none
  | fuel + 1, depth, s =>
    match s with
    | '[' :: rest =>
      if depth = 0 then none
      else (readItems? fuel (depth - 1) rest).map fun p => (.array p.1, p.2)
    | '\x7b' :: rest =>
      if depth = 0 then none
      else
        match skipBlanks rest with
        | '\x7d' :: rest => some (.table .braces [], rest)
        | rest =>
          match readPairs? fuel (depth - 1) rest with
          | some (pairs, rest) =>
            (insertAll? [] pairs).map fun members => (.table .braces members, rest)
          | none => none
    | s => readScalar? s

/-- The items of an array up to its closing bracket, which a comma may precede. -/
def readItems? : Nat → Nat → List Char → Option (List Toml × List Char)
  | 0, _, _ => none
  | fuel + 1, depth, s =>
    match skipComments fuel s with
    | ']' :: rest => some ([], rest)
    | s =>
      match readValue? fuel depth s with
      | none => none
      | some (item, rest) =>
        match skipComments fuel rest with
        | ',' :: rest => (readItems? fuel depth rest).map fun p => (item :: p.1, p.2)
        | ']' :: rest => some ([item], rest)
        | _ => none

/-- The pairs of a table between braces, at least one, up to the closing brace. -/
def readPairs? : Nat → Nat → List Char → Option (Pairs × List Char)
  | 0, _, _ => none
  | fuel + 1, depth, s =>
    match readKey? s with
    | some (key, '=' :: rest) =>
      match readValue? fuel depth (skipBlanks rest) with
      | none => none
      | some (value, rest) =>
        match skipBlanks rest with
        | ',' :: rest => (readPairs? fuel depth rest).map fun p => ((key, value) :: p.1, p.2)
        | '\x7d' :: rest => some ([(key, value)], rest)
        | _ => none
    | _ => none

end

/-! ### Lines -/

/-- A header: the place of a table, and whether the table is one of several there. -/
structure Header where
  key : List String
  isRepeated : Bool

/-- A line that is neither empty nor a comment. -/
inductive Line where
  | pair (key : List String) (value : Toml)
  | header (header : Header)

/-- What follows the end of a line, in front of which blanks and a comment may stand. -/
def afterLine? (s : List Char) : Option (List Char) :=
  let s := match skipBlanks s with
    | '#' :: rest => rest.dropWhile isPlain
    | s => s
  if s.isEmpty then some [] else afterLineBreak? s

/-- A line without its end. -/
def readLine? (fuel : Nat) (s : List Char) : Option (Line × List Char) :=
  match s with
  | '[' :: '[' :: rest =>
    match readKey? rest with
    | some (key, ']' :: ']' :: rest) => some (.header ⟨key, true⟩, rest)
    | _ => none
  | '[' :: rest =>
    match readKey? rest with
    | some (key, ']' :: rest) => some (.header ⟨key, false⟩, rest)
    | _ => none
  | s =>
    match readKey? s with
    | some (key, '=' :: rest) =>
      (readValue? fuel (depthLimit - 1) (skipBlanks rest)).map fun p => (.pair key p.1, p.2)
    | _ => none

/-- All lines of a document; every line spends fuel. -/
def readLines? : Nat → List Char → Option (List Line)
  | 0, _ => none
  | fuel + 1, s =>
    match skipBlanks s with
    | [] => some []
    | c :: rest =>
      if c == '#' || c == '\n' || c == '\r' then
        (afterLine? (c :: rest)).bind (readLines? fuel)
      else do
        let (line, rest) ← readLine? (2 * rest.length + 4) (c :: rest)
        let lines ← readLines? fuel (← afterLine? rest)
        some (line :: lines)

/-! ### Documents -/

/-- The pairs in front of the first header, and each header with the pairs behind it. -/
def sections : List Line → Pairs × List (Header × Pairs)
  | [] => ([], [])
  | .pair key value :: rest => ((key, value) :: (sections rest).1, (sections rest).2)
  | .header header :: rest => ([], (header, (sections rest).1) :: (sections rest).2)

/-- A document with one more header and the pairs behind it. -/
def addSection? (document : Members) (part : Header × Pairs) : Option Members :=
  replace? (if part.1.isRepeated then appended? part.2 else headed? part.2) document part.1.key

/-- The document that lines make up. -/
def ofLines? (lines : List Line) : Option Members := do
  let (pairs, parts) := sections lines
  parts.foldlM addSection? (← insertAll? [] pairs)

/-- The document that a text spells; a mark of the byte order in front is passed over. -/
def read? (s : String) : Option Members :=
  let cs := match s.toList with
    | '\ufeff' :: rest => rest
    | cs => cs
  (readLines? (cs.length + 1) cs).bind ofLines?

end SqlWorkbench.Toml
