import SqlWorkbench.Text.Blank
import SqlWorkbench.Text.Join
import SqlWorkbench.Text.Letter

/-!
# Lexemes of a script

A script is cut into lexemes: comments, quoted and dollar-quoted regions, words, terminators,
blanks and single symbols. A region that is never closed reaches to the end of the script. Nothing
is lost: the lexemes, one after the other, spell the script.
-/

namespace SqlWorkbench

/-- A lexeme of a script. -/
inductive Lexeme where
  | lineBreak
  /-- White space other than a line break. -/
  | blank (c : Char)
  /-- A comment to the end of its line, without the two hyphens in front. -/
  | lineComment (body : List Char)
  /-- A bracketed comment, without its brackets. -/
  | blockComment (body : List Char) (closed : Bool)
  /-- A quoted region, without its outer quotes. -/
  | quoted (quote : Char) (body : List Char) (closed : Bool)
  /-- A region between two equal dollar tags. -/
  | dollarQuoted (tag body : List Char) (closed : Bool)
  | semicolon
  /-- A run of letters, digits and underscores. -/
  | word (letters : List Char)
  /-- Any other character. -/
  | symbol (c : Char)
deriving DecidableEq

namespace Lexeme

/-- The characters of a lexeme. -/
def text : Lexeme → List Char
  | lineBreak => ['\n']
  | blank c => [c]
  | lineComment body => '-' :: '-' :: body
  | blockComment body closed => '/' :: '*' :: body ++ if closed then ['*', '/'] else []
  | quoted quote body closed => quote :: body ++ if closed then [quote] else []
  | dollarQuoted tag body closed => tag ++ body ++ if closed then tag else []
  | semicolon => [';']
  | word letters => letters
  | symbol c => [c]

/-! ### Characters -/

/-- A character of a word. -/
def isWordPart (c : Char) : Bool :=
  Text.isAlphanumeric c || c == '_'

/-- A character that opens a quoted region. -/
def isQuote (c : Char) : Bool :=
  c == '\x27' || c == '"' || c == '\x60'

/-- A character that a dollar tag may begin with. -/
def isTagStart (c : Char) : Bool :=
  c.isAlpha || c == '_'

/-- A character that may follow in a dollar tag. -/
def isTagPart (c : Char) : Bool :=
  c.isAlpha || c.isDigit || c == '_'

/-! ### Regions -/

/-- The inside of a quoted region, whether it is closed, and what follows. A doubled quote belongs
to the inside. -/
def readQuoted (quote : Char) : List Char → List Char × Bool × List Char
  | [] => ([], false, [])
  | [c] => if c = quote then ([], true, []) else ([c], false, [])
  | c :: d :: rest =>
    if c = quote then
      if d = quote then
        let (body, closed, rest) := readQuoted quote rest
        (c :: d :: body, closed, rest)
      else ([], true, d :: rest)
    else
      let (body, closed, rest) := readQuoted quote (d :: rest)
      (c :: body, closed, rest)

/-- The dollar tag that a dollar sign opens, and what follows it. -/
def readTag? : List Char → Option (List Char × List Char)
  | '$' :: rest => some (['$', '$'], rest)
  | c :: rest =>
    if isTagStart c then
      match rest.dropWhile isTagPart with
      | '$' :: after => some ('$' :: c :: rest.takeWhile isTagPart ++ ['$'], after)
      | _ => none
    else none
  | [] => none

/-- The text up to a closing mark, whether the mark is there, and what follows it. -/
def readUntil (mark s : List Char) : List Char × Bool × List Char :=
  match Text.splitAt? mark s with
  | some (body, rest) => (body, true, rest)
  | none => (s, false, [])

/-! ### Cutting -/

/-- The lexeme in front of a text, and what follows it. A dollar sign right behind a word opens no
region. -/
def next (afterWord : Bool) (c : Char) (rest : List Char) : Lexeme × List Char :=
  if c == '\n' then (lineBreak, rest)
  else if c == '-' && rest.head? == some '-' then
    (lineComment ((rest.drop 1).takeWhile (· != '\n')), (rest.drop 1).dropWhile (· != '\n'))
  else if c == '/' && rest.head? == some '*' then
    let (body, closed, rest) := readUntil ['*', '/'] (rest.drop 1)
    (blockComment body closed, rest)
  else if isQuote c then
    let (body, closed, rest) := readQuoted c rest
    (quoted c body closed, rest)
  else if c == '$' && !afterWord then
    match readTag? rest with
    | some (tag, after) =>
      let (body, closed, rest) := readUntil tag after
      (dollarQuoted tag body closed, rest)
    | none => (symbol c, rest)
  else if c == ';' then (semicolon, rest)
  else if isWordPart c then (word (c :: rest.takeWhile isWordPart), rest.dropWhile isWordPart)
  else if Text.isBlank c then (blank c, rest)
  else (symbol c, rest)

/-- The lexeme is a word. -/
def isWord : Lexeme → Bool
  | word _ => true
  | _ => false

/-- Cut a text of at most `fuel` characters into lexemes. -/
def cut : Nat → Bool → List Char → List Lexeme
  | 0, _, _ => []
  | _, _, [] => []
  | fuel + 1, afterWord, c :: rest =>
    let (lexeme, rest) := next afterWord c rest
    lexeme :: cut fuel lexeme.isWord rest

/-- The lexemes of a script. -/
def ofText (s : List Char) : List Lexeme :=
  cut s.length false s

end Lexeme

end SqlWorkbench
