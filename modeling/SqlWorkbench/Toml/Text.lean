import SqlWorkbench.Number.Hexadecimal

/-!
# Texts in TOML

A text stands between double quotes, where a backslash begins an escape, or between single quotes,
where every character stands for itself. Three quotes on each side let it go over several lines.

When a text is written, the plainest form that needs no escapes is taken: double quotes, single
quotes, three double quotes, three single quotes. Only if there is none, characters are escaped.
-/

namespace SqlWorkbench.Toml

/-- A form of a text: its quotes, and whether there are three on each side. -/
structure TextForm where
  quote : Char
  isTripled : Bool
deriving DecidableEq

namespace TextForm

/-- Between double quotes. -/
def basic : TextForm := ⟨'"', false⟩

/-- Between single quotes. -/
def literal : TextForm := ⟨'\x27', false⟩

/-- Between three double quotes. -/
def basicLines : TextForm := ⟨'"', true⟩

/-- Between three single quotes. -/
def literalLines : TextForm := ⟨'\x27', true⟩

/-- A backslash begins an escape. -/
def hasEscapes (f : TextForm) : Bool :=
  f.quote == '"'

/-- What stands on each side of the text. -/
def delimiter (f : TextForm) : List Char :=
  if f.isTripled then [f.quote, f.quote, f.quote] else [f.quote]

end TextForm

/-! ### Characters -/

/-- A blank within a line. -/
def isBlank (c : Char) : Bool :=
  c == ' ' || c == '\t'

/-- A character that may stand for itself in a text or a comment. -/
def isPlain (c : Char) : Bool :=
  c == '\t' || (32 ≤ c.toNat && c.toNat != 127)

/-- Without the blanks in front. -/
def skipBlanks (s : List Char) : List Char :=
  s.dropWhile isBlank

/-- What follows the line break in front of the text. -/
def afterLineBreak? : List Char → Option (List Char)
  | '\n' :: rest => some rest
  | '\r' :: '\n' :: rest => some rest
  | _ => none

/-! ### Reading -/

/-- The character whose code is given by a number of hexadecimal digits. -/
def readCode? (width : Nat) (s : List Char) : Option (Char × List Char) :=
  let digits := s.take width
  if digits.length < width then none
  else
    match Hexadecimal.natOf? digits with
    | some code => if code.isValidChar then some (Char.ofNat code, s.drop width) else none
    | none => none

/-- The character of an escape, the backslash already read. -/
def readEscape? : List Char → Option (Char × List Char)
  | [] => none
  | c :: rest =>
    if c == 'b' then some ('\x08', rest)
    else if c == 't' then some ('\t', rest)
    else if c == 'n' then some ('\n', rest)
    else if c == 'f' then some ('\x0C', rest)
    else if c == 'r' then some ('\r', rest)
    else if c == '"' || c == '\\' then some (c, rest)
    else if c == 'u' then readCode? 4 rest
    else if c == 'U' then readCode? 8 rest
    else none

/-- Without the blanks and line breaks in front. -/
def skipLines : List Char → List Char
  | '\r' :: '\n' :: rest => skipLines rest
  | c :: rest => if isBlank c || c == '\n' then skipLines rest else c :: rest
  | [] => []

/-- What follows a backslash at the end of a line: blanks and line breaks are passed over. -/
def afterJoin? (s : List Char) : Option (List Char) :=
  (afterLineBreak? (skipBlanks s)).map skipLines

/-- The rest of a text up to its closing quotes; the characters read so far are kept backwards.
Three quotes close a text over several lines, and up to two in front of them belong to it. -/
def readBody? (f : TextForm) (read : List Char) : Nat → List Char → Option (String × List Char)
  | 0, _ => none
  | _, [] => none
  | fuel + 1, c :: rest =>
    if c == f.quote then
      if f.isTripled then
        let more := (rest.takeWhile (· == c)).length
        if more < 2 then readBody? f (c :: read) fuel rest
        else
          let kept := min (more - 2) 2
          some (String.ofList (List.replicate kept c ++ read).reverse, rest.drop (kept + 2))
      else some (String.ofList read.reverse, rest)
    else if f.hasEscapes && c == '\\' then
      match if f.isTripled then afterJoin? rest else none with
      | some rest => readBody? f read fuel rest
      | none =>
        match readEscape? rest with
        | some (c, rest) => readBody? f (c :: read) fuel rest
        | none => none
    else if isPlain c then readBody? f (c :: read) fuel rest
    else if f.isTripled then
      match afterLineBreak? (c :: rest) with
      | some rest => readBody? f ('\n' :: read) fuel rest
      | none => none
    else none

/-- A text on one line. -/
def readLineText? : List Char → Option (String × List Char)
  | [] => none
  | c :: rest =>
    if c == '"' || c == '\x27' then readBody? ⟨c, false⟩ [] (rest.length + 1) rest else none

/-- A text. A line break right behind three opening quotes is passed over. -/
def readText? (s : List Char) : Option (String × List Char) :=
  match s with
  | a :: b :: c :: rest =>
    if a == b && b == c && (a == '"' || a == '\x27') then
      let body := (afterLineBreak? rest).getD rest
      readBody? ⟨a, true⟩ [] (body.length + 1) body
    else readLineText? s
  | _ => readLineText? s

/-! ### Writing -/

/-- A character that is always escaped. -/
def isControl (c : Char) : Bool :=
  !isPlain c && c != '\n'

/-- The length of the longest run of a character; `current` is the run in front of the text. -/
def longestRun (c : Char) (current : Nat) : List Char → Nat
  | [] => current
  | d :: rest =>
    if d = c then longestRun c (current + 1) rest else max current (longestRun c 0 rest)

/-- The form in which a text is written. -/
def TextForm.of (s : List Char) : TextForm :=
  let isRaw := !s.any isControl
  let hasBackslash := s.contains '\\'
  let isLine := !s.contains '\n'
  let doubleQuotes := longestRun '"' 0 s
  let singleQuotes := longestRun '\x27' 0 s
  if isRaw && !hasBackslash && doubleQuotes == 0 && isLine then basic
  else if isRaw && singleQuotes == 0 && isLine then literal
  else if isRaw && !hasBackslash && doubleQuotes ≤ 2 then basicLines
  else if isRaw && singleQuotes ≤ 2 then literalLines
  else if isLine then basic
  else basicLines

/-- An escaped character. -/
def escape (c : Char) : List Char :=
  if c == '\x08' then ['\\', 'b']
  else if c == '\t' then ['\\', 't']
  else if c == '\n' then ['\\', 'n']
  else if c == '\x0C' then ['\\', 'f']
  else if c == '\r' then ['\\', 'r']
  else if c == '"' || c == '\\' then ['\\', c]
  else ['\\', 'u'] ++ (Hexadecimal.lastDigits 4 c.toNat).map Char.toUpper

/-- A text with escapes; `run` counts the quotes in front of it. Over several lines, two quotes
and line breaks may stand as they are. -/
def escapeAll (isTripled : Bool) (run : Nat) : List Char → List Char
  | [] => []
  | c :: rest =>
    if c == '"' then
      if run < (if isTripled then 2 else 0) then c :: escapeAll isTripled (run + 1) rest
      else escape c ++ escapeAll isTripled 0 rest
    else if c == '\n' && isTripled then c :: escapeAll isTripled 0 rest
    else if isControl c || c == '\t' || c == '\n' || c == '\\' then
      escape c ++ escapeAll isTripled 0 rest
    else c :: escapeAll isTripled 0 rest

/-- A text as it is written. -/
def quotedText (s : List Char) : List Char :=
  let f := TextForm.of s
  let opening := if f.isTripled && s.contains '\n' then ['\n'] else []
  f.delimiter ++ opening ++ (if f.hasEscapes then escapeAll f.isTripled 0 s else s) ++ f.delimiter

end SqlWorkbench.Toml
