import SqlWorkbench.Script.Block

/-!
# Statement groups

A script is divided into statements at the terminators outside blocks. Statements that end on one
line form a group with the lines that they span, so that the statements under a line can be found.
Line breaks and comments inside a statement become a single blank; quoted and dollar-quoted regions
stay as they are.
-/

namespace SqlWorkbench

/-- Statements with the lines they span, counted from one, ends included. -/
structure StatementGroup where
  startLine : Nat
  endLine : Nat
  statements : List String
deriving DecidableEq

/-- The group spans the line. -/
def StatementGroup.covers (g : StatementGroup) (line : Nat) : Bool :=
  g.startLine ≤ line && line ≤ g.endLine

/-! ### Drafting -/

/-- The groups so far, and the one that is being written. -/
structure Draft where
  /-- Finished groups. -/
  groups : List StatementGroup := []
  /-- Finished statements of the current group. -/
  statements : List String := []
  /-- The current statement, backwards. -/
  current : List Char := []
  /-- A blank is due before the next character. -/
  spaceDue : Bool := false
  /-- The line of the first character of the current group. -/
  startLine : Option Nat := none
  /-- The line of the last character or terminator. -/
  lastLine : Nat := 0
  /-- Nothing has followed the last terminator. -/
  terminated : Bool := false

namespace Draft

/-- Add a character as it is. -/
def pushRaw (d : Draft) (line : Nat) (c : Char) : Draft :=
  { d with
    current := c :: d.current
    startLine := if c = '\n' then d.startLine else some (d.startLine.getD line)
    lastLine := if c = '\n' then d.lastLine else line
    terminated := false }

/-- Add a character, with the blank that is due before it. -/
def push (d : Draft) (line : Nat) (c : Char) : Draft :=
  let spaced := d.spaceDue && !d.current.isEmpty && d.current.head? != some ' '
  let current := if spaced then ' ' :: d.current else d.current
  { d with current, spaceDue := false }.pushRaw line c

/-- Add the characters of a word or a tag. -/
def pushAll (d : Draft) (line : Nat) (cs : List Char) : Draft :=
  cs.foldl (fun d c => d.push line c) d

/-- Add the characters of a region as they are, counting its lines. -/
def pushRegion (d : Draft) (line : Nat) : List Char → Draft × Nat
  | [] => (d, line)
  | c :: rest => pushRegion (d.pushRaw line c) (if c = '\n' then line + 1 else line) rest

/-- Add a blank, unless one is due or nothing stands before it. -/
def pushBlank (d : Draft) (c : Char) : Draft :=
  if d.current.isEmpty || d.spaceDue then d else { d with current := c :: d.current }

/-- A line break or a comment: the blanks before it become one blank that is due. -/
def softBreak (d : Draft) : Draft :=
  let current := d.current.dropWhile Text.isBlank
  { d with current, spaceDue := !current.isEmpty }

/-- The current statement without the blanks around it. -/
def statement (d : Draft) : List Char :=
  Text.trim d.current.reverse

/-- Finish the current statement, if there is one. -/
def terminate (d : Draft) (line : Nat) : Draft :=
  let text := d.statement
  { d with
    statements := if text.isEmpty then d.statements else d.statements ++ [String.ofList text]
    lastLine := if text.isEmpty then d.lastLine else line
    current := []
    spaceDue := false
    terminated := true }

/-- Finish the current group. -/
def flush (d : Draft) : Draft :=
  { d with
    groups := d.groups ++ [⟨d.startLine.getD d.lastLine, d.lastLine, d.statements⟩]
    statements := []
    startLine := none
    terminated := false }

/-- A line ends; a group ends with it if nothing has followed its last terminator. -/
def endLine (d : Draft) : Draft :=
  let d := d.softBreak
  if d.terminated && !d.statements.isEmpty then d.flush else d

/-- The lines that a comment spans end one after the other. -/
def endLines (d : Draft) (line : Nat) : List Char → Draft × Nat
  | [] => (d, line)
  | c :: rest => if c = '\n' then endLines d.endLine (line + 1) rest else endLines d line rest

/-- The script ends: what is left becomes a statement, and the last group is finished. -/
def finish (d : Draft) : List StatementGroup :=
  let text := d.statement
  let statements := if text.isEmpty then d.statements else d.statements ++ [String.ofList text]
  if statements.isEmpty then d.groups else ({ d with statements }.flush).groups

end Draft

/-! ### Scanning -/

/-- The state between two lexemes. -/
structure Scan where
  draft : Draft := {}
  /-- The open blocks, innermost first. -/
  blocks : List Block := []
  /-- The last word, in capitals. -/
  lastWord : Option String := none
  /-- A point stands right before. -/
  afterPoint : Bool := false
  line : Nat := 1

namespace Scan

/-- The draft and the line after a lexeme; `topLevel` says that no block is open. -/
def draftAfter (draft : Draft) (line : Nat) (topLevel : Bool) : Lexeme → Draft × Nat
  | .lineBreak => (draft.endLine, line + 1)
  | .blank c => (draft.pushBlank c, line)
  | .lineComment _ => (draft, line)
  | .blockComment body _ =>
    let (draft, line) := draft.endLines line body
    (draft.softBreak, line)
  | .quoted quote body closed =>
    (draft.push line quote).pushRegion line (body ++ if closed then [quote] else [])
  | .dollarQuoted tag body closed =>
    (draft.pushAll line tag).pushRegion line (body ++ if closed then tag else [])
  | .semicolon => (if topLevel then draft.terminate line else draft.push line ';', line)
  | .word letters => (draft.pushAll line letters, line)
  | .symbol c => (draft.push line c, line)

/-- The open blocks after a lexeme with `rest` behind it; a word behind a point is a name and opens
or closes nothing. -/
def blocksAfter (s : Scan) (lexeme : Lexeme) (rest : List Lexeme) : List Block :=
  match lexeme with
  | .word letters =>
    if s.afterPoint then s.blocks
    else Block.step (capitals letters) s.lastWord (Upcoming.ofLexemes rest) s.blocks
  | _ => s.blocks

/-- Take one lexeme; `rest` is what comes after it. -/
def step (s : Scan) (lexeme : Lexeme) (rest : List Lexeme) : Scan :=
  let (draft, line) := draftAfter s.draft s.line s.blocks.isEmpty lexeme
  { draft
    line
    blocks := s.blocksAfter lexeme rest
    lastWord := match lexeme with
      | .word letters => some (capitals letters)
      | _ => s.lastWord
    afterPoint := lexeme == .symbol '.' }

/-- Take the lexemes one after the other. -/
def run (s : Scan) : List Lexeme → Scan
  | [] => s
  | lexeme :: rest => run (s.step lexeme rest) rest

end Scan

namespace Script

/-- The statement groups of a script. -/
def groups (text : String) : List StatementGroup :=
  (Scan.run {} (Lexeme.ofText text.toList)).draft.finish

/-- The group that spans a line, if there is one. -/
def groupAt (groups : List StatementGroup) (line : Nat) : Option StatementGroup :=
  groups.find? fun g => g.covers line

/-- The statements of a script, whatever group they are in. -/
def statements (text : String) : List String :=
  (groups text).flatMap StatementGroup.statements

end Script

end SqlWorkbench
