import SqlWorkbench.Script.Lexeme
import SqlWorkbench.Text.Casing

/-!
# Blocks

A terminator inside a block does not end a statement. Words open and close blocks; what a word
does depends on the word before it and on what comes after it.
-/

namespace SqlWorkbench

/-- An open block. -/
inductive Block where
  /-- From `BEGIN` to `END`. -/
  | procedural
  /-- From `CASE` to `END`. -/
  | case
  /-- From `BEGIN` or `START TRANSACTION` to `COMMIT`, `ROLLBACK` or `END`. -/
  | transaction
deriving DecidableEq

/-- What comes after a word, blanks and line breaks aside. -/
inductive Upcoming where
  /-- A word, in capitals. -/
  | word (capitals : String)
  | semicolon
  | other
  | nothing
deriving DecidableEq

/-- The word in capitals. -/
def capitals (letters : List Char) : String :=
  String.ofList (Text.toUpper letters)

/-- What comes first in the lexemes, blanks and line breaks aside. -/
def Upcoming.ofLexemes : List Lexeme → Upcoming
  | [] => .nothing
  | .lineBreak :: rest => ofLexemes rest
  | .blank _ :: rest => ofLexemes rest
  | .word letters :: _ => .word (capitals letters)
  | .semicolon :: _ => .semicolon
  | _ :: _ => .other

namespace Block

/-- Words after `END` that end something which is no block. -/
def endsNoBlock : List String :=
  ["IF", "LOOP", "WHILE", "REPEAT", "FOR"]

/-- Words after `BEGIN` that make it the start of a transaction. -/
def transactionMarks : List String :=
  ["TRANSACTION", "WORK", "TRAN", "DEFERRED", "IMMEDIATE", "EXCLUSIVE"]

/-- The block that `BEGIN` opens. -/
def ofBegin : Upcoming → Block
  | .semicolon | .nothing => transaction
  | .word w => if transactionMarks.contains w then transaction else procedural
  | .other => procedural

/-- The open blocks, innermost first, after a word in capitals; `before` is the word before it. -/
def step (word : String) (before : Option String) (after : Upcoming) (blocks : List Block) :
    List Block :=
  if word = "BEGIN" then ofBegin after :: blocks
  else if word = "START" then
    if after = .word "TRANSACTION" then transaction :: blocks else blocks
  else if word = "CASE" then if before = some "END" then blocks else case :: blocks
  else if word = "END" then
    match after with
    | .word w => if endsNoBlock.contains w then blocks else blocks.tail
    | _ => blocks.tail
  else if word = "COMMIT" ∨ word = "ROLLBACK" then
    if word = "ROLLBACK" ∧ after = .word "TO" then blocks
    else if blocks.head? = some transaction then blocks.tail
    else blocks
  else blocks

end Block

end SqlWorkbench
