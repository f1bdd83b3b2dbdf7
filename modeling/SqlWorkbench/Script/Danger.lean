import SqlWorkbench.Text.Blank
import SqlWorkbench.Text.Join
import SqlWorkbench.Text.Word

/-!
# Destructive scripts

A script that changes or removes what is there is run only on confirmation. It is recognised by
whole words, in any case of their letters, on lines that are not comments from their start.
-/

namespace SqlWorkbench.Script

/-- The words that call for confirmation; adding rows does not. -/
def destructiveWords : List (List Char) :=
  ["DELETE", "UPDATE", "DROP", "RENAME", "TRUNCATE", "ALTER"].map String.toList

/-- A word stands at the start of a text and ends there. -/
def startsWithWord (s word : List Char) : Bool :=
  match Text.dropWord? word s with
  | some rest => (rest.head?.map Text.isWordChar).getD false == false
  | none => false

/-- One of the words stands in a text, with no word character at either side. -/
def hasWord (words : List (List Char)) (afterWordChar : Bool) : List Char → Bool
  | [] => false
  | c :: rest =>
    (!afterWordChar && words.any (startsWithWord (c :: rest)))
      || hasWord words (Text.isWordChar c) rest

/-- The line is a comment from its start. -/
def isCommentLine (line : List Char) : Bool :=
  (Text.dropPrefix? ['-', '-'] (Text.trimStart line)).isSome

/-- The script has a destructive word on a line that is no comment. -/
def isDestructive (text : String) : Bool :=
  (Text.lines text.toList).any fun line =>
    !isCommentLine line && hasWord destructiveWords false line

end SqlWorkbench.Script
