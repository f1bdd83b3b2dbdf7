import SqlWorkbench.Text.Blank
import SqlWorkbench.Text.Casing
import SqlWorkbench.Text.Join

/-!
# Dialects

The five families of engines, and how each quotes the names and texts of a statement. A quoted
name doubles its closing quote; a quoted text doubles single quotes, escapes with backslashes, or
both, as the engine reads it back.
-/

namespace SqlWorkbench

/-- A family of database engines. -/
inductive Dialect where
  | postgres | mysql | mssql | clickhouse | sqlite
deriving DecidableEq, Inhabited

namespace Dialect

/-- All dialects. -/
def all : List Dialect := [postgres, mysql, mssql, clickhouse, sqlite]

/-- The name of a dialect. -/
def name : Dialect → String
  | postgres => "postgres"
  | mysql => "mysql"
  | mssql => "mssql"
  | clickhouse => "clickhouse"
  | sqlite => "sqlite"

/-- The dialect with exactly this name. -/
def ofName? (s : String) : Option Dialect :=
  all.find? fun d => d.name == s

/-- The dialect that a user means, or the lower-cased word that means none. -/
def parse (s : String) : Except String Dialect :=
  let word := String.ofList (Text.toLower (Text.trim s.toList))
  if ["postgres", "postgresql", "pg"].contains word then .ok postgres
  else if ["mysql", "mariadb"].contains word then .ok mysql
  else if ["mssql", "sqlserver"].contains word then .ok mssql
  else if word == "clickhouse" then .ok clickhouse
  else if word == "sqlite" then .ok sqlite
  else .error word

theorem mem_all (d : Dialect) : d ∈ all := by
  cases d <;> decide

/-! ### Names -/

/-- The character that opens a quoted name. -/
def openQuote : Dialect → Char
  | postgres | sqlite => '"'
  | mysql | clickhouse => '\x60'
  | mssql => '['

/-- The character that closes a quoted name. -/
def closeQuote : Dialect → Char
  | postgres | sqlite => '"'
  | mysql | clickhouse => '\x60'
  | mssql => ']'

/-- The characters of a quoted name. -/
def quotedName (d : Dialect) (name : List Char) : List Char :=
  d.openQuote :: Text.replaceChar d.closeQuote [d.closeQuote, d.closeQuote] name ++ [d.closeQuote]

/-- A name between the quotes of the dialect. -/
def quoteName (d : Dialect) (name : String) : String :=
  String.ofList (d.quotedName name.toList)

@[simp] theorem toList_quoteName (d : Dialect) (name : String) :
    (d.quoteName name).toList = d.quotedName name.toList := by
  simp [quoteName]

/-- A dotted path of names; empty parts are left out. -/
def quotePath (d : Dialect) (parts : List String) : String :=
  Text.joinWith "." ((parts.filter fun p => !p.isEmpty).map d.quoteName)

/-! ### Texts -/

/-- How a character of a text is written between single quotes. -/
def quotedChar : Dialect → Char → List Char
  | mysql, c =>
    if c = '\\' then ['\\', '\\'] else if c = '\x27' then ['\x27', '\x27'] else [c]
  | clickhouse, c => if c = '\\' ∨ c = '\x27' then ['\\', c] else [c]
  | _, c => if c = '\x27' then ['\x27', '\x27'] else [c]

/-- The characters of a quoted text. -/
def quotedText (d : Dialect) (s : List Char) : List Char :=
  '\x27' :: s.flatMap d.quotedChar ++ ['\x27']

/-- A text between single quotes. -/
def quoteText (d : Dialect) (s : String) : String :=
  String.ofList (d.quotedText s.toList)

@[simp] theorem toList_quoteText (d : Dialect) (s : String) :
    (d.quoteText s).toList = d.quotedText s.toList := by
  simp [quoteText]

/-! ### Features -/

/-- The mark that stands for the parameter with the given number, counted from one. -/
def placeholder (d : Dialect) (number : Nat) : String :=
  match d with
  | postgres => "$" ++ toString number
  | mssql => "@" ++ toString number
  | mysql | clickhouse | sqlite => "?"

/-- The engine takes bound parameters only in part, so that all values are written out. -/
def inlinesParameters : Dialect → Bool
  | clickhouse => true
  | _ => false

/-- The engine has a pattern match that ignores case. -/
def supportsCaseInsensitive : Dialect → Bool
  | postgres | clickhouse => true
  | _ => false

end Dialect

end SqlWorkbench
