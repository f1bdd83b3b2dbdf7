import SqlWorkbench.Binary.Bytes
import SqlWorkbench.Number.Reading
import SqlWorkbench.Text.Join

/-!
# Network addresses

Numeric addresses of hosts: four numbers below 256 with points, or eight groups of hexadecimal
digits with colons, in which one run of zero groups may be left out and the last two groups may be
written as the four numbers.
-/

namespace SqlWorkbench.Postgres.Address

/-- The pieces of a text between the occurrences of a character. -/
def pieces (separator : Char) : List Char → List (List Char)
  | [] => [[]]
  | c :: rest =>
    if c = separator then [] :: pieces separator rest
    else
      match pieces separator rest with
      | piece :: more => (c :: piece) :: more
      | [] => [[c]]

@[simp] theorem pieces_nil (separator : Char) : pieces separator [] = [[]] := rfl

/-- A number below 256 without a zero in front. -/
def isOctet (s : List Char) : Bool :=
  !s.isEmpty && s.length ≤ 3 && s.all Char.isDigit && natOfDigits s < 256
    && (s.length == 1 || s.head? != some '0')

/-- Four numbers with points. -/
def isFourNumbers (s : List Char) : Bool :=
  let parts := pieces '.' s
  parts.length == 4 && parts.all isOctet

/-- One to four hexadecimal digits. -/
def isGroup (s : List Char) : Bool :=
  !s.isEmpty && s.length ≤ 4 && s.all fun c => (Hexadecimal.value? c).isSome

/-- The number of groups in a list of pieces, the last of which may stand for two. -/
def groupCount? : List (List Char) → Option Nat
  | [] => some 0
  | [last] => if isGroup last then some 1 else if isFourNumbers last then some 2 else none
  | piece :: rest => if isGroup piece then (groupCount? rest).map (· + 1) else none

/-- Groups between colons, or no text at all. -/
def groupsOf? (s : List Char) : Option Nat :=
  if s.isEmpty then some 0 else groupCount? (pieces ':' s)

/-- Eight groups, or fewer with a place where groups are left out. -/
def isGroups (s : List Char) : Bool :=
  match Text.splitAt? [':', ':'] s with
  | none => groupsOf? s == some 8
  | some (head, tail) =>
    match groupsOf? head, groupsOf? tail with
    | some h, some t => h + t ≤ 7 && !(head.contains '.')
    | _, _ => false

/-- A numeric address of either form. -/
def isAddress (s : List Char) : Bool :=
  isFourNumbers s || isGroups s

end SqlWorkbench.Postgres.Address
