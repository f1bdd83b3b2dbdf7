import SqlWorkbench.Binary.Bytes
import SqlWorkbench.Text.Join

/-!
# Universally unique identifiers

An identifier is sixteen bytes. It is written as hexadecimal digits in groups of 8, 4, 4, 4 and 12
with hyphens; it is read in this form, without hyphens, in braces, or behind `urn:uuid:`.
-/

namespace SqlWorkbench.Uuid

/-- The numbers of digits of the groups. -/
def groupLengths : List Nat :=
  [8, 4, 4, 4, 12]

/-- Cut a text into pieces of the given lengths. -/
def cut : List Nat → List Char → List (List Char)
  | [], _ => []
  | n :: lengths, s => s.take n :: cut lengths (s.drop n)

/-- The usual form of an identifier. -/
def text (bytes : Bytes) : String :=
  Text.joinWith "-" ((cut groupLengths bytes.hexDigits).map String.ofList)

/-- The digits of groups of the given lengths with hyphens between them. -/
def joinGroups? : List Nat → List Char → Option (List Char)
  | [], _ => none
  | [n], s => if s.length = n then some s else none
  | n :: lengths, s =>
    match s.drop n with
    | '-' :: rest => (joinGroups? lengths rest).map (s.take n ++ ·)
    | _ => none

/-- The digits of any form. -/
def digits? (s : List Char) : Option (List Char) :=
  if s.length = 32 then some s
  else if s.length = 36 then joinGroups? groupLengths s
  else if s.length = 38 then
    match s.head?, s.getLast? with
    | some '\x7b', some '\x7d' => joinGroups? groupLengths s.tail.dropLast
    | _, _ => none
  else if s.length = 45 then (Text.dropPrefix? "urn:uuid:".toList s).bind (joinGroups? groupLengths)
  else none

/-- The identifier that a text stands for. -/
def read? (s : List Char) : Option Bytes :=
  (digits? s).bind Bytes.ofHex?

end SqlWorkbench.Uuid
