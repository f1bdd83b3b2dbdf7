import SqlWorkbench.Keyed
import SqlWorkbench.Number.Double

/-!
# TOML documents

A document is a table: values under names, of which some are tables again. A table is filled by
the pairs behind its header, by dotted keys, or at once between braces. How it came to be decides
what may be added later; nothing is ever overwritten.
-/

namespace SqlWorkbench

/-- How a table came to be. -/
inductive TableOrigin where
  /-- It has a header. -/
  | header
  /-- It is on the way to a table with a header. -/
  | way
  /-- It is on the way to a value with a dotted key. -/
  | dottedKey
  /-- It stands between braces. -/
  | braces
deriving DecidableEq

/-- A value of a document. -/
inductive Toml where
  | string (value : String)
  | integer (value : Int)
  | float (value : Double)
  | boolean (value : Bool)
  /-- A date, a time, or both, as written. -/
  | moment (text : String)
  /-- Values between brackets. -/
  | array (items : List Toml)
  | table (origin : TableOrigin) (members : List (String × Toml))
  /-- Tables with one header, which is repeated for each of them. -/
  | tables (all : List (List (String × Toml)))
deriving Inhabited

namespace Toml

/-- The values of a table under their names. -/
abbrev Members := List (String × Toml)

/-- Values under dotted keys, in the order in which they are written. -/
abbrev Pairs := List (List String × Toml)

/-! ### Filling tables -/

/-- Add a value under a dotted key. The tables on the way must not have been closed by a header of
their own, and the last of them belongs to dotted keys alone. -/
def insert? (members : Members) (key : List String) (value : Toml) : Option Members :=
  match key with
  | [] => none
  | [name] =>
    match Keyed.find? members name with
    | none => some (Keyed.put members name value)
    | some _ => none
  | name :: rest =>
    let isLast := rest.length == 1
    match Keyed.find? members name with
    | none => (insert? [] rest value).map fun inner =>
        Keyed.put members name (.table .dottedKey inner)
    | some (.table .dottedKey inner) => (insert? inner rest value).map fun inner =>
        Keyed.put members name (.table .dottedKey inner)
    | some (.table .way inner) =>
      if isLast then none
      else (insert? inner rest value).map fun inner =>
        Keyed.put members name (.table .way inner)
    | some (.tables all) =>
      if isLast then none
      else (insert? (all.getLast?.getD []) rest value).map fun inner =>
        Keyed.put members name (.tables (all.dropLast ++ [inner]))
    | some _ => none

/-- Add values under dotted keys one after the other. -/
def insertAll? (members : Members) (pairs : Pairs) : Option Members :=
  pairs.foldlM (fun members p => insert? members p.1 p.2) members

/-- Replace what stands at the place of a header; of repeated tables the way leads through the
last. -/
def replace? (change : Option Toml → Option Toml) (members : Members) (key : List String) :
    Option Members :=
  match key with
  | [] => none
  | [name] => (change (Keyed.find? members name)).map (Keyed.put members name)
  | name :: rest =>
    match Keyed.find? members name with
    | none => (replace? change [] rest).map fun inner =>
        Keyed.put members name (.table .way inner)
    | some (.table .braces _) => none
    | some (.table origin inner) => (replace? change inner rest).map fun inner =>
        Keyed.put members name (.table origin inner)
    | some (.tables all) => (replace? change (all.getLast?.getD []) rest).map fun inner =>
        Keyed.put members name (.tables (all.dropLast ++ [inner]))
    | some _ => none

/-- The table of a header that occurs once, with its pairs. -/
def headed? (pairs : Pairs) : Option Toml → Option Toml
  | none => (insertAll? [] pairs).map (.table .header)
  | some (.table .way members) => (insertAll? members pairs).map (.table .header)
  | some _ => none

/-- One more table of a header that is repeated, with its pairs. -/
def appended? (pairs : Pairs) : Option Toml → Option Toml
  | none => (insertAll? [] pairs).map fun members => .tables [members]
  | some (.tables all) => (insertAll? [] pairs).map fun members => .tables (all ++ [members])
  | some _ => none

/-! ### Views -/

/-- The text of a text. -/
def string? : Toml → Option String
  | .string s => some s
  | _ => none

/-- The number of an integer that is not negative. -/
def natural? : Toml → Option Nat
  | .integer i => if 0 ≤ i then some i.toNat else none
  | _ => none

/-- The values of an array, or of a header that is repeated. -/
def array? : Toml → Option (List Toml)
  | .array items => some items
  | .tables all => some (all.map (.table .header))
  | _ => none

/-- The value has no contents. -/
def isEmpty : Toml → Bool
  | .array items => items.isEmpty
  | .table _ members => members.isEmpty
  | .tables all => all.isEmpty
  | _ => false

/-- The name of a choice: a text, or a table with that one name and nothing under it. -/
def choice? {α : Type} (named : String → Option α) : Toml → Option α
  | .string s => named s
  | .table _ [(name, value)] => if value.isEmpty then named name else none
  | _ => none

/-- The values of a record: those under the given names, or an array of them in that order. -/
def slots? (names : List String) : Toml → Option (List (Option Toml))
  | .table _ members => some (names.map (Keyed.find? members))
  | .array items => some ((List.range names.length).map (items[·]?))
  | _ => none

/-- The value at a place of a record, which must be there. -/
def fieldAt? {α : Type} (slots : List (Option Toml)) (place : Nat)
    (decode : Toml → Option α) : Option α :=
  slots[place]?.join.bind decode

/-- The value at a place of a record, or its default. -/
def fieldOr? {α : Type} (slots : List (Option Toml)) (place : Nat) (default : α)
    (decode : Toml → Option α) : Option α :=
  match slots[place]?.join with
  | some t => decode t
  | none => some default

end Toml

end SqlWorkbench
