import SqlWorkbench.Json.Basic

/-!
# Records in structured data

A record is written as an object, or as a list of its fields in order. Unknown members of an
object are passed over and a field may not be given twice. Whether a field may be left out is
stated with the field.
-/

namespace SqlWorkbench.Json

/-- What leaving out a field means. -/
inductive Absence where
  /-- The record is refused. -/
  | refused
  /-- In an object the field counts as null; in a list it may not be left out. -/
  | null
  /-- The field takes its default. -/
  | default
deriving DecidableEq

/-- A field of a record: its name and what leaving it out means. -/
structure Field where
  name : String
  absence : Absence

/-- The values given to a field in an object: none, one, or more than one, which is refused. -/
def slot? (members : List (String × Json)) (field : Field) : Option (Option Json) :=
  match members.filter fun m => m.1 == field.name with
  | [] => if field.absence = .refused then none else some none
  | [m] => some (some m.2)
  | _ => none

/-- The values of the fields in a list, in order. -/
def slotsOfItems? : List Field → List Json → Option (List (Option Json))
  | [], [] => some []
  | [], _ :: _ => none
  | field :: fields, [] =>
    if field.absence = .default then (slotsOfItems? fields []).map (none :: ·) else none
  | _ :: fields, item :: items => (slotsOfItems? fields items).map (some item :: ·)

/-- The values of the fields of a record, absent ones marked as such. -/
def slots? (fields : List Field) : Json → Option (List (Option Json))
  | .object members => fields.mapM (slot? members)
  | .array items => slotsOfItems? fields items
  | _ => none

/-- The decoded field at a place of a record. -/
def fieldAt? {α : Type} (slots : List (Option Json)) (place : Nat) (default : α)
    (decode : Json → Option α) : Option α :=
  match slots[place]? with
  | some (some j) => decode j
  | _ => some default

/-- A value that may be null. -/
def optional? {α : Type} (decode : Json → Option α) : Json → Option (Option α)
  | .null => some none
  | j => (decode j).map some

/-- A list of values. -/
def list? {α : Type} (decode : Json → Option α) : Json → Option (List α)
  | .array items => items.mapM decode
  | _ => none

/-- An integer within bounds, the upper one excluded. -/
def integerWithin? (least limit : Int) : Json → Option Int
  | .int i => if least ≤ i ∧ i < limit then some i else none
  | _ => none

/-- A natural number below a bound. -/
def naturalBelow? (limit : Nat) (j : Json) : Option Nat :=
  (integerWithin? 0 limit j).map Int.toNat

/-- The name of a choice: a text, or an object with that one member, which is null. -/
def choice? {α : Type} (named : String → Option α) : Json → Option α
  | .string s => named s
  | .object [(name, .null)] => named name
  | _ => none

end SqlWorkbench.Json
