import SqlWorkbench.Binary.Uuid
import SqlWorkbench.Calendar.Printer
import SqlWorkbench.Json.Reader
import SqlWorkbench.Postgres.Numeric
import SqlWorkbench.Postgres.Parameter

/-!
# Cells

A cell of a result is read from its binary form by the type of its column. What cannot be read is
null, as is a cell without a value.
-/

namespace SqlWorkbench.Postgres.Cell

/-! ### Numbers -/

/-- An integer that takes up all of the bytes. -/
def int? (width : Nat) (bytes : Bytes) : Option Int :=
  if bytes.length = width then some bytes.toInt else none

/-- A number without a sign that takes up all of the bytes. -/
def nat? (width : Nat) (bytes : Bytes) : Option Nat :=
  if bytes.length = width then some bytes.toNat else none

/-- A floating-point number as structured data. -/
def number? (x : Double) : Option Json :=
  if x.isFinite then some (.float x) else none

/-- A boolean. -/
def bool? : Bytes → Option Json
  | [b] => some (.bool (b != 0))
  | _ => none

/-! ### Times -/

/-- A date. -/
def date? (bytes : Bytes) : Option Json := do
  let days ← int? 4 bytes
  let date ← Date.ofDays? (epochDays + days)
  some (.string date.text)

/-- A time of day; microseconds beyond a day start over. -/
def time? (bytes : Bytes) : Option Json := do
  let micros ← int? 8 bytes
  let micros := (micros % 86400000000).toNat
  some (.string (TimeOfDay.text ⟨micros / 1000000, micros % 1000000 * 1000⟩))

/-- A moment. -/
def moment? (bytes : Bytes) : Option Moment := do
  let micros ← int? 8 bytes
  Moment.ofMicros? (epochDays * 86400000000 + micros)

/-! ### Structured data and arrays -/

/-- Structured data as text. -/
def json? (bytes : Bytes) : Option Json := do
  Json.read? (← bytes.text?)

/-- Structured data behind the version of its form. -/
def jsonb? : Bytes → Option Json
  | 1 :: rest => json? rest
  | _ => none

/-- The number of items of an array with dimensions of the given sizes, and what follows them. -/
def itemCount? : Nat → Nat → Bytes → Option (Nat × Bytes)
  | 0, count, bytes => some (count, bytes)
  | dimensions + 1, count, bytes => do
    let (size, bytes) ← Bytes.readInt? 4 bytes
    let (_, bytes) ← Bytes.readInt? 4 bytes
    if size < 0 ∨ 2 ^ 31 ≤ count * size.toNat then none
    else itemCount? dimensions (count * size.toNat) bytes

/-- The items of an array, each with its length in front, which is negative for null. -/
def items? (item : Bytes → Option Json) : Nat → Bytes → Option (List Json)
  | 0, bytes => if bytes.isEmpty then some [] else none
  | count + 1, bytes => do
    let (length, bytes) ← Bytes.readInt? 4 bytes
    if length < 0 then some (.null :: (← items? item count bytes))
    else if bytes.length < length.toNat then none
    else
      let first ← item (bytes.take length.toNat)
      some (first :: (← items? item count (bytes.drop length.toNat)))

/-- An array of at most one dimension. -/
def array? (item : Bytes → Option Json) (bytes : Bytes) : Option Json := do
  let (dimensions, bytes) ← Bytes.readInt? 4 bytes
  let (_, bytes) ← Bytes.readInt? 4 bytes
  let (_, bytes) ← Bytes.readInt? 4 bytes
  if dimensions < 0 ∨ 1 < dimensions then none
  else
    let (count, bytes) ← itemCount? dimensions.toNat 1 bytes
    let items ← items? item (if dimensions = 0 then 0 else count) bytes
    some (.array items)

/-- A text. -/
def text? (bytes : Bytes) : Option Json :=
  bytes.text?.map .string

/-! ### Cells -/

/-- How cells of a type are read, if they can be. -/
def reader? (t : DataType) : Option (Bytes → Option Json) :=
  match t with
  | .value .bool => some bool?
  | .value (.int w) => some fun b => (int? w.bytes b).map .int
  | .value .oid => some fun b => (nat? 4 b).map fun n => .int n
  | .value .float4 => some fun b =>
      (nat? 4 b).bind fun n => number? (Double.ofSingle (UInt32.ofNat n))
  | .value .float8 => some fun b => (nat? 8 b).bind fun n => number? ⟨UInt64.ofNat n⟩
  | .value .date => some date?
  | .value .time => some time?
  | .value .timestamp => some fun b => (moment? b).map fun m => .string m.text
  | .value .timestamptz => some fun b => (moment? b).map fun m => .string (m.text ++ "+00:00")
  | .value .uuid => some fun b => if b.length = 16 then some (.string (Uuid.text b)) else none
  | .value .json => some json?
  | .value .jsonb => some jsonb?
  | .value .bytea => some fun b => some (.string ("\\x" ++ b.hex))
  | .value .textArray | .value .varcharArray => some (array? text?)
  | .value .int4Array => some (array? fun b => (int? 4 b).map .int)
  | .value .int8Array => some (array? fun b => (int? 8 b).map .int)
  | .value .numeric => some fun b => do
      let parts ← Numeric.Parts.ofBytes? b
      let d ← parts.toDecimal?
      some (.string d.text)
  | t => if t.isTextual then some text? else none

/-- A cell of a column of the type. -/
def read (t : DataType) (cell : Option Bytes) : Json :=
  match cell, reader? t with
  | some bytes, some read => (read bytes).getD .null
  | _, _ => .null

end SqlWorkbench.Postgres.Cell
