import SqlWorkbench.Binary.Uuid
import SqlWorkbench.Datum
import SqlWorkbench.Json.Reader
import SqlWorkbench.Postgres.DataType
import SqlWorkbench.Postgres.Numeric
import SqlWorkbench.Session.TransportError
import SqlWorkbench.Text.Quoted

/-!
# Parameters

A datum is bound to a placeholder as a value of the type that the server expects there. It is
converted only where the result is the same value; otherwise it is refused.
-/

namespace SqlWorkbench.Postgres

/-- A value as it is sent. -/
inductive Parameter where
  | null
  | bool (value : Bool)
  | int (width : IntWidth) (value : Int)
  | float4 (value : Double)
  | float8 (value : Double)
  | numeric (value : Decimal)
  | date (value : Date)
  | timestamp (value : Moment)
  | uuid (value : Bytes)
  | json (value : Json)
  | jsonb (value : Json)
  | text (value : String)

/-! ### Conversions -/

/-- A datum as a boolean. -/
def boolOf? : Datum → Option Bool
  | .bool b => some b
  | .int i => some (i != 0)
  | .text s =>
    let word := String.ofList (Text.toAsciiLower (Text.trim s.toList))
    if ["t", "true", "1", "yes"].contains word then some true
    else if ["f", "false", "0", "no"].contains word then some false
    else none
  | _ => none

/-- A datum as an integer of 64 bits. -/
def intOf? : Datum → Option Int
  | .int i => some i
  | .float x => if x.isInteger then some x.toInt64 else none
  | .bool b => some (if b then 1 else 0)
  | .text s => readInt64? (Text.trim s.toList)
  | _ => none

/-- A datum as a floating-point number. -/
def doubleOf? : Datum → Option Double
  | .int i => some (Double.ofInt i)
  | .float x => some x
  | .text s => Double.read? (Text.trim s.toList)
  | _ => none

/-- A datum as a decimal. -/
def decimalOf? : Datum → Option Decimal
  | .int i => Decimal.ofInt? i
  | .float x => Decimal.ofDouble? x
  | .text s => Decimal.read? (Text.trim s.toList)
  | _ => none

/-- A datum as a date. -/
def dateOf? : Datum → Option Date
  | .date d => some d
  | .moment m => some m.date
  | .text s => Date.read? (Text.trim s.toList)
  | _ => none

/-- A datum as a moment; a date stands for its midnight. -/
def momentOf? : Datum → Option Moment
  | .moment m => some m
  | .date d => some ⟨d, .midnight⟩
  | .text s =>
    let s := Text.trim s.toList
    (Moment.readZoned? s).or ((Moment.readPrecise? s).or
      ((Date.read? s).map fun d => ⟨d, .midnight⟩))
  | _ => none

/-- A datum as structured data; a text may spell it. -/
def jsonOf : Datum → Json
  | .text s => (Json.read? s).getD (.string s)
  | d => d.toJson

/-! ### Binding -/

/-- The conversion to a type, if data can be bound to it. -/
def converter? (t : DataType) : Option (Datum → Option Parameter) :=
  match t with
  | .value .bool => some fun d => (boolOf? d).map .bool
  | .value (.int w) => some fun d => ((intOf? d).filter w.holds).map (.int w)
  | .value .float4 => some fun d => (doubleOf? d).map .float4
  | .value .float8 => some fun d => (doubleOf? d).map .float8
  | .value .date => some fun d => (dateOf? d).map .date
  | .value .timestamp => some fun d => (momentOf? d).map .timestamp
  | .value .timestamptz => some fun d => (momentOf? d).map .timestamp
  | .value .uuid => some fun d => (Uuid.read? d.display.toList).map .uuid
  | .value .json => some fun d => some (.json (jsonOf d))
  | .value .jsonb => some fun d => some (.jsonb (jsonOf d))
  | .value .numeric => some fun d => (decimalOf? d).map .numeric
  | t => if t.isTextual then some fun d => some (.text d.display) else none

/-- A datum as a value of a type. -/
def bind (d : Datum) (t : DataType) : Except TransportError Parameter :=
  match converter? t with
  | none =>
    .error { category := .execution,
             message := "cannot bind parameters of type " ++ t.typeName
               ++ "; cast the placeholder, e.g. $1::text" }
  | some convert =>
    if d.isNull then .ok .null
    else
      match convert d with
      | some p => .ok p
      | none =>
        .error { category := .execution,
                 message := "cannot bind " ++ Text.quoted d.display ++ " as " ++ t.typeName }

/-- Data as values of the types at their places; what is left over on either side is passed
over. -/
def bindAll : List DataType → List Datum → Except TransportError (List Parameter)
  | t :: types, d :: data => do
    let p ← bind d t
    .ok (p :: (← bindAll types data))
  | _, _ => .ok []

/-! ### Bytes -/

/-- Days from 1970 to 2000, where the dates of the server begin. -/
def epochDays : Int :=
  10957

/-- Microseconds since 2000, rounded toward that year. -/
def serverMicros (m : Moment) : Int :=
  (m.toNanos - epochDays * 86400 * 1000000000).tdiv 1000

/-- The binary form of a value; null has none. -/
def Parameter.toBytes? : Parameter → Option Bytes
  | null => none
  | bool b => some [if b then 1 else 0]
  | int w i => some (Bytes.ofInt w.bytes i)
  | float4 x => some (Bytes.ofNat 4 x.toSingle.toNat)
  | float8 x => some (Bytes.ofNat 8 x.bits.toNat)
  | numeric d => some (Numeric.ofDecimal d).toBytes
  | date d => some (Bytes.ofInt 4 (d.toDays - epochDays))
  | timestamp m => some (Bytes.ofInt 8 (serverMicros m))
  | uuid bytes => some bytes
  | json j => some (Bytes.ofText j.compact)
  | jsonb j => some (1 :: Bytes.ofText j.compact)
  | text s => some (Bytes.ofText s)

end SqlWorkbench.Postgres
