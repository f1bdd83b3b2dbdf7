import SqlWorkbench.Number.Rounding

/-!
# Data types of the server

A type is one of the server's own, or one that was declared in a database: an enum, a domain over
another type, an array, or anything else that is known by its name only.
-/

namespace SqlWorkbench.Postgres

/-- The widths of integers. -/
inductive IntWidth where
  | two | four | eight
deriving DecidableEq

/-- The number of bytes. -/
def IntWidth.bytes : IntWidth → Nat
  | two => 2
  | four => 4
  | eight => 8

/-- The integer fits in the width. -/
def IntWidth.holds (w : IntWidth) (i : Int) : Bool :=
  -(2 : Int) ^ (8 * w.bytes - 1) ≤ i && i < (2 : Int) ^ (8 * w.bytes - 1)

/-- The server's own types with plain text as their values. -/
inductive TextType where
  | text | varchar | bpchar | name | unknown | xml
deriving DecidableEq

/-- The server's own types with values of other forms. -/
inductive ValueType where
  | bool
  | int (width : IntWidth)
  | oid
  | float4 | float8
  | numeric
  | date | time | timestamp | timestamptz
  | uuid
  | json | jsonb
  | bytea
  | textArray | varcharArray | int4Array | int8Array
deriving DecidableEq

/-- A type of a parameter or column. -/
inductive DataType where
  | value (type : ValueType)
  | text (type : TextType)
  | enumeration (name : String)
  | domain (name : String) (base : DataType)
  | array (name : String) (element : DataType)
  /-- A type that is known by its name only. -/
  | other (name : String)

/-- The name of a type with plain text. -/
def TextType.typeName : TextType → String
  | text => "text"
  | varchar => "varchar"
  | bpchar => "bpchar"
  | name => "name"
  | unknown => "unknown"
  | xml => "xml"

/-- The name of a type with values of another form. -/
def ValueType.typeName : ValueType → String
  | bool => "bool"
  | int .two => "int2"
  | int .four => "int4"
  | int .eight => "int8"
  | oid => "oid"
  | float4 => "float4"
  | float8 => "float8"
  | numeric => "numeric"
  | date => "date"
  | time => "time"
  | timestamp => "timestamp"
  | timestamptz => "timestamptz"
  | uuid => "uuid"
  | json => "json"
  | jsonb => "jsonb"
  | bytea => "bytea"
  | textArray => "_text"
  | varcharArray => "_varchar"
  | int4Array => "_int4"
  | int8Array => "_int8"

namespace DataType

/-- All types with plain text. -/
def textTypes : List TextType :=
  [.text, .varchar, .bpchar, .name, .unknown, .xml]

/-- All types with values of other forms. -/
def valueTypes : List ValueType :=
  [.bool, .int .two, .int .four, .int .eight, .oid, .float4, .float8, .numeric, .date, .time,
    .timestamp, .timestamptz, .uuid, .json, .jsonb, .bytea, .textArray, .varcharArray, .int4Array,
    .int8Array]

/-- The name of a type. -/
def typeName : DataType → String
  | value t => t.typeName
  | text t => t.typeName
  | enumeration n | domain n _ | array n _ | other n => n

/-- The server's own type with a name. -/
def ofName (n : String) : DataType :=
  match textTypes.find? fun t => t.typeName == n with
  | some t => text t
  | none =>
    match valueTypes.find? fun t => t.typeName == n with
    | some t => value t
    | none => other n

/-- A name by which a type of an extension is known to have plain text as its values. -/
def caselessText : String :=
  "citext"

/-- The values travel as plain text. -/
def isTextual : DataType → Bool
  | text _ => true
  | enumeration _ => true
  | domain _ base => base.isTextual
  | value _ => false
  | array n _ | other n => n == caselessText

/-- Values of the type can be read from their binary form. -/
def hasReader (t : DataType) : Bool :=
  t.isTextual ||
    match t with
    | value v => valueTypes.contains v
    | _ => false

end DataType

end SqlWorkbench.Postgres
