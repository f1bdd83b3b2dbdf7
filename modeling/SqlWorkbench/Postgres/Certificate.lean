import SqlWorkbench.Binary.Bytes
import SqlWorkbench.Text.Join

/-!
# Certificates

Certificates come as text: between a line that begins a certificate and one that ends it stand its
bytes, six bits to a character. The bytes are nested fields, each with a tag and a length, in the
order that certificates have.
-/

namespace SqlWorkbench.Postgres.Certificate

/-! ### Armoured text -/

/-- The line that ends a certificate. -/
def endLine : List Char :=
  "-----END CERTIFICATE-----".toList

/-- The blocks of a text, each up to the next line that ends a certificate; read with so many steps
at hand. -/
def blocksWithin : Nat → List Char → List (List Char)
  | 0, _ => []
  | fuel + 1, s =>
    match Text.splitAt? endLine s with
    | some (before, after) => (before ++ endLine) :: blocksWithin fuel after
    | none => []

/-- The blocks of a text; what follows the last one is passed over. -/
def blocks (s : List Char) : List (List Char) :=
  blocksWithin s.length s

/-- A line without the blanks and control characters at its end. -/
def stripped (line : List Char) : List Char :=
  (line.reverse.dropWhile (· ≤ ' ')).reverse

/-- The label of a line that begins or ends something, by its first word. -/
def label? (word : String) (line : List Char) : Option (List Char) :=
  (Text.dropPrefix? ("-----" ++ word ++ " ").toList line).bind fun rest =>
    (Text.dropPrefix? "-----".toList rest.reverse).map List.reverse

/-- Six bits by their character. -/
def sixBits? (c : Char) : Option Nat :=
  if 'A' ≤ c ∧ c ≤ 'Z' then some (c.toNat - 65)
  else if 'a' ≤ c ∧ c ≤ 'z' then some (c.toNat - 71)
  else if c.isDigit then some (c.toNat + 4)
  else if c = '+' then some 62
  else if c = '/' then some 63
  else none

/-- The bytes of characters with six bits each, four at a time; the last may be padded. -/
def bytesOf? : List Char → Option Bytes
  | [] => some []
  | [a, b, '=', '='] => do
    let n := (← sixBits? a) * 64 + (← sixBits? b)
    some [UInt8.ofNat (n / 16)]
  | [a, b, c, '='] => do
    let n := ((← sixBits? a) * 64 + (← sixBits? b)) * 64 + (← sixBits? c)
    some (Bytes.ofNat 2 (n / 4))
  | a :: b :: c :: d :: rest => do
    let n := (((← sixBits? a) * 64 + (← sixBits? b)) * 64 + (← sixBits? c)) * 64 + (← sixBits? d)
    some (Bytes.ofNat 3 n ++ (← bytesOf? rest))
  | _ => none

/-- The lines of data between two boundary lines. An empty line may stand before them; each line
but the last then has exactly 64 characters. -/
def dataOf? (lines : List (List Char)) : Option (List Char) :=
  match lines with
  | [] :: rest =>
    if rest.all (fun l => !l.isEmpty && l.length ≤ 64)
      && rest.dropLast.all (fun l => l.length == 64) then some rest.flatten else none
  | _ => if lines.any List.isEmpty then none else some lines.flatten

/-- The bytes of a block: the first one of its parts that is labelled as a certificate. -/
def armoured? : List (List Char) → Option Bytes
  | [] => none
  | line :: rest =>
    match label? "BEGIN" line with
    | none => armoured? rest
    | some label => collect label [] rest
where
  /-- Collects the lines of a part backwards, up to the line that ends it. -/
  collect (label : List Char) (lines : List (List Char)) : List (List Char) → Option Bytes
    | [] => none
    | line :: rest =>
      if Text.dropPrefix? "-----END ".toList line = none then collect label (line :: lines) rest
      else if label? "END" line ≠ some label then none
      else
        match (dataOf? lines.reverse).bind fun data =>
            bytesOf? (data.filter fun c => c != ' ' && c != '\t') with
        | none => none
        | some bytes => if label = "CERTIFICATE".toList then some bytes else armoured? rest

/-! ### Nested fields -/

/-- A field: its tag and its content. -/
structure Field where
  tag : Nat
  content : Bytes

/-- The length of a field and what follows it. -/
def length? : Bytes → Option (Nat × Bytes)
  | [] => none
  | b :: rest =>
    if b < 128 then some (b.toNat, rest)
    else if b = 128 ∨ 132 < b then none
    else Bytes.readNat? (b.toNat - 128) rest

/-- The field at the start of a run of bytes and what follows it. -/
def field? : Bytes → Option (Field × Bytes)
  | [] => none
  | tag :: rest => do
    let (length, rest) ← length? rest
    if length ≤ rest.length then some (⟨tag.toNat, rest.take length⟩, rest.drop length) else none

/-- The fields that a run of bytes is made of, read with so many steps at hand. -/
def fieldsWithin? : Nat → Bytes → Option (List Field)
  | 0, bytes => if bytes.isEmpty then some [] else none
  | fuel + 1, bytes =>
    if bytes.isEmpty then some []
    else do
      let (f, rest) ← field? bytes
      some (f :: (← fieldsWithin? fuel rest))

/-- The fields that the content of a field is made of. -/
def Field.parts? (f : Field) : Option (List Field) :=
  fieldsWithin? f.content.length f.content

/-- The parts of a field with the tag of a sequence. -/
def sequence? (f : Field) : Option (List Field) :=
  if f.tag = 0x30 then f.parts? else none

/-- A sequence that starts with the identifier of an object: an algorithm or an attribute. -/
def isIdentified (f : Field) : Bool :=
  match sequence? f with
  | some (id :: _) => id.tag == 0x06
  | _ => false

/-- A name: a sequence of sets of attributes. -/
def isName (f : Field) : Bool :=
  match sequence? f with
  | some sets => sets.all fun s => s.tag == 0x31 &&
      ((s.parts?.map fun attributes => attributes.all isIdentified).getD false)
  | none => false

/-- Two times, each of either form. -/
def isValidity (f : Field) : Bool :=
  match sequence? f with
  | some [start, finish] => [start, finish].all fun t => t.tag == 0x17 || t.tag == 0x18
  | _ => false

/-- A key: its algorithm and its bits. -/
def isKey (f : Field) : Bool :=
  match sequence? f with
  | some [algorithm, key] => isIdentified algorithm && key.tag == 0x03
  | _ => false

/-- Extensions: a sequence of identified values, behind an outer tag. -/
def isExtensions (f : Field) : Bool :=
  match f.parts? with
  | some [inner] => ((sequence? inner).map fun es => es.all isIdentified).getD false
  | _ => false

/-- The parts that are signed, from the serial number on. -/
def isSigned : List Field → Bool
  | serial :: algorithm :: issuer :: validity :: subject :: key :: more =>
    serial.tag == 0x02 && isIdentified algorithm && isName issuer && isValidity validity
      && isName subject && isKey key
      && more.all fun f => f.tag == 0x81 || f.tag == 0x82 || (f.tag == 0xA3 && isExtensions f)
  | _ => false

/-- The signed parts with or without a version in front. -/
def isBody (f : Field) : Bool :=
  match sequence? f with
  | some (first :: rest) => if first.tag == 0xA0 then isSigned rest else isSigned (first :: rest)
  | _ => false

/-- The bytes begin with a certificate. -/
def isCertificate (bytes : Bytes) : Bool :=
  match field? bytes with
  | some (f, _) =>
    match sequence? f with
    | some [body, algorithm, signature] =>
      isBody body && isIdentified algorithm && signature.tag == 0x03
    | _ => false
  | none => false

/-- The block holds a certificate. -/
def isValidBlock (block : List Char) : Bool :=
  ((armoured? ((Text.lines block).map stripped)).map isCertificate).getD false

/-- All blocks of a text hold certificates. -/
def areValid (s : List Char) : Bool :=
  (blocks s).all isValidBlock

end SqlWorkbench.Postgres.Certificate
