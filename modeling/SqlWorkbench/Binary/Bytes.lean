import SqlWorkbench.Number.Hexadecimal

/-!
# Bytes

Numbers as bytes, the most significant one first, and bytes as hexadecimal digits.
-/

namespace SqlWorkbench

/-- A run of bytes. -/
abbrev Bytes := List UInt8

namespace Bytes

/-! ### Numbers -/

/-- The lowest bytes of a number, as many as given. -/
def ofNat : Nat → Nat → Bytes
  | 0, _ => []
  | width + 1, n => UInt8.ofNat (n / 256 ^ width) :: ofNat width n

/-- The lowest bytes of an integer in two's complement. -/
def ofInt (width : Nat) (i : Int) : Bytes :=
  ofNat width (i % 256 ^ width).toNat

/-- The number that bytes stand for. -/
def toNat (bytes : Bytes) : Nat :=
  bytes.foldl (fun n b => 256 * n + b.toNat) 0

/-- The integer that bytes stand for in two's complement. -/
def toInt (bytes : Bytes) : Int :=
  let n := bytes.toNat
  let size := 256 ^ bytes.length
  if 2 * n < size then n else (n : Int) - size

/-- The number in the first bytes of a run, as many as given, and the bytes behind them. -/
def readNat? (width : Nat) (bytes : Bytes) : Option (Nat × Bytes) :=
  if width ≤ bytes.length then some (toNat (bytes.take width), bytes.drop width) else none

/-- The integer in the first bytes of a run, as many as given, and the bytes behind them. -/
def readInt? (width : Nat) (bytes : Bytes) : Option (Int × Bytes) :=
  if width ≤ bytes.length then some (toInt (bytes.take width), bytes.drop width) else none

/-! ### Text -/

/-- A text as bytes. -/
def ofText (s : String) : Bytes :=
  s.toUTF8.data.toList

/-- The text that bytes stand for, if they stand for one. -/
def text? (bytes : Bytes) : Option String :=
  String.fromUTF8? ⟨bytes.toArray⟩

/-- Bytes as hexadecimal digits, two each. -/
def hexDigits (bytes : Bytes) : List Char :=
  bytes.flatMap fun b => Hexadecimal.lastDigits 2 b.toNat

/-- Bytes as hexadecimal text. -/
def hex (bytes : Bytes) : String :=
  String.ofList bytes.hexDigits

/-- The bytes that hexadecimal digits stand for, two digits each. -/
def ofHex? : List Char → Option Bytes
  | [] => some []
  | [_] => none
  | high :: low :: rest => do
    let h ← Hexadecimal.value? high
    let l ← Hexadecimal.value? low
    some (UInt8.ofNat (16 * h + l) :: (← ofHex? rest))

end Bytes

end SqlWorkbench
