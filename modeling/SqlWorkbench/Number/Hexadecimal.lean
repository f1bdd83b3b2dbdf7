import SqlWorkbench.Number.Rounding

/-!
# Hexadecimal digits

Sixteen digits, of which the last six are letters: small ones when written, small or capital ones
when read.
-/

namespace SqlWorkbench.Hexadecimal

/-- The digit of a value below sixteen. -/
def digit (n : Nat) : Char :=
  Nat.digitChar (n % 16)

/-- The value of a digit. -/
def value? (c : Char) : Option Nat :=
  if c.isDigit then some (c.toNat - 48)
  else if 'a' ≤ c ∧ c ≤ 'f' then some (c.toNat - 87)
  else if 'A' ≤ c ∧ c ≤ 'F' then some (c.toNat - 55)
  else none

/-- The number that digits spell. -/
def natOf? (digits : List Char) : Option Nat :=
  digits.foldlM (fun n c => (value? c).map (16 * n + ·)) 0

/-- The last digits of a number, as many as given. -/
def lastDigits (width n : Nat) : List Char :=
  (List.range width).reverse.map fun place => digit (n / 16 ^ place)

@[simp] theorem length_lastDigits (width n : Nat) : (lastDigits width n).length = width := by
  simp [lastDigits]

end SqlWorkbench.Hexadecimal
