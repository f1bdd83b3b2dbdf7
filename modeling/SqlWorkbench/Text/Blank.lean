import SqlWorkbench.Text.CharSet

/-!
# Blank characters

White space in the sense of the Unicode property, and the removal of it at the two ends of a text.
-/

namespace SqlWorkbench.Text

/-- White space, line breaks and the blanks beyond ASCII included. -/
def isBlank (c : Char) : Bool :=
  c == ' ' || (9 ≤ c.toNat && c.toNat ≤ 13) || c.toNat == 0x85 || c.toNat == 0xA0 ||
    c.toNat == 0x1680 || (0x2000 ≤ c.toNat && c.toNat ≤ 0x200A) || c.toNat == 0x2028 ||
    c.toNat == 0x2029 || c.toNat == 0x202F || c.toNat == 0x205F || c.toNat == 0x3000

/-- Without the blanks in front. -/
def trimStart (s : List Char) : List Char :=
  s.dropWhile isBlank

/-- Without the blanks behind. -/
def trimEnd (s : List Char) : List Char :=
  (s.reverse.dropWhile isBlank).reverse

/-- Without the blanks at either end. -/
def trim (s : List Char) : List Char :=
  trimEnd (trimStart s)

@[simp] theorem trimStart_nil : trimStart [] = [] := rfl

@[simp] theorem trimEnd_nil : trimEnd [] = [] := rfl

@[simp] theorem trim_nil : trim [] = [] := rfl

/-- The blank-separated pieces of a text, none of them empty. -/
def fields (s : List Char) : List (List Char) :=
  go s []
where
  /-- Collects the current piece backwards. -/
  go : List Char → List Char → List (List Char)
    | [], [] => []
    | [], piece => [piece.reverse]
    | c :: rest, piece =>
      if isBlank c then
        if piece.isEmpty then go rest [] else piece.reverse :: go rest []
      else go rest (c :: piece)

end SqlWorkbench.Text
