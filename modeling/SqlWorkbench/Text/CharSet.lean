/-!
# Sets of characters

A set of characters is written as the list of its ranges of code points, which is how the
standards state their character properties.
-/

namespace SqlWorkbench.Text

/-- The code point lies in one of the ranges, ends included. -/
def inRanges (ranges : List (Nat × Nat)) (c : Char) : Bool :=
  ranges.any fun r => r.1 ≤ c.toNat && c.toNat ≤ r.2

/-- The code point is reached from the start of one of the ranges `(first, last, step)`. -/
def inSteppedRanges (ranges : List (Nat × Nat × Nat)) (c : Char) : Bool :=
  ranges.any fun r => r.1 ≤ c.toNat && c.toNat ≤ r.2.1 && (c.toNat - r.1) % r.2.2 == 0

@[simp] theorem inRanges_nil (c : Char) : inRanges [] c = false := rfl

end SqlWorkbench.Text
