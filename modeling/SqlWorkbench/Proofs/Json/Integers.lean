import SqlWorkbench.Datum
import SqlWorkbench.Proofs.Number.ShortestDigits
import SqlWorkbench.Proofs.Query.Tokens

/-!
# Integers of structured data

An integer of 64 signed bits is a datum of its own. One beyond them, up to 64 unsigned bits,
becomes the nearest double, and what is shown of it is a whole number again.

Main statement: what such integers are shown as, written as in every dialect, and given back as.
-/

namespace SqlWorkbench.Datum

/-- The integer of structured data is shown as the text, is written as the text in every dialect,
and is given back as the structured data `back`. -/
structure Becomes (i : Int) (text : String) (back : Json) : Prop where
  display : (ofJson (.int i)).display = text
  literal : ∀ d : Dialect, d.literal (ofJson (.int i)) = text
  toJson : (ofJson (.int i)).toJson = back

variable {i : Int}

lemma becomes_of_lt (hlow : -2 ^ 63 ≤ i) (hhigh : i < 2 ^ 63) :
    Becomes i (toString i) (.int i) := by
  have hdatum : ofJson (.int i) = int i := if_pos ⟨hlow, hhigh⟩
  constructor
  · rw [hdatum, Datum.display]
  · intro d
    rw [hdatum, Dialect.literal]
  · rw [hdatum, Datum.toJson]

lemma becomes_of_le (hlow : 2 ^ 63 ≤ i) (hfinite : (Double.ofInt i).isFinite = true) :
    Becomes i (Double.ofInt i).plainText (.float (Double.ofInt i)) := by
  have hdatum : ofJson (.int i) = float (Double.ofInt i) := if_neg (by omega)
  constructor
  · rw [hdatum, Datum.display]
  · intro d
    rw [hdatum, Dialect.literal, if_pos hfinite]
  · rw [hdatum, Datum.toJson, if_pos hfinite]

/-- Integers of 64 signed bits keep their digits. A greater one becomes the nearest double, is
shown and written with the digits of the shortest whole number that is rounded to this double, and
keeps its own digits exactly if it is that number. -/
theorem becomes_integer (hlow : -2 ^ 63 ≤ i) (hhigh : i < 2 ^ 64) :
    (i < 2 ^ 63 → Becomes i (toString i) (.int i)) ∧
    (2 ^ 63 ≤ i → (Double.ofInt i).IsNearest i ∧
      ∃ n : Nat, (Double.ofInt i).IsShortest n ∧
        Becomes i (toString n) (.float (Double.ofInt i)) ∧
        ((ofJson (.int i)).display = toString i ↔ (Double.ofInt i).IsShortest i.toNat)) := by
  refine ⟨becomes_of_lt hlow, fun hgreat => ?_⟩
  obtain ⟨k, rfl⟩ := Int.eq_ofNat_of_zero_le (a := i) (by omega)
  -- The number uses sixty-four bits, and so the last eleven are rounded away.
  have hfirst : 2 ^ 52 * 2 ^ (9 + 2) ≤ k := by omega
  have hlast : k < 2 ^ 53 * 2 ^ (9 + 2) := by omega
  obtain ⟨-, -, m, e, hx, -⟩ := Double.exists_isWhole (by omega) hfirst hlast
  obtain ⟨n, hshortest, htext⟩ := hx.exists_plainText
  have hbecomes := becomes_of_le hgreat hx.isFinite
  rw [htext] at hbecomes
  refine ⟨Double.isNearest_ofInt (by omega) hfirst hlast, n, hshortest, hbecomes, ?_⟩
  rw [hbecomes.display, Int.toNat_natCast]
  constructor
  · intro hsame
    obtain rfl : n = k := toString_nat_injective hsame
    exact hshortest
  · intro hk
    rw [hshortest.unique hk]
    rfl

/-- The greatest integer of 64 signed bits keeps its digits, the greatest of 64 unsigned bits is
written as another number. -/
theorem becomes_integer_greatest :
    Becomes (2 ^ 63 - 1) "9223372036854775807" (.int (2 ^ 63 - 1)) ∧
      Becomes (2 ^ 64 - 1) "18446744073709552000" (.float (Double.ofInt (2 ^ 64 - 1))) := by
  refine ⟨(becomes_integer (by decide) (by decide)).1 (by decide), ?_⟩
  obtain ⟨-, n, -, hbecomes, -⟩ :=
    (becomes_integer (i := 2 ^ 64 - 1) (by decide) (by decide)).2 (by decide)
  have htext : toString n = "18446744073709552000" := by
    rw [← hbecomes.display]
    decide
  rwa [htext] at hbecomes

/-- The greatest integer of 64 unsigned bits loses its digits. -/
theorem not_becomes_itself_greatest :
    ¬ Becomes (2 ^ 64 - 1) (toString (2 ^ 64 - 1 : Int)) (.int (2 ^ 64 - 1)) := by
  intro h
  exact absurd h.display (by decide)

end SqlWorkbench.Datum
