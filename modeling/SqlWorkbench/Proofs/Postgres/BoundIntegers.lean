import SqlWorkbench.Postgres.Parameter
import SqlWorkbench.Proofs.Number.Integers

/-!
# Integers as parameters

A datum is bound to an integer type by way of 64 bits. A floating-point number without a fractional
part is held within these, and for the type of 64 bits nothing notices that it was not. Main
statement: this is the only case in which another number is bound than the one that the datum
stands for; a datum that stands for no integer of the type is refused otherwise, and one that does
is bound.
-/

namespace SqlWorkbench

/-- The number that a datum stands for: a boolean for one or zero, a finite double for the rational
it denotes, and a text for the integer that it spells between blanks. -/
def Datum.Denotes : Datum → ℚ → Prop
  | .bool b, q => q = if b then 1 else 0
  | .int i, q => q = i
  | .float x, q => x.isFinite = true ∧ q = x.value
  | .text s, q => ∃ i : Int, SpellsInteger (Text.trim s.toList) i ∧ q = i
  | _, _ => False

namespace Postgres

variable {d : Datum} {w : IntWidth} {i j : Int}

/-- A datum other than null is bound to an integer type as the number that it stands for, and only
if the type has room for it. -/
structure BindsExactly (d : Datum) (w : IntWidth) : Prop where
  accepts : ∀ i : Int, d.Denotes i → w.holds i = true →
    bind d (.value (.int w)) = .ok (.int w i)
  exact : d.isNull = false → ∀ p, bind d (.value (.int w)) = .ok p →
    ∃ i : Int, p = .int w i ∧ d.Denotes i
  refuses : d.isNull = false → (∀ i : Int, d.Denotes i → w.holds i = false) →
    ∃ e, bind d (.value (.int w)) = .error e ∧ e.category = .execution

/-- A floating-point number that denotes an integer of more than 64 bits, where 64 are expected. -/
def Overflows (d : Datum) (w : IntWidth) : Prop :=
  w = .eight ∧ ∃ x, d = .float x ∧ ∃ i : Int, d.Denotes i ∧ w.holds i = false

/-! ### Integers of 64 bits -/

lemma holds_two : IntWidth.two.holds i = true ↔ -2 ^ 15 ≤ i ∧ i < 2 ^ 15 := by
  rw [IntWidth.holds, Bool.and_eq_true, decide_eq_true_eq, decide_eq_true_eq]
  rfl

lemma holds_four : IntWidth.four.holds i = true ↔ -2 ^ 31 ≤ i ∧ i < 2 ^ 31 := by
  rw [IntWidth.holds, Bool.and_eq_true, decide_eq_true_eq, decide_eq_true_eq]
  rfl

lemma holds_eight : IntWidth.eight.holds i = true ↔ -2 ^ 63 ≤ i ∧ i < 2 ^ 63 := by
  rw [IntWidth.holds, Bool.and_eq_true, decide_eq_true_eq, decide_eq_true_eq]
  rfl

/-- No type is wider than 64 bits. -/
lemma holds_eight_of_holds (h : w.holds i = true) : IntWidth.eight.holds i = true := by
  cases w with
  | two =>
    rw [holds_two] at h
    rw [holds_eight]
    omega
  | four =>
    rw [holds_four] at h
    rw [holds_eight]
    omega
  | eight => exact h

/-- The number between the bounds of 64 bits. -/
def held (i : Int) : Int :=
  Double.clamp (-2 ^ 63) (2 ^ 63 - 1) i

lemma held_eq_self (h : IntWidth.eight.holds i = true) : held i = i := by
  rw [holds_eight] at h
  rw [held, Double.clamp]
  omega

lemma holds_eight_held (i : Int) : IntWidth.eight.holds (held i) = true := by
  rw [holds_eight, held, Double.clamp]
  omega

/-- A number beyond 64 bits is held at a bound, which no narrower type has room for. -/
lemma eq_eight_of_holds_held (h : w.holds (held i) = true)
    (hout : IntWidth.eight.holds i ≠ true) : w = .eight := by
  rw [ne_eq, holds_eight] at hout
  cases w with
  | two =>
    rw [holds_two, held, Double.clamp] at h
    omega
  | four =>
    rw [holds_four, held, Double.clamp] at h
    omega
  | eight => rfl

/-! ### Conversion -/

lemma intOf?_float_eq_some_iff {x : Double} : intOf? (.float x) = some j ↔
    ∃ i : Int, (Datum.float x).Denotes i ∧ j = held i := by
  rw [intOf?]
  constructor
  · intro h
    split at h
    · next hinteger =>
      obtain ⟨hfinite, i, hi⟩ := Double.isInteger_iff.mp hinteger
      rw [Double.toInt64_eq_clamp hfinite hi] at h
      exact ⟨i, ⟨hfinite, hi.symm⟩, (Option.some.inj h).symm⟩
    · cases h
  · rintro ⟨i, ⟨hfinite, hi⟩, rfl⟩
    rw [if_pos (Double.isInteger_iff.mpr ⟨hfinite, i, hi.symm⟩),
      Double.toInt64_eq_clamp hfinite hi.symm, held]

lemma intOf?_text_eq_some_iff {s : String} : intOf? (.text s) = some j ↔
    (Datum.text s).Denotes j ∧ IntWidth.eight.holds j = true := by
  rw [intOf?, readInt64?, Option.filter_eq_some_iff, readInt?_eq_some_iff, holds_eight,
    decide_eq_true_eq]
  refine and_congr_left fun _ => ?_
  simp [Datum.Denotes]

/-- What a datum is bound as is the number that it stands for, between the bounds of 64 bits. -/
lemma exists_denotes (h : (intOf? d).filter w.holds = some j) :
    w.holds j = true ∧ (d.Denotes j ∨ Overflows d w) := by
  obtain ⟨hint, hholds⟩ := Option.filter_eq_some_iff.mp h
  refine ⟨hholds, ?_⟩
  cases d with
  | bool b =>
    cases hint
    exact .inl (by cases b <;> rfl)
  | int i =>
    cases hint
    exact .inl rfl
  | float x =>
    obtain ⟨i, hi, rfl⟩ := intOf?_float_eq_some_iff.mp hint
    by_cases hin : IntWidth.eight.holds i = true
    · rw [held_eq_self hin]
      exact .inl hi
    · obtain rfl := eq_eight_of_holds_held hholds hin
      exact .inr ⟨rfl, x, rfl, i, hi, by simpa using hin⟩
  | text s => exact .inl (intOf?_text_eq_some_iff.mp hint).1
  | null | date _ | moment _ | json _ => cases hint

/-- A number that the type has room for is bound as it is. -/
lemma filter_intOf?_of_denotes (hd : d.Denotes i) (hi : w.holds i = true) :
    (intOf? d).filter w.holds = some i := by
  rw [Option.filter_eq_some_iff]
  refine ⟨?_, hi⟩
  cases d with
  | bool b =>
    rw [intOf?, Option.some.injEq]
    cases b <;> exact_mod_cast hd.symm
  | int k =>
    rw [intOf?, Option.some.injEq]
    exact_mod_cast hd.symm
  | float x =>
    exact intOf?_float_eq_some_iff.mpr ⟨i, hd, (held_eq_self (holds_eight_of_holds hi)).symm⟩
  | text s => exact intOf?_text_eq_some_iff.mpr ⟨hd, holds_eight_of_holds hi⟩
  | null | date _ | moment _ | json _ => exact hd.elim

/-! ### Binding -/

lemma bind_eq_ok (hnull : d.isNull = false) (h : (intOf? d).filter w.holds = some i) :
    bind d (.value (.int w)) = .ok (.int w i) := by
  simp [bind, converter?, hnull, h]

lemma bind_eq_error (hnull : d.isNull = false) (h : (intOf? d).filter w.holds = none) :
    ∃ e, bind d (.value (.int w)) = .error e ∧ e.category = .execution := by
  simp [bind, converter?, hnull, h]

lemma isNull_of_denotes {q : ℚ} (h : d.Denotes q) : d.isNull = false := by
  cases d with
  | null => exact h.elim
  | _ => rfl

lemma bindsExactly_of_not_overflows (h : ¬ Overflows d w) : BindsExactly d w := by
  refine ⟨fun i hd hi => ?_, fun hnull p hp => ?_, fun hnull hnone => ?_⟩
  · exact bind_eq_ok (isNull_of_denotes hd) (filter_intOf?_of_denotes hd hi)
  · cases hint : (intOf? d).filter w.holds with
    | none =>
      obtain ⟨e, he, -⟩ := bind_eq_error hnull hint
      rw [he] at hp
      cases hp
    | some i =>
      rw [bind_eq_ok hnull hint] at hp
      cases hp
      exact ⟨i, rfl, (exists_denotes hint).2.resolve_right h⟩
  · refine bind_eq_error hnull (Option.eq_none_iff_forall_ne_some.mpr fun i hint => ?_)
    obtain ⟨hholds, hd⟩ := exists_denotes hint
    rw [hnone i (hd.resolve_right h)] at hholds
    cases hholds

/-- Bound as what it stands for or not at all is any datum but a floating-point number of more than
64 bits where 64 are expected. -/
theorem bindsExactly_iff_not_overflows (d : Datum) (w : IntWidth) :
    BindsExactly d w ↔ ¬ Overflows d w := by
  refine ⟨?_, bindsExactly_of_not_overflows⟩
  rintro hexact ⟨rfl, x, rfl, i, hi, hout⟩
  have hint : (intOf? (.float x)).filter IntWidth.eight.holds = some (held i) :=
    Option.filter_eq_some_iff.mpr ⟨intOf?_float_eq_some_iff.mpr ⟨i, hi, rfl⟩, holds_eight_held i⟩
  obtain ⟨j, hj, hdenotes⟩ := hexact.exact rfl _ (bind_eq_ok rfl hint)
  cases hj
  -- A double denotes one number, which then lies between the bounds.
  have hheld : held i = i := by
    exact_mod_cast hdenotes.2.trans hi.2.symm
  rw [← hheld, holds_eight_held] at hout
  cases hout

/-- The double for the least integer beyond 64 bits. -/
def beyond : Double :=
  ⟨0x43E0000000000000⟩

lemma beyond_denotes : (Datum.float beyond).Denotes (2 ^ 63 : Int) := by
  have hsign : beyond.isNegative = false := by decide
  have hsignificand : beyond.significand = 2 ^ 52 := by decide
  have hexponent : beyond.exponent = 11 := by decide
  refine ⟨by decide, ?_⟩
  rw [Double.value, hsign, hsignificand, hexponent]
  norm_num

/-- The least integer of structured data that 64 bits have no room for is bound as the greatest one
that they have room for. -/
theorem not_bindsExactly_beyond :
    Datum.ofJson (.int (2 ^ 63)) = .float beyond ∧
      (Datum.float beyond).Denotes (2 ^ 63 : Int) ∧
      bind (.float beyond) (.value (.int .eight)) = .ok (.int .eight (2 ^ 63 - 1)) ∧
      ¬ BindsExactly (.float beyond) .eight := by
  have hbind : bind (.float beyond) (.value (.int .eight)) = .ok (.int .eight (2 ^ 63 - 1)) :=
    bind_eq_ok rfl (by decide)
  refine ⟨rfl, beyond_denotes, hbind, fun h => ?_⟩
  obtain ⟨i, hi, hdenotes⟩ := h.exact rfl _ hbind
  cases hi
  have hsame : (2 ^ 63 - 1 : Int) = 2 ^ 63 := by
    exact_mod_cast hdenotes.2.trans beyond_denotes.2.symm
  exact absurd hsame (by decide)

end Postgres

end SqlWorkbench
