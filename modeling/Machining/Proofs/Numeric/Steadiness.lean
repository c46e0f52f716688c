import Machining.Proofs.Numeric.ExactNumbers
import Machining.Proofs.Numeric.FloatSteadiness
import Mathlib.Data.EReal.Basic

/-!
# Scalars in which nothing turns around

Which of two heights is the lower one can often be told from how they were computed: what is added
to a number does not lower it if it is positive, and steps down from a number do not end above it.
Rounding does not turn such a comparison around, and neither do infinities, so this holds of the
floating-point numbers as well as in exact arithmetic.

`SteadyScalar` asks for these laws.  With them a number that is not below a finite one, which is not
below a third, is not below the third (`not_lt_trans`), although "no number" is below nothing
and nothing is below it.
-/

namespace Machining.Numeric

/-- A scalar in order, whose sums lie on the right side of their terms. -/
class SteadyScalar (α : Type) [Scalar α] : Prop extends OrderedScalar α where
  /-- Adding something positive does not lead down. -/
  add_not_lt {a b : α} (hb : Scalar.isPositive b = true) : Scalar.lt (a + b) a = false
  /-- A whole number of steps down does not lead up. -/
  not_lt_sub_steps {a step : α} (hfinite : Scalar.isFinite step = true)
    (hstep : Scalar.le step Scalar.zero = false) (n : ℕ) :
    Scalar.lt a (a - Scalar.ofNat n * step) = false
  /-- A finite number is above the less of two numbers or below the other one. -/
  lt_or_lt {a b c : α} (hb : Scalar.isFinite b = true) (hac : Scalar.lt a c = true) :
    Scalar.lt a b = true ∨ Scalar.lt b c = true

namespace Scalar

/-! ## Comparisons across a finite number -/

section Steady

variable {α : Type} [Scalar α] [SteadyScalar α] {a b c : α}

/-- What is not below a finite number is not below what the finite number is not below. -/
theorem not_lt_trans (hb : isFinite b = true) (hab : lt a b = false) (hbc : lt b c = false) :
    lt a c = false := by
  refine Bool.eq_false_iff.mpr fun hac => ?_
  rcases SteadyScalar.lt_or_lt hb hac with h | h
  · rw [hab] at h
    cases h
  · rw [hbc] at h
    cases h

/-- A maximum is below nothing that its second number is not below. -/
theorem max_not_lt_of_right (hb : isFinite b = true) (h : lt b c = false) :
    lt (max a b) c = false :=
  not_lt_trans hb (max_not_lt_right a b) h

end Steady

end Scalar

/-! ## Floating-point numbers -/

private theorem atLeastZero_of_isPositive {x : Float} (h : Scalar.isPositive x = true) :
    AtLeastZero x := by
  obtain ⟨u, v, hu, hv, huv⟩ := (lt_iff_value_lt _ _).mp h
  obtain rfl := Option.some.inj (hasValue_zero.symm.trans hu)
  exact ⟨v, hv, huv.le⟩

instance : SteadyScalar Float where
  add_not_lt hb := lt_add_eq_false (atLeastZero_of_isPositive hb)
  not_lt_sub_steps {x step} hfinite hstep n := by
    obtain ⟨q, hq⟩ := isFinite_iff.mp hfinite
    have hpos := value_lt_of_le_eq_false hq hasValue_zero hstep
    exact lt_sub_eq_false (hq.atLeastZero_ofNat_mul (Extended.ofRat_lt_ofRat.mp hpos) n)
  lt_or_lt {x y z} hy hxz := by
    obtain ⟨q, hq⟩ := isFinite_iff.mp hy
    obtain ⟨u, w, hu, hw, huw⟩ := (lt_iff_value_lt x z).mp hxz
    rcases lt_or_ge u (.ofRat q) with hlt | hge
    · exact .inl ((lt_iff_value_lt x y).mpr ⟨u, _, hu, hq, hlt⟩)
    · exact .inr ((lt_iff_value_lt y z).mpr ⟨_, w, hq, hw, hge.trans_lt huw⟩)

/-! ## Exact arithmetic -/

namespace ExactNumber

/-- The value of an exact number; "no number" has none. -/
noncomputable def value? : ExactNumber → Option EReal
  | nan => none
  | infinite negative => some (if negative then ⊥ else ⊤)
  | real x => some x

/-- Exact numbers compare as their values do. -/
theorem lt_iff_value_lt (a b : ExactNumber) :
    Scalar.lt a b = true ↔ ∃ u v, a.value? = some u ∧ b.value? = some v ∧ u < v := by
  -- whatever is compared with no number is not less; the others are compared by value
  cases a with
  | nan =>
    refine iff_of_false Bool.false_ne_true ?_
    rintro ⟨u, v, hu, -, -⟩
    cases hu
  | infinite negative =>
    cases b with
    | nan =>
      refine iff_of_false Bool.false_ne_true ?_
      rintro ⟨u, v, -, hv, -⟩
      cases hv
    | infinite other =>
      change (negative && !other) = true ↔ _
      cases negative <;> cases other <;> simp [value?]
    | real y =>
      change negative = true ↔ _
      cases negative <;> simp [value?]
  | real x =>
    cases b with
    | nan =>
      refine iff_of_false Bool.false_ne_true ?_
      rintro ⟨u, v, -, hv, -⟩
      cases hv
    | infinite other =>
      change (!other) = true ↔ _
      cases other <;> simp [value?]
    | real y =>
      rw [lt_real, lt_real_iff]
      simp [value?]

/-- The value that is printed is on the same side of an infinity as the number. -/
private theorem lt_of_below {places : ℕ} {a b : ExactNumber}
    (h : (Scalar.fixed places a).Below (Scalar.fixed places b)) : Scalar.lt a b = true := by
  obtain ⟨u, v, hu, hv, huv⟩ := h
  -- an infinity is printed as one, so its value is known from its text
  cases a with
  | nan => cases hu
  | infinite negative =>
    cases hu
    cases negative with
    | false => exact absurd huv not_top_lt
    | true =>
      cases b with
      | nan => cases hv
      | real y => rfl
      | infinite other =>
        cases hv
        cases other with
        | false => rfl
        | true => exact absurd huv not_lt_bot
  | real x =>
    cases b with
    | nan => cases hv
    | real y => exact OrderedScalar.lt_of_below (α := ℝ) ⟨u, v, hu, hv, huv⟩
    | infinite other =>
      cases hv
      cases other with
      | false => rfl
      | true => exact absurd huv not_lt_bot

instance : OrderedScalar ExactNumber where
  lt_irrefl a := by
    refine Bool.eq_false_iff.mpr fun hlt => ?_
    obtain ⟨u, v, hu, hv, huv⟩ := (lt_iff_value_lt a a).mp hlt
    obtain rfl := Option.some.inj (hu.symm.trans hv)
    exact lt_irrefl u huv
  lt_trans {a b c} hab hbc := by
    obtain ⟨u, v, hu, hv, huv⟩ := (lt_iff_value_lt a b).mp hab
    obtain ⟨v', w, hv', hw, hvw⟩ := (lt_iff_value_lt b c).mp hbc
    obtain rfl := Option.some.inj (hv.symm.trans hv')
    exact (lt_iff_value_lt a c).mpr ⟨u, w, hu, hw, huv.trans hvw⟩
  lt_of_below := lt_of_below

theorem exists_real_of_isPositive {b : ExactNumber} (h : Scalar.isPositive b = true) :
    b = infinite false ∨ ∃ y : ℝ, b = real y ∧ 0 < y := by
  cases b with
  | nan => cases h
  | infinite negative =>
    cases negative with
    | true => cases h
    | false => exact .inl rfl
  | real y => exact .inr ⟨y, rfl, (isPositive_real_iff y).mp h⟩

theorem lt_real_eq_false {x y : ℝ} (h : y ≤ x) : Scalar.lt (real x) (real y) = false := by
  rw [lt_real]
  exact Bool.eq_false_iff.mpr fun hlt => ((lt_real_iff x y).mp hlt).not_ge h

theorem pos_of_le_eq_false {y : ℝ} (h : Scalar.le (real y) Scalar.zero = false) : 0 < y := by
  rw [← not_le, ← le_real_iff, ← zero_real]
  exact Bool.eq_false_iff.mp h

instance : SteadyScalar ExactNumber where
  add_not_lt {a b} hb := by
    rcases exists_real_of_isPositive hb with rfl | ⟨y, rfl, hy⟩
    · cases a with
      | nan => rfl
      | infinite negative => cases negative <;> rfl
      | real x => rfl
    · cases a with
      | nan => rfl
      | infinite negative => cases negative <;> rfl
      | real x =>
        rw [real_add]
        exact lt_real_eq_false (by linarith)
  not_lt_sub_steps {a step} hfinite hstep n := by
    obtain ⟨y, rfl⟩ := exists_real_of_isFinite hfinite
    have hy : 0 < y := pos_of_le_eq_false hstep
    cases a with
    | nan => rfl
    | infinite negative => cases negative <;> rfl
    | real x =>
      have hsteps : (Scalar.ofNat n : ExactNumber) * real y = real (n * y) := rfl
      have hnonneg : 0 ≤ n * y := by positivity
      rw [hsteps, real_sub]
      exact lt_real_eq_false (by linarith)
  lt_or_lt {a b c} hb hac := by
    obtain ⟨y, rfl⟩ := exists_real_of_isFinite hb
    obtain ⟨u, w, hu, hw, huw⟩ := (lt_iff_value_lt a c).mp hac
    rcases lt_or_ge u y with hlt | hge
    · exact .inl ((lt_iff_value_lt _ _).mpr ⟨u, y, hu, rfl, hlt⟩)
    · exact .inr ((lt_iff_value_lt _ _).mpr ⟨y, w, rfl, hw, hge.trans_lt huw⟩)

end ExactNumber

end Machining.Numeric
