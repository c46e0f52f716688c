import Mathlib.Analysis.SpecialFunctions.Sqrt
import Machining.Proofs.Numeric.Reals

/-!
# Exact arithmetic beside infinities

The fields of a job may hold infinities and "no number".  So that exact statements can be made about
such jobs as well, this module puts these values beside the real numbers.  Among themselves the real
numbers keep their arithmetic; the others behave as they do among floating-point numbers: whatever
has no value is "no number", and that compares with nothing.

A number that passes a comparison has a value, and so have the numbers that it was computed from
(`exists_real_of_abs_sub_le`, `exists_real_of_hypot_eq`, `exists_real_of_sub_eq`).
-/

namespace Machining.Numeric

/-- A real number, an infinity or "no number". -/
inductive ExactNumber where
  /-- No number. -/
  | nan
  /-- An infinity with its sign. -/
  | infinite (negative : Bool)
  /-- A real number. -/
  | real (x : ℝ)

namespace ExactNumber

/-! ## Arithmetic -/

/-- The number of the other sign. -/
noncomputable def neg : ExactNumber → ExactNumber
  | nan => nan
  | infinite negative => infinite !negative
  | real x => real (-x)

/-- The sum; infinities of different signs have none. -/
noncomputable def add : ExactNumber → ExactNumber → ExactNumber
  | real x, real y => real (x + y)
  | infinite a, infinite b => if a = b then infinite a else nan
  | infinite a, real _ | real _, infinite a => infinite a
  | nan, _ | _, nan => nan

/-- Whether the number is zero. -/
noncomputable def isZero : ExactNumber → Bool
  | real x => Scalar.eq x 0
  | _ => false

/-- Whether the number is below zero. -/
noncomputable def isNegative : ExactNumber → Bool
  | real x => Scalar.lt x 0
  | infinite negative => negative
  | nan => false

/-- The product; zero and an infinity have none. -/
noncomputable def mul : ExactNumber → ExactNumber → ExactNumber
  | real x, real y => real (x * y)
  | nan, _ | _, nan => nan
  | a, b =>
    if a.isZero || b.isZero then nan else infinite (a.isNegative != b.isNegative)

/-- The quotient; two infinities have none. -/
noncomputable def div : ExactNumber → ExactNumber → ExactNumber
  | real x, real y => real (x / y)
  | real _, infinite _ => real 0
  | infinite a, real y => infinite (a != Scalar.lt y 0)
  | infinite _, infinite _ => nan
  | nan, _ | _, nan => nan

/-- Whether the first number is less than the second. -/
noncomputable def lt : ExactNumber → ExactNumber → Bool
  | real x, real y => Scalar.lt x y
  | infinite a, infinite b => a && !b
  | infinite a, real _ => a
  | real _, infinite b => !b
  | nan, _ | _, nan => false

/-- Whether the first number is at most the second. -/
noncomputable def le : ExactNumber → ExactNumber → Bool
  | real x, real y => Scalar.le x y
  | infinite a, infinite b => a || !b
  | infinite a, real _ => a
  | real _, infinite b => !b
  | nan, _ | _, nan => false

/-- Whether two numbers are equal in value. -/
noncomputable def eq : ExactNumber → ExactNumber → Bool
  | real x, real y => Scalar.eq x y
  | infinite a, infinite b => a == b
  | _, _ => false

/-- Whether the number is a real number. -/
def isFinite : ExactNumber → Bool
  | real _ => true
  | infinite _ | nan => false

/-- The magnitude. -/
noncomputable def abs : ExactNumber → ExactNumber
  | real x => real (|x|)
  | infinite _ => infinite false
  | nan => nan

/-- The square root; what is below zero has none. -/
noncomputable def sqrt : ExactNumber → ExactNumber
  | real x => if Scalar.lt x 0 then nan else real (Scalar.sqrt x)
  | infinite negative => if negative then nan else infinite false
  | nan => nan

/-- The hypotenuse over two legs; it is infinite if a leg is, whatever the other may be. -/
noncomputable def hypot : ExactNumber → ExactNumber → ExactNumber
  | infinite _, _ | _, infinite _ => infinite false
  | real x, real y => real (Scalar.hypot x y)
  | nan, _ | _, nan => nan

/-- The least whole number that is not below the number. -/
noncomputable def ceil : ExactNumber → Except ArithmeticError Int
  | real x => Scalar.ceil x
  | infinite _ => .error .infinityToInteger
  | nan => .error .nanToInteger

/-- The nearest whole number; zero for a value without one. -/
noncomputable def nearest : ExactNumber → Int
  | real x => Scalar.nearest x
  | infinite _ | nan => 0

/-- The nearest decimal with so many places. -/
noncomputable def fixed (places : ℕ) : ExactNumber → Fixed
  | real x => Scalar.fixed places x
  | infinite negative => .infinite negative
  | nan => .nan

noncomputable instance : Scalar ExactNumber where
  add := add
  sub a b := add a (neg b)
  mul := mul
  div := div
  neg := neg
  ofNat n := real (Scalar.ofNat n)
  ofDecimal units places := real (Scalar.ofDecimal units places)
  lt := lt
  le := le
  eq := eq
  isFinite := isFinite
  abs := abs
  sqrt := sqrt
  hypot := hypot
  ceil := ceil
  nearest := nearest
  fixed := fixed

/-! ## Real numbers among the others -/

section Real

variable (x y : ℝ)

@[simp] theorem real_add : real x + real y = real (x + y) := rfl

@[simp] theorem real_sub : real x - real y = real (x - y) := congrArg real (sub_eq_add_neg x y).symm

@[simp] theorem real_mul : real x * real y = real (x * y) := rfl

@[simp] theorem real_div : real x / real y = real (x / y) := rfl

@[simp] theorem real_neg : -real x = real (-x) := rfl

@[simp] theorem lt_real : Scalar.lt (real x) (real y) = Scalar.lt x y := rfl

@[simp] theorem le_real : Scalar.le (real x) (real y) = Scalar.le x y := rfl

@[simp] theorem abs_real : Scalar.abs (real x) = real (Scalar.abs x) := rfl

@[simp] theorem hypot_real : Scalar.hypot (real x) (real y) = real (Scalar.hypot x y) := rfl

@[simp] theorem half_real : Scalar.half (real x) = real (Scalar.half x) := rfl

@[simp] theorem max_real : Scalar.max (real x) (real y) = real (Scalar.max x y) := by
  rw [Scalar.max, Scalar.max, lt_real]
  split <;> rfl

theorem sqrt_real {x : ℝ} (h : 0 ≤ x) : Scalar.sqrt (real x) = real (Scalar.sqrt x) := by
  have hsign : ¬ Scalar.lt x 0 = true := by
    rw [lt_real_iff]
    exact not_lt.mpr h
  exact if_neg hsign

end Real

theorem exists_real_of_isFinite {a : ExactNumber} (h : Scalar.isFinite a = true) :
    ∃ x, a = real x := by
  cases a with
  | real x => exact ⟨x, rfl⟩
  | infinite | nan => cases h

/-- Numbers whose difference is bounded are real. -/
theorem exists_real_of_abs_sub_le {a b : ExactNumber} {bound : ℝ}
    (h : Scalar.le (Scalar.abs (a - b)) (real bound) = true) :
    ∃ x y, a = real x ∧ b = real y ∧ |x - y| ≤ bound := by
  cases a with
  | nan => cases h
  | infinite negative =>
    cases b with
    | nan => cases h
    | infinite other => cases negative <;> cases other <;> cases h
    | real y => cases h
  | real x =>
    cases b with
    | nan => cases h
    | infinite other => cases h
    | real y =>
      rw [real_sub, abs_real, le_real, le_real_iff] at h
      exact ⟨x, y, rfl, rfl, h⟩

/-- The legs of a hypotenuse of some length are real. -/
theorem exists_real_of_hypot_eq {a b : ExactNumber} {length : ℝ}
    (h : Scalar.hypot a b = real length) :
    ∃ x y, a = real x ∧ b = real y ∧ Scalar.hypot x y = length := by
  cases a with
  | nan => cases b <;> cases h
  | infinite negative => cases h
  | real x =>
    cases b with
    | nan => cases h
    | infinite other => cases h
    | real y => exact ⟨x, y, rfl, rfl, real.inj h⟩

/-- What is taken from a real number and leaves one is real. -/
theorem exists_real_of_sub_eq {x : ℝ} {b : ExactNumber} {difference : ℝ}
    (h : real x - b = real difference) : ∃ y, b = real y ∧ x - y = difference := by
  cases b with
  | nan => cases h
  | infinite negative => cases h
  | real y =>
    rw [real_sub] at h
    exact ⟨y, rfl, real.inj h⟩

end ExactNumber

end Machining.Numeric
