import Mathlib.Analysis.SpecialFunctions.Sqrt
import Machining.Proofs.Numeric.Order

/-!
# Exact arithmetic

The real numbers are a `Scalar`: sums, products and roots are exact, every number is finite, and
only what is printed is rounded, half to even.  What is shown of all scalars holds of them, which
is how statements about exact geometry are made.

Whoever reads a printed number finds `printed`, which is within half a unit of the last decimal
place of the number (`abs_printed_sub_le`).
-/

namespace Machining.Numeric

/-! ## Rounding a real number -/

/-- The whole number nearest to a number that is not negative; halfway between two, the even one. -/
noncomputable def nearestEven (x : ℝ) : ℕ :=
  if x - ⌊x⌋₊ < 1 / 2 then ⌊x⌋₊
  else if 1 / 2 < x - ⌊x⌋₊ then ⌊x⌋₊ + 1
  else ⌊x⌋₊ + ⌊x⌋₊ % 2

private theorem nearestEven_spec {x : ℝ} (hx : 0 ≤ x) :
    (nearestEven x : ℝ) ≤ x + 1 / 2 ∧ x ≤ nearestEven x + 1 / 2 ∧
      ((nearestEven x : ℝ) = x + 1 / 2 → nearestEven x % 2 = 0) ∧
      (x = nearestEven x + 1 / 2 → nearestEven x % 2 = 0) := by
  have hfloor := Nat.floor_le hx
  have hlt := Nat.lt_floor_add_one x
  generalize hn : ⌊x⌋₊ = n at hfloor hlt
  have hround : nearestEven x =
      if x - n < 1 / 2 then n else if 1 / 2 < x - n then n + 1 else n + n % 2 := by
    simp only [nearestEven, hn]
  rw [hround]
  split
  · exact ⟨by linarith, by linarith, fun _ => by linarith, fun _ => by linarith⟩
  · split
    · push_cast
      exact ⟨by linarith, by linarith, fun _ => by linarith, fun _ => by linarith⟩
    · -- exactly between two whole numbers: the even one of them
      have hhalf : x = n + 1 / 2 := by linarith
      rcases Nat.mod_two_eq_zero_or_one n with heven | hodd
      · rw [heven, Nat.add_zero]
        exact ⟨by linarith, by linarith, fun _ => heven, fun _ => heven⟩
      · rw [hodd]
        push_cast
        exact ⟨by linarith, by linarith, fun _ => by omega, fun _ => by omega⟩

/-- A number that is not larger is not rounded to a larger one. -/
theorem nearestEven_mono {x y : ℝ} (hx : 0 ≤ x) (h : x ≤ y) : nearestEven x ≤ nearestEven y := by
  obtain ⟨hup, _, heven, _⟩ := nearestEven_spec hx
  obtain ⟨_, hdown, _, heven'⟩ := nearestEven_spec (hx.trans h)
  -- else both lie halfway, and two neighbours would be even
  by_contra hlt
  have hsucc : nearestEven y + 1 ≤ nearestEven x := by omega
  have hcast : (nearestEven y : ℝ) + 1 ≤ nearestEven x := by exact_mod_cast hsucc
  have := heven (by linarith)
  have := heven' (by linarith)
  have hle : (nearestEven x : ℝ) ≤ nearestEven y + 1 := by linarith
  have hle' : nearestEven x ≤ nearestEven y + 1 := by exact_mod_cast hle
  omega

/-- Rounding moves a number by half at most. -/
theorem abs_nearestEven_sub_le {x : ℝ} (hx : 0 ≤ x) : |(nearestEven x : ℝ) - x| ≤ 1 / 2 := by
  obtain ⟨hup, hdown, _, _⟩ := nearestEven_spec hx
  rw [abs_le]
  constructor <;> linarith

theorem nearestEven_zero : nearestEven 0 = 0 := by
  simp [nearestEven]

/-! ## The scalar of the real numbers -/

open Classical in
/-- The real numbers with their own arithmetic; a quotient by zero is zero. -/
noncomputable instance : Scalar ℝ where
  ofNat n := n
  ofDecimal units places := units / 10 ^ places
  lt a b := decide (a < b)
  le a b := decide (a ≤ b)
  eq a b := decide (a = b)
  isFinite _ := true
  abs x := |x|
  sqrt := Real.sqrt
  hypot x y := Real.sqrt (x * x + y * y)
  ceil x := .ok ⌈x⌉
  nearest x := if x < 0 then -nearestEven |x| else nearestEven |x|
  fixed places x := .decimal (decide (x < 0)) (nearestEven (|x| * 10 ^ places)) places

theorem isFinite_real (x : ℝ) : Scalar.isFinite x = true := rfl

theorem lt_real (a b : ℝ) : Scalar.lt a b = decide (a < b) := rfl

theorem le_real (a b : ℝ) : Scalar.le a b = decide (a ≤ b) := rfl

theorem lt_real_iff (a b : ℝ) : Scalar.lt a b = true ↔ a < b := by
  change decide (a < b) = true ↔ a < b
  exact decide_eq_true_iff

theorem le_real_iff (a b : ℝ) : Scalar.le a b = true ↔ a ≤ b := by
  change decide (a ≤ b) = true ↔ a ≤ b
  exact decide_eq_true_iff

theorem eq_real_iff (a b : ℝ) : Scalar.eq a b = true ↔ a = b := by
  change decide (a = b) = true ↔ a = b
  exact decide_eq_true_iff

theorem zero_real : (Scalar.zero : ℝ) = 0 := Nat.cast_zero

theorem ofNat_real (n : ℕ) : (Scalar.ofNat n : ℝ) = n := rfl

theorem half_real (x : ℝ) : Scalar.half x = x / 2 := by
  change x / ((2 : ℕ) : ℝ) = x / 2
  rw [Nat.cast_ofNat]

theorem isPositive_real_iff (x : ℝ) : Scalar.isPositive x = true ↔ 0 < x := by
  rw [Scalar.isPositive, lt_real_iff, zero_real]

/-- The maximum of two real numbers is their maximum as a scalar. -/
theorem max_real (a b : ℝ) : Scalar.max a b = max a b := by
  unfold Scalar.max
  split
  · rename_i hab
    exact (max_eq_right ((lt_real_iff a b).mp hab).le).symm
  · rename_i hab
    exact (max_eq_left (not_lt.mp (mt (lt_real_iff a b).mpr hab))).symm

/-- The minimum of two real numbers is their minimum as a scalar. -/
theorem min_real (a b : ℝ) : Scalar.min a b = min a b := by
  unfold Scalar.min
  split
  · rename_i hba
    exact (min_eq_right ((lt_real_iff b a).mp hba).le).symm
  · rename_i hba
    exact (min_eq_left (not_lt.mp (mt (lt_real_iff b a).mpr hba))).symm

/-- A real number is its magnitude with its sign. -/
theorem signed_abs (x : ℝ) : signed (decide (x < 0)) |x| = x := by
  rcases lt_or_ge x 0 with hneg | hpos
  · simp [signed, hneg, abs_of_neg hneg]
  · simp [signed, not_lt.mpr hpos, abs_of_nonneg hpos]

private theorem printed_mono {x y : ℝ} (places : ℕ) (h : |x| ≤ |y|) :
    nearestEven (|x| * 10 ^ places) ≤ nearestEven (|y| * 10 ^ places) :=
  nearestEven_mono (by positivity) (by gcongr)

private theorem printed_eq_zero {x : ℝ} (places : ℕ) (h : |x| ≤ 0) :
    nearestEven (|x| * 10 ^ places) = 0 := by
  rw [le_antisymm h (abs_nonneg x), zero_mul, nearestEven_zero]

instance : OrderedScalar ℝ where
  lt_irrefl a := by
    change decide (a < a) = false
    exact decide_eq_false (lt_irrefl a)
  lt_trans {a b c} hab hbc := by
    rw [lt_real_iff] at hab hbc ⊢
    exact hab.trans hbc
  lt_of_below {places a b} h := by
    obtain ⟨u, v, hu, hv, huv⟩ := h
    cases hu
    cases hv
    rw [lt_real_iff]
    -- else the rounded values would be in the other order
    by_contra hle
    have huv' := Extended.ofRat_lt_ofRat.mp huv
    have hten : (0 : ℚ) < 10 ^ places := by positivity
    rw [signed_div, signed_div, div_lt_div_iff_of_pos_right hten] at huv'
    have hvalue : signed (decide (b < 0)) |b| ≤ signed (decide (a < 0)) |a| := by
      rw [signed_abs, signed_abs]
      exact not_lt.mp hle
    have hmono := signed_le_signed (abs_nonneg b) (abs_nonneg a) (printed_mono places)
      (printed_mono places) (printed_eq_zero places) (printed_eq_zero places) hvalue
    exact absurd huv' (not_lt.mpr hmono)

/-! ## What is read where a number is printed -/

/-- The number that a decimal stands for; "no number" and the infinities stand for none. -/
noncomputable def Fixed.real? : Fixed → Option ℝ
  | nan | infinite _ => none
  | decimal negative units places => some (signed negative (units / 10 ^ places))

/-- A zero without its sign is the same number. -/
@[simp] theorem Fixed.real?_unsigned (x : Fixed) : x.unsigned.real? = x.real? := by
  unfold Fixed.unsigned
  split
  · simp [Fixed.real?, signed]
  · rfl

/-- The number that is read where a real number is printed with so many places. -/
noncomputable def printed (places : ℕ) (x : ℝ) : ℝ :=
  signed (decide (x < 0)) (nearestEven (|x| * 10 ^ places) / 10 ^ places)

theorem real?_fixed (places : ℕ) (x : ℝ) :
    (Scalar.fixed places x).real? = some (printed places x) := rfl

@[simp] theorem printed_zero (places : ℕ) : printed places 0 = 0 := by
  simp [printed, signed, nearestEven_zero]

private theorem abs_signed_sub_signed (negative : Bool) (a b : ℝ) :
    |signed negative a - signed negative b| = |a - b| := by
  cases negative with
  | false => rfl
  | true =>
    change |-a - -b| = |a - b|
    rw [neg_sub_neg, abs_sub_comm]

/-- Half a unit of the last place is the most that printing moves a number. -/
theorem abs_printed_sub_le (places : ℕ) (x : ℝ) :
    |printed places x - x| ≤ 1 / 10 ^ places / 2 := by
  have hunit : (0 : ℝ) < 10 ^ places := by positivity
  have hround : |(nearestEven (|x| * 10 ^ places) : ℝ) - |x| * 10 ^ places| ≤ 1 / 2 :=
    abs_nearestEven_sub_le (by positivity)
  generalize hn : (nearestEven (|x| * 10 ^ places) : ℝ) = n at hround
  have hscaled : n / 10 ^ places - |x| = (n - |x| * 10 ^ places) / 10 ^ places := by
    field_simp
  -- the sign stays, so only the magnitudes differ
  calc |printed places x - x|
      = |signed (decide (x < 0)) (n / 10 ^ places) - signed (decide (x < 0)) (|x|)| := by
        rw [printed, hn, signed_abs]
    _ = |n / 10 ^ places - (|x|)| := abs_signed_sub_signed _ _ _
    _ = |n - |x| * 10 ^ places| / 10 ^ places := by rw [hscaled, abs_div, abs_of_pos hunit]
    _ ≤ 1 / 2 / 10 ^ places := by gcongr
    _ = 1 / 10 ^ places / 2 := div_right_comm _ _ _

end Machining.Numeric
