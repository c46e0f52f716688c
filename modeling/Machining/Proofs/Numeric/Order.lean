import Machining.Numeric.Scalar
import Mathlib.Algebra.Order.Field.Power
import Mathlib.Algebra.Order.Field.Rat
import Mathlib.Order.WithBot
import Mathlib.Tactic.FieldSimp
import Mathlib.Tactic.Linarith
import Mathlib.Tactic.Positivity
import Mathlib.Tactic.Ring

/-!
# Numbers in their order

A floating-point number and a printed decimal stand for a value: a rational number or one of the
two infinities.  Only "no number" stands for none.  This module relates the comparisons of a
`Scalar` to the order of what is printed, so that a number which is larger on paper was larger
before.

## What is asked of a scalar

`OrderedScalar` asks that the comparison is a strict order and that printing does not turn it
around. From that alone a running maximum is not below any of its terms
(`foldl_max_not_lt`).  Printing rounds half to even, which is monotone (`roundHalfEven_mono`).
-/

namespace Machining.Numeric

/-! ## Values -/

/-- A rational number or an infinity. -/
abbrev Extended : Type := WithBot (WithTop ℚ)

namespace Extended

/-- A rational number as an extended one. -/
def ofRat (q : ℚ) : Extended := WithBot.some (WithTop.some q)

@[simp] theorem ofRat_lt_ofRat {p q : ℚ} : ofRat p < ofRat q ↔ p < q := by
  unfold ofRat
  rw [WithBot.coe_lt_coe, WithTop.coe_lt_coe]

@[simp] theorem ofRat_le_ofRat {p q : ℚ} : ofRat p ≤ ofRat q ↔ p ≤ q := by
  unfold ofRat
  rw [WithBot.coe_le_coe, WithTop.coe_le_coe]

theorem bot_lt_ofRat (q : ℚ) : ⊥ < ofRat q := WithBot.bot_lt_coe _

theorem ofRat_lt_top (q : ℚ) : ofRat q < ⊤ := WithBot.coe_lt_coe.mpr (WithTop.coe_lt_top q)

end Extended

/-- A magnitude with a sign. -/
def signed {K : Type} [Neg K] (negative : Bool) (magnitude : K) : K :=
  if negative then -magnitude else magnitude

/-- The end of the line on the side of a sign. -/
def endpoint (negative : Bool) : Extended := if negative then ⊥ else ⊤

/-- The value of a binary number; "no number" has none. -/
def Binary64.value? : Binary64 → Option Extended
  | nan => none
  | infinite negative => some (endpoint negative)
  | finite negative mantissa exponent =>
    some (.ofRat (signed negative (mantissa * (2 : ℚ) ^ exponent)))

/-- The value of a decimal; "no number" has none. -/
def Fixed.value? : Fixed → Option Extended
  | nan => none
  | infinite negative => some (endpoint negative)
  | decimal negative units places =>
    some (.ofRat (signed negative (units / (10 : ℚ) ^ places)))

/-- Whether a decimal is less than another one. -/
def Fixed.Below (a b : Fixed) : Prop :=
  ∃ u v, a.value? = some u ∧ b.value? = some v ∧ u < v

/-- A zero without its sign has the same value. -/
@[simp] theorem Fixed.value?_unsigned (x : Fixed) : x.unsigned.value? = x.value? := by
  unfold Fixed.unsigned
  split
  · simp [Fixed.value?, signed]
  · rfl

/-! ## Rounding half to even is monotone -/

/-- The rounded quotient is at most half away from the quotient, and even where it is exactly half
away. -/
theorem roundHalfEven_spec (num : ℕ) {den : ℕ} (hden : 0 < den) :
    2 * roundHalfEven num den * den ≤ 2 * num + den ∧
      2 * num ≤ 2 * roundHalfEven num den * den + den ∧
      (2 * num + den = 2 * roundHalfEven num den * den → roundHalfEven num den % 2 = 0) ∧
      (2 * num = 2 * roundHalfEven num den * den + den → roundHalfEven num den % 2 = 0) := by
  have hdiv := Nat.div_add_mod num den
  have hmod := Nat.mod_lt num hden
  generalize hq : num / den = q at hdiv
  generalize hr : num % den = r at hdiv hmod
  have hround : roundHalfEven num den =
      if 2 * r < den then q else if den < 2 * r then q + 1 else q + q % 2 := by
    simp only [roundHalfEven, hq, hr]
  subst hdiv
  rw [hround]
  split
  · refine ⟨?_, ?_, ?_, ?_⟩ <;> intros <;> linarith
  · split
    · refine ⟨?_, ?_, ?_, ?_⟩ <;> intros <;> linarith
    · -- exactly between two whole numbers: the even one of them
      have hhalf : 2 * r = den := by omega
      rcases Nat.mod_two_eq_zero_or_one q with heven | hodd
      · rw [heven, Nat.add_zero]
        exact ⟨by linarith, by linarith, fun _ => heven, fun _ => heven⟩
      · rw [hodd]
        exact ⟨by linarith, by linarith, fun _ => by omega, fun _ => by omega⟩

/-- A quotient that is not larger is not rounded to a larger number. -/
theorem roundHalfEven_mono {a b c d : ℕ} (hc : 0 < c) (hd : 0 < d) (h : a * d ≤ b * c) :
    roundHalfEven a c ≤ roundHalfEven b d := by
  obtain ⟨hup, _, heven, _⟩ := roundHalfEven_spec a hc
  obtain ⟨_, hdown, _, heven'⟩ := roundHalfEven_spec b hd
  generalize roundHalfEven a c = r at hup heven
  generalize roundHalfEven b d = s at hdown heven'
  by_contra hlt
  have hsr : s + 1 ≤ r := by omega
  have hcd : 0 < c * d := Nat.mul_pos hc hd
  -- both quotients lie exactly in the middle, and both neighbours would be even
  have hscaled : (s + 1) * (c * d) ≤ r * (c * d) := Nat.mul_le_mul_right _ hsr
  have hupd : 2 * r * c * d ≤ (2 * a + c) * d := Nat.mul_le_mul_right _ hup
  have hdownc : 2 * b * c ≤ (2 * s * d + d) * c := Nat.mul_le_mul_right _ hdown
  have hr : r = s + 1 := by
    have hle : r * (c * d) ≤ (s + 1) * (c * d) := by linarith
    have := Nat.le_of_mul_le_mul_right hle hcd
    omega
  subst hr
  have hmiddle : 2 * a + c = 2 * (s + 1) * c := by
    have hle : (2 * a + c) * d ≤ 2 * (s + 1) * c * d := by linarith
    have := Nat.le_of_mul_le_mul_right hle hd
    omega
  have hmiddle' : 2 * b = 2 * s * d + d := by
    have hle : (2 * s * d + d) * c ≤ 2 * b * c := by linarith
    have := Nat.le_of_mul_le_mul_right hle hc
    omega
  have := heven hmiddle
  have := heven' hmiddle'
  omega

/-- A power of two as a quotient of whole numbers. -/
theorem zpow_eq_powerParts (e : ℤ) :
    (2 : ℚ) ^ e = ((powerParts 2 e).1 : ℚ) / ((powerParts 2 e).2 : ℚ) := by
  simp only [powerParts]
  rcases Int.le_total 0 e with hpos | hneg
  · obtain ⟨n, rfl⟩ := Int.eq_ofNat_of_zero_le hpos
    simp
  · obtain ⟨n, hn⟩ := Int.eq_ofNat_of_zero_le (Int.neg_nonneg_of_nonpos hneg)
    obtain rfl : e = -(n : ℤ) := by omega
    simp

/-- The units that a magnitude is rounded to. -/
private def units (places mantissa : ℕ) (exponent : ℤ) : ℕ :=
  roundHalfEven (mantissa * (powerParts 2 exponent).1 * 10 ^ places) (powerParts 2 exponent).2

private theorem units_mono (places : ℕ) {m m' : ℕ} {e e' : ℤ}
    (h : (m : ℚ) * 2 ^ e ≤ m' * 2 ^ e') : units places m e ≤ units places m' e' := by
  have hdown (e : ℤ) : 0 < (powerParts 2 e).2 := Nat.pow_pos (by decide)
  refine roundHalfEven_mono (hdown e) (hdown e') ?_
  rw [zpow_eq_powerParts, zpow_eq_powerParts] at h
  have hq : (0 : ℚ) < (powerParts 2 e).2 := by exact_mod_cast hdown e
  have hq' : (0 : ℚ) < (powerParts 2 e').2 := by exact_mod_cast hdown e'
  rw [← mul_div_assoc, ← mul_div_assoc, div_le_div_iff₀ hq hq'] at h
  -- without the quotients this is an inequality of whole numbers, and the places scale it
  have hnat : m * (powerParts 2 e).1 * (powerParts 2 e').2 ≤
      m' * (powerParts 2 e').1 * (powerParts 2 e).2 := by exact_mod_cast h
  calc m * (powerParts 2 e).1 * 10 ^ places * (powerParts 2 e').2
      = m * (powerParts 2 e).1 * (powerParts 2 e').2 * 10 ^ places := by ring
    _ ≤ m' * (powerParts 2 e').1 * (powerParts 2 e).2 * 10 ^ places :=
        Nat.mul_le_mul_right _ hnat
    _ = m' * (powerParts 2 e').1 * 10 ^ places * (powerParts 2 e).2 := by ring

private theorem units_eq_zero (places : ℕ) {m : ℕ} {e : ℤ} (h : (m : ℚ) * 2 ^ e ≤ 0) :
    units places m e = 0 := by
  have hnone : (m : ℚ) * 2 ^ e ≤ ((0 : ℕ) : ℚ) * 2 ^ (0 : ℤ) := h.trans (by simp)
  have hle := units_mono places hnone
  have hzero : units places 0 0 = 0 := by simp [units, roundHalfEven]
  omega

/-- A rounding that is monotone for magnitudes, and keeps zero, is monotone across the sign. -/
theorem signed_le_signed {K : Type} [Field K] [LinearOrder K] [IsStrictOrderedRing K]
    {n n' : Bool} {a a' : K} {r r' : ℕ} (ha : 0 ≤ a) (ha' : 0 ≤ a') (hle : a ≤ a' → r ≤ r')
    (hge : a' ≤ a → r' ≤ r) (hzero : a ≤ 0 → r = 0) (hzero' : a' ≤ 0 → r' = 0)
    (h : signed n a ≤ signed n' a') : signed n (r : ℚ) ≤ signed n' (r' : ℚ) := by
  cases n with
  | false =>
    cases n' with
    | false =>
      simp only [signed, Bool.false_eq_true, if_false] at h ⊢
      exact_mod_cast hle h
    | true =>
      simp only [signed, Bool.false_eq_true, if_false, if_true] at h ⊢
      -- a positive number at most a negative one: both are zero, and stay so
      rw [hzero (by linarith), hzero' (by linarith)]
      simp
  | true =>
    cases n' with
    | false =>
      simp only [signed, Bool.false_eq_true, if_false, if_true]
      have : (0 : ℚ) ≤ r := by positivity
      have : (0 : ℚ) ≤ r' := by positivity
      linarith
    | true =>
      simp only [signed, if_true, neg_le_neg_iff] at h ⊢
      exact_mod_cast hge h

/-- Rounding to decimal places is monotone, also across the sign. -/
private theorem signed_units_mono (places : ℕ) {n n' : Bool} {m m' : ℕ} {e e' : ℤ}
    (h : signed n (m * (2 : ℚ) ^ e) ≤ signed n' (m' * (2 : ℚ) ^ e')) :
    signed n (units places m e : ℚ) ≤ signed n' (units places m' e' : ℚ) :=
  signed_le_signed (by positivity) (by positivity) (units_mono places) (units_mono places)
    (units_eq_zero places) (units_eq_zero places) h

/-- The value of a printed number: an infinity stays, and everything else is rounded. -/
private theorem value?_ofFloat (places : ℕ) (x : Float) :
    (Fixed.ofFloat places x).value? =
      match Binary64.ofFloat x with
      | .nan => none
      | .infinite negative => some (endpoint negative)
      | .finite negative mantissa exponent =>
        some (.ofRat (signed negative (units places mantissa exponent / 10 ^ places))) := by
  unfold Fixed.ofFloat
  cases Binary64.ofFloat x <;> rfl

theorem signed_div (negative : Bool) (a b : ℚ) :
    signed negative (a / b) = signed negative a / b := by
  cases negative <;> simp [signed, neg_div]

/-- What is less as a decimal was less as a binary number. -/
theorem Fixed.value_lt_of_below {places : ℕ} {x y : Float}
    (h : (Fixed.ofFloat places x).Below (Fixed.ofFloat places y)) :
    ∃ u v, (Binary64.ofFloat x).value? = some u ∧ (Binary64.ofFloat y).value? = some v ∧
      u < v := by
  obtain ⟨u, v, hu, hv, huv⟩ := h
  rw [value?_ofFloat] at hu hv
  -- a nan is below nothing, and printing does not change what is infinite or finite
  cases hx : Binary64.ofFloat x with
  | nan =>
    rw [hx] at hu
    cases hu
  | infinite n =>
    -- infinities are printed as what they are
    rw [hx] at hu
    cases hu
    cases hy : Binary64.ofFloat y with
    | nan =>
      rw [hy] at hv
      cases hv
    | infinite n' =>
      rw [hy] at hv
      cases hv
      exact ⟨_, _, rfl, rfl, huv⟩
    | finite n' m' e' =>
      refine ⟨_, _, rfl, rfl, ?_⟩
      rw [hy] at hv
      cases hv
      cases n with
      | false => exact absurd huv not_top_lt
      | true => exact Extended.bot_lt_ofRat _
  | finite n m e =>
    rw [hx] at hu
    cases hu
    cases hy : Binary64.ofFloat y with
    | nan =>
      rw [hy] at hv
      cases hv
    | infinite n' =>
      refine ⟨_, _, rfl, rfl, ?_⟩
      rw [hy] at hv
      cases hv
      cases n' with
      | false => exact Extended.ofRat_lt_top _
      | true => exact absurd huv not_lt_bot
    | finite n' m' e' =>
      refine ⟨_, _, rfl, rfl, ?_⟩
      rw [hy] at hv
      cases hv
      have huv' := Extended.ofRat_lt_ofRat.mp huv
      refine Extended.ofRat_lt_ofRat.mpr ?_
      -- else the rounded values would be in the other order
      by_contra hle
      have hmono := signed_units_mono places (not_lt.mp hle)
      rw [signed_div, signed_div] at huv'
      have hten : (0 : ℚ) < 10 ^ places := by positivity
      have := (div_lt_div_iff_of_pos_right hten).mp huv'
      linarith

/-! ## Scalars in order -/

/-- A scalar whose comparison is a strict order that printing does not turn around. -/
class OrderedScalar (α : Type) [Scalar α] : Prop where
  /-- Nothing is less than itself. -/
  lt_irrefl (a : α) : Scalar.lt a a = false
  /-- What is less than something less is less. -/
  lt_trans {a b c : α} (hab : Scalar.lt a b = true) (hbc : Scalar.lt b c = true) :
    Scalar.lt a c = true
  /-- What is printed as less is less. -/
  lt_of_below {places : ℕ} {a b : α}
    (h : (Scalar.fixed places a).Below (Scalar.fixed places b)) : Scalar.lt a b = true

namespace Scalar

/-! ## Minimum and maximum -/

section Choices

variable {α : Type} [Scalar α] {a b : α}

/-- What holds of two numbers holds of their maximum. -/
theorem max_rec {P : α → Prop} (ha : P a) (hb : P b) : P (max a b) := by
  unfold max
  split
  · exact hb
  · exact ha

/-- What holds of two numbers holds of their minimum. -/
theorem min_rec {P : α → Prop} (ha : P a) (hb : P b) : P (min a b) := by
  unfold min
  split
  · exact hb
  · exact ha

theorem isFinite_max (ha : isFinite a = true) (hb : isFinite b = true) :
    isFinite (max a b) = true :=
  max_rec (P := fun x => isFinite x = true) ha hb

theorem isFinite_min (ha : isFinite a = true) (hb : isFinite b = true) :
    isFinite (min a b) = true :=
  min_rec (P := fun x => isFinite x = true) ha hb

theorem min_not_lt {c : α} (ha : lt a c = false) (hb : lt b c = false) :
    lt (min a b) c = false :=
  min_rec (P := fun x => lt x c = false) ha hb

end Choices

variable {α : Type} [Scalar α] [OrderedScalar α]

/-- The second of two numbers is not above their maximum. -/
theorem max_not_lt_right (a b : α) : Scalar.lt (Scalar.max a b) b = false := by
  unfold Scalar.max
  split
  · exact OrderedScalar.lt_irrefl b
  · rename_i hab
    exact Bool.eq_false_of_not_eq_true hab

/-- Nor is their minimum above it. -/
theorem not_lt_min_right (a b : α) : Scalar.lt b (Scalar.min a b) = false := by
  unfold Scalar.min
  split
  · exact OrderedScalar.lt_irrefl b
  · rename_i hba
    exact Bool.eq_false_of_not_eq_true hba

/-- What is not above a number is not above its maximum with another one. -/
theorem max_not_lt_left {a c : α} (h : Scalar.lt a c = false) (b : α) :
    Scalar.lt (Scalar.max a b) c = false := by
  unfold Scalar.max
  split
  · rename_i hab
    by_contra hbc
    have hac := OrderedScalar.lt_trans hab (Bool.eq_true_of_not_eq_false hbc)
    rw [h] at hac
    cases hac
  · exact h

private theorem foldl_max_not_lt_of_first {first c : α} (h : Scalar.lt first c = false)
    (rest : List α) : Scalar.lt (rest.foldl Scalar.max first) c = false := by
  induction rest generalizing first with
  | nil => exact h
  | cons next rest ih => exact ih (max_not_lt_left h next)

/-- A running maximum is not below its first number nor below any that was added. -/
theorem foldl_max_not_lt (first : α) (rest : List α) :
    ∀ x ∈ first :: rest, Scalar.lt (rest.foldl Scalar.max first) x = false := by
  -- the maximum of the first two takes the place of both
  induction rest generalizing first with
  | nil =>
    intro x hmem
    rw [List.mem_singleton.mp hmem]
    exact OrderedScalar.lt_irrefl first
  | cons next rest ih =>
    intro x hmem
    rw [List.foldl_cons]
    rcases List.mem_cons.mp hmem with rfl | hmem
    · exact foldl_max_not_lt_of_first (max_not_lt_left (OrderedScalar.lt_irrefl x) next) rest
    · rcases List.mem_cons.mp hmem with rfl | hmem
      · exact foldl_max_not_lt_of_first (max_not_lt_right first x) rest
      · exact ih _ x (List.mem_cons_of_mem _ hmem)

omit [OrderedScalar α] in
/-- A running maximum is one of its numbers. -/
theorem foldl_max_mem (first : α) (rest : List α) :
    rest.foldl Scalar.max first ∈ first :: rest := by
  induction rest generalizing first with
  | nil => exact List.mem_cons_self
  | cons next rest ih =>
    rw [List.foldl_cons]
    have hmax : Scalar.max first next = first ∨ Scalar.max first next = next :=
      max_rec (P := fun x => x = first ∨ x = next) (.inl rfl) (.inr rfl)
    -- the running maximum goes on from one of the first two
    rcases List.mem_cons.mp (ih (Scalar.max first next)) with heq | hmem
    · rw [heq]
      rcases hmax with hfirst | hnext
      · rw [hfirst]
        exact List.mem_cons_self
      · rw [hnext]
        exact List.mem_cons_of_mem _ List.mem_cons_self
    · exact List.mem_cons_of_mem _ (List.mem_cons_of_mem _ hmem)

/-- What is printed of a maximum is no less than what is printed of any of its terms. -/
theorem not_below_of_not_lt {a b : α} (h : Scalar.lt a b = false) (places : Nat) :
    ¬ (Scalar.fixed places a).Below (Scalar.fixed places b) := by
  intro hbelow
  rw [OrderedScalar.lt_of_below hbelow] at h
  cases h

end Scalar

end Machining.Numeric
