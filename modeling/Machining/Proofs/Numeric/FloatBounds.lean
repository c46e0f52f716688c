import Machining.Proofs.Numeric.FloatRange
import Mathlib.Algebra.Order.Archimedean.Basic
import Mathlib.Data.Nat.Sqrt

/-!
# Powers of two that bound floating-point numbers

Whether a result overflows can be told without its digits: it is enough to know a power of two that
it stays within.  `Within k x` says that `x` is finite and not above `2 ^ k` in magnitude, and each
operation on floating-point numbers has its rule for such bounds.

* Sums take one more binary place, products take as many as both factors, and roots half as many
  (`Within.add`, `Within.mul`, `Within.sqrt`).
* A hypotenuse takes two places more than its legs (`Within.hypot`).
* A whole number of steps that cover a span is one place longer than the span at most, however small
  the steps are (`Within.ofNat_mul`).
-/

namespace Machining.Numeric

open Float.Model Float.Model.UnpackedFloat

/-- A finite number whose magnitude is at most a power of two. -/
def Within (k : ℕ) (x : Float) : Prop := ∃ q, HasValue x q ∧ |q| ≤ 2 ^ k

/-- Powers of two are numbers. -/
theorem isMagnitude_two_pow {k : ℕ} (hk : k ≤ 1023) :
    IsMagnitude (2 ^ k) (2 ^ 52) ((k : ℤ) - 52) where
  pos := by norm_num
  lt := by norm_num
  le := by
    unfold Binary64.leastExponent
    omega
  normal _ := le_rfl
  high := by
    unfold Binary64.greatestExponent
    omega
  eq := by
    rw [zpow_sub₀ (by norm_num), zpow_natCast]
    push_cast
    field_simp

namespace Within

variable {j k : ℕ} {x y : Float}

theorem isFinite (h : Within k x) : Scalar.isFinite x = true := by
  obtain ⟨q, hq, -⟩ := h
  exact isFinite_iff.mpr ⟨q, hq⟩

theorem zero : Within k Scalar.zero := ⟨0, hasValue_zero, by simp⟩

theorem mono (h : Within j x) (hjk : j ≤ k) : Within k x := by
  obtain ⟨q, hq, hle⟩ := h
  exact ⟨q, hq, hle.trans (pow_le_pow_right₀ one_le_two hjk)⟩

/-! ## Sums, products and halves -/

theorem add (hx : Within k x) (hy : Within k y) (hk : k + 1 ≤ 1023) : Within (k + 1) (x + y) := by
  obtain ⟨p, hp, hple⟩ := hx
  obtain ⟨q, hq, hqle⟩ := hy
  refine hp.add hq (isMagnitude_two_pow hk) ((abs_add_le p q).trans ?_)
  rw [pow_succ]
  linarith

theorem sub (hx : Within k x) (hy : Within k y) (hk : k + 1 ≤ 1023) : Within (k + 1) (x - y) := by
  obtain ⟨p, hp, hple⟩ := hx
  obtain ⟨q, hq, hqle⟩ := hy
  refine hp.sub hq (isMagnitude_two_pow hk) ((abs_sub p q).trans ?_)
  rw [pow_succ]
  linarith

theorem mul (hx : Within j x) (hy : Within k y) (hjk : j + k ≤ 1023) : Within (j + k) (x * y) := by
  obtain ⟨p, hp, hple⟩ := hx
  obtain ⟨q, hq, hqle⟩ := hy
  refine hp.mul hq (isMagnitude_two_pow hjk) ?_
  rw [abs_mul, pow_add]
  exact mul_le_mul hple hqle (abs_nonneg q) (by positivity)

theorem half (hx : Within k x) (hk : k ≤ 1023) : Within k (Scalar.half x) := by
  obtain ⟨p, hp, hple⟩ := hx
  exact hp.half_le (isMagnitude_two_pow hk) hple

theorem neg (hx : Within k x) : Within k (-x) := by
  obtain ⟨p, hp, hple⟩ := hx
  obtain ⟨q, hq, hqle⟩ := hp.neg
  exact ⟨q, hq, hqle.trans hple⟩

/-- A quotient by a number that is not too small. -/
theorem div {q : ℚ} (hx : Within j x) (hy : HasValue y q) (hq : 1 ≤ 2 ^ k * q)
    (hjk : j + k ≤ 1023) : Within (j + k) (x / y) := by
  obtain ⟨p, hp, hple⟩ := hx
  have hpos : 0 < q := pos_of_mul_pos_right (one_pos.trans_le hq) (by positivity)
  refine hp.div hy hpos.ne' (isMagnitude_two_pow hjk) ?_
  rw [abs_div, abs_of_pos hpos, div_le_iff₀ hpos, pow_add, mul_assoc]
  calc |p| ≤ 2 ^ j := hple
    _ ≤ 2 ^ j * (2 ^ k * q) := le_mul_of_one_le_right (by positivity) hq

/-! ## Choices -/

theorem max (hx : Within k x) (hy : Within k y) : Within k (Scalar.max x y) :=
  Scalar.max_rec hx hy

theorem min (hx : Within k x) (hy : Within k y) : Within k (Scalar.min x y) :=
  Scalar.min_rec hx hy

end Within

/-! ## Roots -/

section Roots

variable {k : ℕ} {m : ℕ} {e : ℤ} {u : UnpackedFloat} {p : ℚ}

private theorem covers_root (n : ℕ) {x : ℚ} (hx : 0 ≤ x) (h : (n : ℚ) ≤ x ^ 2) :
    Covers (.ofMantissaAndAccuracy (Nat.sqrt n) (if n - Nat.sqrt n * Nat.sqrt n = 0 then .exact
      else .inexact (if n - Nat.sqrt n * Nat.sqrt n ≤ Nat.sqrt n then .lt else .gt))) x where
  le := by
    rw [mantissa_ofMantissaAndAccuracy]
    have hroot : ((Nat.sqrt n : ℕ) : ℚ) ^ 2 ≤ n := by exact_mod_cast Nat.sqrt_le' n
    exact (pow_le_pow_iff_left₀ (by positivity) hx two_ne_zero).mp (hroot.trans h)
  lt hbits := by
    rw [mantissa_ofMantissaAndAccuracy]
    -- a bit is set only where the root is not exact
    have hrest : n - Nat.sqrt n * Nat.sqrt n ≠ 0 := by
      intro hzero
      rw [if_pos hzero] at hbits
      simp [ExtendedMantissa.ofMantissaAndAccuracy] at hbits
    have hroot : ((Nat.sqrt n : ℕ) : ℚ) ^ 2 < n := by
      have hlt : Nat.sqrt n * Nat.sqrt n < n := by omega
      rw [sq]
      exact_mod_cast hlt
    exact (pow_lt_pow_iff_left₀ (by positivity) hx two_ne_zero).mp (hroot.trans_le h)

private theorem root_exponent_le (hm : 0 < m) (h : (m : ℚ) * 2 ^ e ≤ 2 ^ (2 * k)) :
    (totalExponent m e + 1).ediv 2 ≤ k + 1 := by
  have hlog : (2 : ℚ) ^ (m.log2 : ℤ) ≤ m := by exact_mod_cast Nat.log2_self_le hm.ne'
  have hpower : (2 : ℚ) ^ ((m.log2 : ℤ) + e) ≤ 2 ^ ((2 * k : ℕ) : ℤ) := by
    rw [zpow_add₀ (by norm_num), zpow_natCast 2 (2 * k)]
    exact (mul_le_mul_of_nonneg_right hlog (by positivity)).trans h
  have hle := (zpow_le_zpow_iff_right₀ (by norm_num)).mp hpower
  unfold totalExponent
  change ((m.log2 : ℤ) + 1 + e + 1) / 2 ≤ k + 1
  omega

/-- The root of a number is stored within the power of two whose square bounds the number. -/
private theorem stored_sqrt (hu : Parts u p) (hp : 0 ≤ p) (h : p ≤ 2 ^ (2 * k)) (hk : k ≤ 1023) :
    Stored (2 ^ k) (UnpackedFloat.sqrt Format.binary64 u) := by
  cases hu with
  | zero sign => exact .zero sign
  | @finite sign m e hpos hc hhigh =>
    have hmagnitude : (0 : ℚ) < m * 2 ^ e := by positivity
    cases sign with
    | negative => exact absurd hp (not_le.mpr (neg_lt_zero.mpr hmagnitude))
    | positive =>
      have hb := isMagnitude_two_pow hk
      have htarget := targetExponent_le hb (k := (totalExponent m e + 1).ediv 2)
        ((root_exponent_le hpos h).trans (by omega))
      unfold UnpackedFloat.sqrt sqrtCore
      dsimp only
      generalize Format.binary64.targetExponent ((totalExponent m e + 1).ediv 2) = wanted
        at htarget
      -- the root is taken of a whole number of units whose exponent is even
      obtain ⟨target, heq⟩ : ∃ target, min (e.ediv 2) wanted = target := ⟨_, rfl⟩
      have heven : 2 * target ≤ e := by
        rw [← heq]
        change 2 * min (e / 2) wanted ≤ e
        omega
      rw [heq]
      have hshift := shiftLeft_value m (e - 2 * target).toNat e
      rw [show e - ((e - 2 * target).toNat : ℤ) = 2 * target by omega] at hshift
      have hsquare : ((m <<< (e - 2 * target).toNat : ℕ) : ℚ) ≤ (2 ^ k / 2 ^ target) ^ 2 := by
        rw [div_pow, le_div_iff₀ (by positivity), ← pow_mul, ← zpow_natCast (2 ^ target : ℚ) 2,
          ← zpow_mul, mul_comm target, mul_comm k]
        exact hshift.trans_le h
      refine stored_roundWithAccuracy hb _ (covers_root _ (by positivity) hsquare) ?_ (by omega)
      rw [div_mul_cancel₀ _ (by positivity)]

theorem Within.sqrt {x : Float} (hx : Within (2 * k) x) (hnonneg : AtLeastZero x) (hk : k ≤ 1023) :
    Within k (Scalar.sqrt x) := by
  obtain ⟨q, hq, hle⟩ := hx
  have hq0 := hnonneg.nonneg hq
  rw [abs_of_nonneg hq0] at hle
  exact (stored_sqrt hq.parts hq0 hle hk).exists_hasValue (by positivity)

end Roots

/-! ## Numbers that are built from their bits -/

section Nearest

variable {k : ℕ} {m : ℕ} {e : ℤ}

private theorem rounded_le {unit : ℤ} (hunit : e + m.log2 - 52 ≤ unit) :
    roundHalfEven (m * (powerParts 2 (e - unit)).1) (powerParts 2 (e - unit)).2 ≤ 2 ^ 53 := by
  have hle : m * 2 ^ (e - unit).toNat ≤ 2 ^ 53 * 2 ^ (-(e - unit)).toNat := by
    have hlog : m ≤ 2 ^ (m.log2 + 1) := Nat.lt_log2_self.le
    refine (Nat.mul_le_mul_right _ hlog).trans ?_
    rw [← pow_add, ← pow_add]
    exact Nat.pow_le_pow_right (by norm_num) (by omega)
  have hwhole : roundHalfEven (2 ^ 53) 1 = 2 ^ 53 := by decide
  rw [← hwhole]
  refine roundHalfEven_mono (Nat.pow_pos (by norm_num)) one_pos ?_
  rw [mul_one]
  exact hle

private theorem nearestBits_le (h : (m : ℚ) * 2 ^ e < 2 ^ k) :
    Binary64.nearestBits m e ≤ (k + 1023) * 2 ^ 52 := by
  unfold Binary64.nearestBits
  by_cases hm : m = 0
  · rw [if_pos hm]
    exact Nat.zero_le _
  · rw [if_neg hm]
    have hlog : e + m.log2 < k := by
      have hlow : (2 : ℚ) ^ (m.log2 : ℤ) ≤ m := by exact_mod_cast Nat.log2_self_le hm
      have hpower : (2 : ℚ) ^ ((m.log2 : ℤ) + e) < 2 ^ (k : ℤ) := by
        rw [zpow_add₀ (by norm_num), zpow_natCast 2 k]
        exact (mul_le_mul_of_nonneg_right hlow (by positivity)).trans_lt h
      have := (zpow_lt_zpow_iff_right₀ (by norm_num)).mp hpower
      omega
    dsimp only
    unfold Binary64.leastExponent Binary64.hiddenBit
    -- a carry of the rounding goes over into the exponent, which leaves room for it
    have hrounded := rounded_le (le_max_left (e + m.log2 - 52) (-1074))
    generalize roundHalfEven (m * _) _ = rounded at hrounded
    omega

private theorem toNat_exponentField (b : BitVec 64) :
    (@unpackExponent Format.binary64 b).toNat = b.toNat / 2 ^ 52 % 2 ^ 11 := by
  simp [unpackExponent, Nat.shiftRight_eq_div_pow]

theorem magnitude_le_two_pow {d : ℕ} (hm : m ≤ 2 ^ d) (he : d + e ≤ k) :
    |(m : ℚ) * 2 ^ e| ≤ 2 ^ k := by
  have hcast : (m : ℚ) ≤ 2 ^ (d : ℤ) := by exact_mod_cast hm
  rw [abs_of_nonneg (mul_nonneg (Nat.cast_nonneg m) (by positivity))]
  calc (m : ℚ) * 2 ^ e ≤ 2 ^ (d : ℤ) * 2 ^ e := by gcongr
    _ = 2 ^ (d + e) := (zpow_add₀ (by norm_num) _ _).symm
    _ ≤ 2 ^ (k : ℤ) := zpow_le_zpow_right₀ one_le_two he
    _ = 2 ^ k := zpow_natCast 2 k

private theorem within_ofBits {n : ℕ} (h : n ≤ (k + 1023) * 2 ^ 52) (hk : k ≤ 1023) :
    Within k (Float.ofBits n.toUInt64) := by
  have hbits : n.toUInt64.toNat = n := by
    rw [Nat.toUInt64, UInt64.toNat_ofNat']
    omega
  -- the bits are those of a number, so they can be taken as they are
  have hvalid : Format.binary64.Valid n.toUInt64.toBitVec := by
    refine ⟨fun hones => ?_⟩
    have hfield := toNat_exponentField n.toUInt64.toBitVec
    rw [hones] at hfield
    change 2047 = n.toUInt64.toNat / 2 ^ 52 % 2 ^ 11 at hfield
    omega
  have hvalue : ∃ q, HasValue (.ofModel ⟨n.toUInt64, hvalid⟩) q ∧ |q| ≤ 2 ^ k := by
    have htoBits : (Float.ofModel ⟨n.toUInt64, hvalid⟩).toBits.toNat = n := hbits
    unfold HasValue Binary64.ofFloat
    rw [htoBits]
    dsimp only
    have hsmall : n / 2 ^ 52 % 2 ^ 11 = n / 2 ^ 52 := by omega
    have hnumber : n / 2 ^ 52 ≠ 2047 := by omega
    rw [hsmall, if_neg hnumber]
    have hdigits : n % 2 ^ 52 < 2 ^ 52 := Nat.mod_lt _ (by norm_num)
    by_cases hfield : n / 2 ^ 52 = 0
    · rw [if_pos hfield]
      refine ⟨_, rfl, (abs_signed _ _).trans_le (magnitude_le_two_pow hdigits.le ?_)⟩
      unfold Binary64.leastExponent
      omega
    · rw [if_neg hfield]
      refine ⟨_, rfl, (abs_signed _ _).trans_le ?_⟩
      unfold Binary64.hiddenBit
      -- with the exponent of the bound itself there are no digits behind the first
      rcases Nat.lt_or_ge (n / 2 ^ 52) (k + 1023) with hlt | hge
      · exact magnitude_le_two_pow (d := 53) (by omega) (by omega)
      · exact magnitude_le_two_pow (d := 52) (by omega) (by omega)
  obtain ⟨q, hq, hle⟩ := hvalue
  exact (hq.parts.stored hle).exists_hasValue (by positivity)

theorem within_nearest (h : (m : ℚ) * 2 ^ e < 2 ^ k) (hk : k ≤ 1023) :
    Within k (Binary64.nearest m e) :=
  within_ofBits (nearestBits_le h) hk

end Nearest

/-! ## Hypotenuses -/

section Hypotenuse

variable {k : ℕ} {x y : Float}

private theorem descend_le (n x fuel : ℕ) : Binary64.isqrt.descend n x fuel ≤ x := by
  induction fuel generalizing x with
  | zero => exact le_rfl
  | succ fuel ih =>
    unfold Binary64.isqrt.descend
    dsimp only
    split
    · rename_i hlt
      exact (ih _).trans hlt.le
    · exact le_rfl

private theorem sq_isqrt_le (n : ℕ) : Binary64.isqrt n ^ 2 ≤ 4 * n := by
  rcases Nat.eq_zero_or_pos n with rfl | hn
  · decide
  · unfold Binary64.isqrt
    rw [if_neg hn.ne']
    -- the search goes down from a power of two, which is not far above the root
    calc Binary64.isqrt.descend n (2 ^ (n.log2 / 2 + 1)) (n.log2 + 2) ^ 2
        ≤ (2 ^ (n.log2 / 2 + 1)) ^ 2 := Nat.pow_le_pow_left (descend_le _ _ _) 2
      _ = 4 * 2 ^ (n.log2 / 2 * 2) := by rw [← pow_mul, add_mul, pow_add]; ring
      _ ≤ 4 * 2 ^ n.log2 := by
        gcongr
        · norm_num
        · omega
      _ ≤ 4 * n := Nat.mul_le_mul_left 4 (Nat.log2_self_le hn.ne')

private theorem sq_marked_root_le (n : ℕ) :
    (2 * Binary64.isqrt n + if Binary64.isqrt n * Binary64.isqrt n = n then 0 else 1) ^ 2 ≤
      25 * n := by
  have hroot := sq_isqrt_le n
  rcases Nat.eq_zero_or_pos n with rfl | hn
  · -- beside zero nothing is left over, so there is no mark
    decide
  · have hmark : (if Binary64.isqrt n * Binary64.isqrt n = n then 0 else 1) ≤ 1 := by
      split <;> omega
    generalize Binary64.isqrt n = root at hroot hmark
    generalize (if root * root = n then 0 else 1) = mark at hmark
    have hlinear : 4 * root ≤ root ^ 2 + 4 := by
      zify
      nlinarith [sq_nonneg ((root : ℤ) - 2)]
    calc (2 * root + mark) ^ 2 ≤ (2 * root + 1) ^ 2 := Nat.pow_le_pow_left (by omega) 2
      _ = 4 * root ^ 2 + 4 * root + 1 := by ring
      _ ≤ 25 * n := by omega

private theorem aligned_leg_value (m : ℕ) {e low : ℤ} (h : low ≤ e) :
    ((m * 2 ^ (e - low).toNat : ℕ) : ℚ) * 2 ^ low = m * 2 ^ e := by
  have hshift := shiftLeft_value m (e - low).toNat e
  rwa [Nat.shiftLeft_eq, show e - ((e - low).toNat : ℤ) = low by omega] at hshift

private theorem within_hypotenuse {m₁ m₂ : ℕ} {e₁ e₂ : ℤ} (h₁ : (m₁ : ℚ) * 2 ^ e₁ ≤ 2 ^ k)
    (h₂ : (m₂ : ℚ) * 2 ^ e₂ ≤ 2 ^ k) (hk : k + 2 ≤ 1023) :
    Within (k + 2) (Binary64.hypotenuse m₁ e₁ m₂ e₂) := by
  unfold Binary64.hypotenuse
  dsimp only
  obtain ⟨low, hlow⟩ : ∃ low, min e₁ e₂ = low := ⟨_, rfl⟩
  have ha := aligned_leg_value m₁ (hlow ▸ min_le_left e₁ e₂ : low ≤ e₁)
  have hb := aligned_leg_value m₂ (hlow ▸ min_le_right e₁ e₂ : low ≤ e₂)
  rw [hlow]
  generalize m₁ * 2 ^ (e₁ - low).toNat = a at ha
  generalize m₂ * 2 ^ (e₂ - low).toNat = b at hb
  -- from here on the legs are whole numbers of one unit
  rw [← ha] at h₁
  rw [← hb] at h₂
  generalize 64 - (a * a + b * b).log2 / 2 = extra
  have hroot := sq_marked_root_le ((a * a + b * b) * 4 ^ extra)
  generalize (2 * Binary64.isqrt ((a * a + b * b) * 4 ^ extra) +
    if Binary64.isqrt ((a * a + b * b) * 4 ^ extra) *
      Binary64.isqrt ((a * a + b * b) * 4 ^ extra) = (a * a + b * b) * 4 ^ extra
    then 0 else 1) = root at hroot ⊢
  refine within_nearest (lt_of_pow_lt_pow_left₀ 2 (by positivity) ?_) hk
  -- the square of the rounded root is compared with those of the legs
  have hunit : (2 : ℚ) ^ (low - extra - 1) = 2 ^ low / (2 ^ extra * 2) := by
    rw [sub_sub, zpow_sub₀ (by norm_num), zpow_add₀ (by norm_num), zpow_natCast, zpow_one]
  have hcast : (root : ℚ) ^ 2 ≤ 25 * ((a * a + b * b) * 4 ^ extra) := by exact_mod_cast hroot
  have hlegs : ((a : ℚ) * 2 ^ low) ^ 2 + (b * 2 ^ low) ^ 2 ≤ 2 * (2 ^ k) ^ 2 := by
    have ha := pow_le_pow_left₀ (by positivity) h₁ 2
    have hb := pow_le_pow_left₀ (by positivity) h₂ 2
    linarith
  calc ((root : ℚ) * 2 ^ (low - extra - 1)) ^ 2
      = (root : ℚ) ^ 2 * (2 ^ low / (2 ^ extra * 2)) ^ 2 := by rw [hunit, mul_pow]
    _ ≤ (25 : ℚ) * ((a * a + b * b) * 4 ^ extra) * (2 ^ low / (2 ^ extra * 2)) ^ 2 := by gcongr
    _ = 25 / 4 * (((a : ℚ) * 2 ^ low) ^ 2 + (b * 2 ^ low) ^ 2) := by
      rw [show (4 : ℚ) = 2 ^ 2 by norm_num, ← pow_mul, mul_comm 2 extra, pow_mul]
      field_simp
    _ ≤ 25 / 4 * (2 * (2 ^ k) ^ 2) := by gcongr
    _ < (2 ^ (k + 2)) ^ 2 := by
      rw [pow_add, mul_pow]
      have : (0 : ℚ) < (2 ^ k) ^ 2 := by positivity
      linarith

private theorem exists_eq_finite {q : ℚ} (h : HasValue x q) :
    ∃ negative m e, Binary64.ofFloat x = .finite negative m e ∧ (m : ℚ) * 2 ^ e = |q| := by
  obtain ⟨negative, m, e, hx, rfl⟩ := h.exists_eq_finite
  exact ⟨negative, m, e, hx, by rw [abs_signed, abs_of_nonneg (by positivity)]⟩

theorem Within.hypot (hx : Within k x) (hy : Within k y) (hk : k + 2 ≤ 1023) :
    Within (k + 2) (Scalar.hypot x y) := by
  obtain ⟨p, hp, hple⟩ := hx
  obtain ⟨q, hq, hqle⟩ := hy
  obtain ⟨_, m₁, e₁, hx, hm₁⟩ := exists_eq_finite hp
  obtain ⟨_, m₂, e₂, hy, hm₂⟩ := exists_eq_finite hq
  change Within (k + 2) (Binary64.hypot x y)
  unfold Binary64.hypot
  rw [hx, hy]
  exact within_hypotenuse (hm₁.trans_le hple) (hm₂.trans_le hqle) hk

/-- A hypotenuse is not finite unless both legs are. -/
theorem isFinite_of_isFinite_hypot (h : Scalar.isFinite (Scalar.hypot x y) = true) :
    Scalar.isFinite x = true ∧ Scalar.isFinite y = true := by
  -- an infinite leg makes the hypotenuse infinite, whatever the other one is
  have hnearest : Scalar.isFinite (Binary64.nearest 1 1024) = false := by rfl
  change Scalar.isFinite (Binary64.hypot x y) = true at h
  unfold Binary64.hypot at h
  cases hx : Binary64.ofFloat x with
  | infinite =>
    rw [hx] at h
    exact absurd (hnearest.symm.trans h) Bool.false_ne_true
  | nan =>
    rw [hx] at h
    cases hy : Binary64.ofFloat y with
    | infinite =>
      rw [hy] at h
      exact absurd (hnearest.symm.trans h) Bool.false_ne_true
    | nan | finite =>
      rw [hy] at h
      -- what comes out is the leg that is no number
      exact absurd ((isFinite_of_nan hx).symm.trans h) Bool.false_ne_true
  | finite =>
    rw [hx] at h
    cases hy : Binary64.ofFloat y with
    | infinite =>
      rw [hy] at h
      exact absurd (hnearest.symm.trans h) Bool.false_ne_true
    | nan =>
      rw [hy] at h
      exact absurd ((isFinite_of_nan hy).symm.trans h) Bool.false_ne_true
    | finite => exact ⟨isFinite_of_finite hx, isFinite_of_finite hy⟩

end Hypotenuse

/-! ## Magnitudes -/

section Magnitudes

variable {k : ℕ} {x limit : Float} {p q bound : ℚ} {u : UnpackedFloat}

private theorem Parts.stored_abs (h : Parts u p) (hbound : |p| ≤ bound) : Stored bound u.abs := by
  cases h with
  | zero sign => exact .zero .positive
  | finite sign hpos hc hhigh =>
    rw [abs_signed, abs_of_nonneg (by positivity)] at hbound
    exact .finite .positive hpos hc.lt hc.le hhigh hbound

theorem Within.abs (hx : Within k x) : Within k (Scalar.abs x) := by
  obtain ⟨q, hq, hle⟩ := hx
  exact (hq.parts.stored_abs hle).exists_hasValue (by positivity)

/-- A number whose magnitude is at most a finite one is finite. -/
theorem isFinite_of_abs_le (hlimit : HasValue limit q) (h : Scalar.le (Scalar.abs x) limit = true) :
    Scalar.isFinite x = true := by
  obtain ⟨v, w, hv, hw, hle⟩ := (le_iff_value_le _ _).mp h
  obtain rfl := Option.some.inj (hw.symm.trans hlimit)
  change (Binary64.ofFloat (.ofModel (Float.Model.pack x.toModel.unpack.abs))).value? = some v at hv
  change x.toModel.unpack.isFinite = true
  cases hu : x.toModel.unpack with
  | zero sign | finite sign m e hpos => rfl
  | notANumber =>
    -- a comparison with no number is false
    rw [hu] at hv
    change (Binary64.ofFloat (.ofModel (Float.Model.pack .notANumber))).value? = some v at hv
    rw [ofFloat_pack_notANumber] at hv
    cases hv
  | infinity sign =>
    rw [hu] at hv
    have htop : (Binary64.ofFloat (.ofModel (Float.Model.pack (.infinity .positive)))).value? =
        some ⊤ := congrArg Binary64.value? (ofFloat_pack_infinity .positive)
    obtain rfl := Option.some.inj (htop.symm.trans hv)
    exact absurd hle (Extended.ofRat_lt_top q).not_ge

end Magnitudes

/-! ## Whole numbers of steps -/

section Steps

variable {n : ℕ} {p q bound : ℚ} {M : ℕ} {E : ℤ} {x y : Float}

/-- The first power of ten is one. -/
theorem hasValue_powerOfTen_zero : HasValue (Float.ofBits 0x3FF0000000000000) 1 := by
  have hbinary : Binary64.ofFloat (Float.ofBits 0x3FF0000000000000) =
      .finite false (2 ^ 52) (-52) := by rfl
  refine (congrArg Binary64.value? hbinary).trans ?_
  norm_num [Binary64.value?, signed]

/-- Numbers without a sign are multiplied without one. -/
theorem mul_positive {m m' : ℕ} (e e' : ℤ) (hm : 0 < m) (hm' : 0 < m') :
    UnpackedFloat.mul Format.binary64 (.finite .positive m e hm) (.finite .positive m' e' hm') =
      roundWithAccuracy Format.binary64 .positive (m * m') (e + e') .exact :=
  rfl

/-- A whole number is converted within every magnitude that is not below it. -/
theorem hasValue_ofNat (hb : IsMagnitude bound M E) (h : (n : ℚ) ≤ bound) :
    ∃ q, HasValue (Scalar.ofNat n) q ∧ |q| ≤ bound := by
  change ∃ q, HasValue (Float.ofScientific n false 0) q ∧ |q| ≤ bound
  unfold Float.ofScientific
  by_cases hsmall : n < 2 ^ 53
  · -- a short number is converted by the machine and multiplied by the first power of ten
    rw [dif_pos ⟨hsmall, by decide⟩]
    have hbits : n.toUInt64.toNat = n := by
      rw [Nat.toUInt64, UInt64.toNat_ofNat']
      omega
    have hstored : Stored bound
        (UnpackedFloat.normalize Format.binary64 (n.toUInt64.toNat : ℤ) 0 .positive) := by
      refine stored_normalize hb _ ?_
      rw [hbits, zpow_zero, mul_one, Int.cast_natCast, Nat.abs_cast]
      exact h
    obtain ⟨q, hq, hle⟩ := hstored.exists_hasValue hb.bound_pos.le
    exact HasValue.mul (x := n.toUInt64.toFloat) hq hasValue_powerOfTen_zero hb (by rwa [mul_one])
  · -- a long one is rounded once, with digits to spare
    rw [dif_neg (fun hboth => hsmall hboth.1)]
    change ∃ q, HasValue (.ofModel (Float.Model.pack
      (UnpackedFloat.ofScientific Format.binary64 n 0))) q ∧ |q| ≤ bound
    refine Stored.exists_hasValue ?_ hb.bound_pos.le
    unfold UnpackedFloat.ofScientific
    have hlow : ¬(0 : ℤ) < -(2 ^ 11 + n.log2) := by omega
    rw [dif_neg (by omega), if_neg (by decide), if_neg hlow, if_pos le_rfl]
    have hlarge : (2 : ℚ) ^ (53 : ℤ) ≤ bound :=
      le_trans (by exact_mod_cast not_lt.mp hsmall) h
    have hexponent := hb.lt_of_zpow_le hlarge
    rw [mul_positive]
    refine stored_roundWithAccuracy hb _ (Covers.ofExact _) ?_ ?_
    · change ((n <<< 53 * 10 ^ 0 : ℕ) : ℚ) * 2 ^ (0 - ((53 : ℕ) : ℤ) + 0) ≤ bound
      rw [pow_zero, mul_one, add_zero, shiftLeft_value, zpow_zero, mul_one]
      exact h
    · change (-53 : ℤ) + 0 ≤ E
      omega

theorem HasValue.unique (hp : HasValue x p) (hq : HasValue x q) : p = q :=
  WithTop.coe_injective (WithBot.coe_injective (Option.some.inj (hp.symm.trans hq)))

/-- A whole number below the one that a number is rounded up to is below the number. -/
theorem lt_of_lt_ceil {c i : ℤ} (hx : HasValue x p) (hc : Scalar.ceil x = .ok c) (h : i < c) :
    (i : ℚ) < p := by
  change (Binary64.ofFloat x).ceil = .ok c at hc
  obtain ⟨negative, m, e, hv, rfl⟩ := hx.exists_eq_finite
  rw [hv] at hc
  obtain rfl := Except.ok.inj hc
  change i < -((-(if negative then -((m * (powerParts 2 e).1 : ℕ) : ℤ)
    else ((m * (powerParts 2 e).1 : ℕ) : ℤ))) / ((powerParts 2 e).2 : ℤ)) at h
  -- both sides as one fraction: the ceiling is a quotient rounded down, with both signs turned
  rw [zpow_eq_powerParts, ← mul_div_assoc, signed_div]
  have hdown : 0 < (powerParts 2 e).2 := Nat.pow_pos (by norm_num)
  generalize (powerParts 2 e).1 = up at h ⊢
  generalize (powerParts 2 e).2 = down at h hdown ⊢
  rw [lt_neg, Int.ediv_lt_iff_lt_mul (by exact_mod_cast hdown), neg_mul, neg_lt_neg_iff] at h
  rw [lt_div_iff₀ (by exact_mod_cast hdown)]
  -- the sign of the number stands in front of the same product
  cases negative with
  | true =>
    rw [if_pos rfl] at h
    change (i : ℚ) * down < -((m : ℚ) * up)
    exact_mod_cast h
  | false =>
    rw [if_neg Bool.false_ne_true] at h
    change (i : ℚ) * down < (m : ℚ) * up
    exact_mod_cast h

private theorem quotient_mul_le {j : ℕ} {r : ℚ} (hx : HasValue x p) (hy : HasValue y q)
    (hp : |p| ≤ 2 ^ j) (hq : 0 < q) (hr : HasValue (x / y) r) (hone : 1 < |r|) :
    |r| * q ≤ 2 ^ (j + 1) := by
  -- the divisor lies between two powers of two, and rounding does not carry the quotient over one
  obtain ⟨n, hlow, hhigh⟩ := exists_mem_Ico_zpow hq one_lt_two
  have hquotient : |p / q| ≤ 2 ^ ((j : ℤ) - n) := by
    rw [abs_div, abs_of_pos hq, zpow_sub₀ (by norm_num), zpow_natCast]
    gcongr
  have hbound : |r| ≤ 2 ^ ((j : ℤ) - n) := by
    rcases le_or_gt ((j : ℤ) - n) 1023 with hle | hlt
    · -- the bound is a power of two that is a number, or else the quotient is one at most
      rcases lt_or_ge ((j : ℤ) - n) 0 with hneg | hnonneg
      · obtain ⟨r', hr', hle'⟩ := hx.div hy hq.ne' (isMagnitude_two_pow (k := 0) (by norm_num))
          (hquotient.trans ((zpow_le_one_of_nonpos₀ one_le_two hneg.le).trans_eq (pow_zero 2).symm))
        obtain rfl := hr.unique hr'
        rw [pow_zero] at hle'
        exact absurd hone (not_lt.mpr hle')
      · obtain ⟨d, hd⟩ := Int.eq_ofNat_of_zero_le hnonneg
        rw [hd, zpow_natCast] at hquotient ⊢
        obtain ⟨r', hr', hle'⟩ := hx.div hy hq.ne' (isMagnitude_two_pow (by omega)) hquotient
        obtain rfl := hr.unique hr'
        exact hle'
    · -- a number is below the least power of two that is none
      obtain ⟨M, E, hb⟩ := hr.exists_isMagnitude_abs (by
        rintro rfl
        rw [abs_zero] at hone
        linarith)
      refine hb.bound_lt.le.trans (zpow_le_zpow_right₀ one_le_two ?_)
      have := hb.high
      unfold Binary64.greatestExponent at this
      omega
  calc |r| * q ≤ 2 ^ ((j : ℤ) - n) * 2 ^ (n + 1) := by gcongr
    _ = 2 ^ (j + 1) := by
      rw [← zpow_add₀ (by norm_num), ← zpow_natCast]
      congr 1
      push_cast
      ring

private theorem le_of_one_lt_sub {slack : Float} {r s t : ℚ} (hr : HasValue x r) (hr0 : 0 ≤ r)
    (hslack : HasValue slack s) (hs0 : 0 ≤ s) (hs1 : s ≤ 1) (ht : HasValue (x - slack) t)
    (hone : 1 < t) : 1 < r ∧ t ≤ r := by
  -- rounding the difference does not carry it over a number that was not below
  have hle {bound : ℚ} {M : ℕ} {E : ℤ} (hb : IsMagnitude bound M E) (hrb : r ≤ bound)
      (h1b : 1 ≤ bound) : t ≤ bound := by
    obtain ⟨t', ht', hle⟩ := hr.sub hslack hb (abs_le.mpr ⟨by linarith, by linarith⟩)
    obtain rfl := ht.unique ht'
    exact (le_abs_self t).trans hle
  rcases le_or_gt r 1 with hsmall | hlarge
  · have := hle (isMagnitude_two_pow (k := 0) (by norm_num)) (by rwa [pow_zero]) (by rw [pow_zero])
    rw [pow_zero] at this
    linarith
  · obtain ⟨M, E, hb⟩ := hr.exists_isMagnitude_abs (by linarith)
    rw [abs_of_nonneg hr0] at hb
    exact ⟨hlarge, hle hb le_rfl hlarge.le⟩

/-- **Steps do not reach far over a span.**  A whole number of steps that is less than a count of
the steps of a span is one place longer than the span at most. -/
theorem Within.ofNat_mul {j : ℕ} {c : ℤ} {slack : Float} {s : ℚ} (hx : Within j x)
    (hnonneg : AtLeastZero x) (hy : HasValue y q) (hq : 0 < q) (hslack : HasValue slack s)
    (hs0 : 0 ≤ s) (hs1 : s ≤ 1) (hc : Scalar.ceil (x / y - slack) = .ok c)
    (hn : (n : ℤ) < Max.max 1 c) (hj : j + 1 ≤ 1023) : Within (j + 1) (Scalar.ofNat n * y) := by
  have hbound := isMagnitude_two_pow hj
  rcases Nat.eq_zero_or_pos n with rfl | hpos
  · refine hasValue_zero.mul hy hbound ?_
    rw [zero_mul, abs_zero]
    positivity
  · -- a count that goes on behind one is not above the quotient
    obtain ⟨p, hp, hple⟩ := hx
    have hfinite := exists_ceil_iff.mp ⟨c, hc⟩
    obtain ⟨r, hr⟩ := isFinite_iff.mp (isFinite_of_isFinite_sub hfinite).1
    obtain ⟨t, ht⟩ := isFinite_iff.mp hfinite
    have hr0 := (hnonneg.div hy hq).nonneg hr
    have hlt := lt_of_lt_ceil ht hc (show (n : ℤ) < c by omega)
    have hone : (1 : ℚ) ≤ n := by exact_mod_cast hpos
    rw [Int.cast_natCast] at hlt
    obtain ⟨hr1, htr⟩ := le_of_one_lt_sub hr hr0 hslack hs0 hs1 ht (hone.trans_lt hlt)
    obtain ⟨M, E, hb⟩ := hr.exists_isMagnitude_abs (by linarith)
    rw [abs_of_nonneg hr0] at hb
    obtain ⟨v, hv, hvle⟩ := hasValue_ofNat hb (hlt.le.trans htr)
    refine hv.mul hy hbound ?_
    rw [abs_mul, abs_of_pos hq]
    calc |v| * q ≤ |r| * q := by
          rw [abs_of_nonneg hr0]
          gcongr
      _ ≤ 2 ^ (j + 1) := quotient_mul_le hp hy hple hq hr (by rwa [abs_of_nonneg hr0])

end Steps

end Machining.Numeric
