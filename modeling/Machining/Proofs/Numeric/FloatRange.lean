import Machining.Proofs.Numeric.FloatRounding

/-!
# The range of floating-point numbers

What is known of the results of floating-point operations without looking at their digits.

* A result that is rounded stays within any magnitude that the exact one stays within
  (`HasValue.sub`, `HasValue.mul`, `HasValue.div`); so it is finite where the exact one is no larger
  than some number.
* A difference of finite numbers is a number (`IsNumber.sub`), and so is a quotient by a finite one
  that is not zero (`AtLeastZero.div`).
* A whole number can be made of every number but the infinite ones (`exists_ceil_iff`).
-/

namespace Machining.Numeric

open Float.Model Float.Model.UnpackedFloat

/-! ## Operations -/

/-- A finite number that is taken apart, with its value. -/
inductive Parts : UnpackedFloat → ℚ → Prop where
  /-- A zero. -/
  | zero (sign : Sign) : Parts (.zero sign) 0
  /-- Any other number. -/
  | finite (sign : Sign) {mantissa : ℕ} {exponent : ℤ} (hpos : 0 < mantissa)
      (hcanonical : Canonical mantissa exponent)
      (hhigh : exponent ≤ Binary64.greatestExponent) :
      Parts (.finite sign mantissa exponent hpos)
        (signed (sign == .negative) (mantissa * 2 ^ exponent))

/-- No exponent is above the greatest. -/
private theorem exponent_le_of_ofFloat {x : Float} {negative : Bool} {m : ℕ} {e : ℤ}
    (h : Binary64.ofFloat x = .finite negative m e) : e ≤ Binary64.greatestExponent := by
  unfold Binary64.ofFloat at h
  unfold Binary64.greatestExponent
  dsimp only at h
  split at h
  · split at h <;> cases h
  · split at h
    · cases h
      decide
    · cases h
      omega

/-- A floating-point number that has a value is taken apart. -/
theorem HasValue.parts {x : Float} {q : ℚ} (h : HasValue x q) : Parts x.toModel.unpack q := by
  -- operations unpack the bits in their own way, which `unpacked` ties to the value
  have hunpacked := unpacked x
  unfold HasValue at h
  generalize hbinary : Binary64.ofFloat x = v at h hunpacked
  generalize x.toModel.unpack = u at hunpacked
  cases hunpacked with
  | nan => cases h
  | infinite sign => cases sign <;> cases h
  | zero sign =>
    obtain rfl : 0 = q := by
      have hvalue := WithTop.coe_injective (WithBot.coe_injective (Option.some.inj h))
      cases sign <;> simpa [signed] using hvalue
    exact .zero sign
  | finite sign hpos hcanonical =>
    obtain rfl := WithTop.coe_injective (WithBot.coe_injective (Option.some.inj h))
    exact .finite sign hpos hcanonical (exponent_le_of_ofFloat hbinary)

section Operations

variable {bound p q : ℚ} {M : ℕ} {E : ℤ} {u v : UnpackedFloat}

private theorem decreaseExponent_value (m : ℕ) {e target : ℤ} (h : target ≤ e) :
    ((decreaseExponent m e target).1 : ℚ) * 2 ^ target = m * 2 ^ e := by
  have := shiftLeft_value m (e - target).toNat e
  rwa [show e - ((e - target).toNat : ℤ) = target by omega] at this

private theorem cast_apply (sign : Sign) (m : ℕ) :
    (sign.apply m : ℚ) = signed (sign == .negative) (m : ℚ) := by
  cases sign with
  | positive => exact Int.cast_natCast m
  | negative =>
    change ((-(m : ℤ) : ℤ) : ℚ) = -(m : ℚ)
    rw [Int.cast_neg, Int.cast_natCast]

private theorem signed_mul (negative : Bool) (a b : ℚ) :
    signed negative a * b = signed negative (a * b) := by
  cases negative <;> simp [signed]

private theorem abs_signed_magnitude (negative : Bool) (m : ℕ) (e : ℤ) :
    |signed negative ((m : ℚ) * 2 ^ e)| = m * 2 ^ e := by
  rw [abs_signed, abs_of_nonneg (by positivity)]

/-- A number within a bound can be stored as it is. -/
theorem Parts.stored (h : Parts u p) (hbound : |p| ≤ bound) : Stored bound u := by
  cases h with
  | zero sign => exact .zero sign
  | finite sign hpos hc hhigh =>
    rw [abs_signed_magnitude] at hbound
    exact .finite sign hpos hc.lt hc.le hhigh hbound

private theorem Parts.stored_neg (h : Parts u p) (hbound : |p| ≤ bound) : Stored bound u.neg := by
  cases h with
  | zero sign => exact .zero (-sign)
  | finite sign hpos hc hhigh =>
    rw [abs_signed_magnitude] at hbound
    exact .finite (-sign) hpos hc.lt hc.le hhigh hbound

private theorem isMagnitude_one : IsMagnitude 1 (2 ^ 52) (-52) where
  pos := by norm_num
  lt := by norm_num
  le := by decide
  normal _ := le_rfl
  high := by decide
  eq := by norm_num

private theorem Parts.exists_isMagnitude_abs (h : Parts u p) (hp : p ≠ 0) :
    ∃ M E, IsMagnitude |p| M E := by
  cases h with
  | zero sign => exact absurd rfl hp
  | finite sign hpos hc hhigh => exact ⟨_, _, hc, hhigh, abs_signed_magnitude _ _ _⟩

/-- Two numbers are brought to the smaller exponent before one is taken from the other. -/
theorem aligned_value (s s' : Sign) (m m' : ℕ) (e e' : ℤ) :
    ((s.apply ((decreaseExponent m e (min e e')).1 : ℕ) -
        s'.apply ((decreaseExponent m' e' (min e e')).1 : ℕ) : ℤ) : ℚ) * 2 ^ min e e' =
      signed (s == .negative) ((m : ℚ) * 2 ^ e) -
        signed (s' == .negative) ((m' : ℚ) * 2 ^ e') := by
  have hm := decreaseExponent_value m (min_le_left e e')
  have hm' := decreaseExponent_value m' (min_le_right e e')
  rw [← hm, ← hm', ← signed_mul, ← signed_mul, ← sub_mul, Int.cast_sub, cast_apply, cast_apply]

/-- The opposite of a number is taken apart like the number. -/
theorem Parts.neg (h : Parts u p) : Parts u.neg (-p) := by
  cases h with
  | zero sign =>
    rw [neg_zero]
    exact .zero (-sign)
  | @finite sign m e hpos hc hhigh =>
    have hopposite := Parts.finite (-sign) hpos hc hhigh
    cases sign with
    | positive => exact hopposite
    | negative =>
      change Parts _ (- -((m : ℚ) * 2 ^ e))
      rw [neg_neg]
      exact hopposite

private theorem apply_neg (sign : Sign) (m : ℕ) : (-sign).apply m = -sign.apply m := by
  cases sign with
  | positive => rfl
  | negative => exact (Int.neg_neg _).symm

/-- A sum is what is left when the opposite is taken away. -/
theorem add_eq_sub_neg (hu : Parts u p) (hv : Parts v q) :
    UnpackedFloat.add Format.binary64 u v = UnpackedFloat.sub Format.binary64 u v.neg := by
  cases hu with
  | zero s =>
    cases hv with
    | zero s' => cases s <;> cases s' <;> rfl
    | finite s' => cases s' <;> rfl
  | @finite s m e =>
    cases hv with
    | zero s' => rfl
    | @finite s' m' e' =>
      -- the mantissas are aligned to the lower exponent, where the sum is one of integers
      have hsum : s.apply (decreaseExponent m e (min e e')).1 +
          s'.apply (decreaseExponent m' e' (min e e')).1 =
          s.apply (decreaseExponent m e (min e e')).1 -
            (-s').apply (decreaseExponent m' e' (min e e')).1 := by
        rw [apply_neg, Int.sub_neg]
      exact congrArg
        (fun n => UnpackedFloat.normalize Format.binary64 n (min e e') .positive) hsum

private theorem stored_sub (hb : IsMagnitude bound M E) (hu : Parts u p) (hv : Parts v q)
    (h : |p - q| ≤ bound) : Stored bound (UnpackedFloat.sub Format.binary64 u v) := by
  cases hu with
  | zero s =>
    cases hv with
    | zero s' => cases s <;> cases s' <;> exact .zero _
    | finite s' hpos' hc' hhigh' =>
      rw [zero_sub, abs_neg] at h
      exact (Parts.finite s' hpos' hc' hhigh').stored_neg h
  | @finite s m e hpos hc hhigh =>
    cases hv with
    | zero s' =>
      rw [sub_zero] at h
      exact (Parts.finite s hpos hc hhigh).stored h
    | @finite s' m' e' hpos' hc' hhigh' =>
      -- the difference is a whole number of units of the smaller exponent
      have hunit : (0 : ℚ) < 2 ^ min e e' := by positivity
      rw [← aligned_value, abs_mul, abs_of_pos hunit] at h
      exact stored_normalize hb _ h

private theorem mul_exponent_le (hb : IsMagnitude bound M E) {m m' : ℕ} {e e' : ℤ}
    (hc : Canonical m e) (hc' : Canonical m' e') (h : ((m * m' : ℕ) : ℚ) * 2 ^ (e + e') ≤ bound) :
    e + e' ≤ E := by
  have hlow := hb.le
  by_cases hleast : e = Binary64.leastExponent ∧ e' = Binary64.leastExponent
  · unfold Binary64.leastExponent at hlow hleast
    omega
  · -- one factor is normal, so the product has its digits at least
    have hdigits : 2 ^ 52 ≤ m * m' := by
      by_cases he : e = Binary64.leastExponent
      · have he' : Binary64.leastExponent < e' :=
          lt_of_le_of_ne hc'.le fun heq => hleast ⟨he, heq.symm⟩
        exact (hc'.normal he').trans (Nat.le_mul_of_pos_left m' hc.pos)
      · exact (hc.normal (lt_of_le_of_ne hc.le (Ne.symm he))).trans
          (Nat.le_mul_of_pos_right m hc'.pos)
    have hpower : (2 : ℚ) ^ (52 + (e + e')) ≤ bound := by
      rw [zpow_add₀ (by norm_num)]
      refine (mul_le_mul_of_nonneg_right ?_ (by positivity)).trans h
      exact_mod_cast hdigits
    have := hb.lt_of_zpow_le hpower
    omega

private theorem stored_mul (hb : IsMagnitude bound M E) (hu : Parts u p) (hv : Parts v q)
    (h : |p * q| ≤ bound) : Stored bound (UnpackedFloat.mul Format.binary64 u v) := by
  cases hu with
  | zero s => cases hv <;> exact .zero _
  | @finite s m e hpos hc hhigh =>
    cases hv with
    | zero s' => exact .zero _
    | @finite s' m' e' hpos' hc' hhigh' =>
      -- the product is exact before it is rounded, and within the bound
      have hvalue : ((m * m' : ℕ) : ℚ) * 2 ^ (e + e') ≤ bound := by
        rw [abs_mul, abs_signed_magnitude, abs_signed_magnitude] at h
        rw [zpow_add₀ (by norm_num)]
        push_cast
        linarith
      exact stored_roundWithAccuracy hb _ (Covers.ofExact _) hvalue
        (mul_exponent_le hb hc hc' hvalue)

private theorem covers_fraction (n : ℕ) {d : ℕ} (hd : 0 < d) :
    Covers (.ofMantissaAndAccuracy (n / d) (accuracyOfFraction (n % d) d)) ((n : ℚ) / d) := by
  have hdpos : (0 : ℚ) < d := by exact_mod_cast hd
  have hdiv : (d : ℚ) * (n / d : ℕ) + (n % d : ℕ) = n := by exact_mod_cast Nat.div_add_mod n d
  constructor
  · rw [mantissa_ofMantissaAndAccuracy, le_div_iff₀ hdpos]
    have hrest : (0 : ℚ) ≤ (n % d : ℕ) := by positivity
    linarith
  · intro hbits
    rw [mantissa_ofMantissaAndAccuracy, lt_div_iff₀ hdpos]
    -- a bit is set only where something is left over
    have hrest : n % d ≠ 0 := by
      intro hzero
      rw [hzero] at hbits
      simp [accuracyOfFraction, ExtendedMantissa.ofMantissaAndAccuracy] at hbits
    have hpos : (0 : ℚ) < (n % d : ℕ) := by exact_mod_cast Nat.pos_of_ne_zero hrest
    linarith

private theorem quotient_exponent_le (hb : IsMagnitude bound M E) {m m' : ℕ} {e e' : ℤ}
    (hm : 0 < m) (hm' : 0 < m') (h : (m : ℚ) * 2 ^ e / (m' * 2 ^ e') ≤ bound) :
    totalExponent m e - totalExponent m' e' ≤ 53 + E := by
  have hlog : (2 : ℚ) ^ (m.log2 : ℤ) ≤ m := by exact_mod_cast Nat.log2_self_le hm.ne'
  have hlog' : (m' : ℚ) ≤ 2 ^ ((m'.log2 : ℤ) + 1) := by exact_mod_cast Nat.lt_log2_self.le
  -- the places of the leading digits bound the quotient from below
  have hpower : (2 : ℚ) ^ ((m.log2 : ℤ) + e - (m'.log2 + 1 + e')) ≤ bound := by
    rw [zpow_sub₀ (by norm_num), zpow_add₀ (by norm_num) (m.log2 : ℤ) e,
      zpow_add₀ (by norm_num) ((m'.log2 : ℤ) + 1) e']
    refine le_trans ?_ h
    gcongr
  have := hb.lt_of_zpow_le hpower
  unfold totalExponent
  omega

private theorem stored_div (hb : IsMagnitude bound M E) (hu : Parts u p) (hv : Parts v q)
    (hq : q ≠ 0) (h : |p / q| ≤ bound) :
    Stored bound (UnpackedFloat.div Format.binary64 u v) := by
  cases hv with
  | zero s' => exact absurd rfl hq
  | @finite s' m' e' hpos' hc' hhigh' =>
    cases hu with
    | zero s => exact .zero _
    | @finite s m e hpos hc hhigh =>
      rw [abs_div, abs_signed_magnitude, abs_signed_magnitude] at h
      have htarget : Format.binary64.targetExponent (totalExponent m e - totalExponent m' e') ≤ E :=
        targetExponent_le hb (quotient_exponent_le hb hpos hpos' h)
      unfold UnpackedFloat.div divCore
      dsimp only
      generalize Format.binary64.targetExponent (totalExponent m e - totalExponent m' e') = target
        at htarget
      -- the division is one of whole numbers, and what is left over goes into the bits
      refine stored_roundWithAccuracy hb _ (covers_fraction _ hpos') (le_of_eq_of_le ?_ h)
        (by omega)
      have hshift := shiftLeft_value m (e - e' - min (e - e') target).toNat (e - e')
      rw [show e - e' - ((e - e' - min (e - e') target).toNat : ℤ) = min (e - e') target by omega,
        zpow_sub₀ (by norm_num) e e'] at hshift
      rw [div_mul_eq_mul_div, hshift]
      field_simp

private theorem sub_ne_nan (hu : u ≠ .notANumber) (hv : Parts v q) :
    UnpackedFloat.sub Format.binary64 u v ≠ .notANumber := by
  cases u with
  | notANumber => exact absurd rfl hu
  | infinity s => cases hv <;> exact UnpackedFloat.noConfusion
  | zero s =>
    cases hv with
    | zero s' => cases s <;> cases s' <;> exact UnpackedFloat.noConfusion
    | finite s' => exact UnpackedFloat.noConfusion
  | finite s m e hpos =>
    cases hv with
    | zero s' => exact UnpackedFloat.noConfusion
    | finite s' => exact normalize_ne_nan _ _ _

/-- A number that is not below zero has no sign. -/
theorem Parts.nonNegative (h : Parts u p) (hp : 0 ≤ p) : NonNegative u := by
  cases h with
  | zero s => exact .zero s
  | @finite s m e hpos =>
    cases s with
    | positive => exact .finite e hpos
    | negative =>
      have hmagnitude : (0 : ℚ) < m * 2 ^ e := by positivity
      exact absurd hp (not_le.mpr (neg_lt_zero.mpr hmagnitude))

private theorem nonNegative_sub (hu : Parts u p) (hv : Parts v q) (h : q ≤ p) :
    NonNegative (UnpackedFloat.sub Format.binary64 u v) := by
  cases hu with
  | zero s =>
    cases hv with
    | zero s' => cases s <;> cases s' <;> exact .zero _
    | @finite s' m' e' hpos' =>
      cases s' with
      | negative => exact .finite e' hpos'
      | positive =>
        -- zero less a positive number is no case of `q ≤ p`
        have hmagnitude : (0 : ℚ) < m' * 2 ^ e' := by positivity
        exact absurd h (not_le.mpr hmagnitude)
  | @finite s m e hpos hc hhigh =>
    cases hv with
    | zero s' => exact (Parts.finite s hpos hc hhigh).nonNegative h
    | @finite s' m' e' hpos' hc' hhigh' =>
      -- the aligned difference is an integer, and not negative as the values are in order
      refine nonNegative_normalize ?_ _ _
      have hunit : (0 : ℚ) < 2 ^ min e e' := by positivity
      rw [← sub_nonneg, ← aligned_value] at h
      exact_mod_cast nonneg_of_mul_nonneg_left h hunit

private theorem nonNegative_div (hu : NonNegative u) (hv : Parts v q) (hq : 0 < q) :
    NonNegative (UnpackedFloat.div Format.binary64 u v) := by
  cases hv.nonNegative hq.le with
  | infinity => cases hv
  | zero s' =>
    cases hv
    exact absurd hq (lt_irrefl 0)
  | finite e' hpos' =>
    cases hu with
    | infinity => exact .infinity
    | zero s => exact .zero _
    | finite e hpos => exact nonNegative_roundWithAccuracy _ _ _

end Operations

/-! ## Results in range -/

section Range

variable {x y : Float} {p q bound : ℚ} {M : ℕ} {E : ℤ}

/-- What a sum does not exceed, the rounded one does not exceed. -/
theorem HasValue.add (hx : HasValue x p) (hy : HasValue y q) (hb : IsMagnitude bound M E)
    (h : |p + q| ≤ bound) : ∃ r, HasValue (x + y) r ∧ |r| ≤ bound := by
  rw [← sub_neg_eq_add] at h
  have hstored := stored_sub hb hx.parts hy.parts.neg h
  rw [← add_eq_sub_neg hx.parts hy.parts] at hstored
  exact hstored.exists_hasValue hb.bound_pos.le

/-- What a difference does not exceed, the rounded one does not exceed. -/
theorem HasValue.sub (hx : HasValue x p) (hy : HasValue y q) (hb : IsMagnitude bound M E)
    (h : |p - q| ≤ bound) : ∃ r, HasValue (x - y) r ∧ |r| ≤ bound :=
  (stored_sub hb hx.parts hy.parts h).exists_hasValue hb.bound_pos.le

/-- What a product does not exceed, the rounded one does not exceed. -/
theorem HasValue.mul (hx : HasValue x p) (hy : HasValue y q) (hb : IsMagnitude bound M E)
    (h : |p * q| ≤ bound) : ∃ r, HasValue (x * y) r ∧ |r| ≤ bound :=
  (stored_mul hb hx.parts hy.parts h).exists_hasValue hb.bound_pos.le

/-- What a quotient does not exceed, the rounded one does not exceed. -/
theorem HasValue.div (hx : HasValue x p) (hy : HasValue y q) (hq : q ≠ 0)
    (hb : IsMagnitude bound M E) (h : |p / q| ≤ bound) :
    ∃ r, HasValue (x / y) r ∧ |r| ≤ bound :=
  (stored_div hb hx.parts hy.parts hq h).exists_hasValue hb.bound_pos.le

/-- A finite number has a finite opposite. -/
theorem HasValue.neg (hx : HasValue x p) : ∃ r, HasValue (-x) r ∧ |r| ≤ |p| :=
  (hx.parts.stored_neg le_rfl).exists_hasValue (abs_nonneg p)

/-- The size of a value other than zero is the magnitude of a number. -/
theorem HasValue.exists_isMagnitude_abs (hx : HasValue x p) (hp : p ≠ 0) :
    ∃ M E, IsMagnitude |p| M E :=
  hx.parts.exists_isMagnitude_abs hp

/-- Every value is within the magnitude of some number. -/
theorem HasValue.exists_isMagnitude (hx : HasValue x p) :
    ∃ bound M E, IsMagnitude bound M E ∧ |p| ≤ bound := by
  by_cases hp : p = 0
  · exact ⟨_, _, _, isMagnitude_one, by rw [hp]; norm_num⟩
  · obtain ⟨M, E, hb⟩ := hx.exists_isMagnitude_abs hp
    exact ⟨_, M, E, hb, le_rfl⟩

/-- A number is finite exactly when it stands for a rational number. -/
theorem isFinite_iff : Scalar.isFinite x = true ↔ ∃ q, HasValue x q := by
  have hunpacked := unpacked x
  change x.toModel.unpack.isFinite = true ↔ ∃ q, (Binary64.ofFloat x).value? = some (.ofRat q)
  -- the two readings of the bits agree case by case
  generalize x.toModel.unpack = u at hunpacked
  generalize Binary64.ofFloat x = v at hunpacked
  cases hunpacked with
  | nan =>
    refine iff_of_false Bool.false_ne_true ?_
    rintro ⟨q, hq⟩
    cases hq
  | infinite sign =>
    refine iff_of_false Bool.false_ne_true ?_
    rintro ⟨q, hq⟩
    cases sign <;> cases hq
  | zero sign => exact iff_of_true rfl ⟨_, rfl⟩
  | finite sign hpos hc => exact iff_of_true rfl ⟨_, rfl⟩

/-! What a number is made of says whether it is finite. -/

theorem isFinite_of_finite {negative : Bool} {m : ℕ} {e : ℤ}
    (h : Binary64.ofFloat x = .finite negative m e) : Scalar.isFinite x = true :=
  isFinite_iff.mpr ⟨_, congrArg Binary64.value? h⟩

theorem isFinite_of_nan (h : Binary64.ofFloat x = .nan) : Scalar.isFinite x = false := by
  refine Bool.eq_false_iff.mpr fun hfinite => ?_
  obtain ⟨q, hq⟩ := isFinite_iff.mp hfinite
  rw [HasValue, h] at hq
  cases hq

theorem isFinite_of_infinite {negative : Bool} (h : Binary64.ofFloat x = .infinite negative) :
    Scalar.isFinite x = false := by
  refine Bool.eq_false_iff.mpr fun hfinite => ?_
  obtain ⟨q, hq⟩ := isFinite_iff.mp hfinite
  rw [HasValue, h] at hq
  cases negative <;> cases hq

/-- A floating-point number that is not "no number". -/
def IsNumber (x : Float) : Prop := Binary64.ofFloat x ≠ .nan

theorem HasValue.isNumber (hx : HasValue x p) : IsNumber x := fun hnan => by
  rw [HasValue, hnan] at hx
  cases hx

theorem AtLeastZero.isNumber (hx : AtLeastZero x) : IsNumber x := fun hnan => by
  obtain ⟨v, hv, -⟩ := hx
  rw [hnan] at hv
  cases hv

/-- The value of a finite number that is not below zero. -/
theorem AtLeastZero.nonneg (hx : AtLeastZero x) (hvalue : HasValue x p) : 0 ≤ p := by
  obtain ⟨v, hv, hle⟩ := hx
  obtain rfl := Option.some.inj (hv.symm.trans hvalue)
  exact Extended.ofRat_le_ofRat.mp hle

private theorem IsNumber.unpack_ne_nan (hx : IsNumber x) : x.toModel.unpack ≠ .notANumber := by
  intro hnan
  have hunpacked := unpacked x
  rw [hnan] at hunpacked
  unfold IsNumber at hx
  cases hv : Binary64.ofFloat x with
  | nan => exact hx hv
  | infinite => rw [hv] at hunpacked; cases hunpacked
  | finite => rw [hv] at hunpacked; cases hunpacked

/-- A number less a finite one is a number. -/
theorem IsNumber.sub (hx : IsNumber x) (hy : HasValue y q) : IsNumber (x - y) :=
  ofFloat_pack_ne_nan (sub_ne_nan hx.unpack_ne_nan hy.parts)

/-- A finite number less one that is not larger is not below zero. -/
theorem HasValue.atLeastZero_sub (hx : HasValue x p) (hy : HasValue y q) (h : q ≤ p) :
    AtLeastZero (x - y) :=
  (nonNegative_sub hx.parts hy.parts h).atLeastZero

theorem AtLeastZero.nonNegative (hx : AtLeastZero x) : NonNegative x.toModel.unpack := by
  obtain ⟨v, hv, hle⟩ := hx
  have hunpacked := unpacked x
  generalize Binary64.ofFloat x = b at hunpacked hv
  generalize x.toModel.unpack = u at hunpacked
  -- what has no value or a negative one is no case of the hypothesis
  cases hunpacked with
  | nan => cases hv
  | infinite s =>
    cases hv
    cases s with
    | positive => exact .infinity
    | negative => exact absurd (Extended.bot_lt_ofRat 0) hle.not_gt
  | zero s => exact .zero s
  | @finite s m e hpos hc =>
    cases hv
    cases s with
    | positive => exact .finite e hpos
    | negative =>
      have hmagnitude : (0 : ℚ) < m * 2 ^ e := by positivity
      exact absurd (Extended.ofRat_lt_ofRat.mpr (neg_lt_zero.mpr hmagnitude)) hle.not_gt

/-- A quotient by a finite number above zero is not below zero where the dividend is not. -/
theorem AtLeastZero.div (hx : AtLeastZero x) (hy : HasValue y q) (hq : 0 < q) :
    AtLeastZero (x / y) :=
  (nonNegative_div hx.nonNegative hy.parts hq).atLeastZero

/-! ## Finite operands -/

private theorem isFinite_pack {u : UnpackedFloat}
    (h : Scalar.isFinite (Float.ofModel (Float.Model.pack u)) = true) : u.isFinite = true := by
  obtain ⟨q, hq⟩ := isFinite_iff.mp h
  cases u with
  | notANumber =>
    rw [HasValue, ofFloat_pack_notANumber] at hq
    cases hq
  | infinity sign =>
    rw [HasValue, ofFloat_pack_infinity] at hq
    cases sign <;> cases hq
  | zero sign => rfl
  | finite sign m e hpos => rfl

/-- An infinity or "no number" is never lost by adding or taking away. -/
private theorem isFinite_terms {combine : UnpackedFloat → UnpackedFloat → UnpackedFloat}
    (hcombine : combine = UnpackedFloat.add Format.binary64 ∨
      combine = UnpackedFloat.sub Format.binary64)
    {u v : UnpackedFloat} (h : (combine u v).isFinite = true) :
    u.isFinite = true ∧ v.isFinite = true := by
  rcases hcombine with rfl | rfl
  all_goals
    cases u with
    | zero s | finite s =>
      cases v with
      | zero s' | finite s' => exact ⟨rfl, rfl⟩
      | infinity s' | notANumber => cases h
    | notANumber => cases h
    | infinity s =>
      cases v with
      -- two infinities give an infinity or no number, by their signs
      | infinity s' => cases s <;> cases s' <;> cases h
      | notANumber | zero s' | finite s' => cases h

/-- A sum is not finite unless both terms are. -/
theorem isFinite_of_isFinite_add (h : Scalar.isFinite (x + y) = true) :
    Scalar.isFinite x = true ∧ Scalar.isFinite y = true :=
  isFinite_terms (.inl rfl) (isFinite_pack h)

/-- A difference is not finite unless both terms are. -/
theorem isFinite_of_isFinite_sub (h : Scalar.isFinite (x - y) = true) :
    Scalar.isFinite x = true ∧ Scalar.isFinite y = true :=
  isFinite_terms (.inr rfl) (isFinite_pack h)

private theorem hasValue_two : HasValue (Scalar.ofNat 2) 2 := by
  have hbinary : Binary64.ofFloat (Float.ofNat 2) = .finite false (2 ^ 52) (-51) := by
    rfl
  refine (congrArg Binary64.value? hbinary).trans ?_
  norm_num [Binary64.value?, signed]

/-- Half of a number is within every magnitude that the number is within. -/
theorem HasValue.half_le (hx : HasValue x p) (hb : IsMagnitude bound M E) (h : |p| ≤ bound) :
    ∃ r, HasValue (Scalar.half x) r ∧ |r| ≤ bound := by
  refine hx.div hasValue_two two_ne_zero hb ?_
  rw [abs_div, abs_two]
  have := abs_nonneg p
  linarith

/-- Half of a finite number is finite. -/
theorem HasValue.half (hx : HasValue x p) : ∃ r, HasValue (Scalar.half x) r := by
  obtain ⟨bound, M, E, hb, hle⟩ := hx.exists_isMagnitude
  obtain ⟨r, hr, -⟩ := hx.half_le hb hle
  exact ⟨r, hr⟩

/-- A product with a number between minus one and one is finite if the other factor is. -/
theorem HasValue.mul_fraction (hx : HasValue x p) (hy : HasValue y q) (hq : |q| ≤ 1) :
    ∃ r, HasValue (x * y) r := by
  obtain ⟨bound, M, E, hb, hle⟩ := hx.exists_isMagnitude
  have hproduct : |p * q| ≤ bound := by
    rw [abs_mul]
    exact (mul_le_of_le_one_right (abs_nonneg p) hq).trans hle
  obtain ⟨r, hr, -⟩ := hx.mul hy hb hproduct
  exact ⟨r, hr⟩

/-- The difference of two numbers that are not below zero is finite if both are. -/
theorem HasValue.sub_of_nonneg (hx : HasValue x p) (hy : HasValue y q) (hp : 0 ≤ p) (hq : 0 ≤ q) :
    ∃ r, HasValue (x - y) r := by
  -- the difference is within the magnitude of the greater one
  obtain ⟨bound, M, E, hb, hle⟩ : ∃ bound M E, IsMagnitude bound M E ∧ |p - q| ≤ bound := by
    rcases le_total p q with hpq | hqp
    · obtain ⟨bound, M, E, hb, hle⟩ := hy.exists_isMagnitude
      refine ⟨bound, M, E, hb, ?_⟩
      rw [abs_of_nonneg hq] at hle
      rw [abs_of_nonpos (by linarith)]
      linarith
    · obtain ⟨bound, M, E, hb, hle⟩ := hx.exists_isMagnitude
      refine ⟨bound, M, E, hb, ?_⟩
      rw [abs_of_nonneg hp] at hle
      rw [abs_of_nonneg (by linarith)]
      linarith
  obtain ⟨r, hr, -⟩ := hx.sub hy hb hle
  exact ⟨r, hr⟩

theorem hasValue_zero : HasValue Scalar.zero 0 := by
  have hbinary : Binary64.ofFloat (Float.ofNat 0) = .finite false 0 (-1074) := by rfl
  refine (congrArg Binary64.value? hbinary).trans ?_
  norm_num [Binary64.value?, signed]

theorem hasValue_one : HasValue (Scalar.ofNat 1) 1 := by
  have hbinary : Binary64.ofFloat (Float.ofNat 1) = .finite false (2 ^ 52) (-52) := by
    rfl
  refine (congrArg Binary64.value? hbinary).trans ?_
  norm_num [Binary64.value?, signed]

/-- What a fraction leaves of one is a fraction. -/
theorem HasValue.one_sub (hy : HasValue y q) (hnonneg : 0 ≤ q) (hle : q ≤ 1) :
    ∃ r, HasValue (Scalar.ofNat 1 - y) r ∧ |r| ≤ 1 := by
  refine hasValue_one.sub hy isMagnitude_one ?_
  rw [abs_of_nonneg (by linarith)]
  linarith

/-! ## Comparisons -/

theorem HasValue.le_iff (hx : HasValue x p) (hy : HasValue y q) :
    Scalar.le x y = true ↔ p ≤ q := by
  refine (le_iff_value_le x y).trans ?_
  rw [hx, hy]
  simp

/-- Of two numbers with values, one that is not less is not below. -/
theorem value_le_of_lt_eq_false {u v : Extended} (hu : (Binary64.ofFloat x).value? = some u)
    (hv : (Binary64.ofFloat y).value? = some v) (h : Scalar.lt x y = false) : v ≤ u := by
  by_contra hlt
  have htrue : Scalar.lt x y = true := (lt_iff_value_lt x y).mpr ⟨u, v, hu, hv, not_le.mp hlt⟩
  rw [htrue] at h
  cases h

/-- Of two numbers with values, one that is not at most the other is above it. -/
theorem value_lt_of_le_eq_false {u v : Extended} (hu : (Binary64.ofFloat x).value? = some u)
    (hv : (Binary64.ofFloat y).value? = some v) (h : Scalar.le x y = false) : v < u := by
  by_contra hle
  have htrue : Scalar.le x y = true := (le_iff_value_le x y).mpr ⟨u, v, hu, hv, not_lt.mp hle⟩
  rw [htrue] at h
  cases h

/-- A number has a value, if not a finite one. -/
theorem IsNumber.exists_value (hx : IsNumber x) :
    ∃ v, (Binary64.ofFloat x).value? = some v := by
  unfold IsNumber at hx
  cases hbinary : Binary64.ofFloat x with
  | nan => exact absurd hbinary hx
  | infinite negative => exact ⟨_, rfl⟩
  | finite negative m e => exact ⟨_, rfl⟩

theorem isNumber_of_isFinite (h : Scalar.isFinite x = true) : IsNumber x := by
  obtain ⟨q, hq⟩ := isFinite_iff.mp h
  exact hq.isNumber

theorem isNumber_of_isPositive (h : Scalar.isPositive x = true) : IsNumber x := by
  intro hnan
  obtain ⟨_, v, _, hv, _⟩ := (lt_iff_value_lt _ _).mp h
  rw [hnan] at hv
  cases hv

/-- Two numbers are compared alike from both sides. -/
theorem IsNumber.le_eq_not_lt (hx : IsNumber x) (hy : IsNumber y) :
    Scalar.le x y = !Scalar.lt y x := by
  obtain ⟨u, hu⟩ := hx.exists_value
  obtain ⟨v, hv⟩ := hy.exists_value
  cases hlt : Scalar.lt y x with
  | false => exact (le_iff_value_le x y).mpr ⟨u, v, hu, hv, value_le_of_lt_eq_false hv hu hlt⟩
  | true =>
    obtain ⟨v', u', hv', hu', hless⟩ := (lt_iff_value_lt y x).mp hlt
    -- a number has one value only, so the two comparisons are of the same values
    obtain rfl := Option.some.inj (hu.symm.trans hu')
    obtain rfl := Option.some.inj (hv.symm.trans hv')
    refine Bool.eq_false_iff.mpr fun hle => ?_
    obtain ⟨u'', v'', hu'', hv'', hnot⟩ := (le_iff_value_le x y).mp hle
    obtain rfl := Option.some.inj (hu.symm.trans hu'')
    obtain rfl := Option.some.inj (hv.symm.trans hv'')
    exact absurd hless (not_lt.mpr hnot)

/-- What is at most a number is less than all that this number is less than. -/
theorem lt_of_le_lt {z : Float} (hle : Scalar.le x y = true) (hlt : Scalar.lt y z = true) :
    Scalar.lt x z = true := by
  obtain ⟨u, v, hu, hv, huv⟩ := (le_iff_value_le x y).mp hle
  obtain ⟨v', w, hv', hw, hvw⟩ := (lt_iff_value_lt y z).mp hlt
  obtain rfl := Option.some.inj (hv.symm.trans hv')
  exact (lt_iff_value_lt x z).mpr ⟨u, w, hu, hw, huv.trans_lt hvw⟩

/-- A number that is not less than zero is not below it. -/
theorem IsNumber.atLeastZero_of_lt (hx : IsNumber x) (h : Scalar.lt x Scalar.zero = false) :
    AtLeastZero x := by
  obtain ⟨v, hv⟩ := hx.exists_value
  exact ⟨v, hv, value_le_of_lt_eq_false hv hasValue_zero h⟩

/-- Nor is one that is not at most zero. -/
theorem IsNumber.atLeastZero_of_le (hx : IsNumber x) (h : Scalar.le x Scalar.zero = false) :
    AtLeastZero x := by
  obtain ⟨v, hv⟩ := hx.exists_value
  exact ⟨v, hv, (value_lt_of_le_eq_false hv hasValue_zero h).le⟩

/-- What lies between two finite numbers is finite. -/
theorem HasValue.between {z : Float} (hx : HasValue x p) (hy : HasValue y q)
    (hlow : Scalar.le x z = true) (hhigh : Scalar.le z y = true) :
    ∃ r, HasValue z r ∧ p ≤ r ∧ r ≤ q := by
  obtain ⟨u, v, hu, hv, hlow⟩ := (le_iff_value_le x z).mp hlow
  obtain ⟨v', w, hv', hw, hhigh⟩ := (le_iff_value_le z y).mp hhigh
  obtain rfl := Option.some.inj (hu.symm.trans hx)
  obtain rfl := Option.some.inj (hv.symm.trans hv')
  obtain rfl := Option.some.inj (hw.symm.trans hy)
  obtain ⟨w, rfl⟩ := WithBot.ne_bot_iff_exists.mp
    (ne_bot_of_le_ne_bot (Extended.bot_lt_ofRat p).ne' hlow)
  obtain ⟨r, rfl⟩ := WithTop.ne_top_iff_exists.mp
    (ne_top_of_le_ne_top WithTop.coe_ne_top (WithBot.coe_le_coe.mp hhigh))
  exact ⟨r, hv, Extended.ofRat_le_ofRat.mp hlow, Extended.ofRat_le_ofRat.mp hhigh⟩

end Range

/-! ## Whole numbers -/

/-- A whole number can be made of a number exactly when it is finite. -/
theorem exists_ceil_iff {x : Float} :
    (∃ n, Scalar.ceil x = .ok n) ↔ Scalar.isFinite x = true := by
  rw [isFinite_iff]
  change (∃ n, (Binary64.ofFloat x).ceil = .ok n) ↔
    ∃ q, (Binary64.ofFloat x).value? = some (.ofRat q)
  cases Binary64.ofFloat x with
  | nan => exact iff_of_false (fun ⟨_, h⟩ => by cases h) (fun ⟨_, h⟩ => by cases h)
  | infinite negative =>
    exact iff_of_false (fun ⟨_, h⟩ => by cases h) (fun ⟨_, h⟩ => by cases negative <;> cases h)
  | finite negative m e => exact iff_of_true ⟨_, rfl⟩ ⟨_, rfl⟩

/-- Where none can be made, the number is infinite. -/
theorem ceil_eq_error {x : Float} (hx : IsNumber x) (h : Scalar.isFinite x = false) :
    Scalar.ceil x = .error .infinityToInteger := by
  change (Binary64.ofFloat x).ceil = _
  cases hv : Binary64.ofFloat x with
  | nan => exact absurd hv hx
  | infinite negative => rfl
  | finite negative m e =>
    rw [isFinite_of_finite hv] at h
    cases h

end Machining.Numeric
