import Machining.Proofs.Numeric.FloatOrder

/-!
# Rounding floating-point numbers

A result of floating-point arithmetic is rounded to a mantissa of 53 bits and then stored.  Two
things are shown of this.

* `stored_roundWithAccuracy`: rounding does not go over a magnitude that some number has, whatever
  bits were cut off.
* `Stored.exists_hasValue`, `NonNegative.atLeastZero` and `ofFloat_pack_ne_nan`: storing keeps a
  result within its bound and on its side of zero, and makes "no number" out of nothing else.
-/

namespace Machining.Numeric

open Float.Model Float.Model.UnpackedFloat

/-- The exponent of the largest numbers. -/
def Binary64.greatestExponent : ℤ := 971

/-! ## What is stored -/

section Stored

private theorem toNat_packComponents (sign : Sign) (field : BitVec 11) (fraction : BitVec 52) :
    (packComponents Format.binary64 sign field fraction).toNat =
      (if sign == .negative then 2 ^ 63 else 0) + field.toNat * 2 ^ 52 + fraction.toNat := by
  change (sign.toBitVec ++ field ++ fraction).toNat = _
  rw [BitVec.toNat_append, BitVec.toNat_append, ← Nat.shiftLeft_add_eq_or_of_lt field.isLt,
    ← Nat.shiftLeft_add_eq_or_of_lt fraction.isLt, Nat.shiftLeft_eq, Nat.shiftLeft_eq]
  -- the three fields lie side by side, with 52 and 11 bits behind the sign
  cases sign with
  | positive =>
    change (0 * 2 ^ 11 + field.toNat) * 2 ^ 52 + fraction.toNat =
      0 + field.toNat * 2 ^ 52 + fraction.toNat
    omega
  | negative =>
    change (1 * 2 ^ 11 + field.toNat) * 2 ^ 52 + fraction.toNat =
      2 ^ 63 + field.toNat * 2 ^ 52 + fraction.toNat
    omega

/-- What a number is whose bits are put together from a sign and two fields. -/
theorem ofFloat_of_components {u : UnpackedFloat} {sign : Sign} {field : BitVec 11}
    {fraction : BitVec 52}
    (h : UnpackedFloat.pack Format.binary64 u =
      packComponents Format.binary64 sign field fraction) :
    Binary64.ofFloat (.ofModel (Float.Model.pack u)) =
      if field.toNat = 2047 then
        if fraction.toNat = 0 then .infinite (sign == .negative) else .nan
      else if field.toNat = 0 then
        .finite (sign == .negative) fraction.toNat Binary64.leastExponent
      else
        .finite (sign == .negative) (Binary64.hiddenBit + fraction.toNat)
          ((field.toNat : ℤ) - 1075) := by
  have hbits : (Float.ofModel (Float.Model.pack u)).toBits.toNat =
      (if sign == .negative then 2 ^ 63 else 0) + field.toNat * 2 ^ 52 + fraction.toNat := by
    rw [← toNat_packComponents, ← h]
    rfl
  have hfield := field.isLt
  have hfraction := fraction.isLt
  -- sign, field and fraction are read back from the bits that they were put into
  have hsign : decide (2 ^ 63 ≤ (Float.ofModel (Float.Model.pack u)).toBits.toNat) =
      (sign == .negative) := by
    rw [hbits]
    cases sign == .negative with
    | true =>
      apply decide_eq_true
      rw [if_pos rfl]
      omega
    | false =>
      apply decide_eq_false
      rw [if_neg Bool.false_ne_true]
      omega
  have hquotient : (Float.ofModel (Float.Model.pack u)).toBits.toNat / 2 ^ 52 % 2 ^ 11 =
      field.toNat := by
    rw [hbits]
    split <;> omega
  have hrest : (Float.ofModel (Float.Model.pack u)).toBits.toNat % 2 ^ 52 = fraction.toNat := by
    rw [hbits]
    split <;> omega
  unfold Binary64.ofFloat
  dsimp only
  rw [hsign, hquotient, hrest]

theorem pack_finite (sign : Sign) {m : ℕ} (e : ℤ) (hpos : 0 < m) :
    UnpackedFloat.pack Format.binary64 (.finite sign m e hpos) =
      if 2 ^ 11 ≤ (e + 1023 + 52).toNat + 1 then packComponents Format.binary64 sign (-1#11) 0#52
      else if m.log2 + 1 = 53 then
        packComponents Format.binary64 sign (BitVec.ofNat 11 (e + 1023 + 52).toNat)
          (BitVec.ofNat 52 m)
      else packComponents Format.binary64 sign 0#11 (BitVec.ofNat 52 m) :=
  rfl

/-- A finite result is stored as a finite number or as the infinity of its sign. -/
private theorem ofFloat_pack_finite (sign : Sign) {m : ℕ} (e : ℤ) (hpos : 0 < m) :
    Binary64.ofFloat (.ofModel (Float.Model.pack (.finite sign m e hpos))) =
        .infinite (sign == .negative) ∨
      ∃ m' e', Binary64.ofFloat (.ofModel (Float.Model.pack (.finite sign m e hpos))) =
        .finite (sign == .negative) m' e' := by
  have hpack := pack_finite sign e hpos
  by_cases hrange : 2 ^ 11 ≤ (e + 1023 + 52).toNat + 1
  · rw [if_pos hrange] at hpack
    exact .inl (ofFloat_of_components hpack)
  · rw [if_neg hrange] at hpack
    right
    by_cases hlog : m.log2 + 1 = 53
    · rw [if_pos hlog] at hpack
      rw [ofFloat_of_components hpack, if_neg]
      · split <;> exact ⟨_, _, rfl⟩
      · -- the field of a normal number is not the one of ones alone
        rw [BitVec.toNat_ofNat]
        omega
    · rw [if_neg hlog] at hpack
      exact ⟨_, _, ofFloat_of_components hpack⟩

/-- What is no number is stored as no number. -/
theorem ofFloat_pack_notANumber :
    Binary64.ofFloat (.ofModel (Float.Model.pack .notANumber)) = .nan :=
  rfl

/-- An infinity is stored as an infinity. -/
theorem ofFloat_pack_infinity (sign : Sign) :
    Binary64.ofFloat (.ofModel (Float.Model.pack (.infinity sign))) =
      .infinite (sign == .negative) := by
  have hpack : UnpackedFloat.pack Format.binary64 (.infinity sign) =
      packComponents Format.binary64 sign (-1#11) 0#52 := rfl
  exact ofFloat_of_components hpack

theorem ofFloat_pack_zero (sign : Sign) :
    Binary64.ofFloat (.ofModel (Float.Model.pack (.zero sign))) =
      .finite (sign == .negative) 0 Binary64.leastExponent := by
  have hpack : UnpackedFloat.pack Format.binary64 (.zero sign) =
      packComponents Format.binary64 sign 0#11 0#52 := rfl
  exact ofFloat_of_components hpack

/-- Nothing but "no number" is stored as such. -/
theorem ofFloat_pack_ne_nan {u : UnpackedFloat} (h : u ≠ .notANumber) :
    Binary64.ofFloat (.ofModel (Float.Model.pack u)) ≠ .nan := by
  cases u with
  | notANumber => exact absurd rfl h
  | infinity sign =>
    rw [ofFloat_pack_infinity]
    exact Binary64.noConfusion
  | zero sign =>
    rw [ofFloat_pack_zero]
    exact Binary64.noConfusion
  | finite sign m e hpos =>
    rcases ofFloat_pack_finite sign e hpos with hstored | ⟨m', e', hstored⟩
    · rw [hstored]
      exact Binary64.noConfusion
    · rw [hstored]
      exact Binary64.noConfusion

/-- A result that is not below zero. -/
inductive NonNegative : UnpackedFloat → Prop where
  /-- The infinity above all numbers. -/
  | infinity : NonNegative (.infinity .positive)
  /-- A zero. -/
  | zero (sign : Sign) : NonNegative (.zero sign)
  /-- Any other number. -/
  | finite {mantissa : ℕ} (exponent : ℤ) (hpos : 0 < mantissa) :
    NonNegative (.finite .positive mantissa exponent hpos)

/-- A floating-point number that is not below zero. -/
def AtLeastZero (x : Float) : Prop :=
  ∃ v, (Binary64.ofFloat x).value? = some v ∧ Extended.ofRat 0 ≤ v

private theorem ofRat_zero_le_finite (m : ℕ) (e : ℤ) :
    Extended.ofRat 0 ≤ Extended.ofRat (signed false ((m : ℚ) * 2 ^ e)) := by
  rw [Extended.ofRat_le_ofRat]
  change (0 : ℚ) ≤ m * 2 ^ e
  positivity

/-- What is not below zero is stored as a number that is not below zero. -/
theorem NonNegative.atLeastZero {u : UnpackedFloat} (h : NonNegative u) :
    AtLeastZero (.ofModel (Float.Model.pack u)) := by
  cases h with
  | infinity => exact ⟨_, congrArg Binary64.value? (ofFloat_pack_infinity _), le_top⟩
  | zero sign =>
    refine ⟨_, congrArg Binary64.value? (ofFloat_pack_zero sign), ?_⟩
    cases sign <;> simp [signed]
  | finite e hpos =>
    rcases ofFloat_pack_finite .positive e hpos with hstored | ⟨m', e', hstored⟩
    · exact ⟨_, congrArg Binary64.value? hstored, le_top⟩
    · exact ⟨_, congrArg Binary64.value? hstored, ofRat_zero_le_finite m' e'⟩

/-- A mantissa and an exponent in range are stored as they are, or with a lower exponent. -/
private theorem exists_ofFloat_pack (sign : Sign) {m : ℕ} {e : ℤ} (hpos : 0 < m)
    (hlt : m < 2 ^ 53) (hlow : Binary64.leastExponent ≤ e)
    (hhigh : e ≤ Binary64.greatestExponent) :
    ∃ e' ≤ e, Binary64.ofFloat (.ofModel (Float.Model.pack (.finite sign m e hpos))) =
      .finite (sign == .negative) m e' := by
  unfold Binary64.leastExponent at hlow
  unfold Binary64.greatestExponent at hhigh
  have hpack := pack_finite sign e hpos
  rw [if_neg (by omega)] at hpack
  by_cases hlog : m.log2 + 1 = 53
  · -- a mantissa of full length is stored without its leading one
    rw [if_pos hlog] at hpack
    have hnormal : 2 ^ 52 ≤ m := (Nat.le_log2 hpos.ne').mp (by omega)
    refine ⟨e, le_rfl, ?_⟩
    rw [ofFloat_of_components hpack, BitVec.toNat_ofNat, BitVec.toNat_ofNat, if_neg (by omega),
      if_neg (by omega)]
    unfold Binary64.hiddenBit
    congr 1 <;> omega
  · -- a shorter one is stored as it is, with the least exponent
    rw [if_neg hlog] at hpack
    have hlog' := (Nat.log2_lt hpos.ne').mpr hlt
    have hsmall : m < 2 ^ 52 := (Nat.log2_lt hpos.ne').mp (by omega)
    refine ⟨Binary64.leastExponent, hlow, ?_⟩
    rw [ofFloat_of_components hpack, BitVec.toNat_ofNat, BitVec.toNat_ofNat,
      Nat.mod_eq_of_lt hsmall]
    rfl

/-- A finite number that can be stored, and whose magnitude is not above a bound. -/
inductive Stored (bound : ℚ) : UnpackedFloat → Prop where
  /-- A zero. -/
  | zero (sign : Sign) : Stored bound (.zero sign)
  /-- Any other number. -/
  | finite (sign : Sign) {mantissa : ℕ} {exponent : ℤ} (hpos : 0 < mantissa)
      (hlt : mantissa < 2 ^ 53) (hlow : Binary64.leastExponent ≤ exponent)
      (hhigh : exponent ≤ Binary64.greatestExponent)
      (hle : (mantissa : ℚ) * 2 ^ exponent ≤ bound) :
      Stored bound (.finite sign mantissa exponent hpos)

/-- A floating-point number that stands for a rational number. -/
def HasValue (x : Float) (q : ℚ) : Prop :=
  (Binary64.ofFloat x).value? = some (.ofRat q)

/-- A number that stands for a rational number has a sign, a mantissa and an exponent. -/
theorem HasValue.exists_eq_finite {x : Float} {q : ℚ} (h : HasValue x q) :
    ∃ negative m e, Binary64.ofFloat x = .finite negative m e ∧
      q = signed negative (m * (2 : ℚ) ^ e) := by
  unfold HasValue at h
  cases hx : Binary64.ofFloat x with
  | nan =>
    rw [hx] at h
    cases h
  | infinite negative =>
    rw [hx] at h
    cases negative <;> cases h
  | finite negative m e =>
    rw [hx] at h
    have hvalue := WithTop.coe_injective (WithBot.coe_injective (Option.some.inj h))
    exact ⟨negative, m, e, rfl, hvalue.symm⟩

theorem abs_signed (negative : Bool) (q : ℚ) : |signed negative q| = |q| := by
  cases negative <;> simp [signed]

/-- A number that can be stored is a floating-point number within the bound. -/
theorem Stored.exists_hasValue {bound : ℚ} {u : UnpackedFloat} (h : Stored bound u)
    (hbound : 0 ≤ bound) :
    ∃ q, HasValue (.ofModel (Float.Model.pack u)) q ∧ |q| ≤ bound := by
  cases h with
  | zero sign =>
    refine ⟨_, congrArg Binary64.value? (ofFloat_pack_zero sign), ?_⟩
    simpa [abs_signed] using hbound
  | @finite sign m e hpos hlt hlow hhigh hle =>
    -- a number may be stored with a lower exponent, and never with a higher one
    obtain ⟨e', he', hstored⟩ := exists_ofFloat_pack sign hpos hlt hlow hhigh
    refine ⟨_, congrArg Binary64.value? hstored, ?_⟩
    rw [abs_signed, abs_of_nonneg (by positivity)]
    calc (m : ℚ) * 2 ^ e' ≤ m * 2 ^ e := by
          gcongr
          norm_num
      _ ≤ bound := hle

end Stored

/-! ## Rounding -/

/-- A mantissa with its two bits is not above a number, and below it where a bit is set. -/
structure Covers (em : ExtendedMantissa) (x : ℚ) : Prop where
  le : (em.mantissa : ℚ) ≤ x
  lt : em.roundBit = true ∨ em.stickyBit = true → (em.mantissa : ℚ) < x

namespace Covers

private theorem two_mul_half_add (m : ℕ) : 2 * ((m / 2 : ℕ) : ℚ) + (m % 2 : ℕ) = m := by
  exact_mod_cast Nat.div_add_mod m 2

theorem ofExact (m : ℕ) : Covers (.ofMantissaAndAccuracy m .exact) m where
  le := le_rfl
  lt h := by simp [ExtendedMantissa.ofMantissaAndAccuracy] at h

/-- The lowest digit goes, and the bits remember it. -/
theorem shiftRightOne {em : ExtendedMantissa} {x : ℚ} (h : Covers em x) :
    Covers em.shiftRightOne (x / 2) where
  le := by
    have hle := h.le
    rw [← two_mul_half_add em.mantissa] at hle
    have hdigit : (0 : ℚ) ≤ (em.mantissa % 2 : ℕ) := by positivity
    change ((em.mantissa / 2 : ℕ) : ℚ) ≤ x / 2
    linarith
  lt hbits := by
    change ((em.mantissa / 2 : ℕ) : ℚ) < x / 2
    rcases hbits with hround | hsticky
    · -- the digit that goes is a one
      have hdigit : em.mantissa % 2 = 1 := by
        simpa [ExtendedMantissa.shiftRightOne] using hround
      have hle := h.le
      rw [← two_mul_half_add em.mantissa, hdigit] at hle
      push_cast at hle
      linarith
    · have hlt := h.lt (by simpa [ExtendedMantissa.shiftRightOne] using hsticky)
      rw [← two_mul_half_add em.mantissa] at hlt
      have hdigit : (0 : ℚ) ≤ (em.mantissa % 2 : ℕ) := by positivity
      linarith

theorem shiftRight {em : ExtendedMantissa} {x : ℚ} (h : Covers em x) (count : ℕ) :
    Covers (em >>> count) (x / 2 ^ count) := by
  change Covers (count.repeat ExtendedMantissa.shiftRightOne em) _
  -- a long shift is one digit after another, and each keeps the relation
  induction count with
  | zero => simpa [Nat.repeat] using h
  | succ count ih =>
    rw [pow_succ, ← div_div]
    exact ih.shiftRightOne

/-- Rounding does not go over a whole number. -/
theorem rounded_le {em : ExtendedMantissa} {x : ℚ} (h : Covers em x) {n : ℕ} (hn : x ≤ n) :
    em.roundedMantissa ≤ n := by
  obtain ⟨m, roundBit, stickyBit⟩ := em
  have hle : m ≤ n := by exact_mod_cast h.le.trans hn
  have hlt : roundBit = true ∨ stickyBit = true → m < n := fun hbits => by
    exact_mod_cast (h.lt hbits).trans_le hn
  -- only a set round bit can carry, and then the mantissa is not yet at the bound
  cases roundBit with
  | false =>
    cases stickyBit with
    | false => exact hle
    | true => exact hle
  | true =>
    have hsucc := hlt (.inl rfl)
    cases stickyBit with
    | false =>
      change m + m % 2 ≤ n
      omega
    | true => exact hsucc

end Covers

theorem mantissa_shiftRight (em : ExtendedMantissa) (count : ℕ) :
    (em >>> count).mantissa = em.mantissa / 2 ^ count := by
  change (count.repeat ExtendedMantissa.shiftRightOne em).mantissa = _
  induction count with
  | zero => simp [Nat.repeat]
  | succ count ih =>
    rw [pow_succ, ← Nat.div_div_eq_div_mul, ← ih]
    rfl

theorem mantissa_ofMantissaAndAccuracy (m : ℕ) (accuracy : Accuracy) :
    (ExtendedMantissa.ofMantissaAndAccuracy m accuracy).mantissa = m := by
  cases accuracy with
  | exact => rfl
  | inexact order => cases order <;> rfl

/-- The magnitudes of floating-point numbers other than zero. -/
structure IsMagnitude (bound : ℚ) (mantissa : ℕ) (exponent : ℤ) : Prop
    extends Canonical mantissa exponent where
  high : exponent ≤ Binary64.greatestExponent
  eq : bound = mantissa * 2 ^ exponent

section Rounding

variable {bound : ℚ} {M : ℕ} {E : ℤ}

theorem IsMagnitude.bound_pos (hb : IsMagnitude bound M E) : 0 < bound := by
  have := hb.pos
  rw [hb.eq]
  positivity

theorem IsMagnitude.bound_lt (hb : IsMagnitude bound M E) : bound < 2 ^ (53 + E) := by
  have hlt : (M : ℚ) < 2 ^ 53 := by exact_mod_cast hb.lt
  rw [hb.eq, zpow_add₀ (by norm_num)]
  exact mul_lt_mul_of_pos_right hlt (by positivity)

/-- A power of two below a bound has a lower exponent. -/
theorem IsMagnitude.lt_of_zpow_le (hb : IsMagnitude bound M E) {k : ℤ} (h : (2 : ℚ) ^ k ≤ bound) :
    k < 53 + E :=
  (zpow_lt_zpow_iff_right₀ (by norm_num)).mp (h.trans_lt hb.bound_lt)

/-- The exponent that is aimed at is not above the one of a bound. -/
theorem targetExponent_le (hb : IsMagnitude bound M E) {k : ℤ} (h : k ≤ 53 + E) :
    Format.binary64.targetExponent k ≤ E := by
  have hlow := hb.le
  unfold Binary64.leastExponent at hlow
  change max (k - 53) (-1074) ≤ E
  omega

private theorem totalExponent_le (hb : IsMagnitude bound M E) {m : ℕ} {e : ℤ} (hm : m ≠ 0)
    (h : (m : ℚ) * 2 ^ e ≤ bound) : totalExponent m e ≤ 53 + E := by
  have hlog : (2 : ℚ) ^ (m.log2 : ℤ) ≤ m := by
    exact_mod_cast Nat.log2_self_le hm
  have hpower : (2 : ℚ) ^ ((m.log2 : ℤ) + e) ≤ bound := by
    rw [zpow_add₀ (by norm_num)]
    exact (mul_le_mul_of_nonneg_right hlog (by positivity)).trans h
  have := hb.lt_of_zpow_le hpower
  unfold totalExponent
  omega

/-- One shift: the digits that stay fit into a mantissa, and its exponent is not above the one of
the bound. -/
private theorem exists_covers_shift (hb : IsMagnitude bound M E) {m : ℕ} {e : ℤ} {x : ℚ}
    {accuracy : Accuracy} (hx : Covers (.ofMantissaAndAccuracy m accuracy) x)
    (h : x * 2 ^ e ≤ bound) (he : e ≤ E) :
    ∃ em e' y, shiftToTargetExponent Format.binary64 m e accuracy = (em, e') ∧ Covers em y ∧
      y * 2 ^ e' = x * 2 ^ e ∧ em.mantissa < 2 ^ 53 ∧ Binary64.leastExponent ≤ e' ∧ e' ≤ E := by
  have htarget : Format.binary64.targetExponent (totalExponent m e) ≤ E := by
    apply targetExponent_le hb
    by_cases hm : m = 0
    · rw [hm]
      change 0 + 1 + e ≤ 53 + E
      omega
    · have hle := hx.le
      rw [mantissa_ofMantissaAndAccuracy] at hle
      exact totalExponent_le hb hm ((mul_le_mul_of_nonneg_right hle (by positivity)).trans h)
  -- the first exponent is the greater one of the target and the old one
  obtain ⟨k, hk⟩ : ∃ k, (Format.binary64.targetExponent (totalExponent m e) - e).toNat = k :=
    ⟨_, rfl⟩
  have hrange : Binary64.leastExponent ≤ e + k ∧ e + k ≤ E ∧ m.log2 + 1 ≤ 53 + k := by
    have hshape : Format.binary64.targetExponent (totalExponent m e) =
        max ((m.log2 : ℤ) + 1 + e - 53) (-1074) := rfl
    unfold Binary64.leastExponent
    omega
  refine ⟨ExtendedMantissa.ofMantissaAndAccuracy m accuracy >>> k, e + k, x / 2 ^ k, ?_,
    hx.shiftRight k, ?_, ?_, hrange.1, hrange.2.1⟩
  · rw [← hk]
    rfl
  · rw [zpow_add₀ (by norm_num), zpow_natCast]
    field_simp
  · rw [mantissa_shiftRight, mantissa_ofMantissaAndAccuracy, Nat.div_lt_iff_lt_mul (by positivity),
      ← pow_add]
    exact Nat.lt_log2_self.trans_le (Nat.pow_le_pow_right (by norm_num) hrange.2.2)

/-- **Rounding does not go over a magnitude.** -/
theorem stored_roundWithAccuracy (hb : IsMagnitude bound M E) (sign : Sign) {m : ℕ} {e : ℤ} {x : ℚ}
    {accuracy : Accuracy} (hx : Covers (.ofMantissaAndAccuracy m accuracy) x)
    (h : x * 2 ^ e ≤ bound) (he : e ≤ E) :
    Stored bound (roundWithAccuracy Format.binary64 sign m e accuracy) := by
  obtain ⟨em, e', y, hfirst, hy, hvalue, _, _, he'⟩ := exists_covers_shift hb hx h he
  -- the bound is a whole number of units of the first exponent
  have hunits : bound = ((M * 2 ^ (E - e').toNat : ℕ) : ℚ) * 2 ^ e' := by
    rw [hb.eq]
    push_cast
    rw [mul_assoc, ← zpow_natCast, ← zpow_add₀ (by norm_num)]
    congr 2
    omega
  have hrounded : (em.roundedMantissa : ℚ) * 2 ^ e' ≤ bound := by
    rw [← hvalue, hunits] at h
    have hle := hy.rounded_le (le_of_mul_le_mul_right h (by positivity))
    rw [hunits]
    exact mul_le_mul_of_nonneg_right (by exact_mod_cast hle) (by positivity)
  -- a carry takes one more digit, and it goes by a second shift
  obtain ⟨em₂, e₂, y₂, hsecond, hy₂, hvalue₂, hlt, hlow, hhigh⟩ :=
    exists_covers_shift hb (Covers.ofExact em.roundedMantissa) hrounded he'
  unfold roundWithAccuracy
  rw [hfirst]
  dsimp only
  rw [hsecond]
  dsimp only
  by_cases hzero : em₂.mantissa = 0
  · rw [dif_pos hzero]
    exact .zero sign
  · rw [dif_neg hzero]
    refine .finite sign _ hlt hlow (hhigh.trans hb.high) ?_
    calc (em₂.mantissa : ℚ) * 2 ^ e₂ ≤ y₂ * 2 ^ e₂ :=
          mul_le_mul_of_nonneg_right hy₂.le (by positivity)
      _ ≤ bound := hvalue₂.trans_le hrounded

theorem shiftLeft_value (m k : ℕ) (e : ℤ) :
    ((m <<< k : ℕ) : ℚ) * 2 ^ (e - k) = m * 2 ^ e := by
  rw [Nat.shiftLeft_eq, zpow_sub₀ (by norm_num), zpow_natCast]
  push_cast
  field_simp

private theorem stored_round (hb : IsMagnitude bound M E) (sign : Sign) {m : ℕ} {e : ℤ}
    (hm : m ≠ 0) (h : (m : ℚ) * 2 ^ e ≤ bound) :
    Stored bound (UnpackedFloat.round Format.binary64 sign m e) := by
  have htarget := targetExponent_le hb (totalExponent_le hb hm h)
  unfold UnpackedFloat.round decreaseExponent
  dsimp only
  refine stored_roundWithAccuracy hb sign (Covers.ofExact _) ?_ (by omega)
  rwa [shiftLeft_value]

/-- A whole number of units is rounded within a magnitude. -/
theorem stored_normalize (hb : IsMagnitude bound M E) (zeroSign : Sign) {n : ℤ} {e : ℤ}
    (h : |(n : ℚ)| * 2 ^ e ≤ bound) :
    Stored bound (UnpackedFloat.normalize Format.binary64 n e zeroSign) := by
  rw [← Int.cast_abs, ← Nat.cast_natAbs] at h
  unfold UnpackedFloat.normalize
  split
  · -- the sign is taken off, and the magnitude rounded
    rename_i hlt
    have hneg := Int.compare_eq_lt.mp hlt
    rw [show (-n).toNat = n.natAbs by omega]
    exact stored_round hb .negative (by omega) h
  · exact .zero zeroSign
  · rename_i hgt
    have hpos := Int.compare_eq_gt.mp hgt
    rw [show n.toNat = n.natAbs by omega]
    exact stored_round hb .positive (by omega) h

end Rounding

/-! ## Signs -/

section Signs

theorem roundWithAccuracy_cases (sign : Sign) (m : ℕ) (e : ℤ) (accuracy : Accuracy) :
    roundWithAccuracy Format.binary64 sign m e accuracy = .zero sign ∨
      ∃ m' e' hpos,
        roundWithAccuracy Format.binary64 sign m e accuracy = .finite sign m' e' hpos := by
  obtain ⟨em, e', hfirst⟩ :
      ∃ em e', shiftToTargetExponent Format.binary64 m e accuracy = (em, e') := ⟨_, _, rfl⟩
  obtain ⟨em₂, e₂, hsecond⟩ :
      ∃ em₂ e₂, shiftToTargetExponent Format.binary64 em.roundedMantissa e' .exact = (em₂, e₂) :=
    ⟨_, _, rfl⟩
  unfold roundWithAccuracy
  rw [hfirst]
  dsimp only
  rw [hsecond]
  dsimp only
  -- twice shifted, the mantissa is zero or makes a finite number
  by_cases hzero : em₂.mantissa = 0
  · exact .inl (dif_pos hzero)
  · exact .inr ⟨_, _, _, dif_neg hzero⟩

/-- A rounded number is a number. -/
theorem roundWithAccuracy_ne_nan (sign : Sign) (m : ℕ) (e : ℤ) (accuracy : Accuracy) :
    roundWithAccuracy Format.binary64 sign m e accuracy ≠ .notANumber := by
  rcases roundWithAccuracy_cases sign m e accuracy with hround | ⟨m', e', hpos, hround⟩
  · rw [hround]
    exact UnpackedFloat.noConfusion
  · rw [hround]
    exact UnpackedFloat.noConfusion

/-- Without a minus sign it is not below zero. -/
theorem nonNegative_roundWithAccuracy (m : ℕ) (e : ℤ) (accuracy : Accuracy) :
    NonNegative (roundWithAccuracy Format.binary64 .positive m e accuracy) := by
  rcases roundWithAccuracy_cases .positive m e accuracy with hround | ⟨m', e', hpos, hround⟩
  · rw [hround]
    exact .zero _
  · rw [hround]
    exact .finite e' hpos

theorem normalize_ne_nan (n e : ℤ) (zeroSign : Sign) :
    UnpackedFloat.normalize Format.binary64 n e zeroSign ≠ .notANumber := by
  unfold UnpackedFloat.normalize
  split
  · exact roundWithAccuracy_ne_nan _ _ _ _
  · exact UnpackedFloat.noConfusion
  · exact roundWithAccuracy_ne_nan _ _ _ _

theorem nonNegative_normalize {n : ℤ} (h : 0 ≤ n) (e : ℤ) (zeroSign : Sign) :
    NonNegative (UnpackedFloat.normalize Format.binary64 n e zeroSign) := by
  unfold UnpackedFloat.normalize
  split
  · rename_i hlt
    have := Int.compare_eq_lt.mp hlt
    omega
  · exact .zero _
  · exact nonNegative_roundWithAccuracy ..

end Signs

end Machining.Numeric
