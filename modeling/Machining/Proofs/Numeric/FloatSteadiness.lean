import Machining.Proofs.Numeric.FloatBounds

/-!
# Sums that do not turn around

A sum is rounded, and so it may be less than it should.  It is never less than a number that the
exact sum is not below, since a number is not rounded at all: adding something positive does not
lead down, and taking it away does not lead up.

The magnitude of a result is bounded from above in `FloatRounding`.  Here it is bounded from below
(`IsMagnitude.reaches_round`), and both together bound the difference of two numbers on either side
(`storedAbove_sub`, `storedBelow_sub`).

* `lt_add_eq_false`: adding what is not below zero does not lead down.
* `lt_sub_eq_false`: taking it away does not lead up.
-/

namespace Machining.Numeric

open Float.Model Float.Model.UnpackedFloat

/-! ## Rounding from below -/

section Below

variable {m : ℕ} {e : ℤ}

/-- A canonical mantissa is stored as it is, unless its exponent is too large. -/
theorem ofFloat_pack_canonical (sign : Sign) (hc : Canonical m e) :
    Binary64.ofFloat (.ofModel (Float.Model.pack (.finite sign m e hc.pos))) =
        .infinite (sign == .negative) ∨
      Binary64.ofFloat (.ofModel (Float.Model.pack (.finite sign m e hc.pos))) =
        .finite (sign == .negative) m e := by
  have hlow := hc.le
  have hlt := hc.lt
  unfold Binary64.leastExponent at hlow
  have hpack := pack_finite sign e hc.pos
  -- the exponent may be out of range
  by_cases hrange : 2 ^ 11 ≤ (e + 1023 + 52).toNat + 1
  · rw [if_pos hrange] at hpack
    exact .inl (ofFloat_of_components hpack)
  · rw [if_neg hrange] at hpack
    right
    by_cases hlog : m.log2 + 1 = 53
    · -- a mantissa of full length is stored without its leading one
      rw [if_pos hlog] at hpack
      have hnormal : 2 ^ 52 ≤ m := (Nat.le_log2 hc.pos.ne').mp (by omega)
      rw [ofFloat_of_components hpack, BitVec.toNat_ofNat, BitVec.toNat_ofNat, if_neg (by omega),
        if_neg (by omega)]
      unfold Binary64.hiddenBit
      congr 1 <;> omega
    · -- a shorter one has the least exponent
      rw [if_neg hlog] at hpack
      have hlog' := (Nat.log2_lt hc.pos.ne').mpr hlt
      have hsmall : m < 2 ^ 52 := (Nat.log2_lt hc.pos.ne').mp (by omega)
      have hleast : e = Binary64.leastExponent :=
        hc.le.antisymm' (not_lt.mp fun hlarge => absurd (hc.normal hlarge) hsmall.not_ge)
      rw [ofFloat_of_components hpack, BitVec.toNat_ofNat, BitVec.toNat_ofNat,
        Nat.mod_eq_of_lt hsmall, hleast]
      rfl

/-- Rounding to the nearest takes a mantissa up by one at the most. -/
theorem roundedMantissa_mem (em : ExtendedMantissa) :
    em.mantissa ≤ em.roundedMantissa ∧ em.roundedMantissa ≤ em.mantissa + 1 := by
  obtain ⟨m, roundBit, stickyBit⟩ := em
  cases roundBit with
  | false => cases stickyBit <;> exact ⟨le_refl m, Nat.le_succ m⟩
  | true =>
    cases stickyBit with
    | true => exact ⟨Nat.le_succ m, le_refl (m + 1)⟩
    | false =>
      change m ≤ m + m % 2 ∧ m + m % 2 ≤ m + 1
      omega

private theorem log2_shiftLeft (hm : m ≠ 0) (k : ℕ) : (m <<< k).log2 = m.log2 + k := by
  have hpos : 0 < m := Nat.pos_of_ne_zero hm
  rw [Nat.shiftLeft_eq, Nat.log2_eq_iff (by positivity)]
  constructor
  · rw [pow_add]
    exact Nat.mul_le_mul_right _ (Nat.log2_self_le hm)
  · rw [show m.log2 + k + 1 = m.log2 + 1 + k by omega, pow_add]
    exact Nat.mul_lt_mul_of_pos_right Nat.lt_log2_self (by positivity)

/-- A shift takes a mantissa to the exponent that is aimed at. -/
private theorem exists_shift {target : ℤ}
    (htarget : Format.binary64.targetExponent (totalExponent m e) = target) (he : e ≤ target) :
    ∃ em, shiftToTargetExponent Format.binary64 m e .exact = (em, target) ∧
      em.mantissa = m / 2 ^ (target - e).toNat := by
  refine ⟨ExtendedMantissa.ofMantissaAndAccuracy m .exact >>> (target - e).toNat, ?_, ?_⟩
  · have hexponent : e + ((target - e).toNat : ℤ) = target := by omega
    unfold shiftToTargetExponent shiftToExponent
    dsimp only
    rw [htarget, hexponent]
  · rw [mantissa_shiftRight, mantissa_ofMantissaAndAccuracy]

/-- A carry out of the mantissa is taken in by one more shift, and changes no value. -/
private theorem exists_carried {n : ℕ} {target : ℤ} (hn : n ≤ 2 ^ 53) (hpos : 0 < n)
    (hlow : Binary64.leastExponent ≤ target)
    (hnormal : Binary64.leastExponent < target → 2 ^ 52 ≤ n) :
    ∃ em e', shiftToTargetExponent Format.binary64 n target .exact = (em, e') ∧
      Canonical em.mantissa e' ∧ (em.mantissa : ℚ) * 2 ^ e' = n * 2 ^ target := by
  have hshape : Format.binary64.targetExponent (totalExponent n target) =
      max ((n.log2 : ℤ) + 1 + target - 53) (-1074) := rfl
  -- rounding up may carry over into one more digit
  rcases hn.lt_or_eq with hlt | rfl
  · have hlog := (Nat.log2_lt hpos.ne').mpr hlt
    have htarget : Format.binary64.targetExponent (totalExponent n target) = target := by
      unfold Binary64.leastExponent at hlow hnormal
      rcases hlow.eq_or_lt with heq | hlarge
      · omega
      · have := (Nat.le_log2 hpos.ne').mpr (hnormal hlarge)
        omega
    obtain ⟨em, hshift, hmantissa⟩ := exists_shift htarget le_rfl
    rw [sub_self, Int.toNat_zero, pow_zero, Nat.div_one] at hmantissa
    refine ⟨em, target, hshift, ?_, by rw [hmantissa]⟩
    rw [hmantissa]
    exact ⟨hpos, hlt, hlow, hnormal⟩
  · -- there is one digit too many, and it is a zero
    have htarget : Format.binary64.targetExponent (totalExponent (2 ^ 53) target) =
        target + 1 := by
      unfold Binary64.leastExponent at hlow
      rw [hshape, Nat.log2_two_pow]
      omega
    obtain ⟨em, hshift, hmantissa⟩ := exists_shift htarget (by omega)
    rw [add_sub_cancel_left] at hmantissa
    have hhalf : em.mantissa = 2 ^ 52 := hmantissa
    refine ⟨em, target + 1, hshift, ?_, ?_⟩
    · rw [hhalf]
      exact ⟨by norm_num, by norm_num, by omega, fun _ => le_rfl⟩
    · rw [hhalf, zpow_add_one₀ (by norm_num)]
      push_cast
      ring

/-- The digits that stay: no more than fit, and all of them unless the exponent is the least. -/
private theorem digits_div (hm : m ≠ 0) {target : ℤ}
    (htarget : Format.binary64.targetExponent (totalExponent m e) = target) (he : e ≤ target) :
    m / 2 ^ (target - e).toNat < 2 ^ 53 ∧
      (Binary64.leastExponent < target → 2 ^ 52 ≤ m / 2 ^ (target - e).toNat) ∧
      Binary64.leastExponent ≤ target := by
  have hshape : Format.binary64.targetExponent (totalExponent m e) =
      max ((m.log2 : ℤ) + 1 + e - 53) (-1074) := rfl
  have hpower : 0 < 2 ^ (target - e).toNat := by positivity
  unfold Binary64.leastExponent
  refine ⟨?_, ?_, by omega⟩
  · rw [Nat.div_lt_iff_lt_mul hpower, ← pow_add]
    exact Nat.lt_log2_self.trans_le (Nat.pow_le_pow_right (by decide) (by omega))
  · intro hlarge
    rw [Nat.le_div_iff_mul_le hpower, ← pow_add]
    exact (Nat.pow_le_pow_right (by decide) (by omega)).trans (Nat.log2_self_le hm)

/-- Rounding leaves every whole number of units of the last place that was not above. -/
private theorem exists_round (sign : Sign) (hm : m ≠ 0) {target : ℤ}
    (htarget : Format.binary64.targetExponent (totalExponent m e) = target) :
    ∃ n : ℕ, (∀ k : ℕ, (k : ℚ) * 2 ^ target ≤ m * 2 ^ e → k ≤ n) ∧
      (UnpackedFloat.round Format.binary64 sign m e = .zero sign ∧ n = 0 ∨
        ∃ m' e', ∃ hc : Canonical m' e',
          UnpackedFloat.round Format.binary64 sign m e = .finite sign m' e' hc.pos ∧
            (m' : ℚ) * 2 ^ e' = n * 2 ^ target) := by
  -- first the exponent is brought down to the one that is aimed at, if it is above
  have hvalue := shiftLeft_value m (e - target).toNat e
  -- a shift to the left keeps the value and so the exponent that is aimed at
  have htarget₀ : Format.binary64.targetExponent
      (totalExponent (m <<< (e - target).toNat) (e - (e - target).toNat)) = target := by
    rw [← htarget, totalExponent, totalExponent, log2_shiftLeft hm]
    congr 1
    push_cast
    ring
  have hm₀ : m <<< (e - target).toNat ≠ 0 := by
    rw [Nat.shiftLeft_eq]
    positivity
  unfold UnpackedFloat.round decreaseExponent
  dsimp only
  rw [htarget, ← hvalue]
  have he₀ : e - ((e - target).toNat : ℤ) ≤ target := by omega
  generalize m <<< (e - target).toNat = m₀ at htarget₀ hm₀ ⊢
  generalize e - ((e - target).toNat : ℤ) = e₀ at htarget₀ he₀ ⊢
  -- then the mantissa is cut and rounded there
  obtain ⟨em, hshift, hmantissa⟩ := exists_shift htarget₀ he₀
  obtain ⟨hlt, hnormal, hlow⟩ := digits_div hm₀ htarget₀ he₀
  rw [← hmantissa] at hlt hnormal
  obtain ⟨hfloor, hcarry⟩ := roundedMantissa_mem em
  refine ⟨em.roundedMantissa, ?_, ?_⟩
  -- what lies below the value is at most its floor, and the rounded mantissa is no less
  · intro k hk
    refine le_trans ?_ hfloor
    have hsplit : (2 : ℚ) ^ target = 2 ^ (target - e₀).toNat * 2 ^ e₀ := by
      rw [← zpow_natCast, ← zpow_add₀ (by norm_num)]
      congr 1
      omega
    rw [hmantissa, Nat.le_div_iff_mul_le (by positivity)]
    rw [hsplit, ← mul_assoc, mul_le_mul_iff_left₀ (by positivity)] at hk
    exact_mod_cast hk
  · unfold roundWithAccuracy
    rw [hshift]
    dsimp only
    rcases Nat.eq_zero_or_pos em.roundedMantissa with hzero | hpos
    · -- nothing is left, which is so next to zero only
      have hleast : Binary64.leastExponent = target := by
        refine hlow.eq_or_lt.resolve_right fun hlarge => ?_
        have := hnormal hlarge
        omega
      have htarget' : Format.binary64.targetExponent (totalExponent 0 target) = target := by
        rw [← hleast]
        rfl
      obtain ⟨em', hsecond, hgone⟩ := exists_shift htarget' le_rfl
      left
      rw [hzero, hsecond]
      rw [Nat.zero_div] at hgone
      exact ⟨dif_pos hgone, rfl⟩
    · -- a mantissa that rounding has made one bit longer is shifted once more
      obtain ⟨em', e', hsecond, hc, hsame⟩ :=
        exists_carried (by omega) hpos hlow fun hlarge => (hnormal hlarge).trans hfloor
      right
      rw [hsecond]
      dsimp only
      rw [dif_neg hc.pos.ne']
      exact ⟨_, _, hc, rfl, hsame⟩

/-- `Reaches bound sign u`: a result is stored with its sign, and its magnitude is not below the
bound. -/
def Reaches (bound : ℚ) (sign : Sign) (u : UnpackedFloat) : Prop :=
  Binary64.ofFloat (.ofModel (Float.Model.pack u)) = .infinite (sign == .negative) ∨
    ∃ m e, Binary64.ofFloat (.ofModel (Float.Model.pack u)) = .finite (sign == .negative) m e ∧
      bound ≤ m * 2 ^ e

variable {bound : ℚ}

theorem Canonical.reaches (hc : Canonical m e) (sign : Sign) (h : bound ≤ m * 2 ^ e) :
    Reaches bound sign (.finite sign m e hc.pos) :=
  (ofFloat_pack_canonical sign hc).imp_right fun hstored => ⟨m, e, hstored, h⟩

/-- **Rounding does not go under a magnitude.** -/
theorem IsMagnitude.reaches_round {M : ℕ} {E : ℤ} (hb : IsMagnitude bound M E) (sign : Sign)
    (hm : m ≠ 0) (h : bound ≤ m * 2 ^ e) :
    Reaches bound sign (UnpackedFloat.round Format.binary64 sign m e) := by
  obtain ⟨target, htarget⟩ : ∃ target,
      Format.binary64.targetExponent (totalExponent m e) = target := ⟨_, rfl⟩
  obtain ⟨n, hunits, hround⟩ := exists_round sign hm htarget
  -- the rounded number of units is not below the bound
  have hbound : bound ≤ n * 2 ^ target := by
    rcases le_or_gt target E with hle | hgt
    · -- the bound is a whole number of units
      have hwhole : bound = (M * 2 ^ (E - target).toNat : ℕ) * 2 ^ target := by
        rw [hb.eq]
        push_cast
        rw [mul_assoc, ← zpow_natCast, ← zpow_add₀ (by norm_num)]
        congr 2
        omega
      rw [hwhole] at h ⊢
      exact mul_le_mul_of_nonneg_right (by exact_mod_cast hunits _ h) (by positivity)
    · -- the result has more digits in front of the point than the bound
      have hshape : Format.binary64.targetExponent (totalExponent m e) =
          max ((m.log2 : ℤ) + 1 + e - 53) (-1074) := rfl
      have hlow := hb.le
      unfold Binary64.leastExponent at hlow
      have hlog : (2 : ℚ) ^ (m.log2 : ℤ) ≤ m := by exact_mod_cast Nat.log2_self_le hm
      have hdigits : ((2 ^ 52 : ℕ) : ℚ) = 2 ^ (52 : ℤ) := by norm_num
      have hfull : ((2 ^ 52 : ℕ) : ℚ) * 2 ^ target ≤ m * 2 ^ e := by
        calc ((2 ^ 52 : ℕ) : ℚ) * 2 ^ target = 2 ^ (m.log2 : ℤ) * 2 ^ e := by
              rw [hdigits, ← zpow_add₀ (by norm_num), ← zpow_add₀ (by norm_num)]
              congr 1
              omega
          _ ≤ m * 2 ^ e := mul_le_mul_of_nonneg_right hlog (by positivity)
      have hn : ((2 ^ 52 : ℕ) : ℚ) ≤ n := by exact_mod_cast hunits _ hfull
      calc bound ≤ 2 ^ (53 + E) := hb.bound_lt.le
        _ ≤ 2 ^ (52 + target) := zpow_le_zpow_right₀ (by norm_num) (by omega)
        _ = ((2 ^ 52 : ℕ) : ℚ) * 2 ^ target := by rw [hdigits, zpow_add₀ (by norm_num)]
        _ ≤ n * 2 ^ target := mul_le_mul_of_nonneg_right hn (by positivity)
  -- rounding gives zero, which is below, or a number that is kept as it is
  rcases hround with ⟨-, rfl⟩ | ⟨m', e', hc, hround, hvalue⟩
  · rw [Nat.cast_zero, zero_mul] at hbound
    exact absurd hb.bound_pos hbound.not_gt
  · rw [hround]
    exact hc.reaches sign (hbound.trans_eq hvalue.symm)

/-- A rounded number keeps its sign. -/
theorem reaches_round_zero (sign : Sign) (hm : m ≠ 0) :
    Reaches 0 sign (UnpackedFloat.round Format.binary64 sign m e) := by
  obtain ⟨n, -, ⟨hround, -⟩ | ⟨m', e', hc, hround, -⟩⟩ := exists_round sign hm rfl
  · rw [hround]
    exact .inr ⟨_, _, ofFloat_pack_zero sign, by positivity⟩
  · rw [hround]
    exact hc.reaches sign (by positivity)

end Below

/-! ## Results between numbers -/

/-- A result that is stored as a number no less than `b`. -/
def StoredAbove (b : ℚ) (u : UnpackedFloat) : Prop :=
  ∃ v, (Binary64.ofFloat (.ofModel (Float.Model.pack u))).value? = some v ∧ .ofRat b ≤ v

/-- A result that is stored as a number no greater than `b`. -/
def StoredBelow (b : ℚ) (u : UnpackedFloat) : Prop :=
  ∃ v, (Binary64.ofFloat (.ofModel (Float.Model.pack u))).value? = some v ∧ v ≤ .ofRat b

section Results

variable {b p q : ℚ} {u v : UnpackedFloat}

theorem Reaches.storedAbove (h : Reaches b .positive u) : StoredAbove b u := by
  rcases h with hstored | ⟨m, e, hstored, hle⟩
  · exact ⟨_, congrArg Binary64.value? hstored, le_top⟩
  · exact ⟨_, congrArg Binary64.value? hstored, Extended.ofRat_le_ofRat.mpr hle⟩

theorem Reaches.storedBelow (h : Reaches (-b) .negative u) : StoredBelow b u := by
  rcases h with hstored | ⟨m, e, hstored, hle⟩
  · exact ⟨_, congrArg Binary64.value? hstored, bot_le⟩
  · exact ⟨_, congrArg Binary64.value? hstored, Extended.ofRat_le_ofRat.mpr (neg_le.mp hle)⟩

theorem StoredAbove.mono (h : StoredAbove q u) (hle : p ≤ q) : StoredAbove p u :=
  let ⟨v, hv, hqv⟩ := h
  ⟨v, hv, (Extended.ofRat_le_ofRat.mpr hle).trans hqv⟩

theorem StoredBelow.mono (h : StoredBelow p u) (hle : p ≤ q) : StoredBelow q u :=
  let ⟨v, hv, hvp⟩ := h
  ⟨v, hv, hvp.trans (Extended.ofRat_le_ofRat.mpr hle)⟩

/-- What can be taken apart is stored as it is. -/
theorem Parts.hasValue_pack (h : Parts u p) :
    HasValue (.ofModel (Float.Model.pack u)) p := by
  obtain ⟨r, hr, -⟩ := (h.stored (le_refl |p|)).exists_hasValue (abs_nonneg p)
  cases h with
  | zero sign =>
    refine (congrArg Binary64.value? (ofFloat_pack_zero sign)).trans ?_
    cases sign <;> simp [Binary64.value?, signed]
  | finite sign hpos hc hhigh =>
    rcases ofFloat_pack_canonical sign hc with hinfinite | hstored
    · rw [HasValue, hinfinite] at hr
      cases sign <;> cases hr
    · exact congrArg Binary64.value? hstored

theorem HasValue.storedAbove (h : HasValue (.ofModel (Float.Model.pack u)) p) (hle : b ≤ p) :
    StoredAbove b u := ⟨_, h, Extended.ofRat_le_ofRat.mpr hle⟩

theorem HasValue.storedBelow (h : HasValue (.ofModel (Float.Model.pack u)) p) (hle : p ≤ b) :
    StoredBelow b u := ⟨_, h, Extended.ofRat_le_ofRat.mpr hle⟩

private theorem normalize_zero (e : ℤ) (zeroSign : Sign) :
    UnpackedFloat.normalize Format.binary64 0 e zeroSign = .zero zeroSign := rfl

private theorem normalize_pos {n : ℤ} (hn : 0 < n) (e : ℤ) (zeroSign : Sign) :
    UnpackedFloat.normalize Format.binary64 n e zeroSign =
      UnpackedFloat.round Format.binary64 .positive n.toNat e := by
  unfold UnpackedFloat.normalize
  rw [Int.compare_eq_gt.mpr hn]

private theorem normalize_neg {n : ℤ} (hn : n < 0) (e : ℤ) (zeroSign : Sign) :
    UnpackedFloat.normalize Format.binary64 n e zeroSign =
      UnpackedFloat.round Format.binary64 .negative (-n).toNat e := by
  unfold UnpackedFloat.normalize
  rw [Int.compare_eq_lt.mpr hn]

/-- A whole number of units is not rounded to less than a number that is not above it. -/
private theorem storedAbove_normalize (hb : b ≠ 0 → ∃ M E, IsMagnitude |b| M E) {n : ℤ} (e : ℤ)
    (zeroSign : Sign) (h : b ≤ n * 2 ^ e) :
    StoredAbove b (UnpackedFloat.normalize Format.binary64 n e zeroSign) := by
  have hunit : (0 : ℚ) < 2 ^ e := by positivity
  rcases lt_trichotomy n 0 with hneg | rfl | hpos
  · -- below zero the magnitude may not get larger
    have hvalue : (n : ℚ) * 2 ^ e < 0 := mul_neg_of_neg_of_pos (by exact_mod_cast hneg) hunit
    have hbneg : b < 0 := h.trans_lt hvalue
    obtain ⟨M, E, hmagnitude⟩ := hb hbneg.ne
    have hle : |(n : ℚ)| * 2 ^ e ≤ |b| := by
      rw [abs_of_neg hbneg, abs_of_neg (by exact_mod_cast hneg : (n : ℚ) < 0)]
      linarith
    obtain ⟨r, hr, hrb⟩ :=
      (stored_normalize hmagnitude zeroSign hle).exists_hasValue (abs_nonneg b)
    rw [abs_of_neg hbneg] at hrb
    exact hr.storedAbove (by linarith [neg_abs_le r])
  · rw [normalize_zero]
    rw [Int.cast_zero, zero_mul] at h
    exact (Parts.zero zeroSign).hasValue_pack.storedAbove h
  · -- above zero it may not get smaller
    rw [normalize_pos hpos]
    rcases le_or_gt b 0 with hnonpos | hbpos
    · exact (reaches_round_zero .positive (by omega)).storedAbove.mono hnonpos
    · obtain ⟨M, E, hmagnitude⟩ := hb hbpos.ne'
      rw [abs_of_pos hbpos] at hmagnitude
      refine (hmagnitude.reaches_round .positive (by omega) (h.trans_eq ?_)).storedAbove
      rw [← Int.cast_natCast, Int.toNat_of_nonneg hpos.le]

/-- Nor to more than a number that is not below it. -/
private theorem storedBelow_normalize (hb : b ≠ 0 → ∃ M E, IsMagnitude |b| M E) {n : ℤ} (e : ℤ)
    (zeroSign : Sign) (h : n * 2 ^ e ≤ b) :
    StoredBelow b (UnpackedFloat.normalize Format.binary64 n e zeroSign) := by
  have hunit : (0 : ℚ) < 2 ^ e := by positivity
  rcases lt_trichotomy n 0 with hneg | rfl | hpos
  · rw [normalize_neg hneg]
    -- below zero the magnitude may not get smaller
    rcases le_or_gt 0 b with hnonneg | hbneg
    · refine StoredBelow.mono (Reaches.storedBelow ?_) hnonneg
      rw [neg_zero]
      exact reaches_round_zero .negative (by omega)
    · obtain ⟨M, E, hmagnitude⟩ := hb hbneg.ne
      rw [abs_of_neg hbneg] at hmagnitude
      refine (hmagnitude.reaches_round .negative (by omega) ?_).storedBelow
      rw [← Int.cast_natCast, Int.toNat_of_nonneg (by omega), Int.cast_neg]
      linarith
  · rw [normalize_zero]
    rw [Int.cast_zero, zero_mul] at h
    exact (Parts.zero zeroSign).hasValue_pack.storedBelow h
  · -- above zero it may not get larger
    have hvalue : 0 < (n : ℚ) * 2 ^ e := mul_pos (by exact_mod_cast hpos) hunit
    have hbpos : 0 < b := hvalue.trans_le h
    obtain ⟨M, E, hmagnitude⟩ := hb hbpos.ne'
    have hle : |(n : ℚ)| * 2 ^ e ≤ |b| := by
      rw [abs_of_pos hbpos, abs_of_pos (by exact_mod_cast hpos : 0 < (n : ℚ))]
      exact h
    obtain ⟨r, hr, hrb⟩ :=
      (stored_normalize hmagnitude zeroSign hle).exists_hasValue (abs_nonneg b)
    rw [abs_of_pos hbpos] at hrb
    exact hr.storedBelow ((le_abs_self r).trans hrb)

/-- A difference is one of the numbers as it is, or a whole number of units that is rounded. -/
private theorem sub_eq (hu : Parts u p) (hv : Parts v q) :
    Parts (UnpackedFloat.sub Format.binary64 u v) (p - q) ∨
      ∃ (n : ℤ) (e : ℤ) (zeroSign : Sign), UnpackedFloat.sub Format.binary64 u v =
        UnpackedFloat.normalize Format.binary64 n e zeroSign ∧ (n : ℚ) * 2 ^ e = p - q := by
  -- a zero leaves the other number as it is; two numbers are aligned and then rounded
  cases hu with
  | zero s =>
    left
    cases hv with
    | zero s' =>
      rw [sub_zero]
      cases s <;> cases s' <;> exact .zero _
    | finite s' hpos' hc' hhigh' =>
      rw [zero_sub]
      exact (Parts.finite s' hpos' hc' hhigh').neg
  | @finite s m e hpos hc hhigh =>
    cases hv with
    | zero s' =>
      left
      rw [sub_zero]
      exact .finite s hpos hc hhigh
    | @finite s' m' e' hpos' hc' hhigh' =>
      exact .inr ⟨_, _, _, rfl, aligned_value s s' m m' e e'⟩

/-- A difference is not rounded to less than a number that is not above it. -/
private theorem storedAbove_sub (hb : b ≠ 0 → ∃ M E, IsMagnitude |b| M E) (hu : Parts u p)
    (hv : Parts v q) (h : b ≤ p - q) : StoredAbove b (UnpackedFloat.sub Format.binary64 u v) := by
  rcases sub_eq hu hv with hexact | ⟨n, e, zeroSign, hsub, hvalue⟩
  · exact hexact.hasValue_pack.storedAbove h
  · rw [hsub]
    exact storedAbove_normalize hb e zeroSign (h.trans_eq hvalue.symm)

/-- Nor to more than a number that is not below it. -/
private theorem storedBelow_sub (hb : b ≠ 0 → ∃ M E, IsMagnitude |b| M E) (hu : Parts u p)
    (hv : Parts v q) (h : p - q ≤ b) : StoredBelow b (UnpackedFloat.sub Format.binary64 u v) := by
  rcases sub_eq hu hv with hexact | ⟨n, e, zeroSign, hsub, hvalue⟩
  · exact hexact.hasValue_pack.storedBelow h
  · rw [hsub]
    exact storedBelow_normalize hb e zeroSign (hvalue.trans_le h)

end Results

/-! ## Infinite operands -/

section Infinite

variable {p : ℚ} {u v : UnpackedFloat}

private theorem add_infinity (hu : Parts u p) :
    UnpackedFloat.add Format.binary64 u (.infinity .positive) = .infinity .positive := by
  cases hu <;> rfl

private theorem infinity_add (hv : NonNegative v) :
    UnpackedFloat.add Format.binary64 (.infinity .positive) v = .infinity .positive := by
  cases hv <;> rfl

private theorem sub_infinity (hu : Parts u p) :
    UnpackedFloat.sub Format.binary64 u (.infinity .positive) = .infinity .negative := by
  cases hu <;> rfl

private theorem infinity_sub (hv : NonNegative v) :
    UnpackedFloat.sub Format.binary64 (.infinity .negative) v = .infinity .negative := by
  cases hv <;> rfl

end Infinite

/-! ## Sums of floating-point numbers -/

section Sums

variable {x y : Float} {p q : ℚ}

private theorem unpack_of_infinite {negative : Bool}
    (h : Binary64.ofFloat x = .infinite negative) :
    x.toModel.unpack = .infinity (if negative then .negative else .positive) := by
  have hunpacked := unpacked x
  rw [h] at hunpacked
  generalize x.toModel.unpack = u at hunpacked
  generalize hv : Binary64.infinite negative = v at hunpacked
  cases hunpacked with
  | nan | zero sign | finite sign => cases hv
  | infinite sign =>
    cases sign <;> cases hv <;> rfl

/-- A number that is not below zero is a rational number or infinite. -/
private theorem AtLeastZero.cases (hy : AtLeastZero y) :
    (∃ q, HasValue y q ∧ 0 ≤ q) ∨ y.toModel.unpack = .infinity .positive := by
  cases hbinary : Binary64.ofFloat y with
  | nan => exact absurd hbinary hy.isNumber
  | finite negative m e =>
    have hvalue := congrArg Binary64.value? hbinary
    exact .inl ⟨_, hvalue, hy.nonneg hvalue⟩
  | infinite negative =>
    cases negative with
    | false => exact .inr (unpack_of_infinite hbinary)
    | true =>
      -- the negative infinity is below zero
      obtain ⟨v, hv, hle⟩ := hy
      rw [hbinary] at hv
      cases hv
      exact absurd (Extended.bot_lt_ofRat 0) hle.not_gt

private theorem value?_infinity (sign : Sign) :
    (Binary64.ofFloat (.ofModel (Float.Model.pack (.infinity sign)))).value? =
      some (endpoint (sign == .negative)) :=
  congrArg Binary64.value? (ofFloat_pack_infinity sign)

/-- **Adding does not lead down.**  A sum with a number that is not below zero is not less than the
other number. -/
theorem lt_add_eq_false (hy : AtLeastZero y) : Scalar.lt (x + y) x = false := by
  refine Bool.eq_false_iff.mpr fun hlt => ?_
  obtain ⟨s, r, hs, hr, hsr⟩ := (lt_iff_value_lt _ _).mp hlt
  change (Binary64.ofFloat (.ofModel (Float.Model.pack (UnpackedFloat.add Format.binary64
    x.toModel.unpack y.toModel.unpack)))).value? = some s at hs
  -- what is not finite stays what it is
  cases hx : Binary64.ofFloat x with
  | nan =>
    rw [hx] at hr
    cases hr
  | infinite negative =>
    rw [hx] at hr
    cases hr
    cases negative with
    | true => exact not_lt_bot hsr
    | false =>
      rw [unpack_of_infinite hx, if_neg Bool.false_ne_true, infinity_add hy.nonNegative,
        value?_infinity] at hs
      cases hs
      exact lt_irrefl _ hsr
  | finite negative m e =>
    have hvalue : HasValue x (signed negative (m * 2 ^ e)) := congrArg Binary64.value? hx
    generalize signed negative ((m : ℚ) * 2 ^ e) = p at hvalue
    obtain rfl := Option.some.inj (hvalue.symm.trans hr)
    rcases hy.cases with ⟨q, hq, hnonneg⟩ | hinfinity
    · -- the number itself is a bound that rounding does not go under
      rw [add_eq_sub_neg hvalue.parts hq.parts] at hs
      obtain ⟨s', hs', hle⟩ := storedAbove_sub hvalue.exists_isMagnitude_abs hvalue.parts
        hq.parts.neg (by linarith : p ≤ p - -q)
      obtain rfl := Option.some.inj (hs'.symm.trans hs)
      exact absurd hsr hle.not_gt
    · rw [hinfinity, add_infinity hvalue.parts, value?_infinity] at hs
      cases hs
      exact not_top_lt hsr

/-- **Taking away does not lead up.** -/
theorem lt_sub_eq_false (hy : AtLeastZero y) : Scalar.lt x (x - y) = false := by
  refine Bool.eq_false_iff.mpr fun hlt => ?_
  obtain ⟨r, s, hr, hs, hrs⟩ := (lt_iff_value_lt _ _).mp hlt
  change (Binary64.ofFloat (.ofModel (Float.Model.pack (UnpackedFloat.sub Format.binary64
    x.toModel.unpack y.toModel.unpack)))).value? = some s at hs
  -- what is not finite stays what it is
  cases hx : Binary64.ofFloat x with
  | nan =>
    rw [hx] at hr
    cases hr
  | infinite negative =>
    rw [hx] at hr
    cases hr
    cases negative with
    | false => exact not_top_lt hrs
    | true =>
      rw [unpack_of_infinite hx, if_pos rfl, infinity_sub hy.nonNegative, value?_infinity] at hs
      cases hs
      exact lt_irrefl _ hrs
  | finite negative m e =>
    have hvalue : HasValue x (signed negative (m * 2 ^ e)) := congrArg Binary64.value? hx
    generalize signed negative ((m : ℚ) * 2 ^ e) = p at hvalue
    obtain rfl := Option.some.inj (hvalue.symm.trans hr)
    rcases hy.cases with ⟨q, hq, hnonneg⟩ | hinfinity
    · -- the number itself is a bound that rounding does not go over
      obtain ⟨s', hs', hle⟩ := storedBelow_sub hvalue.exists_isMagnitude_abs hvalue.parts hq.parts
        (by linarith : p - q ≤ p)
      obtain rfl := Option.some.inj (hs'.symm.trans hs)
      exact absurd hrs hle.not_gt
    · rw [hinfinity, sub_infinity hvalue.parts, value?_infinity] at hs
      cases hs
      exact not_lt_bot hrs

/-! ## Whole multiples -/

private theorem NonNegative.mul {u v : UnpackedFloat} (hu : NonNegative u) (hv : Parts v q)
    (hq : 0 < q) : NonNegative (UnpackedFloat.mul Format.binary64 u v) := by
  cases hv.nonNegative hq.le with
  | infinity => cases hv
  | zero s' =>
    cases hv
    exact absurd hq (lt_irrefl 0)
  | finite e' hpos' =>
    cases hu with
    | infinity => exact .infinity
    | zero s => exact .zero _
    | finite e hpos => exact nonNegative_roundWithAccuracy _ _ _

/-- No whole number is below zero. -/
private theorem atLeastZero_ofNat (n : ℕ) : AtLeastZero (Scalar.ofNat n) := by
  change AtLeastZero (Float.ofScientific n false 0)
  unfold Float.ofScientific
  by_cases hsmall : n < 2 ^ 53
  · -- a short number is converted by the machine and multiplied by the first power of ten
    rw [dif_pos ⟨hsmall, by decide⟩]
    have hconverted : AtLeastZero n.toUInt64.toFloat :=
      (nonNegative_normalize (Int.natCast_nonneg n.toUInt64.toNat) 0 .positive).atLeastZero
    exact (hconverted.nonNegative.mul hasValue_powerOfTen_zero.parts one_pos).atLeastZero
  · -- a long one is rounded once, with digits to spare
    rw [dif_neg (fun hboth => hsmall hboth.1)]
    change AtLeastZero (.ofModel (Float.Model.pack
      (UnpackedFloat.ofScientific Format.binary64 n 0)))
    have hlow : ¬(0 : ℤ) < -(2 ^ 11 + n.log2) := by omega
    unfold UnpackedFloat.ofScientific
    rw [dif_neg (by omega), if_neg (by decide), if_neg hlow, if_pos le_rfl, mul_positive]
    exact (nonNegative_roundWithAccuracy _ _ _).atLeastZero

/-- A whole multiple of a positive number is not below zero. -/
theorem HasValue.atLeastZero_ofNat_mul (hy : HasValue y q) (hq : 0 < q) (n : ℕ) :
    AtLeastZero (Scalar.ofNat n * y) :=
  ((atLeastZero_ofNat n).nonNegative.mul hy.parts hq).atLeastZero

end Sums

end Machining.Numeric
