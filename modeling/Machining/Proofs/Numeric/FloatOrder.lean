import Machining.Proofs.Numeric.Order

/-!
# Floating-point numbers in their order

The comparison of floating-point numbers looks at signs, exponents and mantissas.  This module shows
that it is the comparison of their values: `lt_iff_value_lt` and `le_iff_value_le`.  So
floating-point numbers are an `OrderedScalar`.
-/

namespace Machining.Numeric

open Float.Model Float.Model.UnpackedFloat

/-! ## The parts of a number -/

/-- The form that mantissa and exponent of a finite number have. -/
structure Canonical (mantissa : ℕ) (exponent : ℤ) : Prop where
  pos : 0 < mantissa
  lt : mantissa < 2 ^ 53
  le : Binary64.leastExponent ≤ exponent
  normal : Binary64.leastExponent < exponent → 2 ^ 52 ≤ mantissa

/-- What a floating-point number is taken apart to. -/
inductive Unpacked : UnpackedFloat → Binary64 → Prop where
  /-- No number. -/
  | nan : Unpacked .notANumber .nan
  /-- An infinity. -/
  | infinite (sign : Sign) : Unpacked (.infinity sign) (.infinite (sign == .negative))
  /-- A zero. -/
  | zero (sign : Sign) :
    Unpacked (.zero sign) (.finite (sign == .negative) 0 Binary64.leastExponent)
  /-- Any other number. -/
  | finite (sign : Sign) {mantissa : ℕ} {exponent : ℤ} (hpos : 0 < mantissa)
      (hcanonical : Canonical mantissa exponent) :
      Unpacked (.finite sign mantissa exponent hpos)
        (.finite (sign == .negative) mantissa exponent)

section Bits

variable (x : Float)

private theorem toNat_mantissa :
    (@unpackMantissa Format.binary64 x.toModel.toBits.toBitVec).toNat =
      x.toBits.toNat % 2 ^ 52 := by
  change _ = x.toModel.toBits.toBitVec.toNat % 2 ^ 52
  simp [unpackMantissa]

private theorem toNat_exponent :
    (@unpackExponent Format.binary64 x.toModel.toBits.toBitVec).toNat =
      x.toBits.toNat / 2 ^ 52 % 2 ^ 11 := by
  change _ = x.toModel.toBits.toBitVec.toNat / 2 ^ 52 % 2 ^ 11
  simp [unpackExponent, Nat.shiftRight_eq_div_pow]

private theorem sign_eq :
    (Sign.ofBitVec (@unpackSign Format.binary64 x.toModel.toBits.toBitVec) ==
      .negative) = decide (2 ^ 63 ≤ x.toBits.toNat) := by
  -- the sign is the highest of the 64 bits
  have hbits : (@unpackSign Format.binary64 x.toModel.toBits.toBitVec).toNat =
      x.toBits.toNat / 2 ^ 63 % 2 := by
    change _ = x.toModel.toBits.toBitVec.toNat / 2 ^ 63 % 2
    delta unpackSign
    simp [Nat.shiftRight_eq_div_pow]
  have hlt := x.toBits.toNat_lt
  -- which is set for the numbers from `2 ^ 63` on, as they are below `2 ^ 64`
  by_cases hneg : 2 ^ 63 ≤ x.toBits.toNat
  · have hone : @unpackSign Format.binary64 x.toModel.toBits.toBitVec = 1#1 := by
      apply BitVec.eq_of_toNat_eq
      rw [hbits]
      simp only [BitVec.toNat_ofNat]
      omega
    rw [hone, decide_eq_true hneg]
    rfl
  · have hzero : @unpackSign Format.binary64 x.toModel.toBits.toBitVec = 0#1 := by
      apply BitVec.eq_of_toNat_eq
      rw [hbits]
      simp only [BitVec.toNat_ofNat]
      omega
    rw [hzero, decide_eq_false hneg]
    rfl

private theorem exponent_eq_iff (value : BitVec 11) :
    @unpackExponent Format.binary64 x.toModel.toBits.toBitVec = value ↔
      x.toBits.toNat / 2 ^ 52 % 2 ^ 11 = value.toNat := by
  rw [← toNat_exponent]
  exact BitVec.toNat_inj.symm

private theorem mantissa_eq_zero_iff :
    @unpackMantissa Format.binary64 x.toModel.toBits.toBitVec = 0#52 ↔
      x.toBits.toNat % 2 ^ 52 = 0 := by
  rw [← toNat_mantissa]
  exact BitVec.toNat_inj.symm

private theorem unpacked_finite (sign : Sign) {m m' : ℕ} {e e' : ℤ} (hpos : 0 < m) (hm : m = m')
    (he : e = e') (hlt : m' < 2 ^ 53) (hle : Binary64.leastExponent ≤ e')
    (hnormal : Binary64.leastExponent < e' → 2 ^ 52 ≤ m') :
    Unpacked (.finite sign m e hpos) (.finite (sign == .negative) m' e') := by
  subst hm he
  exact .finite sign hpos ⟨hpos, hlt, hle, hnormal⟩

/-- A normal number has a hidden bit in front of its fraction. -/
private theorem toNat_hidden (fraction : BitVec 52) :
    (1#1 ++ fraction).toNat = Binary64.hiddenBit + fraction.toNat := by
  rw [BitVec.toNat_append, ← Nat.shiftLeft_add_eq_or_of_lt fraction.isLt]
  rfl

/-- The bits are taken apart alike. -/
theorem unpacked (x : Float) : Unpacked x.toModel.unpack (Binary64.ofFloat x) := by
  -- what both readings ask of the bits is the same, field by field
  have hmantissa := toNat_mantissa x
  have hexponent := toNat_exponent x
  have hones := exponent_eq_iff x (-1#11)
  have hzeros := exponent_eq_iff x 0#11
  have hzero := mantissa_eq_zero_iff x
  unfold Binary64.ofFloat Float.Model.unpack UnpackedFloat.unpack
  dsimp only
  rw [← sign_eq x]
  generalize Sign.ofBitVec (@unpackSign Format.binary64 x.toModel.toBits.toBitVec) = sign
  -- the cases are those of the exponent, and inside them of the mantissa
  by_cases hfield : x.toBits.toNat / 2 ^ 52 % 2 ^ 11 = 2047
  · -- an exponent of ones alone: an infinity, or no number
    rw [if_pos (hones.mpr hfield), if_pos hfield]
    by_cases hfraction : x.toBits.toNat % 2 ^ 52 = 0
    · rw [if_pos (hzero.mpr hfraction), if_pos hfraction]
      exact .infinite sign
    · rw [if_neg (hzero.not.mpr hfraction), if_neg hfraction]
      exact .nan
  · rw [if_neg (hones.not.mpr hfield), if_neg hfield]
    by_cases hleast : x.toBits.toNat / 2 ^ 52 % 2 ^ 11 = 0
    · -- an exponent of zeros alone: zero, or a mantissa without a hidden bit
      rw [if_pos (hzeros.mpr hleast), if_pos hleast]
      by_cases hfraction : x.toBits.toNat % 2 ^ 52 = 0
      · rw [dif_pos (hzero.mpr hfraction), hfraction]
        exact .zero sign
      · rw [dif_neg (hzero.not.mpr hfraction)]
        refine unpacked_finite sign _ hmantissa ?_ ?_ (by decide) fun hlt =>
          absurd hlt (Int.lt_irrefl _)
        · rw [hexponent, hleast]
          rfl
        · omega
    · -- any other exponent: the mantissa has its hidden bit
      rw [if_neg (hzeros.not.mpr hleast), if_neg hleast]
      refine unpacked_finite sign _ ?_ ?_ ?_ ?_ ?_
      · rw [toNat_hidden, hmantissa]
      · rw [hexponent]
        rfl
      · unfold Binary64.hiddenBit
        omega
      · unfold Binary64.leastExponent
        omega
      · intro _
        unfold Binary64.hiddenBit
        omega

end Bits

/-! ## Comparing -/

/-- Of two numbers in canonical form, one with a smaller exponent is smaller. -/
private theorem value_lt_of_exponent_lt {m m' : ℕ} {e e' : ℤ} (h : Canonical m e)
    (h' : Canonical m' e') (hlt : e < e') : (m : ℚ) * 2 ^ e < m' * 2 ^ e' := by
  have hm : (m : ℚ) < 2 ^ 53 := by exact_mod_cast h.lt
  have hm' : (2 : ℚ) ^ 52 ≤ m' := by
    exact_mod_cast h'.normal (Int.lt_of_le_of_lt h.le hlt)
  -- the hidden bit of the larger one outweighs every mantissa of the smaller one
  calc (m : ℚ) * 2 ^ e < 2 ^ 53 * 2 ^ e := by gcongr
    _ = 2 ^ 52 * 2 ^ (e + 1) := by
        rw [zpow_add_one₀ (by norm_num)]
        ring
    _ ≤ m' * 2 ^ e' := by
        gcongr
        · norm_num
        · exact hlt

/-- Comparing exponents first and mantissas then compares the values. -/
theorem compare_eq {m m' : ℕ} {e e' : ℤ} (h : Canonical m e) (h' : Canonical m' e') :
    (compare e e').then (compare m m') = compare ((m : ℚ) * 2 ^ e) (m' * 2 ^ e') := by
  -- canonical numbers with different exponents are in the order of these
  rcases lt_trichotomy e e' with hlt | rfl | hgt
  · rw [compare_lt_iff_lt.mpr hlt, compare_lt_iff_lt.mpr (value_lt_of_exponent_lt h h' hlt)]
    rfl
  · have hpos : (0 : ℚ) < 2 ^ e := by positivity
    rw [compare_eq_iff_eq.mpr rfl]
    rcases lt_trichotomy m m' with hlt | rfl | hgt
    · rw [compare_lt_iff_lt.mpr hlt]
      exact (compare_lt_iff_lt.mpr (mul_lt_mul_of_pos_right (by exact_mod_cast hlt) hpos)).symm
    · rw [compare_eq_iff_eq.mpr rfl, compare_eq_iff_eq.mpr rfl]
      rfl
    · rw [compare_gt_iff_gt.mpr hgt]
      exact (compare_gt_iff_gt.mpr (mul_lt_mul_of_pos_right (by exact_mod_cast hgt) hpos)).symm
  · rw [compare_gt_iff_gt.mpr hgt, compare_gt_iff_gt.mpr (value_lt_of_exponent_lt h' h hgt)]
    rfl

private theorem not_nan_lt (v : Binary64) :
    ¬ ∃ x y, Binary64.nan.value? = some x ∧ v.value? = some y ∧ x < y := by
  rintro ⟨_, _, hx, _⟩
  cases hx

private theorem not_lt_nan (u : Binary64) :
    ¬ ∃ x y, u.value? = some x ∧ Binary64.nan.value? = some y ∧ x < y := by
  rintro ⟨_, _, _, hy, _⟩
  cases hy

private theorem exists_lt_iff {u v : Extended} :
    (∃ x y, some u = some x ∧ some v = some y ∧ x < y) ↔ u < v := by
  simp

private theorem signed_zero (negative : Bool) (exponent : ℤ) :
    signed negative ((0 : ℕ) * (2 : ℚ) ^ exponent) = 0 := by
  cases negative <;> simp [signed]

private theorem none_ne_lt : none ≠ some Ordering.lt := by decide

private theorem gt_ne_lt : some Ordering.gt ≠ some Ordering.lt := by decide

private theorem eq_ne_lt : some Ordering.eq ≠ some Ordering.lt := by decide

/-- Two numbers that are neither zero nor infinite compare as their values do. -/
private theorem finite_compare (s s' : Sign) {m m' : ℕ} {e e' : ℤ} (hm : 0 < m) (hm' : 0 < m')
    (h : Canonical m e) (h' : Canonical m' e') :
    (UnpackedFloat.finite s m e hm).compare (.finite s' m' e' hm') = some .lt ↔
      signed (s == .negative) (m * (2 : ℚ) ^ e) < signed (s' == .negative) (m' * (2 : ℚ) ^ e') := by
  have hpos : (0 : ℚ) < m * 2 ^ e := by positivity
  have hpos' : (0 : ℚ) < m' * 2 ^ e' := by positivity
  -- with equal signs the order is that of the magnitudes, or its reverse; else the sign decides
  cases s with
  | positive =>
    cases s' with
    | positive =>
      change some ((compare e e').then (compare m m')) = _ ↔ m * (2 : ℚ) ^ e < m' * (2 : ℚ) ^ e'
      rw [compare_eq h h', Option.some_inj, compare_lt_iff_lt]
    | negative =>
      change some Ordering.gt = _ ↔ m * (2 : ℚ) ^ e < -(m' * (2 : ℚ) ^ e')
      exact iff_of_false gt_ne_lt (by linarith)
  | negative =>
    cases s' with
    | positive =>
      change some Ordering.lt = _ ↔ -(m * (2 : ℚ) ^ e) < m' * (2 : ℚ) ^ e'
      exact iff_of_true rfl (by linarith)
    | negative =>
      change some ((compare e e').then (compare m m')).swap = _ ↔
        -(m * (2 : ℚ) ^ e) < -(m' * (2 : ℚ) ^ e')
      rw [compare_eq h h', Option.some_inj, Ordering.swap_eq_lt, compare_gt_iff_gt, neg_lt_neg_iff]

/-- The comparison of the parts is the comparison of the values. -/
theorem unpacked_compare {a b : UnpackedFloat} {u v : Binary64} (ha : Unpacked a u)
    (hb : Unpacked b v) :
    a.compare b = some .lt ↔
      ∃ x y, u.value? = some x ∧ v.value? = some y ∧ x < y := by
  -- nothing is comparable with a nan, and an infinity is beyond all others: what is left
  -- is a comparison of two rational numbers
  cases ha with
  | nan => exact iff_of_false none_ne_lt (not_nan_lt v)
  | infinite s =>
    cases hb with
    | nan => cases s <;> exact iff_of_false none_ne_lt (not_lt_nan _)
    | infinite s' =>
      rw [Binary64.value?, Binary64.value?, exists_lt_iff]
      cases s <;> cases s' <;> decide
    | zero s' | finite s' hpos' h' =>
      rw [Binary64.value?, Binary64.value?, exists_lt_iff]
      cases s with
      | positive => exact iff_of_false gt_ne_lt not_top_lt
      | negative => exact iff_of_true rfl (Extended.bot_lt_ofRat _)
  | zero s =>
    cases hb with
    | nan => exact iff_of_false none_ne_lt (not_lt_nan _)
    | infinite s' =>
      rw [Binary64.value?, Binary64.value?, exists_lt_iff]
      cases s' with
      | positive => exact iff_of_true rfl (Extended.ofRat_lt_top _)
      | negative => exact iff_of_false gt_ne_lt not_lt_bot
    -- zeros are equal, whatever their signs
    | zero s' =>
      rw [Binary64.value?, Binary64.value?, exists_lt_iff, Extended.ofRat_lt_ofRat, signed_zero,
        signed_zero]
      exact iff_of_false eq_ne_lt (lt_irrefl 0)
    | @finite s' m' e' hpos' h' =>
      -- zero against a number: its sign decides
      have hvalue : (0 : ℚ) < m' * 2 ^ e' := by positivity
      rw [Binary64.value?, Binary64.value?, exists_lt_iff, Extended.ofRat_lt_ofRat, signed_zero]
      cases s' with
      | positive => exact iff_of_true rfl hvalue
      | negative => exact iff_of_false gt_ne_lt fun hlt => absurd (neg_pos.mp hlt) hvalue.le.not_gt
  | @finite s m e hpos h =>
    -- and the other way round
    have hvalue : (0 : ℚ) < m * 2 ^ e := by positivity
    cases hb with
    | nan => cases s <;> exact iff_of_false none_ne_lt (not_lt_nan _)
    | infinite s' =>
      rw [Binary64.value?, Binary64.value?, exists_lt_iff]
      cases s' with
      | positive => cases s <;> exact iff_of_true rfl (Extended.ofRat_lt_top _)
      | negative => cases s <;> exact iff_of_false gt_ne_lt not_lt_bot
    | zero s' =>
      rw [Binary64.value?, Binary64.value?, exists_lt_iff, Extended.ofRat_lt_ofRat, signed_zero]
      cases s with
      | positive => exact iff_of_false gt_ne_lt hvalue.le.not_gt
      | negative => exact iff_of_true rfl (neg_lt_zero.mpr hvalue)
    | finite s' hpos' h' =>
      rw [Binary64.value?, Binary64.value?, exists_lt_iff, Extended.ofRat_lt_ofRat]
      exact finite_compare s s' hpos hpos' h h'

theorem lt_iff_compare (x y : Float) :
    x.lt y = true ↔ x.toModel.unpack.compare y.toModel.unpack = some .lt := by
  unfold Float.lt
  rw [decide_eq_true_iff]
  change (x.toModel.unpack.compare y.toModel.unpack == some .lt) = true ↔ _
  rw [beq_iff_eq]

/-- **Floating-point numbers compare as their values do.** -/
theorem lt_iff_value_lt (x y : Float) :
    x.lt y = true ↔
      ∃ u v, (Binary64.ofFloat x).value? = some u ∧ (Binary64.ofFloat y).value? = some v ∧
        u < v := by
  rw [lt_iff_compare]
  exact unpacked_compare (unpacked x) (unpacked y)

instance : OrderedScalar Float where
  lt_irrefl x := by
    by_contra hlt
    obtain ⟨u, v, hu, hv, huv⟩ := (lt_iff_value_lt x x).mp (Bool.eq_true_of_not_eq_false hlt)
    rw [hu] at hv
    cases hv
    exact lt_irrefl u huv
  lt_trans {x y z} hxy hyz := by
    obtain ⟨u, v, hu, hv, huv⟩ := (lt_iff_value_lt x y).mp hxy
    obtain ⟨v', w, hv', hw, hvw⟩ := (lt_iff_value_lt y z).mp hyz
    rw [hv] at hv'
    cases hv'
    exact (lt_iff_value_lt x z).mpr ⟨u, w, hu, hw, huv.trans hvw⟩
  lt_of_below {places x y} h := (lt_iff_value_lt x y).mpr (Fixed.value_lt_of_below h)

/-! ## Order -/

/-- Compared the other way round, the answer is turned around. -/
private theorem compare_swap (a b : UnpackedFloat) :
    b.compare a = (a.compare b).map Ordering.swap := by
  -- two finite numbers are compared by exponent first and then by mantissa
  have hparts (m m' : ℕ) (e e' : ℤ) : (compare e' e).then (compare m' m) =
      ((compare e e').then (compare m m')).swap := by
    rw [Ordering.swap_then, Int.compare_swap, Nat.compare_swap]
  cases a with
  | notANumber => cases b <;> rfl
  | infinity s | zero s => cases s <;> rcases b with ⟨⟨⟩⟩ | _ | _ | ⟨⟨⟩⟩ <;> rfl
  | finite s m e hm =>
    rcases b with s' | _ | _ | ⟨s', m', e', hm'⟩
    · cases s <;> cases s' <;> rfl
    · cases s <;> rfl
    · cases s <;> rfl
    · -- only with equal signs are the magnitudes looked at
      have h := hparts m m' e e'
      cases s with
      | negative =>
        cases s' with
        | negative => exact congrArg (fun order => some order.swap) h
        | positive => rfl
      | positive =>
        cases s' with
        | negative => rfl
        | positive => exact congrArg some h

/-- Only "no number" compares with nothing. -/
private theorem compare_eq_none {a b : UnpackedFloat} (h : a.compare b = none) :
    a = .notANumber ∨ b = .notANumber := by
  cases a with
  | notANumber => exact .inl rfl
  | infinity s | zero s | finite s =>
    cases b with
    | notANumber => exact .inr rfl
    | infinity s' | zero s' | finite s' => cases s <;> cases s' <;> cases h

private theorem Unpacked.value?_eq_none_iff {a : UnpackedFloat} {u : Binary64} (h : Unpacked a u) :
    u.value? = none ↔ a = .notANumber := by
  cases h with
  | nan => exact iff_of_true rfl rfl
  | infinite sign | zero sign | finite sign =>
    exact iff_of_false (Option.some_ne_none _) UnpackedFloat.noConfusion

/-- Whether the parts are in order is whether the values are. -/
theorem unpacked_le {a b : UnpackedFloat} {u v : Binary64} (ha : Unpacked a u)
    (hb : Unpacked b v) :
    a.le b = true ↔ ∃ x y, u.value? = some x ∧ v.value? = some y ∧ x ≤ y := by
  have hgreater := unpacked_compare hb ha
  rw [compare_swap a b] at hgreater
  unfold UnpackedFloat.le
  cases hcompare : a.compare b with
  | none =>
    refine iff_of_false Bool.false_ne_true ?_
    rintro ⟨x, y, hx, hy, -⟩
    rcases compare_eq_none hcompare with hnan | hnan
    · rw [ha.value?_eq_none_iff.mpr hnan] at hx
      cases hx
    · rw [hb.value?_eq_none_iff.mpr hnan] at hy
      cases hy
  | some order =>
    have hu : u.value? ≠ none := fun hnone => by
      rw [ha.value?_eq_none_iff.mp hnone] at hcompare
      cases hcompare
    have hv : v.value? ≠ none := fun hnone => by
      rw [hb.value?_eq_none_iff.mp hnone] at hcompare
      rcases a with s | _ | s | s <;> cases hcompare
    obtain ⟨x, hx⟩ := Option.ne_none_iff_exists'.mp hu
    obtain ⟨y, hy⟩ := Option.ne_none_iff_exists'.mp hv
    -- in order is what is not the other way round
    have hle : order.isLE = true ↔ ¬ (some order).map Ordering.swap = some .lt := by
      cases order <;> decide
    rw [hcompare, hx, hy] at hgreater
    rw [Option.any_some, hle, hgreater, hx, hy]
    simp

/-- **Floating-point numbers are in order when their values are.** -/
theorem le_iff_value_le (x y : Float) :
    x.le y = true ↔
      ∃ u v, (Binary64.ofFloat x).value? = some u ∧ (Binary64.ofFloat y).value? = some v ∧
        u ≤ v := by
  unfold Float.le
  rw [decide_eq_true_iff]
  exact unpacked_le (unpacked x) (unpacked y)

/-- What is less is in order. -/
theorem le_of_lt_eq_true {x y : Float} (h : x.lt y = true) : x.le y = true := by
  obtain ⟨u, v, hu, hv, huv⟩ := (lt_iff_value_lt x y).mp h
  exact (le_iff_value_le x y).mpr ⟨u, v, hu, hv, huv.le⟩

/-- Equal numbers are in order. -/
theorem le_of_beq {x y : Float} (h : x.beq y = true) : x.le y = true := by
  unfold Float.le
  rw [decide_eq_true_iff]
  have heq : x.toModel.unpack.compare y.toModel.unpack = some .eq := beq_iff_eq.mp h
  change (x.toModel.unpack.compare y.toModel.unpack).any (·.isLE) = true
  rw [heq]
  rfl

end Machining.Numeric
