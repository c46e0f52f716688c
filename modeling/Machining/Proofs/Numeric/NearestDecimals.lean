import Machining.Proofs.Numeric.FloatRange

/-!
# The nearest decimal

A number lies between two multiples of the unit of the last place.  `IsNearest` singles out the one
that a rounded number should be: the nearer of the two, and from halfway the even one.  There is one
for every floating-point number, and it is what is printed (`HasValue.exists_isNearest`); there is
only one, and a number that is not less has one that is not less (`IsNearest.mono`).
-/

namespace Machining.Numeric

/-! ## The nearest multiple -/

/-- Whether so many units of `1 / 10 ^ places` are nearest to a number: no other multiple is nearer,
and only an even one has another that is as near. -/
structure IsNearest (places : ℕ) (v : ℚ) (units : ℤ) : Prop where
  le : ∀ other : ℤ, |v - units / 10 ^ places| ≤ |v - other / 10 ^ places|
  even : ∀ other : ℤ, other ≠ units →
    |v - other / 10 ^ places| = |v - units / 10 ^ places| → Even units

section Nearest

variable {places : ℕ} {v w : ℚ} {units m n : ℤ}

/-- A distance from a multiple, measured in units. -/
theorem abs_sub_multiple (places : ℕ) (v : ℚ) (units : ℤ) :
    |v - units / 10 ^ places| = |v * 10 ^ places - units| / 10 ^ places := by
  have hunit : (0 : ℚ) < 10 ^ places := by positivity
  have hscaled : v - units / 10 ^ places = (v * 10 ^ places - units) / 10 ^ places := by
    field_simp
  rw [hscaled, abs_div, abs_of_pos hunit]

private theorem isNearest_iff_of_units : IsNearest places v units ↔
    (∀ other : ℤ, |v * 10 ^ places - units| ≤ |v * 10 ^ places - other|) ∧
      ∀ other : ℤ, other ≠ units →
        |v * 10 ^ places - other| = |v * 10 ^ places - units| → Even units := by
  have hunit : (0 : ℚ) < 10 ^ places := by positivity
  have hle (other : ℤ) := div_le_div_iff_of_pos_right (a := |v * 10 ^ places - units|)
    (b := |v * 10 ^ places - other|) hunit
  have heq (other : ℤ) := div_left_inj' (a := |v * 10 ^ places - other|)
    (b := |v * 10 ^ places - units|) hunit.ne'
  simp only [← hle, ← heq, ← abs_sub_multiple]
  exact ⟨fun h => ⟨h.le, h.even⟩, fun h => ⟨h.1, h.2⟩⟩

/-- The nearest multiple is half a unit away at the most, and even if it is as far away as that. -/
theorem isNearest_iff : IsNearest places v units ↔
    |v * 10 ^ places - units| ≤ 1 / 2 ∧ (|v * 10 ^ places - units| = 1 / 2 → Even units) := by
  rw [isNearest_iff_of_units]
  generalize v * 10 ^ places = q
  constructor
  · rintro ⟨hle, heven⟩
    -- the multiples next to this one are a unit away on either side
    have hup : |q - units| ≤ |q - units - 1| := by
      simpa [sub_sub] using hle (units + 1)
    have hdown : |q - units| ≤ |q - units + 1| := by
      simpa [sub_add] using hle (units - 1)
    have hevenUp : |q - units - 1| = |q - units| → Even units := by
      simpa [sub_sub] using heven (units + 1) (by omega)
    have hevenDown : |q - units + 1| = |q - units| → Even units := by
      simpa [sub_add] using heven (units - 1) (by omega)
    generalize q - units = d at *
    have hd := sq_le_sq.mpr hup
    have hd' := sq_le_sq.mpr hdown
    refine ⟨abs_le.mpr ⟨by linarith, by linarith⟩, fun hhalf => ?_⟩
    rcases (abs_eq one_half_pos.le).mp hhalf with rfl | rfl
    · exact hevenUp (by norm_num)
    · exact hevenDown (by norm_num)
  · rintro ⟨hhalf, heven⟩
    -- two multiples are a unit apart or more, so half of it lies on one of the two sides
    have hapart {other : ℤ} (hne : other ≠ units) :
        1 ≤ |q - other| + |q - units| := by
      have hone : (1 : ℤ) ≤ |other - units| := Int.one_le_abs (sub_ne_zero.mpr hne)
      calc (1 : ℚ) ≤ |(other : ℚ) - units| := by exact_mod_cast hone
        _ = |(q - units) - (q - other)| := by congr 1; ring
        _ ≤ |q - units| + |q - other| := abs_sub _ _
        _ = |q - other| + |q - units| := add_comm _ _
    constructor
    · intro other
      rcases eq_or_ne other units with rfl | hne
      · exact le_refl _
      · have := hapart hne
        linarith
    · intro other hne heq
      have := hapart hne
      exact heven (by linarith)

/-- A number that is not less has a nearest multiple that is not less. -/
theorem IsNearest.mono (hm : IsNearest places v m) (hn : IsNearest places w n) (h : v ≤ w) :
    m ≤ n := by
  obtain ⟨hvm, hevenm⟩ := isNearest_iff.mp hm
  obtain ⟨hwn, hevenn⟩ := isNearest_iff.mp hn
  have hscaled : v * 10 ^ places ≤ w * 10 ^ places := by gcongr
  generalize v * 10 ^ places = p at *
  generalize w * 10 ^ places = q at *
  obtain ⟨hlow, -⟩ := abs_le.mp hvm
  obtain ⟨-, hhigh⟩ := abs_le.mp hwn
  -- else both numbers lie halfway between two multiples, and both of these would be even
  by_contra hlt
  have hsucc : n + 1 ≤ m := by omega
  have hcast : (n : ℚ) + 1 ≤ m := by exact_mod_cast hsucc
  have hcast' : (m : ℚ) ≤ n + 1 := by linarith
  have hm_eq : m = n + 1 := le_antisymm (by exact_mod_cast hcast') hsucc
  have hp : p - m = -(1 / 2) := by linarith
  have hq : q - n = 1 / 2 := by linarith
  have hevenm := hevenm (by rw [hp]; norm_num)
  have hevenn := hevenn (by rw [hq]; norm_num)
  rw [hm_eq, Int.even_add_one] at hevenm
  exact hevenm hevenn

/-- Nothing has two nearest multiples. -/
theorem IsNearest.unique (hm : IsNearest places v m) (hn : IsNearest places v n) : m = n :=
  le_antisymm (hm.mono hn le_rfl) (hn.mono hm le_rfl)

end Nearest

/-! ## What is printed -/

/-- The rounded quotient is at most half away from the quotient, and even where it is half away. -/
private theorem abs_div_sub_roundHalfEven (num : ℕ) {den : ℕ} (hden : 0 < den) :
    |(num : ℚ) / den - roundHalfEven num den| ≤ 1 / 2 ∧
      (|(num : ℚ) / den - roundHalfEven num den| = 1 / 2 → Even (roundHalfEven num den)) := by
  obtain ⟨hup, hdown, heven, heven'⟩ := roundHalfEven_spec num hden
  generalize roundHalfEven num den = r at *
  have hq : (0 : ℚ) < den := by exact_mod_cast hden
  have hup' : 2 * (r : ℚ) * den ≤ 2 * num + den := by exact_mod_cast hup
  have hdown' : 2 * (num : ℚ) ≤ 2 * r * den + den := by exact_mod_cast hdown
  -- the distance as one fraction, so that both sides can be compared in whole numbers
  have hdistance : (num : ℚ) / den - r = (num - r * den) / den := by
    field_simp
  rw [hdistance, abs_div, abs_of_pos hq, div_le_iff₀ hq, div_eq_iff hq.ne']
  refine ⟨abs_le.mpr ⟨by linarith, by linarith⟩, fun hhalf => Nat.even_iff.mpr ?_⟩
  -- halfway from either side, the rounded number is the even one
  rcases (abs_eq (by positivity)).mp hhalf with habove | hbelow
  · apply heven'
    have hcast : 2 * (num : ℚ) = 2 * r * den + den := by linarith
    exact_mod_cast hcast
  · apply heven
    have hcast : 2 * (num : ℚ) + den = 2 * r * den := by linarith
    exact_mod_cast hcast

private theorem abs_signed_sub (negative : Bool) (q : ℚ) (n : ℕ) :
    |signed negative q - (signed negative (n : ℤ) : ℤ)| = |q - n| := by
  cases negative with
  | false => simp [signed]
  | true =>
    simp only [signed, if_true, Int.cast_neg, Int.cast_natCast]
    rw [neg_sub_neg, abs_sub_comm]

/-- A decimal without the sign of a zero is a whole number of units with its own sign. -/
theorem Fixed.unsigned_decimal (negative : Bool) (n places : ℕ) :
    (Fixed.decimal negative n places).unsigned =
      .decimal (decide (signed negative (n : ℤ) < 0)) (signed negative (n : ℤ)).natAbs places := by
  cases negative with
  | false => simp [Fixed.unsigned, signed]
  | true =>
    cases n with
    | zero => simp [Fixed.unsigned, signed]
    | succ n =>
      have hneg : -((n + 1 : ℕ) : ℤ) < 0 := by omega
      simp only [Fixed.unsigned, signed, if_true, hneg, decide_true, Int.natAbs_neg,
        Int.natAbs_natCast]

/-- **What is printed of a number is its nearest multiple**, with its sign and in digits. -/
theorem HasValue.exists_isNearest {x : Float} {v : ℚ} (h : HasValue x v) (places : ℕ) :
    ∃ units : ℤ, IsNearest places v units ∧
      (Scalar.fixed places x).unsigned = .decimal (decide (units < 0)) units.natAbs places := by
  obtain ⟨negative, m, e, hx, rfl⟩ := h.exists_eq_finite
  have hdown : 0 < (powerParts 2 e).2 := Nat.pow_pos (by decide)
  obtain ⟨hhalf, heven⟩ :=
    abs_div_sub_roundHalfEven (m * (powerParts 2 e).1 * 10 ^ places) hdown
  have hprinted : Scalar.fixed places x = .decimal negative
      (roundHalfEven (m * (powerParts 2 e).1 * 10 ^ places) (powerParts 2 e).2) places := by
    change Fixed.ofFloat places x = _
    rw [Fixed.ofFloat, hx]
  generalize roundHalfEven (m * (powerParts 2 e).1 * 10 ^ places) (powerParts 2 e).2 = r at *
  -- the quotient that is rounded is the magnitude in units
  have hunits : signed negative ((m : ℚ) * 2 ^ e) * 10 ^ places =
      signed negative ((m * (powerParts 2 e).1 * 10 ^ places : ℕ) / (powerParts 2 e).2 : ℚ) := by
    rw [zpow_eq_powerParts]
    push_cast
    cases negative <;> simp only [signed, if_true, Bool.false_eq_true, if_false] <;> ring
  refine ⟨signed negative (r : ℤ), isNearest_iff.mpr ?_, ?_⟩
  · rw [hunits, abs_signed_sub]
    refine ⟨hhalf, fun h => ?_⟩
    have hr : Even (r : ℤ) := by exact_mod_cast heven h
    cases negative with
    | false => exact hr
    | true => exact hr.neg
  · rw [hprinted, Fixed.unsigned_decimal]

end Machining.Numeric
