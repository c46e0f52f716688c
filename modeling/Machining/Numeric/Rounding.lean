import Machining.Numeric.Power

/-!
# Rounding a quotient to the nearest whole number

Every decimal that the library prints, and every binary number that it builds, is the rounding of
an exact quotient of whole numbers.  `roundHalfEven` is that one rounding: to the nearest whole
number, and to the even neighbour from halfway.
-/

namespace Machining.Numeric

/-- The whole number nearest to `num / den`; halfway between two, the even one. -/
def roundHalfEven (num den : Nat) : Nat :=
  let quotient := num / den
  let twice := 2 * (num % den)
  if twice < den then quotient
  else if den < twice then quotient + 1
  else quotient + quotient % 2

theorem le_roundHalfEven (num den : Nat) : num / den ≤ roundHalfEven num den := by
  simp only [roundHalfEven]
  split
  · exact Nat.le_refl _
  · split <;> exact Nat.le_add_right _ _

/-- The positive and the negative part of an exponent, as two powers to multiply by: `base ^ e` is
the first over the second. -/
def powerParts (base : Nat) (e : Int) : Nat × Nat :=
  (base ^ e.toNat, base ^ (-e).toNat)

end Machining.Numeric
