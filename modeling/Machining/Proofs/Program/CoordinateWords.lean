import Machining.Proofs.Numeric.NearestDecimals
import Machining.Proofs.Program.Layout
import Machining.Proofs.Program.WordValues

/-!
# Coordinates as they are written

A coordinate is rounded when its word is written, and from then on the text is all there is: a move
is left out when its text repeats, and the machine goes where the text says.  This module says what
the text is.  It spells the nearest decimal with the places that are asked for, in one way only:
no zeros in front, as many digits behind the point as there are places, and a minus exactly if the
decimal is below zero.

* `coordinates_spell_nearest_decimals` says so of every finite number.  So the texts of two numbers
  are the same exactly if both are rounded to the same decimal, and they keep the order of the
  numbers.
-/

namespace Machining.Program

open Machining.Numeric Machining.Job

/-! ## The form of a text -/

/-- How a number with so many places is written: perhaps with a minus; then the whole part, in which
no zero leads unless it is the only digit; and, where there are places, a point and as many
digits. -/
def IsWritten (places : ℕ) (negative : Bool) (text : String) : Prop :=
  ∃ whole fraction : List Char,
    text.toList = (if negative then ['-'] else []) ++
      (whole ++ if places = 0 then [] else '.' :: fraction) ∧
    isDigits whole = true ∧ (whole.head? = some '0' → whole = ['0']) ∧
    fraction.length = places ∧ fraction.all Char.isDigit = true

/-- A number that is not zero has no zero in front. -/
private theorem head?_toDigits_ne {n : ℕ} (hn : 0 < n) :
    (Nat.toDigits 10 n).head? ≠ some '0' := by
  induction n using Nat.strong_induction_on with
  | _ n ih =>
    rw [Nat.toDigits_eq_if (by decide)]
    split
    · rename_i hlt
      have hdigit : ∀ d < 10, 0 < d → Nat.digitChar d ≠ '0' := by decide
      rw [List.head?_cons]
      exact fun heq => hdigit n hlt hn (Option.some.inj heq)
    · -- the first digit is that of the number without its last one
      have hpos : 0 < n / 10 := by omega
      rw [List.head?_append_of_ne_nil _ Nat.toDigits_ne_nil]
      exact ih (n / 10) (by omega) hpos

private theorem eq_zero_of_head?_toDigits {n : ℕ}
    (h : (Nat.toDigits 10 n).head? = some '0') : Nat.toDigits 10 n = ['0'] := by
  rcases Nat.eq_zero_or_pos n with rfl | hn
  · exact Nat.toDigits_zero 10
  · exact absurd h (head?_toDigits_ne hn)

/-- Numbers are written in this form. -/
theorem isWritten_text (negative : Bool) (units places : ℕ) :
    IsWritten places negative (Fixed.decimal negative units places).text := by
  have hwhole := isDigits_toDigits (units / 10 ^ places)
  have hsign : (if negative then "-" else "").toList = if negative then ['-'] else [] := by
    cases negative <;> rfl
  rcases Nat.eq_zero_or_pos places with rfl | hplaces
  · exact ⟨_, [], by simp [Fixed.text, hsign], hwhole, eq_zero_of_head?_toDigits, rfl, rfl⟩
  · have hrest : units % 10 ^ places < 10 ^ places := Nat.mod_lt _ (by positivity)
    have hfraction := isDigits_paddedDigits places (units % 10 ^ places)
    exact ⟨_, _, by simp [Fixed.text, hsign, hplaces.ne'], hwhole, eq_zero_of_head?_toDigits,
      length_paddedDigits hplaces hrest, (Bool.and_eq_true_iff.mp hfraction).2⟩

/-! ## What a coordinate spells -/

private theorem signed_natAbs (units : ℤ) :
    signed (decide (units < 0)) (units.natAbs : ℚ) = units := by
  rcases lt_or_ge units 0 with hneg | hpos
  · simp [signed, hneg, abs_of_neg]
  · simpa [signed, not_lt.mpr hpos] using hpos

/-- The value of a whole number of units is read back from its text. -/
private theorem textValue?_units (units : ℤ) (places : ℕ) :
    textValue? (Fixed.decimal (decide (units < 0)) units.natAbs places).text =
      some (.ofRat (units / 10 ^ places)) := by
  rw [textValue?_text, Fixed.value?, signed_div, signed_natAbs]

/-- What a coordinate spells: the exact value of the number is rounded to the nearest decimal, which
is read back from the text and written in the one form that it has. -/
structure Spells (settings : Settings Float) (x : Float) (v : ℚ) (units : ℤ) : Prop where
  value : HasValue x v
  nearest : IsNearest settings.coordinatePlaces v units
  reads : textValue? (settings.coordinate x).text =
    some (.ofRat (units / 10 ^ settings.coordinatePlaces))
  near : |v - units / 10 ^ settings.coordinatePlaces| ≤ 1 / 10 ^ settings.coordinatePlaces / 2
  written : IsWritten settings.coordinatePlaces (decide (units < 0)) (settings.coordinate x).text

section Coordinates

variable {settings : Settings Float} {x y : Float} {v w : ℚ} {m n : ℤ}

/-- A coordinate is made of the units of the nearest decimal. -/
theorem coordinate_eq_decimal (hx : HasValue x v)
    (hm : IsNearest settings.coordinatePlaces v m) :
    settings.coordinate x = .decimal (decide (m < 0)) m.natAbs settings.coordinatePlaces := by
  obtain ⟨units, hunits, hprinted⟩ := hx.exists_isNearest settings.coordinatePlaces
  obtain rfl := hm.unique hunits
  exact hprinted

/-- Every finite number has a decimal that its coordinate spells. -/
theorem exists_spells (settings : Settings Float) (hx : Scalar.isFinite x = true) :
    ∃ v units, Spells settings x v units := by
  obtain ⟨v, hv⟩ := isFinite_iff.mp hx
  -- the decimal is that of the nearest number of units
  obtain ⟨units, hunits, -⟩ := hv.exists_isNearest settings.coordinatePlaces
  have hcoordinate := coordinate_eq_decimal hv hunits
  refine ⟨v, units, ?_⟩
  constructor
  case value => exact hv
  case nearest => exact hunits
  case reads => rw [hcoordinate, textValue?_units]
  case near =>
    rw [abs_sub_multiple, div_right_comm]
    gcongr
    exact (isNearest_iff.mp hunits).1
  case written =>
    rw [hcoordinate]
    exact isWritten_text _ _ _

/-- Two coordinates have the same text exactly if they spell the same decimal. -/
theorem Spells.text_eq_iff (hx : Spells settings x v m) (hy : Spells settings y w n) :
    (settings.coordinate x).text = (settings.coordinate y).text ↔ m = n := by
  constructor
  · intro htext
    have hread := hx.reads
    rw [htext, hy.reads] at hread
    have hvalue := WithTop.coe_injective (WithBot.coe_injective (Option.some.inj hread))
    have hunit : (10 : ℚ) ^ settings.coordinatePlaces ≠ 0 := by positivity
    exact_mod_cast ((div_left_inj' hunit).mp hvalue).symm
  · rintro rfl
    rw [coordinate_eq_decimal hx.value hx.nearest, coordinate_eq_decimal hy.value hy.nearest]

end Coordinates

/-- **Coordinates spell the nearest decimals.**  Each of two finite numbers has a decimal that its
coordinate spells; a number that is not less has one that is not less, and the texts are the same
exactly if the decimals are. -/
theorem coordinates_spell_nearest_decimals (settings : Settings Float) {x y : Float}
    (hx : Scalar.isFinite x = true) (hy : Scalar.isFinite y = true) :
    ∃ v w m n, Spells settings x v m ∧ Spells settings y w n ∧ (v ≤ w → m ≤ n) ∧
      ((settings.coordinate x).text = (settings.coordinate y).text ↔ m = n) := by
  obtain ⟨v, m, hspells⟩ := exists_spells settings hx
  obtain ⟨w, n, hspells'⟩ := exists_spells settings hy
  exact ⟨v, w, m, n, hspells, hspells', hspells.nearest.mono hspells'.nearest,
    hspells.text_eq_iff hspells'⟩

/-- The first number lies halfway between two decimals, and nothing is left of the second one, not
even its sign. -/
theorem coordinates_spell_nearest_decimals_of_halfway :
    Scalar.isFinite (0.0625 : Float) = true ∧ Scalar.isFinite (-0.0001 : Float) = true ∧
      ∃ v w m n, Spells sampleSettings 0.0625 v m ∧ Spells sampleSettings (-0.0001) w n ∧
        (v ≤ w → m ≤ n) ∧
        ((sampleSettings.coordinate 0.0625).text = (sampleSettings.coordinate (-0.0001)).text ↔
          m = n) :=
  have hhalfway : Scalar.isFinite (0.0625 : Float) = true := rfl
  have hnothing : Scalar.isFinite (-0.0001 : Float) = true := rfl
  ⟨hhalfway, hnothing, coordinates_spell_nearest_decimals sampleSettings hhalfway hnothing⟩

example : (sampleSettings.coordinate 0.0625).text = "0.062" ∧
    (sampleSettings.coordinate (-0.0001)).text = "0.000" ∧
    (sampleSettings.coordinate 9.9996).text = "10.000" :=
  ⟨rfl, rfl, rfl⟩

end Machining.Program
