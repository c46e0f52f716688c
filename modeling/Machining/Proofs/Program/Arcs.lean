import Mathlib.Analysis.SpecialFunctions.Complex.Circle
import Machining.Proofs.Program.Contours

/-!
# Arcs that are drawn by a radius

Two circles of a radius lead through both ends of a chord, and either of them can be followed in two
directions.  An arc that gives a radius instead of a centre says with the sign of the radius which
way is meant: the shorter one or the longer one.  This module shows, in exact arithmetic, that the
centre which is worked out is the one that the sign asks for.

## Turning

How far a way turns is told by the angle from the first radius to the last (`Sweeps`).  Whether it
is more or less than a half turn is seen from the side of the chord on which the centre lies, since
the cross product of the chord with the way to the centre has the sign of the angle's sine
(`cross_eq_of_turned`).
-/

namespace Machining.Job

open Machining.Numeric
open scoped Real

/-! ## How far a way turns -/

/-- The cross product of two ways in the plane: it is above zero if the second leads to the left of
the first. -/
def cross (a b : ℂ) : ℝ := a.re * b.im - a.im * b.re

/-- Counter-clockwise angles count as they are, and clockwise ones from the other side. -/
def Course.sense : Course → ℝ
  | line | counterClockwise => 1
  | clockwise => -1

theorem Course.sense_mul_self (course : Course) : course.sense * course.sense = 1 := by
  cases course <;> simp [sense]

/-- `Sweeps course start finish center angle`: the way along a course from `start` to `finish` about
`center` turns by `angle`, which is more than nothing and a full turn at the most. -/
structure Sweeps (course : Course) (start finish center : ℂ) (angle : ℝ) : Prop where
  angle_mem : angle ∈ Set.Ioc 0 (2 * π)
  turned : finish - center = Complex.exp ((course.sense * angle : ℝ) * Complex.I) * (start - center)

section Turning

variable {start finish center : ℂ} {angle : ℝ}

/-- What is left of a chord lies on the side that the sine of the angle says. -/
theorem cross_eq_of_turned
    (h : finish - center = Complex.exp (angle * Complex.I) * (start - center)) :
    cross (finish - start) (center - start) = ‖start - center‖ ^ 2 * Real.sin angle := by
  have hchord : finish - start =
      Complex.exp (angle * Complex.I) * (start - center) - (start - center) := by
    rw [← h, sub_sub_sub_cancel_right]
  have hradius : center - start = -(start - center) := (neg_sub start center).symm
  rw [hchord, hradius, Complex.sq_norm, Complex.normSq_apply, Complex.exp_mul_I,
    ← Complex.ofReal_cos, ← Complex.ofReal_sin]
  generalize start - center = w
  simp only [cross, Complex.sub_re, Complex.sub_im, Complex.mul_re, Complex.mul_im, Complex.add_re,
    Complex.add_im, Complex.ofReal_re, Complex.ofReal_im, Complex.I_re, Complex.I_im,
    Complex.neg_re, Complex.neg_im]
  ring

/-- Two points at the same distance from a centre are one turn apart. -/
theorem exists_turn (h : ‖finish - center‖ = ‖start - center‖) :
    ∃ angle : ℝ, finish - center = Complex.exp (angle * Complex.I) * (start - center) := by
  rcases eq_or_ne (start - center) 0 with hzero | hne
  · rw [hzero, norm_zero, norm_eq_zero] at h
    exact ⟨0, by rw [h, hzero, mul_zero]⟩
  · refine ⟨((finish - center) / (start - center)).arg, ?_⟩
    have hnorm : ‖(finish - center) / (start - center)‖ = 1 := by
      rw [norm_div, h, div_self (norm_ne_zero_iff.mpr hne)]
    have hpolar := Complex.norm_mul_exp_arg_mul_I ((finish - center) / (start - center))
    rw [hnorm, Complex.ofReal_one, one_mul] at hpolar
    rw [hpolar, div_mul_cancel₀ _ hne]

/-- The angle is the turn in the direction of the course, less all full turns in it. -/
theorem sweeps_iff {course : Course} {turn : ℝ} (hne : start ≠ center)
    (hturn : finish - center = Complex.exp (turn * Complex.I) * (start - center)) :
    Sweeps course start finish center angle ↔
      toIocMod Real.two_pi_pos 0 (course.sense * turn) = angle := by
  have hturns : finish - center =
        Complex.exp ((course.sense * angle : ℝ) * Complex.I) * (start - center) ↔
      ∃ n : ℤ, course.sense * turn = angle + n • (2 * π) := by
    rw [hturn, mul_left_inj' (sub_ne_zero.mpr hne), Complex.exp_eq_exp_iff_exists_int]
    -- full turns are full turns in either direction
    have hreal (n : ℤ) : (turn : ℂ) * Complex.I =
          (course.sense * angle : ℝ) * Complex.I + n * (2 * π * Complex.I) ↔
        turn = course.sense * angle + n * (2 * π) := by
      rw [← mul_assoc, ← add_mul, mul_left_inj' Complex.I_ne_zero]
      exact_mod_cast Iff.rfl
    simp only [hreal, zsmul_eq_mul]
    cases course with
    | line | counterClockwise => simp [Course.sense]
    | clockwise =>
      constructor
      · rintro ⟨n, rfl⟩
        refine ⟨-n, ?_⟩
        simp only [Course.sense]
        push_cast
        ring
      · rintro ⟨n, hn⟩
        refine ⟨-n, ?_⟩
        simp only [Course.sense] at hn ⊢
        push_cast
        linarith
  rw [toIocMod_eq_iff, zero_add, ← hturns]
  exact ⟨fun h => ⟨h.angle_mem, h.turned⟩, fun h => ⟨h.1, h.2⟩⟩

/-- In either direction there is one angle up to a full turn. -/
theorem existsUnique_sweeps (course : Course) (hne : start ≠ center)
    (h : ‖finish - center‖ = ‖start - center‖) :
    ∃! angle, Sweeps course start finish center angle := by
  obtain ⟨turn, hturn⟩ := exists_turn h
  refine ⟨toIocMod Real.two_pi_pos 0 (course.sense * turn), (sweeps_iff hne hturn).mpr rfl, ?_⟩
  intro angle hangle
  exact ((sweeps_iff hne hturn).mp hangle).symm

/-- A full turn leads back to where it began. -/
theorem Sweeps.lt_two_pi {course : Course} (h : Sweeps course start finish center angle)
    (hne : start ≠ finish) : angle < 2 * π := by
  apply lt_of_le_of_ne h.angle_mem.2
  rintro rfl
  have hturned := h.turned
  have hone : Complex.exp ((course.sense * (2 * π) : ℝ) * Complex.I) = 1 := by
    rw [Complex.exp_eq_one_iff]
    cases course with
    | line | counterClockwise => exact ⟨1, by simp [Course.sense]⟩
    | clockwise => exact ⟨-1, by simp [Course.sense]⟩
  rw [hone, one_mul, sub_left_inj] at hturned
  exact hne hturned.symm

/-- The cross product of the chord with the way to the centre has the sign that the sine of the
angle has in the direction of the course. -/
theorem Sweeps.sense_mul_cross {course : Course} (h : Sweeps course start finish center angle) :
    course.sense * cross (finish - start) (center - start) =
      ‖start - center‖ ^ 2 * Real.sin angle := by
  rw [cross_eq_of_turned h.turned]
  cases course with
  | line | counterClockwise => simp [Course.sense]
  | clockwise => simp [Course.sense]

/-- **What lies beside the chord tells how far the way turns.**  With the centre on the side to
which the course bends the way makes less than a half turn, on the other side more, and exactly a
half turn with the centre on the chord. -/
theorem Sweeps.half_turn {course : Course} (h : Sweeps course start finish center angle)
    (hne : start ≠ finish) (hcenter : start ≠ center) :
    (0 < course.sense * cross (finish - start) (center - start) ↔ angle < π) ∧
      (course.sense * cross (finish - start) (center - start) < 0 ↔ π < angle) := by
  have hradius : 0 < ‖start - center‖ ^ 2 := by
    have := norm_pos_iff.mpr (sub_ne_zero.mpr hcenter)
    positivity
  -- the cross product is the sine of the angle times the square of the radius
  rw [h.sense_mul_cross, mul_pos_iff_of_pos_left hradius, ← neg_pos, ← mul_neg,
    mul_pos_iff_of_pos_left hradius, neg_pos]
  have hpos := h.angle_mem.1
  have hlt := h.lt_two_pi hne
  rcases lt_trichotomy angle π with hless | rfl | hmore
  · have hsin := Real.sin_pos_of_pos_of_lt_pi hpos hless
    exact ⟨iff_of_true hsin hless, iff_of_false hsin.not_gt hless.not_gt⟩
  · rw [Real.sin_pi]
    exact ⟨iff_of_false (lt_irrefl 0) (lt_irrefl _), iff_of_false (lt_irrefl 0) (lt_irrefl _)⟩
  · -- beyond the half turn the sine is that of a negative angle
    have hsin : Real.sin angle < 0 := by
      rw [← Real.sin_sub_two_pi]
      exact Real.sin_neg_of_neg_of_neg_pi_lt (by linarith) (by linarith)
    exact ⟨iff_of_false hsin.not_gt hmore.not_gt, iff_of_true hsin hmore⟩

end Turning

/-! ## Where the centre lies -/

/-- One for a radius above zero, and minus one below. -/
noncomputable def radiusSign (radius : ℝ) : ℝ := if radius < 0 then -1 else 1

theorem abs_sense_mul_radiusSign (course : Course) (radius : ℝ) :
    |course.sense * radiusSign radius| = 1 := by
  unfold radiusSign
  cases course <;> split <;> simp [Course.sense]

variable {segment : Segment ℝ} {start : Point ℝ}

theorem leastChord_real : (Segment.leastChord : ℝ) = 1 / 10 ^ 12 := by
  change ((1 : ℕ) : ℝ) / 10 ^ 12 = 1 / 10 ^ 12
  rw [Nat.cast_one]

/-- The side of the chord is that of the course, turned over for a radius below zero. -/
theorem side_eq (segment : Segment ℝ) (radius : ℝ) :
    (if Scalar.lt radius Scalar.zero then
        -(if segment.isClockwise then -Scalar.ofNat 1 else Scalar.ofNat 1)
      else if segment.isClockwise then -Scalar.ofNat 1 else Scalar.ofNat 1 : ℝ) =
      segment.course.sense * radiusSign radius := by
  have hone : (Scalar.ofNat 1 : ℝ) = 1 := Nat.cast_one
  unfold radiusSign Segment.isClockwise
  simp only [hone, zero_real, lt_real_iff]
  cases segment.course <;> split <;> simp [Course.sense]

/-- The centre that follows from a radius lies beside the middle of the chord, so far from it that
the ends are at the distance of the radius, but of half the chord at the least. -/
theorem exists_centerByRadius
    (hchord : Segment.leastChord ≤ ‖segment.finish.toComplex - start.toComplex‖) (radius : ℝ) :
    ∃ center height, segment.centerByRadius start radius = some center ∧ 0 ≤ height ∧
      height ^ 2 + (‖segment.finish.toComplex - start.toComplex‖ / 2) ^ 2 =
        max |radius| (‖segment.finish.toComplex - start.toComplex‖ / 2) ^ 2 ∧
      center.toComplex - start.toComplex = (segment.finish.toComplex - start.toComplex) *
        ⟨1 / 2, segment.course.sense * radiusSign radius * height /
          ‖segment.finish.toComplex - start.toComplex‖⟩ := by
  have hhypot : Scalar.hypot (segment.x - start.x) (segment.y - start.y) =
      ‖segment.finish.toComplex - start.toComplex‖ := Program.hypot_eq_norm segment.finish start
  have hxy : segment.finish.toComplex - start.toComplex =
      ⟨segment.x - start.x, segment.y - start.y⟩ := rfl
  -- from here on the chord is a number that is long enough
  generalize ‖segment.finish.toComplex - start.toComplex‖ = chord at hchord hhypot ⊢
  have hpos : 0 < chord := lt_of_lt_of_le (by rw [leastChord_real]; positivity) hchord
  have hlong : ¬ Scalar.lt chord Segment.leastChord = true := by
    rw [lt_real_iff]
    exact not_lt.mpr hchord
  have hsquare : (chord / 2) ^ 2 ≤ max |radius| (chord / 2) ^ 2 :=
    pow_le_pow_left₀ (by positivity) (le_max_right _ _) 2
  -- the legs of a right triangle: half of the chord and the height above it
  have hheight : (Scalar.sqrt (Scalar.max
        (Scalar.max (Scalar.abs radius) (Scalar.half chord) *
            Scalar.max (Scalar.abs radius) (Scalar.half chord) -
          Scalar.half chord * Scalar.half chord) Scalar.zero) : ℝ) =
      Real.sqrt (max |radius| (chord / 2) ^ 2 - (chord / 2) ^ 2) := by
    rw [max_real, max_real, half_real, zero_real, ← sq, ← sq]
    change Real.sqrt (max (max |radius| _ ^ 2 - _) 0) = _
    rw [max_eq_left (sub_nonneg.mpr hsquare)]
  unfold Segment.centerByRadius
  dsimp only
  rw [hhypot, if_neg hlong, hheight, side_eq]
  refine ⟨_, Real.sqrt (max |radius| (chord / 2) ^ 2 - (chord / 2) ^ 2), rfl, Real.sqrt_nonneg _,
    ?_, ?_⟩
  · rw [Real.sq_sqrt (sub_nonneg.mpr hsquare), sub_add_cancel]
  · generalize Real.sqrt _ = height
    rw [hxy]
    simp only [half_real, Point.toComplex]
    apply Complex.ext
    · simp
      ring
    · simp
      ring

/-- `DrawnByRadius segment start radius center`: an arc from `start` about `center` runs as its
radius asks. -/
structure DrawnByRadius (segment : Segment ℝ) (start : Point ℝ) (radius : ℝ) (center : Point ℝ) :
    Prop where
  /-- The centre is at the distance of the radius from both ends, but of half the chord at the
  least. -/
  atStart : ‖center.toComplex - start.toComplex‖ =
    max |radius| (‖segment.finish.toComplex - start.toComplex‖ / 2)
  atFinish : ‖center.toComplex - segment.finish.toComplex‖ =
    max |radius| (‖segment.finish.toComplex - start.toComplex‖ / 2)
  /-- The arc turns by one angle in the direction of its course. -/
  turns : ∃! angle, Sweeps segment.course start.toComplex segment.finish.toComplex
    center.toComplex angle
  /-- With a radius above zero that is a half turn at the most. -/
  minor : 0 < radius → ∀ angle, Sweeps segment.course start.toComplex segment.finish.toComplex
    center.toComplex angle → angle ≤ π
  /-- With a radius below zero it is a half turn at the least. -/
  major : radius < 0 → ∀ angle, Sweeps segment.course start.toComplex segment.finish.toComplex
    center.toComplex angle → π ≤ angle
  /-- It is a half turn exactly if the radius does not reach over half the chord. -/
  half : ∀ angle, Sweeps segment.course start.toComplex segment.finish.toComplex
    center.toComplex angle →
      (angle = π ↔ |radius| ≤ ‖segment.finish.toComplex - start.toComplex‖ / 2)
  /-- The centre is on the left of the chord or on it. -/
  onLeft : segment.course = .counterClockwise ∧ 0 < radius ∨
      segment.course = .clockwise ∧ radius < 0 →
    0 ≤ cross (segment.finish.toComplex - start.toComplex)
      (center.toComplex - start.toComplex)
  /-- The centre is on the right of the chord or on it. -/
  onRight : segment.course = .counterClockwise ∧ radius < 0 ∨
      segment.course = .clockwise ∧ 0 < radius →
    cross (segment.finish.toComplex - start.toComplex)
      (center.toComplex - start.toComplex) ≤ 0

/-- The cross product with a way that is given along another and beside it. -/
theorem cross_mul (way w : ℂ) : cross way (way * w) = ‖way‖ ^ 2 * w.im := by
  rw [Complex.sq_norm, Complex.normSq_apply, cross, Complex.mul_re, Complex.mul_im]
  ring

section Beside

variable {s f c : ℂ} {height side radius : ℝ}

/-- A point that is off the middle of a chord by `height` is as far from both ends as the two legs
say. -/
theorem sq_norm_of_beside (hne : s ≠ f) (hside : |side| = 1)
    (hbeside : c - s = (f - s) * ⟨1 / 2, side * height / ‖f - s‖⟩) :
    ‖c - s‖ ^ 2 = height ^ 2 + (‖f - s‖ / 2) ^ 2 ∧
      ‖c - f‖ ^ 2 = height ^ 2 + (‖f - s‖ / 2) ^ 2 := by
  have hchord : ‖f - s‖ ≠ 0 := norm_ne_zero_iff.mpr (sub_ne_zero.mpr hne.symm)
  have hsq : side ^ 2 = 1 := by rw [← sq_abs, hside, one_pow]
  -- seen from the other end, the centre is the mirror image
  have hfinish : c - f = (f - s) * ⟨-(1 / 2), side * height / ‖f - s‖⟩ := by
    have hsplit : c - f = (c - s) - (f - s) * 1 := by ring
    rw [hsplit, hbeside, ← mul_sub]
    congr 1
    apply Complex.ext
    · norm_num
    · simp
  -- both are the hypotenuse over half the chord and the height
  have hlegs (a : ℝ) (ha : a ^ 2 = 1 / 4) :
      ‖(f - s) * (⟨a, side * height / ‖f - s‖⟩ : ℂ)‖ ^ 2 = height ^ 2 + (‖f - s‖ / 2) ^ 2 := by
    rw [norm_mul, mul_pow, Complex.sq_norm ⟨a, _⟩, Complex.normSq_mk]
    field_simp
    rw [ha, hsq]
    ring
  rw [hfinish, hbeside]
  exact ⟨hlegs _ (by norm_num), hlegs _ (by norm_num)⟩

/-- In the direction of the course the centre is on the left for a radius above zero. -/
theorem sense_mul_cross_of_beside {course : Course} (hne : s ≠ f)
    (hbeside : c - s =
      (f - s) * ⟨1 / 2, course.sense * radiusSign radius * height / ‖f - s‖⟩) :
    course.sense * cross (f - s) (c - s) = ‖f - s‖ * (radiusSign radius * height) := by
  have hchord : ‖f - s‖ ≠ 0 := norm_ne_zero_iff.mpr (sub_ne_zero.mpr hne.symm)
  rw [hbeside, cross_mul]
  calc course.sense * (‖f - s‖ ^ 2 * (course.sense * radiusSign radius * height / ‖f - s‖))
      = (course.sense * course.sense) * (‖f - s‖ * (radiusSign radius * height)) := by
        field_simp
    _ = ‖f - s‖ * (radiusSign radius * height) := by rw [course.sense_mul_self, one_mul]

/-- With a radius above zero the centre is on the side to which the course bends, and with one below
zero on the other side, unless it is on the chord. -/
theorem sides_of_beside {course : Course} (hne : s ≠ f) (hheight : 0 ≤ height)
    (hbeside : c - s =
      (f - s) * ⟨1 / 2, course.sense * radiusSign radius * height / ‖f - s‖⟩) :
    (0 < radius → 0 ≤ course.sense * cross (f - s) (c - s)) ∧
      (radius < 0 → course.sense * cross (f - s) (c - s) ≤ 0) ∧
      (course.sense * cross (f - s) (c - s) = 0 ↔ height = 0) := by
  have hchord : 0 < ‖f - s‖ := norm_pos_iff.mpr (sub_ne_zero.mpr hne.symm)
  have hsign : radiusSign radius ≠ 0 := by
    unfold radiusSign
    split <;> norm_num
  rw [sense_mul_cross_of_beside hne hbeside]
  refine ⟨fun hpos => ?_, fun hneg => ?_, ?_⟩
  · rw [radiusSign, if_neg hpos.not_gt, one_mul]
    positivity
  · rw [radiusSign, if_pos hneg, neg_one_mul, mul_neg]
    exact neg_nonpos.mpr (by positivity)
  · rw [mul_eq_zero, mul_eq_zero, or_iff_right hchord.ne', or_iff_right hsign]

/-- The centre is on the chord exactly if the radius does not reach over half of it. -/
theorem height_eq_zero_iff {half : ℝ} (hhalf : 0 ≤ half)
    (hlegs : height ^ 2 + half ^ 2 = max |radius| half ^ 2) :
    height = 0 ↔ |radius| ≤ half := by
  have hlongest : 0 ≤ max |radius| half := hhalf.trans (le_max_right _ _)
  constructor
  · rintro rfl
    have hsame : max |radius| half ^ 2 = half ^ 2 := by
      rw [← hlegs]
      ring
    rw [← (pow_left_inj₀ hlongest hhalf two_ne_zero).mp hsame]
    exact le_max_left _ _
  · intro hshort
    rw [max_eq_right hshort] at hlegs
    exact pow_eq_zero_iff two_ne_zero |>.mp (add_eq_right.mp hlegs)

/-- A centre beside the middle of the chord is the one that a radius asks for, if it is on the side
that the radius' sign says and as far off as its size says. -/
theorem drawnByRadius_of_beside {segment : Segment ℝ} {start center : Point ℝ}
    (hne : start.toComplex ≠ segment.finish.toComplex) (hheight : 0 ≤ height)
    (hlegs : height ^ 2 + (‖segment.finish.toComplex - start.toComplex‖ / 2) ^ 2 =
      max |radius| (‖segment.finish.toComplex - start.toComplex‖ / 2) ^ 2)
    (hbeside : center.toComplex - start.toComplex =
      (segment.finish.toComplex - start.toComplex) *
        ⟨1 / 2, segment.course.sense * radiusSign radius * height /
          ‖segment.finish.toComplex - start.toComplex‖⟩) :
    DrawnByRadius segment start radius center := by
  have hchord : 0 < ‖segment.finish.toComplex - start.toComplex‖ :=
    norm_pos_iff.mpr (sub_ne_zero.mpr hne.symm)
  -- on which side the centre lies, and how far it is from both ends
  have hflat := height_eq_zero_iff (by positivity) hlegs
  obtain ⟨habove, hbelow, hon⟩ := sides_of_beside hne hheight hbeside
  obtain ⟨hstart, hfinish⟩ :=
    sq_norm_of_beside hne (abs_sense_mul_radiusSign segment.course radius) hbeside
  rw [hlegs] at hstart hfinish
  have hlongest : 0 < max |radius| (‖segment.finish.toComplex - start.toComplex‖ / 2) :=
    lt_max_of_lt_right (half_pos hchord)
  -- both distances are the radius, or half of the chord where that is longer
  have hatStart := (pow_left_inj₀ (norm_nonneg _) hlongest.le two_ne_zero).mp hstart
  have hatFinish := (pow_left_inj₀ (norm_nonneg _) hlongest.le two_ne_zero).mp hfinish
  have hcenter : start.toComplex ≠ center.toComplex := by
    rw [ne_comm, ← sub_ne_zero, ← norm_pos_iff, hatStart]
    exact hlongest
  constructor
  case atStart => exact hatStart
  case atFinish => exact hatFinish
  case turns =>
    -- both ends lie on one circle around the centre, so there is one turn between them
    refine existsUnique_sweeps segment.course hcenter ?_
    rw [norm_sub_rev, norm_sub_rev start.toComplex, hatStart, hatFinish]
  case minor =>
    -- a turn is at most a half one exactly if the centre is not on the other side
    intro hpos angle hangle
    have hturn := (hangle.half_turn hne hcenter).2
    exact not_lt.mp (mt hturn.mpr (habove hpos).not_gt)
  case major =>
    intro hneg angle hangle
    have hturn := (hangle.half_turn hne hcenter).1
    exact not_lt.mp (mt hturn.mpr (hbelow hneg).not_gt)
  case half =>
    -- a half turn has its centre on the chord, which only the least radius has
    intro angle hangle
    obtain ⟨hless, hmore⟩ := hangle.half_turn hne hcenter
    calc angle = π
        ↔ segment.course.sense * cross (segment.finish.toComplex - start.toComplex)
            (center.toComplex - start.toComplex) = 0 := by
          rw [eq_iff_le_not_lt, eq_iff_le_not_lt, ← not_lt, ← not_lt, hless, hmore, and_comm]
      _ ↔ height = 0 := hon
      _ ↔ |radius| ≤ ‖segment.finish.toComplex - start.toComplex‖ / 2 := hflat
  case onLeft =>
    -- the side of the centre as it is read off the course and the sign
    rintro (⟨hcourse, hpos⟩ | ⟨hcourse, hneg⟩)
    · simpa [hcourse, Course.sense] using habove hpos
    · simpa [hcourse, Course.sense] using hbelow hneg
  case onRight =>
    rintro (⟨hcourse, hneg⟩ | ⟨hcourse, hpos⟩)
    · simpa [hcourse, Course.sense] using hbelow hneg
    · simpa [hcourse, Course.sense] using habove hpos

end Beside

/-- **An arc that is drawn by a radius runs as the radius asks.** -/
theorem radius_shapes_arc {segment : Segment ℝ} {start : Point ℝ} {radius : ℝ}
    (harc : segment.isArc = true) (hcenter : segment.explicitCenter? = none)
    (hradius : segment.radius = some radius) (hne : radius ≠ 0)
    (hchord : 1 / 10 ^ 12 ≤ ‖segment.finish.toComplex - start.toComplex‖) :
    ∃ center, segment.center? start = some center ∧
      DrawnByRadius segment start radius center := by
  have hapart : start.toComplex ≠ segment.finish.toComplex := by
    rintro hsame
    rw [hsame, sub_self, norm_zero] at hchord
    exact absurd hchord (by norm_num)
  rw [← leastChord_real] at hchord
  -- a radius other than zero is used, whatever its sign
  have husable : segment.usableRadius? = some radius := by
    rw [Segment.usableRadius?, hradius]
    refine Option.filter_some_pos ?_
    rw [isFinite_real, Bool.and_true, Bool.not_eq_true', ← Bool.not_eq_true, eq_real_iff, zero_real]
    exact hne
  obtain ⟨center, height, hfound, hheight, hlegs, hbeside⟩ := exists_centerByRadius hchord radius
  refine ⟨center, ?_, drawnByRadius_of_beside hapart hheight hlegs hbeside⟩
  rw [Segment.center?, if_pos harc, hcenter, husable]
  exact hfound

/-- A counter-clockwise arc on the longer way along a chord that is ten long. -/
noncomputable def longWay : Segment ℝ :=
  ⟨.counterClockwise, Scalar.ofNat 6, Scalar.ofNat 8, none, none, some (-Scalar.ofNat 13)⟩

private theorem chord_longWay :
    ‖longWay.finish.toComplex - (⟨0, 0⟩ : Point ℝ).toComplex‖ = 10 := by
  have hchord : longWay.finish.toComplex - (⟨0, 0⟩ : Point ℝ).toComplex = ⟨6, 8⟩ := by
    apply Complex.ext <;> simp [longWay, Segment.finish, Point.toComplex, ofNat_real]
  rw [hchord, Complex.norm_eq_sqrt_sq_add_sq, Real.sqrt_eq_iff_mul_self_eq_of_pos (by norm_num)]
  norm_num

/-- The longer way is about a centre thirteen off, and makes more than a half turn. -/
theorem radius_shapes_arc_longWay :
    longWay.isArc = true ∧ longWay.explicitCenter? = none ∧ longWay.radius = some (-13) ∧
      (-13 : ℝ) ≠ 0 ∧
      1 / 10 ^ 12 ≤ ‖longWay.finish.toComplex - (⟨0, 0⟩ : Point ℝ).toComplex‖ ∧
      ∃ center, longWay.center? ⟨0, 0⟩ = some center ∧
        DrawnByRadius longWay ⟨0, 0⟩ (-13) center ∧
        ‖center.toComplex - (⟨0, 0⟩ : Point ℝ).toComplex‖ = 13 := by
  have harc : longWay.isArc = true := rfl
  have hradius : longWay.radius = some (-13) := by
    simp [longWay, ofNat_real]
  have hne : (-13 : ℝ) ≠ 0 := by norm_num
  have hchord : 1 / 10 ^ 12 ≤ ‖longWay.finish.toComplex - (⟨0, 0⟩ : Point ℝ).toComplex‖ := by
    rw [chord_longWay]
    norm_num
  obtain ⟨center, hcenter, hdrawn⟩ := radius_shapes_arc harc rfl hradius hne hchord
  refine ⟨harc, rfl, hradius, hne, hchord, center, hcenter, hdrawn, ?_⟩
  rw [hdrawn.atStart, chord_longWay]
  norm_num

end Machining.Job
