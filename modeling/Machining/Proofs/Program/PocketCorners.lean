import Mathlib.Analysis.Convex.Segment
import Mathlib.Analysis.SpecialFunctions.Sqrt
import Machining.Proofs.Program.RectangularPockets

/-!
# What the rings of a rectangular pocket leave standing

Along the axes two rings of a rectangular pocket are no further apart than the stepover.  Their
corners are further apart, by the root of two, and only from one of the four corners the tool goes
straight to the next ring.  This module measures, in exact arithmetic, what that means for the floor
of a pocket:

* where the stepover is at most `(2 + √2) / 4` of the cutter, no point of it is further from the
  path of the tool than half of the cutter, but for a billionth;
* with a wider stepover this holds of all points but those between the corners of two rings, and
  these are within `2 - √2` of the stepover;
* such points are indeed left where the stepover is the whole cutter (`wide_rings_leave_corners`).

Distances are to the path before it is printed, `layerCourse`.  The tool on its printed path comes
as close to each point of it as a unit of the last decimal place, also where moves are left out.
-/

namespace Machining.Program

open Machining.Numeric Machining.Job

/-! ## Outlines -/

/-- The corners of a ring, before they are printed. -/
noncomputable def ringCorners (op : Operation ℝ) (a b : ℝ) : List ℂ :=
  (corners op.origin a b).map Point.toComplex

section Outline

variable {op : Operation ℝ} {a b : ℝ} {p : ℂ}

theorem ringCorners_eq (op : Operation ℝ) (a b : ℝ) :
    ringCorners op a b =
      [⟨op.x - a, op.y - b⟩, ⟨op.x + a, op.y - b⟩, ⟨op.x + a, op.y + b⟩, ⟨op.x - a, op.y + b⟩,
        ⟨op.x - a, op.y - b⟩] :=
  rfl

theorem mem_outline_of_re (hre : |p.re - op.x| = a) (him : |p.im - op.y| ≤ b) :
    p ∈ polyline (ringCorners op a b) := by
  obtain ⟨hlow, hhigh⟩ := abs_le.mp him
  have hside : p.im ∈ Set.Icc (op.y - b) (op.y + b) := ⟨by linarith, by linarith⟩
  rw [ringCorners_eq, polyline_cons_cons, polyline_cons_cons, polyline_cons_cons,
    polyline_cons_cons]
  -- the outline has two sides along Y, one on the right and one on the left
  rcases eq_or_eq_neg_of_abs_eq hre with hright | hleft
  · have hx : p.re = op.x + a := by linarith
    have hmem := mem_segment_im (x := op.x + a) hside
    rw [← hx] at hmem ⊢
    exact Or.inr (Or.inl hmem)
  · have hx : p.re = op.x - a := by linarith
    have hmem := mem_segment_im (x := op.x - a) hside
    rw [segment_symm, ← hx] at hmem
    rw [← hx]
    exact Or.inr (Or.inr (Or.inr (Or.inl hmem)))

theorem mem_outline_of_im (hre : |p.re - op.x| ≤ a) (him : |p.im - op.y| = b) :
    p ∈ polyline (ringCorners op a b) := by
  obtain ⟨hlow, hhigh⟩ := abs_le.mp hre
  have hside : p.re ∈ Set.Icc (op.x - a) (op.x + a) := ⟨by linarith, by linarith⟩
  rw [ringCorners_eq, polyline_cons_cons, polyline_cons_cons, polyline_cons_cons,
    polyline_cons_cons]
  -- and two along X
  rcases eq_or_eq_neg_of_abs_eq him with htop | hbottom
  · have hy : p.im = op.y + b := by linarith
    have hmem := mem_segment_re (y := op.y + b) hside
    rw [segment_symm, ← hy] at hmem
    rw [← hy]
    exact Or.inr (Or.inr (Or.inl hmem))
  · have hy : p.im = op.y - b := by linarith
    have hmem := mem_segment_re (y := op.y - b) hside
    rw [← hy] at hmem ⊢
    exact Or.inl hmem

/-- On each side of a middle there is a number at a given distance from it. -/
private theorem exists_beside (x middle : ℝ) {reach : ℝ} (hreach : 0 ≤ reach) :
    ∃ y, |y - middle| = reach ∧ |x - y| = |(|x - middle|) - reach| := by
  rcases le_total middle x with hright | hleft
  · refine ⟨middle + reach, ?_, ?_⟩
    · rw [add_sub_cancel_left, abs_of_nonneg hreach]
    · rw [abs_of_nonneg (sub_nonneg.mpr hright), sub_sub]
  · refine ⟨middle - reach, ?_, ?_⟩
    · rw [sub_sub_cancel_left, abs_neg, abs_of_nonneg hreach]
    · rw [abs_of_nonpos (sub_nonpos.mpr hleft), ← abs_neg]
      congr 1
      ring

theorem exists_near_of_im (ha : 0 ≤ a) (him : |p.im - op.y| ≤ b) :
    ∃ q ∈ polyline (ringCorners op a b), ‖p - q‖ = |(|p.re - op.x|) - a| := by
  obtain ⟨x, hx, hdistance⟩ := exists_beside p.re op.x ha
  refine ⟨⟨x, p.im⟩, mem_outline_of_re hx him, ?_⟩
  rw [norm_sub_along_re, hdistance]

theorem exists_near_of_re (hb : 0 ≤ b) (hre : |p.re - op.x| ≤ a) :
    ∃ q ∈ polyline (ringCorners op a b), ‖p - q‖ = |(|p.im - op.y|) - b| := by
  obtain ⟨y, hy, hdistance⟩ := exists_beside p.im op.y hb
  refine ⟨⟨p.re, y⟩, mem_outline_of_im hre hy, ?_⟩
  rw [norm_sub_along_im, hdistance]

/-- Any point is within the root of two of the greater distance along an axis from a corner. -/
theorem exists_near_corner (op : Operation ℝ) (ha : 0 ≤ a) (hb : 0 ≤ b) {far : ℝ} (hfar : 0 ≤ far)
    (hre : |(|p.re - op.x|) - a| ≤ far) (him : |(|p.im - op.y|) - b| ≤ far) :
    ∃ q ∈ polyline (ringCorners op a b), ‖p - q‖ ≤ √2 * far := by
  -- of the four corners the one in the quarter of the point
  obtain ⟨x, hx, hdx⟩ := exists_beside p.re op.x ha
  obtain ⟨y, hy, hdy⟩ := exists_beside p.im op.y hb
  refine ⟨⟨x, y⟩, mem_outline_of_re hx hy.le, ?_⟩
  rw [← hdx] at hre
  rw [← hdy] at him
  calc ‖p - ⟨x, y⟩‖ = √((p.re - x) ^ 2 + (p.im - y) ^ 2) := Complex.norm_eq_sqrt_sq_add_sq _
    _ ≤ √(far ^ 2 + far ^ 2) := by
        gcongr √(?_ + ?_)
        · exact sq_le_sq' (abs_le.mp hre).1 (abs_le.mp hre).2
        · exact sq_le_sq' (abs_le.mp him).1 (abs_le.mp him).2
    _ = √2 * far := by rw [← two_mul, Real.sqrt_mul zero_le_two, Real.sqrt_sq hfar]

end Outline

/-! ## From ring to ring -/

/-- The path of the tool on a layer, before it is printed and before moves are left out: from the
centre along the corners of the rings and back. -/
noncomputable def layerCourse (op : Operation ℝ) (rings : List (ℝ × ℝ)) : List ℂ :=
  (op.origin :: layerTargets op rings).map Point.toComplex

section Rings

variable {op : Operation ℝ} {rings : List (ℝ × ℝ)} {p : ℂ} {X Y stepover inner outer : ℝ}

/-- Rings next to each other are cut one after the other. -/
theorem flatMap_infix_layerCourse (op : Operation ℝ) {part : List (ℝ × ℝ)} (h : part <:+: rings) :
    (part.flatMap fun ring => ringCorners op ring.1 ring.2) <:+: layerCourse op rings := by
  have hrings : (rings.flatMap fun ring => ringCorners op ring.1 ring.2) <:+:
      layerCourse op rings := by
    refine ⟨[op.origin.toComplex], [op.origin.toComplex], ?_⟩
    rw [layerCourse, layerTargets, List.map_cons, List.map_append, List.map_flatMap]
    rfl
  exact (h.flatMap _).trans hrings

theorem outline_subset (op : Operation ℝ) {ring : ℝ × ℝ} (h : ring ∈ rings) :
    polyline (ringCorners op ring.1 ring.2) ⊆ polyline (layerCourse op rings) := by
  obtain ⟨before, behind, rfl⟩ := List.append_of_mem h
  have hpart : [ring] <:+: before ++ ring :: behind := ⟨before, behind, by simp⟩
  have hcorners := flatMap_infix_layerCourse op hpart
  rw [List.flatMap_singleton] at hcorners
  exact polyline_mono hcorners

/-- From the corner of least X and Y the tool goes straight to the next ring. -/
theorem link_subset {first second : ℝ × ℝ} (h : [first, second] <:+: rings) :
    segment ℝ ⟨op.x - first.1, op.y - first.2⟩ ⟨op.x - second.1, op.y - second.2⟩ ⊆
      polyline (layerCourse op rings) := by
  have hcorners := flatMap_infix_layerCourse op h
  refine segment_subset_polyline (List.IsInfix.trans ?_ hcorners)
  rw [List.flatMap_cons, List.flatMap_singleton, ringCorners_eq, ringCorners_eq]
  exact ⟨[_, _, _, _], [_, _, _, _], rfl⟩

/-- `Neighbours op rings X Y inner outer p`: a point lies between two rings next to each other,
which are `inner` and `outer` under the boundary of a rectangle of the half-sizes `X` and `Y`. -/
structure Neighbours (op : Operation ℝ) (rings : List (ℝ × ℝ)) (X Y inner outer : ℝ) (p : ℂ) :
    Prop where
  infix_rings : [(X - inner, Y - inner), (X - outer, Y - outer)] <:+: rings
  innerX_nonneg : 0 ≤ X - inner
  innerY_nonneg : 0 ≤ Y - inner
  outer_le_inner : outer ≤ inner
  re_le : |p.re - op.x| ≤ X - outer
  im_le : |p.im - op.y| ≤ Y - outer
  outside : X - inner ≤ |p.re - op.x| ∨ Y - inner ≤ |p.im - op.y|

namespace Neighbours

variable (h : Neighbours op rings X Y inner outer p)

include h

theorem inner_subset :
    polyline (ringCorners op (X - inner) (Y - inner)) ⊆ polyline (layerCourse op rings) :=
  outline_subset op (h.infix_rings.subset List.mem_cons_self)

theorem outer_subset :
    polyline (ringCorners op (X - outer) (Y - outer)) ⊆ polyline (layerCourse op rings) :=
  outline_subset op (h.infix_rings.subset (List.mem_cons_of_mem _ List.mem_cons_self))

/-- The outer ring is as near as the boundary of its rectangle, on each side. -/
theorem exists_near_outer {far : ℝ}
    (hfar : X - outer - |p.re - op.x| ≤ far ∨ Y - outer - |p.im - op.y| ≤ far) :
    ∃ q ∈ polyline (layerCourse op rings), ‖p - q‖ ≤ far := by
  have hX := h.innerX_nonneg
  have hY := h.innerY_nonneg
  have hle := h.outer_le_inner
  -- straight on along the axis on which the point is close to the outer ring
  rcases hfar with hfar | hfar
  · obtain ⟨q, hq, hdistance⟩ := exists_near_of_im (a := X - outer) (by linarith) h.im_le
    refine ⟨q, h.outer_subset hq, hdistance.trans_le ?_⟩
    rw [abs_sub_comm, abs_of_nonneg (sub_nonneg.mpr h.re_le)]
    exact hfar
  · obtain ⟨q, hq, hdistance⟩ := exists_near_of_re (b := Y - outer) (by linarith) h.re_le
    refine ⟨q, h.outer_subset hq, hdistance.trans_le ?_⟩
    rw [abs_sub_comm, abs_of_nonneg (sub_nonneg.mpr h.im_le)]
    exact hfar

theorem exists_near_of_im_le (him : |p.im - op.y| ≤ Y - inner)
    (hside : X - inner ≤ |p.re - op.x|) :
    ∃ q ∈ polyline (layerCourse op rings), ‖p - q‖ ≤ (inner - outer) / 2 := by
  rcases le_total (|p.re - op.x| - (X - inner)) ((inner - outer) / 2) with hnear | hfar
  · obtain ⟨q, hq, hdistance⟩ := exists_near_of_im h.innerX_nonneg him
    refine ⟨q, h.inner_subset hq, hdistance.trans_le ?_⟩
    rw [abs_of_nonneg (sub_nonneg.mpr hside)]
    exact hnear
  · exact h.exists_near_outer (Or.inl (by linarith))

theorem exists_near_of_re_le (hre : |p.re - op.x| ≤ X - inner)
    (hside : Y - inner ≤ |p.im - op.y|) :
    ∃ q ∈ polyline (layerCourse op rings), ‖p - q‖ ≤ (inner - outer) / 2 := by
  rcases le_total (|p.im - op.y| - (Y - inner)) ((inner - outer) / 2) with hnear | hfar
  · obtain ⟨q, hq, hdistance⟩ := exists_near_of_re h.innerY_nonneg hre
    refine ⟨q, h.inner_subset hq, hdistance.trans_le ?_⟩
    rw [abs_of_nonneg (sub_nonneg.mpr hside)]
    exact hnear
  · exact h.exists_near_outer (Or.inr (by linarith))

/-- Beside any side of the inner ring one of the two rings is near. -/
theorem exists_near_beside
    (hbeside : |p.re - op.x| ≤ X - inner ∨ |p.im - op.y| ≤ Y - inner) :
    ∃ q ∈ polyline (layerCourse op rings), ‖p - q‖ ≤ (inner - outer) / 2 := by
  rcases hbeside with hre | him
  · rcases le_total (Y - inner) |p.im - op.y| with habove | hbelow
    · exact h.exists_near_of_re_le hre habove
    · -- only the side itself is not inside the inner ring
      exact h.outside.elim (h.exists_near_of_im_le hbelow) (h.exists_near_of_re_le hre)
  · rcases le_total (X - inner) |p.re - op.x| with hbeyond | hwithin
    · exact h.exists_near_of_im_le him hbeyond
    · exact h.outside.elim (h.exists_near_of_im_le him) (h.exists_near_of_re_le hwithin)

/-- How far a point beyond a corner of the inner ring is from that corner, along the axis where it
is further. -/
private theorem exists_overhang (hre : X - inner ≤ |p.re - op.x|)
    (him : Y - inner ≤ |p.im - op.y|) :
    ∃ far, 0 ≤ far ∧ far ≤ inner - outer ∧ |p.re - op.x| - (X - inner) ≤ far ∧
      |p.im - op.y| - (Y - inner) ≤ far ∧
      (X - outer - |p.re - op.x| ≤ inner - outer - far ∨
        Y - outer - |p.im - op.y| ≤ inner - outer - far) := by
  have hX := h.re_le
  have hY := h.im_le
  -- where it is further from the inner ring it is closer to the outer one
  rcases le_total (|p.re - op.x| - (X - inner)) (|p.im - op.y| - (Y - inner)) with hle | hle
  · refine ⟨|p.im - op.y| - (Y - inner), ?_, ?_, hle, le_rfl, Or.inr ?_⟩ <;> linarith
  · refine ⟨|p.re - op.x| - (X - inner), ?_, ?_, le_rfl, hle, Or.inl ?_⟩ <;> linarith

/-- Beyond a corner of the inner ring the outer ring or the corner is within `2 - √2` of the
distance of the rings. -/
theorem exists_near_beyond (hre : X - inner ≤ |p.re - op.x|) (him : Y - inner ≤ |p.im - op.y|) :
    ∃ q ∈ polyline (layerCourse op rings), ‖p - q‖ ≤ (2 - √2) * (inner - outer) := by
  obtain ⟨far, hfar, -, hfarX, hfarY, houter⟩ := h.exists_overhang hre him
  have hsqrt : √2 * √2 = 2 := Real.mul_self_sqrt zero_le_two
  -- at this overhang the corner and the outer ring are equally far, since `√2 (√2 - 1) = 2 - √2`
  rcases le_total ((√2 - 1) * (inner - outer)) far with hout | hin
  · -- closer to the outer ring
    refine h.exists_near_outer (houter.imp (fun hX => hX.trans ?_) fun hY => hY.trans ?_) <;>
      linarith
  · obtain ⟨q, hq, hdistance⟩ := exists_near_corner op h.innerX_nonneg h.innerY_nonneg hfar
      (by rwa [abs_of_nonneg (sub_nonneg.mpr hre)]) (by rwa [abs_of_nonneg (sub_nonneg.mpr him)])
    refine ⟨q, h.inner_subset hq, hdistance.trans ?_⟩
    calc √2 * far ≤ √2 * ((√2 - 1) * (inner - outer)) := by gcongr
      _ = (√2 * √2 - √2) * (inner - outer) := by ring
      _ = (2 - √2) * (inner - outer) := by rw [hsqrt]

/-- Beyond the corner of least X and Y the way to the outer ring is near, if that ring is not. -/
theorem exists_near_link (hre : X - inner ≤ |p.re - op.x|) (him : Y - inner ≤ |p.im - op.y|)
    (hleft : p.re ≤ op.x) (hlow : p.im ≤ op.y) :
    ∃ q ∈ polyline (layerCourse op rings), ‖p - q‖ ≤ (inner - outer) / 2 := by
  obtain ⟨far, hfar, hgap, hfarX, hfarY, houter⟩ := h.exists_overhang hre him
  rcases le_total ((inner - outer) / 2) far with hout | hin
  · -- closer to the outer ring
    refine h.exists_near_outer (houter.imp (fun hX => hX.trans ?_) fun hY => hY.trans ?_) <;>
      linarith
  · -- the point of the way that is as far from the corner along both axes
    have hmem := mem_segment_of_mem_Icc ⟨op.x - (X - inner), op.y - (Y - inner)⟩ ⟨-1, -1⟩
      (Set.mem_Icc.mpr ⟨hfar, hgap⟩)
    have hfirst : (⟨op.x - (X - inner), op.y - (Y - inner)⟩ : ℂ) + (0 : ℝ) • ⟨-1, -1⟩ =
        ⟨op.x - (X - inner), op.y - (Y - inner)⟩ := by
      rw [zero_smul, add_zero]
    have hsecond : (⟨op.x - (X - inner), op.y - (Y - inner)⟩ : ℂ) + (inner - outer) • ⟨-1, -1⟩ =
        ⟨op.x - (X - outer), op.y - (Y - outer)⟩ := by
      apply Complex.ext <;> simp <;> ring
    rw [hfirst, hsecond] at hmem
    refine ⟨_, link_subset h.infix_rings hmem, (Complex.norm_le_abs_re_add_abs_im _).trans ?_⟩
    have hreal : (p - (⟨op.x - (X - inner), op.y - (Y - inner)⟩ + far • ⟨-1, -1⟩)).re =
        far - (|p.re - op.x| - (X - inner)) := by
      rw [abs_of_nonpos (sub_nonpos.mpr hleft)]
      simp
      ring
    have himaginary : (p - (⟨op.x - (X - inner), op.y - (Y - inner)⟩ + far • ⟨-1, -1⟩)).im =
        far - (|p.im - op.y| - (Y - inner)) := by
      rw [abs_of_nonpos (sub_nonpos.mpr hlow)]
      simp
      ring
    rw [hreal, himaginary, abs_of_nonneg (sub_nonneg.mpr hfarX),
      abs_of_nonneg (sub_nonneg.mpr hfarY)]
    -- along one of the axes the two are as far from the corner
    rcases houter with hX | hY <;> linarith

end Neighbours

/-- Every point of a rectangle lies between two rings next to each other, or on the boundary. -/
theorem exists_neighbours (hfills : Toolpath.FillsRectangle X Y stepover rings)
    (hstep : 0 < stepover) (hre : |p.re - op.x| ≤ X) (him : |p.im - op.y| ≤ Y) :
    p ∈ polyline (layerCourse op rings) ∨
      ∃ inner outer, Neighbours op rings X Y inner outer p ∧
        inner - outer ≤ stepover * (1 + 1 / 10 ^ 9) := by
  -- how deep the point lies under the boundary says between which rings
  have hdepth : min (X - |p.re - op.x|) (Y - |p.im - op.y|) ∈ Set.Icc 0 (min X Y) := by
    refine ⟨le_min (sub_nonneg.mpr hre) (sub_nonneg.mpr him), min_le_min ?_ ?_⟩
    · exact sub_le_self _ (abs_nonneg _)
    · exact sub_le_self _ (abs_nonneg _)
  rcases hfills.between hstep _ hdepth with hzero | ⟨inner, outer, hpart, hgap, houter, hinner⟩
  · -- the boundary is the last ring
    refine Or.inl (outline_subset op (List.mem_of_getLast? (hfills.last hstep)) ?_)
    rcases min_choice (X - |p.re - op.x|) (Y - |p.im - op.y|) with hX | hY
    · exact mem_outline_of_re (by linarith) him
    · exact mem_outline_of_im hre (by linarith)
  · obtain ⟨hX, hY⟩ := hfills.mem_Icc _ (hpart.subset List.mem_cons_self)
    have hreach := le_min_iff.mp houter
    refine Or.inr ⟨inner, outer, ?_, hgap⟩
    constructor
    case infix_rings => exact hpart
    case innerX_nonneg => exact hX.1
    case innerY_nonneg => exact hY.1
    case outer_le_inner => exact houter.trans hinner
    case re_le => linarith [hreach.1]
    case im_le => linarith [hreach.2]
    case outside => exact (min_le_iff.mp hinner).imp (by intro; linarith) (by intro; linarith)

/-- A point lies between the corners of two rings next to each other, but not between those of least
X and Y. -/
def BetweenCorners (op : Operation ℝ) (rings : List (ℝ × ℝ)) (p : ℂ) : Prop :=
  ∃ inner outer : ℝ × ℝ, [inner, outer] <:+: rings ∧
    |p.re - op.x| ∈ Set.Ioc inner.1 outer.1 ∧ |p.im - op.y| ∈ Set.Ioc inner.2 outer.2 ∧
      ¬ (p.re ≤ op.x ∧ p.im ≤ op.y)

/-- What the rings leave standing lies between corners. -/
theorem exists_near_or_betweenCorners (hfills : Toolpath.FillsRectangle X Y stepover rings)
    (hstep : 0 < stepover) (hre : |p.re - op.x| ≤ X) (him : |p.im - op.y| ≤ Y) :
    (∃ q ∈ polyline (layerCourse op rings), ‖p - q‖ ≤ stepover * (1 + 1 / 10 ^ 9) / 2) ∨
      BetweenCorners op rings p ∧ ∃ q ∈ polyline (layerCourse op rings),
        ‖p - q‖ ≤ (2 - √2) * (stepover * (1 + 1 / 10 ^ 9)) := by
  rcases exists_neighbours hfills hstep hre him with hmem | ⟨inner, outer, h, hgap⟩
  · refine Or.inl ⟨p, hmem, ?_⟩
    rw [sub_self, norm_zero]
    positivity
  · have hhalf : (inner - outer) / 2 ≤ stepover * (1 + 1 / 10 ^ 9) / 2 := by linarith
    by_cases hbeside : |p.re - op.x| ≤ X - inner ∨ |p.im - op.y| ≤ Y - inner
    · obtain ⟨q, hq, hdistance⟩ := h.exists_near_beside hbeside
      exact Or.inl ⟨q, hq, hdistance.trans hhalf⟩
    · obtain ⟨hX, hY⟩ := not_or.mp hbeside
      rw [not_le] at hX hY
      -- beyond one corner of the four the tool passes on its way to the outer ring
      by_cases hleast : p.re ≤ op.x ∧ p.im ≤ op.y
      · obtain ⟨q, hq, hdistance⟩ := h.exists_near_link hX.le hY.le hleast.1 hleast.2
        exact Or.inl ⟨q, hq, hdistance.trans hhalf⟩
      · obtain ⟨q, hq, hdistance⟩ := h.exists_near_beyond hX.le hY.le
        have hsqrt : √2 ≤ 2 := by
          rw [Real.sqrt_le_left zero_le_two]
          norm_num
        refine Or.inr ⟨⟨_, _, h.infix_rings, ⟨hX, h.re_le⟩, ⟨hY, h.im_le⟩, hleast⟩, q, hq, ?_⟩
        exact hdistance.trans (mul_le_mul_of_nonneg_left hgap (sub_nonneg.mpr hsqrt))

end Rings

/-! ## Pockets in a program -/

/-- What is shown of the floor of a rectangular pocket. -/
structure ClearsButCorners (settings : Settings ℝ) (op : Operation ℝ) (width length : ℝ)
    (rings : List (ℝ × ℝ)) (layers : List ℝ) (body : List Line) : Prop where
  /-- The block is made of its rings: on every layer the tool makes the moves of the rings. -/
  made : CutsRings settings op width length rings layers body
  /-- As they are printed and with some left out, these moves pass within one unit of the last
  decimal place of every point of the path that was meant. -/
  onPaper : ∃ kept : List (Point ℝ),
    layerMoves settings op rings = kept.map (fun point => .cutTo (settings.place point)) ∧
      ∀ p ∈ polyline (layerCourse op rings),
        ∃ q ∈ polyline ((op.origin :: kept).map settings.printedPoint),
          ‖p - q‖ ≤ 1 / 10 ^ settings.coordinatePlaces
  /-- No point that the cutter's centre may reach is further from the path of a layer than half of
  the cutter.  Only where the stepover is wider than `(2 + √2) / 4` of the cutter, points between
  the corners of two rings may be, and they are within `2 - √2` of the stepover. -/
  cleared : ∀ p : ℂ, |p.re - op.x| ≤ room op width → |p.im - op.y| ≤ room op length →
    (∃ q ∈ polyline (layerCourse op rings), ‖p - q‖ ≤ op.toolDiameter / 2 * (1 + 1 / 10 ^ 9)) ∨
      (2 + √2) / 4 < settings.pocketStepover ∧ BetweenCorners op rings p ∧
        ∃ q ∈ polyline (layerCourse op rings),
          ‖p - q‖ ≤ (2 - √2) * (op.toolDiameter * settings.pocketStepover) * (1 + 1 / 10 ^ 9)

/-- With a narrow stepover the points between corners are near as well. -/
private theorem corner_distance_le {tool fraction : ℝ} (htool : 0 < tool)
    (hnarrow : fraction ≤ (2 + √2) / 4) :
    (2 - √2) * (tool * fraction * (1 + 1 / 10 ^ 9)) ≤ tool / 2 * (1 + 1 / 10 ^ 9) := by
  have hsqrt : √2 * √2 = 2 := Real.mul_self_sqrt zero_le_two
  have hle : 0 ≤ 2 - √2 := by
    rw [sub_nonneg, Real.sqrt_le_left zero_le_two]
    norm_num
  calc (2 - √2) * (tool * fraction * (1 + 1 / 10 ^ 9))
      = (2 - √2) * fraction * (tool * (1 + 1 / 10 ^ 9)) := by ring
    _ ≤ (2 - √2) * ((2 + √2) / 4) * (tool * (1 + 1 / 10 ^ 9)) := by gcongr
    _ = (4 - √2 * √2) / 4 * (tool * (1 + 1 / 10 ^ 9)) := by ring
    _ = tool / 2 * (1 + 1 / 10 ^ 9) := by
        rw [hsqrt]
        ring

/-- **Rectangular pockets are cleared but for corners.** -/
theorem rectangular_pockets_are_cleared_but_for_corners (settings : Settings ℝ) (stock : Stock ℝ)
    {ops : List (Operation ℝ)} {i : ℕ} {op : Operation ℝ} {width length : ℝ}
    (hop : ops[i]? = some op) (hfeature : op.feature = .rectangularPocket width length)
    (hskip : skipReason? stock op = none) (hlow : 0 < settings.pocketStepover)
    (hhigh : settings.pocketStepover ≤ 1) :
    ∃ program bodies foot body rings layers, compile settings stock ops = .ok program ∧
      Divided settings stock ops program bodies foot ∧ bodies[i]? = some body ∧
      ClearsButCorners settings op width length rings layers body := by
  obtain ⟨htool, -, -⟩ := room_of_skipReason? hfeature hskip
  have hstep : 0 < op.toolDiameter * settings.pocketStepover := mul_pos htool hlow
  have hstepover : op.toolDiameter * settings.pocketStepover ≤ op.toolDiameter :=
    mul_le_of_le_one_right htool.le hhigh
  obtain ⟨program, bodies, foot, body, rings, layers, hcompile, hdivided, hbody, hfills, hmade⟩ :=
    exists_cutsRings settings stock hop hfeature hskip
  refine ⟨program, bodies, foot, body, rings, layers, hcompile, hdivided, hbody, ?_⟩
  constructor
  case made => exact hmade
  case onPaper =>
    obtain ⟨kept, -, hvisited, hways⟩ := exists_kept settings op.origin (layerTargets op rings)
    refine ⟨kept, by rw [layerMoves, hvisited, List.map_map]; rfl, fun p hp => ?_⟩
    obtain ⟨q, hq, hnear⟩ := exists_near_printed settings hp
    exact ⟨q, hways hq, hnear⟩
  case cleared =>
    intro p hre him
    -- near a side of a ring, or between the corners of two rings
    rcases exists_near_or_betweenCorners hfills hstep hre him with
      ⟨q, hq, hdistance⟩ | ⟨hbetween, q, hq, hdistance⟩
    · -- no stepover is wider than the cutter
      refine Or.inl ⟨q, hq, hdistance.trans ?_⟩
      rw [mul_div_right_comm]
      gcongr
    · rcases le_or_gt settings.pocketStepover ((2 + √2) / 4) with hnarrow | hwide
      · exact Or.inl ⟨q, hq, hdistance.trans (corner_distance_le htool hnarrow)⟩
      · rw [← mul_assoc] at hdistance
        exact Or.inr ⟨hwide, hbetween, q, hq, hdistance⟩

/-! ## A pocket with corners left standing -/

/-- A square pocket of three times the cutter. -/
noncomputable def widePocket : Operation ℝ :=
  ⟨Scalar.ofNat 50, Scalar.ofNat 30, Scalar.ofNat 20, Scalar.ofNat 12, Scalar.ofNat 200,
    Scalar.ofNat 1500, Scalar.ofNat 8, .endMill, Scalar.zero,
    .rectangularPocket (Scalar.ofNat 24) (Scalar.ofNat 24)⟩

/-- The widest stepover: the whole cutter. -/
noncomputable def wideSettings : Settings ℝ := { exactSettings with pocketStepover := 1 }

private theorem feature_widePocket : widePocket.feature = .rectangularPocket 24 24 := by
  norm_num [widePocket, ofNat_real]

private theorem skipReason?_widePocket : skipReason? exactStock widePocket = none := by
  norm_num [skipReason?, featureSkipReason?, isUsable, Scalar.isPositive, widePocket,
    exactStock, isFinite_real, lt_real, le_real, zero_real, ofNat_real, min_real]

private theorem wideStepover : 0 < wideSettings.pocketStepover ∧
    wideSettings.pocketStepover ≤ 1 := by
  norm_num [wideSettings]

/-- The only rings are the centre and the boundary. -/
private theorem rectangleRings_widePocket :
    Toolpath.rectangleRings (room widePocket 24) (room widePocket 24)
      (widePocket.toolDiameter * wideSettings.pocketStepover) = .ok [(0, 0), (8, 8)] := by
  have hroom : room widePocket 24 = 8 := by norm_num [room, half_real, ofNat_real, widePocket]
  have hstep : widePocket.toolDiameter * wideSettings.pocketStepover = 8 := by
    norm_num [widePocket, wideSettings, ofNat_real]
  have hceil : ⌈(8 : ℝ) / 8 - 1 / 10 ^ 9⌉₊ = 1 := by
    rw [Nat.ceil_eq_iff one_ne_zero]
    norm_num
  have hcount : Toolpath.stepCount (min (8 : ℝ) 8) 8 = .ok 1 := by
    rw [min_self, Toolpath.stepCount_real 8 (by norm_num), hceil]
    rfl
  rw [hroom, hstep, Toolpath.rectangleRings_eq_ok (by norm_num) (by norm_num) hcount, min_self]
  norm_num [Toolpath.positions, List.range_succ]

/-- Of the sample pocket, cut with rings as far apart as the cutter is wide, only points between the
corners of the centre and the boundary may be left. -/
theorem rectangular_pockets_are_cleared_but_for_corners_of_widePocket :
    skipReason? exactStock widePocket = none ∧ 0 < wideSettings.pocketStepover ∧
      wideSettings.pocketStepover ≤ 1 ∧
      ∃ program bodies foot body layers,
        compile wideSettings exactStock [widePocket] = .ok program ∧
          Divided wideSettings exactStock [widePocket] program bodies foot ∧
          bodies[0]? = some body ∧
          ClearsButCorners wideSettings widePocket 24 24 [(0, 0), (8, 8)] layers body := by
  have hnth : [widePocket][0]? = some widePocket := rfl
  obtain ⟨program, bodies, foot, body, rings, layers, hcompile, hdivided, hbody, hclears⟩ :=
    rectangular_pockets_are_cleared_but_for_corners wideSettings exactStock hnth
      feature_widePocket skipReason?_widePocket wideStepover.1 wideStepover.2
  have hrings := hclears.made.rings_eq
  rw [rectangleRings_widePocket] at hrings
  cases hrings
  exact ⟨skipReason?_widePocket, wideStepover.1, wideStepover.2, program, bodies, foot, body,
    layers, hcompile, hdivided, hbody, hclears⟩

/-- What is linear stays below a bound between two points where it does. -/
private theorem le_of_mem_segment (f : ℂ →ₗ[ℝ] ℝ) {a b q : ℂ} {bound : ℝ} (ha : f a ≤ bound)
    (hb : f b ≤ bound) (hq : q ∈ segment ℝ a b) : f q ≤ bound :=
  ((convex_Iic bound).linear_preimage f).segment_subset ha hb hq

/-- All of the path lies on two sides of the pocket, or below the diagonal between the others. -/
private theorem layerCourse_widePocket {q : ℂ}
    (h : q ∈ polyline (layerCourse widePocket [(0, 0), (8, 8)])) :
    q.re + q.im ≤ 80 ∨ 58 ≤ q.re ∨ 38 ≤ q.im := by
  have hcourse : layerCourse widePocket [(0, 0), (8, 8)] =
      [⟨50, 30⟩, ⟨50, 30⟩, ⟨50, 30⟩, ⟨50, 30⟩, ⟨50, 30⟩, ⟨50, 30⟩, ⟨42, 22⟩, ⟨58, 22⟩, ⟨58, 38⟩,
        ⟨42, 38⟩, ⟨42, 22⟩, ⟨50, 30⟩] := by
    norm_num [layerCourse, layerTargets, corners, Operation.origin, widePocket, ofNat_real,
      Point.toComplex]
  have hbelow {a b : ℂ} (ha : a.re + a.im ≤ 80) (hb : b.re + b.im ≤ 80)
      (hq : q ∈ segment ℝ a b) : q.re + q.im ≤ 80 :=
    le_of_mem_segment (Complex.reLm + Complex.imLm) ha hb hq
  have hright {a b : ℂ} (ha : -a.re ≤ -58) (hb : -b.re ≤ -58) (hq : q ∈ segment ℝ a b) :
      58 ≤ q.re :=
    neg_le_neg_iff.mp (le_of_mem_segment (-Complex.reLm) ha hb hq)
  have htop {a b : ℂ} (ha : -a.im ≤ -38) (hb : -b.im ≤ -38) (hq : q ∈ segment ℝ a b) :
      38 ≤ q.im :=
    neg_le_neg_iff.mp (le_of_mem_segment (-Complex.imLm) ha hb hq)
  rw [hcourse] at h
  simp only [polyline_cons_cons, polyline_singleton, Set.mem_union] at h
  rcases h with h | h | h | h | h | h | h | h | h | h | h | h
  -- all ways but two have both ends below the diagonal, or on it
  iterate 7 · exact Or.inl (hbelow (by norm_num) (by norm_num) h)
  · exact Or.inr (Or.inl (hright (by norm_num) (by norm_num) h))
  · exact Or.inr (Or.inr (htop (by norm_num) (by norm_num) h))
  iterate 2 · exact Or.inl (hbelow (by norm_num) (by norm_num) h)
  · rw [Set.mem_singleton_iff.mp h]
    norm_num

/-- **Wide rings leave corners.**  Where the rings are as far apart as the cutter is wide, there is
a point in reach of the cutter's centre that is further from its path than half of the cutter. -/
theorem wide_rings_leave_corners :
    skipReason? exactStock widePocket = none ∧ 0 < wideSettings.pocketStepover ∧
      wideSettings.pocketStepover ≤ 1 ∧
      ∃ program bodies foot body rings layers,
        compile wideSettings exactStock [widePocket] = .ok program ∧
          Divided wideSettings exactStock [widePocket] program bodies foot ∧
          bodies[0]? = some body ∧ CutsRings wideSettings widePocket 24 24 rings layers body ∧
          layers ≠ [] ∧
          ∃ p : ℂ, |p.re - widePocket.x| ≤ room widePocket 24 ∧
            |p.im - widePocket.y| ≤ room widePocket 24 ∧
            ∀ q ∈ polyline (layerCourse widePocket rings),
              widePocket.toolDiameter / 2 * (1 + 1 / 10 ^ 9) < ‖p - q‖ := by
  have hnth : [widePocket][0]? = some widePocket := rfl
  obtain ⟨program, bodies, foot, body, rings, layers, hcompile, hdivided, hbody, -, hmade⟩ :=
    exists_cutsRings wideSettings exactStock hnth feature_widePocket skipReason?_widePocket
  -- the rings of this pocket are known by name
  have hrings := hmade.rings_eq
  rw [rectangleRings_widePocket] at hrings
  cases hrings
  refine ⟨skipReason?_widePocket, wideStepover.1, wideStepover.2, program, bodies, foot, body, _,
    layers, hcompile, hdivided, hbody, hmade, ?_, ⟨53.6, 33.6⟩, ?_, ?_, ?_⟩
  · rintro rfl
    cases Toolpath.getLast?_depthLayers hmade.layers_eq
  · norm_num [room, half_real, ofNat_real, widePocket, abs_le]
  · norm_num [room, half_real, ofNat_real, widePocket, abs_le]
  · intro q hq
    -- the path turns along three sides around the point, each further off than this
    have hradius : widePocket.toolDiameter / 2 * (1 + 1 / 10 ^ 9) < 4.4 := by
      norm_num [widePocket, ofNat_real]
    refine hradius.trans_le ?_
    rcases layerCourse_widePocket hq with hbelow | hright | htop
    · -- the point is seven millimetres off the diagonal, along both axes together
      have hsum : 7.2 ≤ (⟨53.6, 33.6⟩ - q : ℂ).re + (⟨53.6, 33.6⟩ - q : ℂ).im := by
        simp only [Complex.sub_re, Complex.sub_im]
        linarith
      refine (sq_le_sq₀ (by norm_num) (norm_nonneg _)).mp ?_
      rw [Complex.sq_norm, Complex.normSq_apply]
      nlinarith [sq_nonneg ((⟨53.6, 33.6⟩ - q : ℂ).re - (⟨53.6, 33.6⟩ - q : ℂ).im)]
    · refine le_trans ?_ (Complex.abs_re_le_norm _)
      rw [Complex.sub_re, abs_sub_comm]
      exact (le_sub_iff_add_le.mpr (by norm_num at hright ⊢; linarith)).trans (le_abs_self _)
    · refine le_trans ?_ (Complex.abs_im_le_norm _)
      rw [Complex.sub_im, abs_sub_comm]
      exact (le_sub_iff_add_le.mpr (by norm_num at htop ⊢; linarith)).trans (le_abs_self _)

end Machining.Program
