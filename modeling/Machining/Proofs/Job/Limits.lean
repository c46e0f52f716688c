import Machining.Proofs.Job.Spacing

/-!
# Sequences that end on their limits

The depths of a cut, the rings that clear a pocket and the passes over a face advance in steps from
one end of a stretch to the other.  In exact arithmetic this module shows of each of them that it
begins and ends exactly where it should, that every step leads on, by no more than the step that is
asked for and a billionth of it, and that no step can be saved.

All of them are the positions on a stretch (`advances_positions`), seen from where the cut begins:
depths are counted down from the top, and the rings of a rectangle lie under its boundary.

* `sequences_end_on_their_limits` says this of all four.
-/

namespace Machining.Job.Toolpath

open Machining.Numeric

/-! ## Advancing in steps -/

/-- A distance leads on: by something, but by no more than a step and a billionth of it. -/
structure LeadsOn (step distance : ℝ) : Prop where
  pos : 0 < distance
  le : distance ≤ step * (1 + 1 / 10 ^ 9)

/-- What is known of a sequence that covers a span in so many steps: from its first member to its
last each one is followed as `Next` says; there are as many steps as were counted, no smaller count
of them covers the span, and unless there is only one, without the last of them the span is not
covered. -/
structure Advances {α : Type} (Next : α → α → Prop) (first last : α) (span step : ℝ) (steps : ℕ)
    (sequence : List α) : Prop where
  head : sequence.head? = some first
  last : sequence.getLast? = some last
  next : sequence.IsChain Next
  length : sequence.length = steps + 1
  counted : stepCount span step = .ok steps
  fewest : ∀ count : ℕ, span ≤ count * step → steps ≤ count
  short : steps = 1 ∨ (steps - 1 : ℝ) * step < span

section Advances

variable {α β : Type} {Next : α → α → Prop} {first last : α} {span step : ℝ} {steps : ℕ}
  {sequence : List α}

/-- A sequence seen from another place advances as it did. -/
theorem Advances.map (h : Advances Next first last span step steps sequence)
    (Follows : β → β → Prop) (f : α → β) (hf : ∀ a b, Next a b → Follows (f a) (f b)) :
    Advances Follows (f first) (f last) span step steps (sequence.map f) where
  head := by rw [List.head?_map, h.head, Option.map_some]
  last := by rw [List.getLast?_map, h.last, Option.map_some]
  next := List.isChain_map_of_isChain f hf h.next
  length := by rw [List.length_map, h.length]
  counted := h.counted
  fewest := h.fewest
  short := h.short

/-- Backwards a sequence leads from its last member to its first. -/
theorem Advances.reverse (h : Advances Next first last span step steps sequence) :
    Advances (fun a b => Next b a) last first span step steps sequence.reverse where
  head := by rw [List.head?_reverse, h.last]
  last := by rw [List.getLast?_reverse, h.head]
  next := List.isChain_reverse.mpr h.next
  length := by rw [List.length_reverse, h.length]
  counted := h.counted
  fewest := h.fewest
  short := h.short

end Advances

/-- **The positions on a stretch advance to its high end.** -/
theorem advances_positions {low high step : ℝ} {k : ℕ} (hspan : low < high) (hstep : 0 < step)
    (hcount : stepCount (high - low) step = .ok (k + 1)) :
    Advances (fun a b => LeadsOn step (b - a)) low high (high - low) step (k + 1)
      (positions low high step (k + 1)) := by
  have hslack : 0 < step * (1 / 10 ^ 9) := by positivity
  -- all steps but the last fall short of the high end, and by no more than one step
  have hshort {i : ℕ} (hi : i < k + 1) : i * step < high - low :=
    steps_lt_span (sub_pos.mpr hspan) hstep hcount hi
  have hlast := hshort (Nat.lt_succ_self k)
  have hcover := span_le_steps hstep hcount
  push_cast at hcover
  constructor
  case head =>
    rw [positions_succ]
    rfl
  case last => exact getLast?_positions _ _ _ _
  case next =>
    apply isChain_positions_succ
    · intro a
      constructor <;> linarith
    · constructor <;> linarith
  case length => simp [positions]
  case counted => exact hcount
  case fewest =>
    intro count hcovers
    by_contra hlt
    exact absurd hcovers (not_le.mpr (hshort (not_le.mp hlt)))
  case short =>
    right
    rwa [Nat.cast_succ, add_sub_cancel_right]

/-- The positions from zero on advance over the way to their high end. -/
theorem exists_advances_from_zero {high step : ℝ} (hhigh : 0 < high) (hstep : 0 < step) :
    ∃ k, stepCount high step = .ok (k + 1) ∧
      Advances (fun a b => LeadsOn step (b - a)) 0 high high step (k + 1)
        (positions 0 high step (k + 1)) := by
  obtain ⟨k, hcount⟩ := exists_stepCount_eq_succ high hstep
  have hadvances := advances_positions hhigh hstep (by rwa [sub_zero])
  rw [sub_zero] at hadvances
  exact ⟨k, hcount, hadvances⟩

/-! ## Depths -/

/-- With the top the depths of the passes are positions on the way down, seen from the top. -/
theorem depthLayers_eq_ok {zStart zDepth stepDown : ℝ} (hspan : zDepth < zStart)
    (hstep : 0 < stepDown) {count : ℕ}
    (hcount : stepCount (zStart - zDepth) stepDown = .ok (count + 1)) :
    ∃ layers, depthLayers zStart zDepth stepDown = .ok layers ∧
      zStart :: layers =
        (positions 0 (zStart - zDepth) stepDown (count + 1)).map
          fun descent => zStart - descent := by
  have hguard : ¬ (Scalar.le stepDown Scalar.zero || Scalar.le (zStart - zDepth) Scalar.zero ||
      !Scalar.isFinite stepDown) = true := by
    rw [Bool.or_eq_true, Bool.or_eq_true, le_real_iff, le_real_iff, zero_real, isFinite_real]
    push Not
    exact ⟨⟨hstep, sub_pos.mpr hspan⟩, Bool.false_ne_true⟩
  refine ⟨_, by rw [depthLayers, if_neg hguard, hcount]; rfl, ?_⟩
  rw [positions_succ]
  simp [inner, ofNat_real]

/-- The depths of the passes lead down to the depth of the cut. -/
theorem exists_advances_depthLayers {zStart zDepth stepDown : ℝ} (hspan : zDepth < zStart)
    (hstep : 0 < stepDown) :
    ∃ layers steps, depthLayers zStart zDepth stepDown = .ok layers ∧
      Advances (fun upper lower => LeadsOn stepDown (upper - lower)) zStart zDepth
        (zStart - zDepth) stepDown steps (zStart :: layers) := by
  obtain ⟨k, hcount, hadvances⟩ := exists_advances_from_zero (sub_pos.mpr hspan) hstep
  obtain ⟨layers, hlayers, hpositions⟩ := depthLayers_eq_ok hspan hstep hcount
  have hdown := hadvances.map (fun upper lower => LeadsOn stepDown (upper - lower))
    (fun descent => zStart - descent) fun a b hab => by rwa [sub_sub_sub_cancel_left]
  rw [sub_zero, sub_sub_cancel, ← hpositions] at hdown
  exact ⟨layers, _, hlayers, hdown⟩

/-! ## Rings and passes -/

/-- The radii of the rings lead from the centre out to the limit. -/
theorem exists_advances_ringRadii {limit stepover : ℝ} (hlimit : 0 < limit)
    (hstep : 0 < stepover) :
    ∃ radii steps, ringRadii limit stepover = .ok radii ∧
      Advances (fun inner outer => LeadsOn stepover (outer - inner)) 0 limit limit stepover steps
        (0 :: radii) := by
  obtain ⟨k, hcount, hadvances⟩ := exists_advances_from_zero hlimit hstep
  obtain ⟨radii, hradii, -, hpositions⟩ := ringRadii_eq_ok hlimit hstep hcount
  rw [← hpositions] at hadvances
  exact ⟨radii, _, hradii, hadvances⟩

/-- Whether a ring exceeds another one on all sides by one and the same distance that leads on. -/
def Exceeds (stepover : ℝ) (inner outer : ℝ × ℝ) : Prop :=
  ∃ distance, LeadsOn stepover distance ∧ outer.1 = inner.1 + distance ∧
    outer.2 = inner.2 + distance

/-- The rings of a rectangle lead from a line or a point out to its boundary. -/
theorem exists_advances_rectangleRings {halfX halfY stepover : ℝ} (hreach : 0 < min halfX halfY)
    (hstep : 0 < stepover) :
    ∃ rings innermost steps, rectangleRings halfX halfY stepover = .ok rings ∧
      min innermost.1 innermost.2 = 0 ∧
      Advances (Exceeds stepover) innermost (halfX, halfY) (min halfX halfY) stepover steps
        rings := by
  obtain ⟨k, hcount, hadvances⟩ := exists_advances_from_zero hreach hstep
  have hrings := hadvances.reverse.map (Exceeds stepover)
    (fun offset => (halfX - offset, halfY - offset)) fun inner outer h => by
      refine ⟨inner - outer, h, ?_, ?_⟩ <;> ring
  rw [sub_zero, sub_zero] at hrings
  refine ⟨_, _, _, rectangleRings_eq_ok hreach hstep hcount, ?_, hrings⟩
  rw [min_sub_sub_right, sub_self]

/-- The passes over a face lead from one edge to the other. -/
theorem exists_advances_rasterOffsets {low high stepover : ℝ} (hspan : low < high)
    (hstep : 0 < stepover) :
    ∃ passes steps, rasterOffsets low high stepover = .ok passes ∧
      Advances (fun a b => LeadsOn stepover (b - a)) low high (high - low) stepover steps
        passes := by
  obtain ⟨k, hcount⟩ := exists_stepCount_eq_succ (high - low) hstep
  exact ⟨_, _, rasterOffsets_eq_ok hspan hstep hcount, advances_positions hspan hstep hcount⟩

/-- **The sequences end on their limits**, whatever real numbers they are asked for: depths lead
from the top down to the depth of the cut, radii from the centre out to the limit, rings of a
rectangle from one whose smaller half-size is zero out to its boundary, and passes over a face from
its low edge to its high one. -/
theorem sequences_end_on_their_limits :
    (∀ zStart zDepth stepDown : ℝ, zDepth < zStart → 0 < stepDown →
      ∃ layers steps, depthLayers zStart zDepth stepDown = .ok layers ∧
        Advances (fun upper lower => LeadsOn stepDown (upper - lower)) zStart zDepth
          (zStart - zDepth) stepDown steps (zStart :: layers)) ∧
    (∀ limit stepover : ℝ, 0 < limit → 0 < stepover →
      ∃ radii steps, ringRadii limit stepover = .ok radii ∧
        Advances (fun inner outer => LeadsOn stepover (outer - inner)) 0 limit limit stepover
          steps (0 :: radii)) ∧
    (∀ halfX halfY stepover : ℝ, 0 < min halfX halfY → 0 < stepover →
      ∃ rings innermost steps, rectangleRings halfX halfY stepover = .ok rings ∧
        min innermost.1 innermost.2 = 0 ∧
        Advances (Exceeds stepover) innermost (halfX, halfY) (min halfX halfY) stepover steps
          rings) ∧
    (∀ low high stepover : ℝ, low < high → 0 < stepover →
      ∃ passes steps, rasterOffsets low high stepover = .ok passes ∧
        Advances (fun a b => LeadsOn stepover (b - a)) low high (high - low) stepover steps
          passes) :=
  ⟨fun _ _ _ => exists_advances_depthLayers, fun _ _ => exists_advances_ringRadii,
    fun _ _ _ => exists_advances_rectangleRings, fun _ _ _ => exists_advances_rasterOffsets⟩

/-- The limit of the rings is so little above two steps that two are counted; the last one is longer
than the stepover. -/
theorem sequences_end_on_their_limits_of_barely_two_steps :
    ((-10 : ℝ) < 0 ∧ (0 : ℝ) < 3 ∧
      ∃ layers steps, depthLayers (0 : ℝ) (-10) 3 = .ok layers ∧
        Advances (fun upper lower => LeadsOn 3 (upper - lower)) 0 (-10) (0 - -10) 3 steps
          (0 :: layers)) ∧
    ((0 : ℝ) < 2 + 1 / 10 ^ 10 ∧ (0 : ℝ) < 1 ∧
      ∃ radii steps, ringRadii (2 + 1 / 10 ^ 10 : ℝ) 1 = .ok radii ∧
        Advances (fun inner outer => LeadsOn 1 (outer - inner)) 0 (2 + 1 / 10 ^ 10)
          (2 + 1 / 10 ^ 10) 1 steps (0 :: radii)) ∧
    (0 < min (8 : ℝ) 3 ∧ (0 : ℝ) < 2 ∧
      ∃ rings innermost steps, rectangleRings (8 : ℝ) 3 2 = .ok rings ∧
        min innermost.1 innermost.2 = 0 ∧
        Advances (Exceeds 2) innermost (8, 3) (min 8 3) 2 steps rings) ∧
    ((0 : ℝ) < 100 ∧ (0 : ℝ) < 35 ∧
      ∃ passes steps, rasterOffsets (0 : ℝ) 100 35 = .ok passes ∧
        Advances (fun a b => LeadsOn 35 (b - a)) 0 100 (100 - 0) 35 steps passes) := by
  have hdepth : (-10 : ℝ) < 0 ∧ (0 : ℝ) < 3 := by norm_num
  have hlimit : (0 : ℝ) < 2 + 1 / 10 ^ 10 ∧ (0 : ℝ) < 1 := by norm_num
  have hreach : 0 < min (8 : ℝ) 3 ∧ (0 : ℝ) < 2 := by norm_num
  have hface : (0 : ℝ) < 100 ∧ (0 : ℝ) < 35 := by norm_num
  obtain ⟨hlayers, hradii, hrings, hpasses⟩ := sequences_end_on_their_limits
  exact ⟨⟨hdepth.1, hdepth.2, hlayers _ _ _ hdepth.1 hdepth.2⟩,
    ⟨hlimit.1, hlimit.2, hradii _ _ hlimit.1 hlimit.2⟩,
    ⟨hreach.1, hreach.2, hrings _ _ _ hreach.1 hreach.2⟩,
    ⟨hface.1, hface.2, hpasses _ _ _ hface.1 hface.2⟩⟩

end Machining.Job.Toolpath
