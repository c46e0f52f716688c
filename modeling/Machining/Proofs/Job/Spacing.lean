import Machining.Proofs.Numeric.Reals
import Machining.Proofs.Result
import Machining.Job.Toolpath
import Mathlib.Data.List.Chain
import Mathlib.Data.List.Range

/-!
# Positions that lie close together

A stretch is covered in steps: from its low end on by one step at a time, and at last to its high
end.  This module shows, in exact arithmetic, that the positions stay inside the stretch and leave
no gap.

The count of the steps is rounded up, but only after a billionth was taken off it.  So two positions
next to each other may be further apart than a step, by a billionth of the step.
-/

namespace Machining.Job.Toolpath

open Machining.Numeric

/-! ## How many steps there are -/

theorem slack_real : (slack : ℝ) = 1 / 10 ^ 9 := by
  change ((1 : ℕ) : ℝ) / 10 ^ 9 = 1 / 10 ^ 9
  rw [Nat.cast_one]

theorem stepCount_real (span : ℝ) {step : ℝ} (hstep : 0 < step) :
    stepCount span step = .ok (max 1 ⌈span / step - 1 / 10 ^ 9⌉₊) := by
  have hne : ¬ Scalar.eq step Scalar.zero = true := by
    intro heq
    have hzero : step = Scalar.zero := of_decide_eq_true heq
    rw [zero_real] at hzero
    exact hstep.ne' hzero
  have hnat : (max 1 ⌈span / step - 1 / 10 ^ 9⌉).toNat = max 1 ⌈span / step - 1 / 10 ^ 9⌉₊ := by
    rw [← Int.ceil_toNat]
    omega
  rw [stepCount, if_neg hne, slack_real, ← hnat]
  rfl

/-- In exact arithmetic the depths of the passes can always be counted. -/
theorem exists_depthLayers (zStart zDepth stepDown : ℝ) :
    ∃ layers, depthLayers zStart zDepth stepDown = .ok layers := by
  unfold depthLayers
  dsimp only
  split
  · exact ⟨_, rfl⟩
  · rename_i hguard
    have hstep : 0 < stepDown := by
      rw [← zero_real, ← not_le, ← le_real_iff]
      intro hle
      exact hguard (by rw [hle]; rfl)
    exact ⟨_, by rw [stepCount_real _ hstep]; rfl⟩

/-- The last pass is at the depth of the cut. -/
theorem getLast?_depthLayers {zStart zDepth stepDown : ℝ} {layers : List ℝ}
    (h : depthLayers zStart zDepth stepDown = .ok layers) : layers.getLast? = some zDepth := by
  unfold depthLayers at h
  dsimp only at h
  split at h
  · cases h
    rfl
  · obtain ⟨count, -, rfl⟩ := exists_of_map_eq_ok h
    exact List.getLast?_concat

section Count

variable {span step : ℝ} {count : ℕ}

/-- All steps but the last stay below the span. -/
theorem steps_lt_span (hspan : 0 < span) (hstep : 0 < step)
    (hcount : stepCount span step = .ok count) {k : ℕ} (hk : k < count) : k * step < span := by
  rw [stepCount_real span hstep] at hcount
  cases hcount
  rcases Nat.eq_zero_or_pos k with rfl | hpos
  · simpa using hspan
  · -- behind the first step the count is the one that was rounded up
    have hceil : k < ⌈span / step - 1 / 10 ^ 9⌉₊ := by omega
    have hlt : (k : ℝ) < span / step - 1 / 10 ^ 9 := Nat.lt_ceil.mp hceil
    have hquotient : (k : ℝ) < span / step := by
      have : (0 : ℝ) < 1 / 10 ^ 9 := by positivity
      linarith
    exact (lt_div_iff₀ hstep).mp hquotient

/-- The steps cover the span, but for a billionth of a step. -/
theorem span_le_steps (hstep : 0 < step) (hcount : stepCount span step = .ok count) :
    span ≤ (count + 1 / 10 ^ 9) * step := by
  rw [stepCount_real span hstep] at hcount
  cases hcount
  rw [← div_le_iff₀ hstep, ← sub_le_iff_le_add]
  calc span / step - 1 / 10 ^ 9 ≤ ⌈span / step - 1 / 10 ^ 9⌉₊ := Nat.le_ceil _
    _ ≤ (max 1 ⌈span / step - 1 / 10 ^ 9⌉₊ : ℕ) := by exact_mod_cast le_max_right _ _

theorem count_pos (hstep : 0 < step) (hcount : stepCount span step = .ok count) : 0 < count := by
  rw [stepCount_real span hstep] at hcount
  cases hcount
  exact lt_max_of_lt_left Nat.zero_lt_one

/-- Whatever there is to cover, there is a step. -/
theorem exists_stepCount_eq_succ (span : ℝ) (hstep : 0 < step) :
    ∃ k, stepCount span step = .ok (k + 1) := by
  have hcount := stepCount_real span hstep
  obtain ⟨k, hk⟩ := Nat.exists_eq_succ_of_ne_zero (count_pos hstep hcount).ne'
  rw [hk] at hcount
  exact ⟨k, hcount⟩

end Count

/-! ## Gaps -/

/-- A point between two others is within half of their distance from one of them. -/
private theorem near_end_of_between {a b x gap : ℝ} (hab : b - a ≤ gap) (ha : a ≤ x) (hb : x ≤ b) :
    |x - a| ≤ gap / 2 ∨ |x - b| ≤ gap / 2 := by
  rcases le_total x ((a + b) / 2) with hlow | hhigh
  · left
    rw [abs_of_nonneg (by linarith)]
    linarith
  · right
    rw [abs_of_nonpos (by linarith)]
    linarith

/-- Where `R` relates each position to the next, every point from the first position to the last
lies between two that are next to each other and related. -/
theorem exists_gap_of_isChain {R : ℝ → ℝ → Prop} {first last x : ℝ} {rest : List ℝ}
    (h : List.IsChain R (first :: (rest ++ [last]))) (hlow : first ≤ x) (hhigh : x ≤ last) :
    ∃ a b, [a, b] <:+: first :: (rest ++ [last]) ∧ R a b ∧ a ≤ x ∧ x ≤ b := by
  induction rest generalizing first with
  | nil => exact ⟨first, last, List.infix_rfl, List.isChain_pair.mp h, hlow, hhigh⟩
  | cons next rest ih =>
    obtain ⟨hnext, hrest⟩ := List.isChain_cons_cons.mp h
    -- either the point lies in the first gap, or behind it
    rcases le_total x next with hx | hx
    · exact ⟨first, next, ⟨[], rest ++ [last], rfl⟩, hnext, hlow, hx⟩
    · obtain ⟨a, b, hmem, hgap⟩ := ih hrest hx
      exact ⟨a, b, List.infix_cons hmem, hgap⟩

/-! ## Positions along a stretch -/

/-- Positions from `low` on that lie a step apart, and `high` behind them. -/
def positions (low high step : ℝ) (count : ℕ) : List ℝ :=
  (List.range count).map (fun k : ℕ => low + k * step) ++ [high]

section Stretch

variable {low high step : ℝ} {count : ℕ}

theorem mem_positions {p : ℝ} :
    p ∈ positions low high step count ↔ (∃ k < count, low + k * step = p) ∨ p = high := by
  simp [positions]

/-- The first position is the low end. -/
theorem positions_succ (low high step : ℝ) (k : ℕ) :
    positions low high step (k + 1) =
      low :: ((List.range k).map (fun i : ℕ => low + (i + 1 : ℕ) * step) ++ [high]) := by
  rw [positions, List.range_succ_eq_map, List.map_cons, List.map_map, Nat.cast_zero, zero_mul,
    add_zero]
  rfl

theorem getLast?_positions (low high step : ℝ) (count : ℕ) :
    (positions low high step count).getLast? = some high :=
  List.getLast?_concat

theorem mem_Icc_of_mem_positions (hspan : low < high) (hstep : 0 < step)
    (hcount : stepCount (high - low) step = .ok count) {p : ℝ}
    (hp : p ∈ positions low high step count) : p ∈ Set.Icc low high := by
  rcases mem_positions.mp hp with ⟨k, hk, rfl⟩ | rfl
  · have hbelow := steps_lt_span (sub_pos.mpr hspan) hstep hcount hk
    have habove : 0 ≤ k * step := by positivity
    constructor <;> linarith
  · exact ⟨hspan.le, le_refl _⟩

/-- Positions next to each other are a step apart, but the last gap is what the steps leave of the
stretch. -/
theorem isChain_positions_succ {R : ℝ → ℝ → Prop} {k : ℕ} (hstep : ∀ a, R a (a + step))
    (hlast : R (low + k * step) high) : List.IsChain R (positions low high step (k + 1)) := by
  rw [positions]
  apply List.IsChain.append
  · -- even steps, and then the last one, which may be shorter
    rw [List.isChain_map, List.isChain_range]
    intro i _
    rw [Nat.cast_succ, add_one_mul, ← add_assoc]
    exact hstep _
  · exact List.isChain_singleton _
  · intro a ha b hb
    rw [List.range_succ, List.map_append, List.map_singleton, List.getLast?_concat] at ha
    cases ha
    cases hb
    exact hlast

/-- No gap between two positions is wider than a step and a billionth of it. -/
theorem isChain_positions (hstep : 0 < step)
    (hcount : stepCount (high - low) step = .ok count) :
    List.IsChain (fun a b => b - a ≤ step * (1 + 1 / 10 ^ 9)) (positions low high step count) := by
  have hslack : 0 ≤ step * (1 / 10 ^ 9) := by positivity
  obtain ⟨k, rfl⟩ := Nat.exists_eq_succ_of_ne_zero (count_pos hstep hcount).ne'
  apply isChain_positions_succ
  · intro a
    linarith
  · have hcover := span_le_steps hstep hcount
    push_cast at hcover
    linarith

/-- Every point of the stretch lies between two positions next to each other. -/
theorem exists_gap_position (hstep : 0 < step) (hcount : stepCount (high - low) step = .ok count)
    {x : ℝ} (hlow : low ≤ x) (hhigh : x ≤ high) :
    ∃ a b, [a, b] <:+: positions low high step count ∧ b - a ≤ step * (1 + 1 / 10 ^ 9) ∧
      a ≤ x ∧ x ≤ b := by
  have hchain := isChain_positions hstep hcount
  obtain ⟨k, rfl⟩ := Nat.exists_eq_succ_of_ne_zero (count_pos hstep hcount).ne'
  rw [Nat.succ_eq_add_one, positions_succ] at hchain ⊢
  exact exists_gap_of_isChain hchain hlow hhigh

/-- **The positions leave no gap**: every point of the stretch is within half a step and half a
billionth of it from one of them. -/
theorem exists_near_position (hstep : 0 < step)
    (hcount : stepCount (high - low) step = .ok count) {x : ℝ} (hlow : low ≤ x) (hhigh : x ≤ high) :
    ∃ p ∈ positions low high step count, |x - p| ≤ step * (1 + 1 / 10 ^ 9) / 2 := by
  obtain ⟨a, b, hmem, hgap, ha, hb⟩ := exists_gap_position hstep hcount hlow hhigh
  rcases near_end_of_between hgap ha hb with hnear | hnear
  · exact ⟨a, hmem.subset List.mem_cons_self, hnear⟩
  · exact ⟨b, hmem.subset (List.mem_cons_of_mem a List.mem_cons_self), hnear⟩

end Stretch

/-! ## The rings of a disc -/

/-- What is known of the radii of the rings that clear a disc: they stay within the limit and end on
it, and with the centre they leave no gap. -/
structure ClearsDisc (limit stepover : ℝ) (radii : List ℝ) : Prop where
  mem_Icc : ∀ radius ∈ radii, radius ∈ Set.Icc 0 limit
  last : 0 < limit → radii.getLast? = some limit
  near : ∀ x, 0 ≤ x → x ≤ limit →
    ∃ radius ∈ 0 :: radii, |x - radius| ≤ stepover * (1 + 1 / 10 ^ 9) / 2

/-- With the centre the rings of a disc are positions on a radius, and the last is on the limit. -/
theorem ringRadii_eq_ok {limit stepover : ℝ} (hlimit : 0 < limit) (hstep : 0 < stepover) {count : ℕ}
    (hcount : stepCount limit stepover = .ok (count + 1)) :
    ∃ radii, ringRadii limit stepover = .ok radii ∧ radii.getLast? = some limit ∧
      0 :: radii = positions 0 limit stepover (count + 1) := by
  have hguard : ¬ (Scalar.le limit Scalar.zero || Scalar.le stepover Scalar.zero) = true := by
    rw [Bool.or_eq_true, le_real_iff, le_real_iff, zero_real]
    push Not
    exact ⟨hlimit, hstep⟩
  refine ⟨_, by rw [ringRadii, if_neg hguard, hcount]; rfl, List.getLast?_concat, ?_⟩
  rw [positions_succ]
  simp only [inner, zero_add, Nat.add_sub_cancel]
  rfl

/-- **The rings clear the disc.** -/
theorem exists_ringRadii {limit stepover : ℝ} (hlimit : 0 ≤ limit) (hstep : 0 < stepover) :
    ∃ radii, ringRadii limit stepover = .ok radii ∧ ClearsDisc limit stepover radii := by
  rcases hlimit.eq_or_lt with rfl | hpos
  · -- there is no room for a ring, and none is needed
    have hguard : (Scalar.le (0 : ℝ) Scalar.zero || Scalar.le stepover Scalar.zero) = true := by
      rw [Bool.or_eq_true, le_real_iff, zero_real]
      exact Or.inl le_rfl
    refine ⟨[], if_pos hguard, ?_⟩
    constructor
    case mem_Icc => exact List.forall_mem_nil _
    case last => exact fun h => absurd h (lt_irrefl 0)
    case near =>
      intro x hlow hhigh
      refine ⟨0, List.mem_singleton_self 0, ?_⟩
      rw [le_antisymm hhigh hlow, sub_zero, abs_zero]
      positivity
  · -- the rings are the positions on a radius, of which the centre is the first
    obtain ⟨k, hcount⟩ := exists_stepCount_eq_succ limit hstep
    obtain ⟨radii, hradii, hlast, hpositions⟩ := ringRadii_eq_ok hpos hstep hcount
    -- the radius is measured from zero
    have hspan : stepCount (limit - 0) stepover = .ok (k + 1) := by
      rw [sub_zero]
      exact hcount
    refine ⟨radii, hradii, ?_⟩
    constructor
    case mem_Icc =>
      intro radius hmem
      apply mem_Icc_of_mem_positions hpos hstep hspan
      rw [← hpositions]
      exact List.mem_cons_of_mem 0 hmem
    case last => exact fun _ => hlast
    case near =>
      intro x hlow hhigh
      rw [hpositions]
      exact exists_near_position hstep hspan hlow hhigh

/-! ## The rings of a rectangle -/

/-- What is known of the half-sizes of the rings of a rectangle: they stay within those of the
rectangle.  With a stepover above zero they end on it, and every depth under its boundary lies
between two rings next to each other that leave no more than a stepover. -/
structure FillsRectangle (halfX halfY stepover : ℝ) (rings : List (ℝ × ℝ)) : Prop where
  mem_Icc : ∀ ring ∈ rings, ring.1 ∈ Set.Icc 0 halfX ∧ ring.2 ∈ Set.Icc 0 halfY
  last : 0 < stepover → rings.getLast? = some (halfX, halfY)
  between : 0 < stepover → ∀ depth ∈ Set.Icc 0 (min halfX halfY), depth = 0 ∨
    ∃ inner outer, [(halfX - inner, halfY - inner), (halfX - outer, halfY - outer)] <:+: rings ∧
      inner - outer ≤ stepover * (1 + 1 / 10 ^ 9) ∧ outer ≤ depth ∧ depth ≤ inner

/-- The rings of a rectangle with room inside lie under its boundary by positions on a stretch. -/
theorem rectangleRings_eq_ok {halfX halfY stepover : ℝ} (hreach : 0 < min halfX halfY)
    (hstep : 0 < stepover) {count : ℕ}
    (hcount : stepCount (min halfX halfY) stepover = .ok count) :
    rectangleRings halfX halfY stepover =
      .ok ((positions 0 (min halfX halfY) stepover count).reverse.map
        fun offset => (halfX - offset, halfY - offset)) := by
  -- neither guard holds: the tool fits, with room on both sides
  have hguard : ¬ (Scalar.lt (min halfX halfY) Scalar.zero || Scalar.le stepover Scalar.zero) =
      true := by
    rw [Bool.or_eq_true, lt_real_iff, le_real_iff, zero_real]
    push Not
    exact ⟨hreach.le, hstep⟩
  have hroom : ¬ Scalar.eq (min halfX halfY) Scalar.zero = true := by
    rw [eq_real_iff, zero_real]
    exact hreach.ne'
  rw [rectangleRings, min_real]
  dsimp only
  rw [if_neg hguard, if_neg hroom, hcount, positions, List.reverse_append, ← List.map_reverse]
  simp only [zero_add]
  rfl

/-- Rings at the positions of a stretch, the deepest first, fill the rectangle. -/
theorem fillsRectangle_positions {halfX halfY stepover : ℝ} (hreach : 0 < min halfX halfY)
    (hstep : 0 < stepover) {count : ℕ}
    (hcount : stepCount (min halfX halfY) stepover = .ok count) :
    FillsRectangle halfX halfY stepover
      ((positions 0 (min halfX halfY) stepover count).reverse.map
        fun offset => (halfX - offset, halfY - offset)) := by
  have hspan : stepCount (min halfX halfY - 0) stepover = .ok count := by
    rw [sub_zero]
    exact hcount
  -- the rings are as far from the walls as the positions say, the innermost first
  constructor
  case mem_Icc =>
    intro ring hring
    obtain ⟨offset, hmem, rfl⟩ := List.mem_map.mp hring
    have hoffset := mem_Icc_of_mem_positions hreach hstep hspan (List.mem_reverse.mp hmem)
    have hoffsetX := hoffset.2.trans (min_le_left halfX halfY)
    have hoffsetY := hoffset.2.trans (min_le_right halfX halfY)
    exact ⟨⟨sub_nonneg.mpr hoffsetX, sub_le_self _ hoffset.1⟩,
      ⟨sub_nonneg.mpr hoffsetY, sub_le_self _ hoffset.1⟩⟩
  case last =>
    intro _
    obtain ⟨k, rfl⟩ := Nat.exists_eq_succ_of_ne_zero (count_pos hstep hcount).ne'
    rw [List.getLast?_map, List.getLast?_reverse, Nat.succ_eq_add_one, positions_succ]
    simp
  case between =>
    intro _ depth hdepth
    obtain ⟨outer, inner, hmem, hgap, houter, hinner⟩ :=
      exists_gap_position hstep hspan hdepth.1 hdepth.2
    have hreverse : [inner, outer] <:+: (positions 0 (min halfX halfY) stepover count).reverse :=
      List.reverse_infix.mpr hmem
    have hrings := hreverse.map fun offset => (halfX - offset, halfY - offset)
    exact Or.inr ⟨inner, outer, hrings, hgap, houter, hinner⟩

/-- A rectangle without room inside is its only ring. -/
private theorem exists_rectangleRings_of_flat {halfX halfY stepover : ℝ} (hX : 0 ≤ halfX)
    (hY : 0 ≤ halfY) (hflat : min halfX halfY = 0) (hstep : 0 < stepover) :
    ∃ rings, rectangleRings halfX halfY stepover = .ok rings ∧
      FillsRectangle halfX halfY stepover rings := by
  -- the smaller half is zero: that is no excess, and it leaves one ring
  have hguard : ¬ (Scalar.lt (min halfX halfY) Scalar.zero || Scalar.le stepover Scalar.zero) =
      true := by
    rw [Bool.or_eq_true, lt_real_iff, le_real_iff, zero_real]
    push Not
    exact ⟨hflat.ge, hstep⟩
  have hnoRoom : Scalar.eq (min halfX halfY) Scalar.zero = true := by
    rw [eq_real_iff, zero_real]
    exact hflat
  refine ⟨[(halfX, halfY)], ?_, ?_⟩
  · rw [rectangleRings, min_real]
    dsimp only
    rw [if_neg hguard, if_pos hnoRoom]
  · constructor
    case mem_Icc =>
      intro ring hring
      obtain rfl := List.mem_singleton.mp hring
      exact ⟨⟨hX, le_rfl⟩, ⟨hY, le_rfl⟩⟩
    case last => exact fun _ => rfl
    case between =>
      intro _ depth hdepth
      rw [hflat] at hdepth
      exact Or.inl (le_antisymm hdepth.2 hdepth.1)

/-- **The rings fill the rectangle.** -/
theorem exists_rectangleRings {halfX halfY : ℝ} (hX : 0 ≤ halfX) (hY : 0 ≤ halfY)
    (stepover : ℝ) :
    ∃ rings, rectangleRings halfX halfY stepover = .ok rings ∧
      FillsRectangle halfX halfY stepover rings := by
  rcases le_or_gt stepover 0 with hnone | hstep
  · -- without a stepover there is no ring
    have hguard : (Scalar.lt (min halfX halfY) Scalar.zero ||
        Scalar.le stepover Scalar.zero) = true := by
      rw [Bool.or_eq_true, le_real_iff, zero_real]
      exact Or.inr hnone
    refine ⟨[], by rw [rectangleRings, min_real]; exact if_pos hguard, ?_⟩
    constructor
    case mem_Icc => exact List.forall_mem_nil _
    case last => exact fun h => absurd h hnone.not_gt
    case between => exact fun h => absurd h hnone.not_gt
  · rcases (le_min hX hY).eq_or_lt with hzero | hpos
    · exact exists_rectangleRings_of_flat hX hY hzero.symm hstep
    · have hcount := stepCount_real (min halfX halfY) hstep
      exact ⟨_, rectangleRings_eq_ok hpos hstep hcount,
        fillsRectangle_positions hpos hstep hcount⟩

/-! ## The passes over a face -/

/-- What is known of the passes over a stretch: they begin on its low end, finish on its high end,
and leave no gap. -/
structure CoversStretch (low high stepover : ℝ) (passes : List ℝ) : Prop where
  first : passes.head? = some low
  last : passes.getLast? = some high
  near : ∀ x, low ≤ x → x ≤ high →
    ∃ pass ∈ passes, |x - pass| ≤ stepover * (1 + 1 / 10 ^ 9) / 2

/-- The passes over a stretch that is not empty are positions on it. -/
theorem rasterOffsets_eq_ok {low high stepover : ℝ} (hspan : low < high) (hstep : 0 < stepover)
    {count : ℕ} (hcount : stepCount (high - low) stepover = .ok count) :
    rasterOffsets low high stepover = .ok (positions low high stepover count) := by
  have hguard : ¬ (Scalar.le high low || Scalar.le stepover Scalar.zero) = true := by
    rw [Bool.or_eq_true, le_real_iff, le_real_iff, zero_real]
    push Not
    exact ⟨hspan, hstep⟩
  rw [rasterOffsets, if_neg hguard, hcount]
  rfl

/-- **The passes cover the stretch.** -/
theorem exists_rasterOffsets {low high stepover : ℝ} (hspan : low < high) (hstep : 0 < stepover) :
    ∃ passes, rasterOffsets low high stepover = .ok passes ∧
      CoversStretch low high stepover passes := by
  obtain ⟨k, hcount⟩ := exists_stepCount_eq_succ (high - low) hstep
  refine ⟨_, rasterOffsets_eq_ok hspan hstep hcount, ?_⟩
  constructor
  case first =>
    rw [positions_succ]
    rfl
  case last => exact getLast?_positions _ _ _ _
  case near => exact fun x hlow hhigh => exists_near_position hstep hcount hlow hhigh

end Machining.Job.Toolpath
