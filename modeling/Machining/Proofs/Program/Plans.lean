import Machining.Program.Block
import Machining.Proofs.Result

/-!
# The shape of a plan

Whatever is cut, a plan begins with a rapid move to where the tool goes down.  From there on the
only thing that differs in height is how the passes follow each other: a hole is pecked, and all
other features are cut pass by pass, where the tool goes down to the depth of the pass and keeps it
(`planForm_of_plan`).

The depths of the passes end at the depth of the cut (`Layers.exists_upper`).
-/

namespace Machining.Job.Toolpath

open Machining.Numeric

variable {α : Type} [Scalar α] {zStart zDepth stepDown : α} {layers : List α}

/-! ## Depths of passes -/

/-- The depths of passes: the depth of the cut alone, or steps down and then that depth. -/
inductive Layers (zStart zDepth stepDown : α) : List α → Prop where
  /-- One pass. -/
  | single : Layers zStart zDepth stepDown [zDepth]
  /-- Passes after one step, two steps and so on, and the last one. -/
  | stepped {count : Nat} (hfinite : Scalar.isFinite stepDown = true)
      (hstep : Scalar.le stepDown Scalar.zero = false)
      (hspan : Scalar.le (zStart - zDepth) Scalar.zero = false)
      (hcount : stepCount (zStart - zDepth) stepDown = .ok count) :
      Layers zStart zDepth stepDown
        (inner count (fun k => zStart - Scalar.ofNat k * stepDown) ++ [zDepth])

theorem layers_of_depthLayers (h : depthLayers zStart zDepth stepDown = .ok layers) :
    Layers zStart zDepth stepDown layers := by
  unfold depthLayers at h
  dsimp only at h
  split at h
  · cases h
    exact .single
  · rename_i hguard
    obtain ⟨count, hcount, rfl⟩ := exists_of_map_eq_ok h
    simp only [Bool.or_eq_true, Bool.not_eq_true', not_or, Bool.not_eq_true,
      Bool.not_eq_false] at hguard
    exact .stepped hguard.2 hguard.1.1 hguard.1.2 hcount

/-- A depth that is a whole number of steps below the top. -/
def IsStepBelow (zStart stepDown z : α) : Prop :=
  Scalar.isFinite stepDown = true ∧ Scalar.le stepDown Scalar.zero = false ∧
    ∃ k : Nat, z = zStart - Scalar.ofNat k * stepDown

/-- The last pass is at the depth of the cut, and each pass above it some steps below the top. -/
theorem Layers.exists_upper (h : Layers zStart zDepth stepDown layers) :
    ∃ upper, layers = upper ++ [zDepth] ∧ ∀ z ∈ upper, IsStepBelow zStart stepDown z := by
  cases h with
  | single => exact ⟨[], rfl, List.forall_mem_nil _⟩
  | stepped hfinite hstep hspan hcount =>
    refine ⟨_, rfl, ?_⟩
    intro z hz
    obtain ⟨k, -, rfl⟩ := List.mem_map.mp hz
    exact ⟨hfinite, hstep, k + 1, rfl⟩

/-- There is always a pass over a face. -/
theorem exists_cons_of_rasterOffsets {low high stepover : α} {passes : List α}
    (h : rasterOffsets low high stepover = .ok passes) : ∃ first rest, passes = first :: rest := by
  unfold rasterOffsets at h
  split at h
  · cases h
    exact ⟨_, _, rfl⟩
  · obtain ⟨count, -, rfl⟩ := exists_of_map_eq_ok h
    exact List.exists_cons_of_ne_nil (List.append_ne_nil_of_right_ne_nil _ (List.cons_ne_nil _ _))

end Machining.Job.Toolpath

namespace Machining.Program

open Machining.Numeric Machining.Job

/-! ## Moves that keep the height -/

/-- Whether a move cuts at the height where the tool is, or does not move at all. -/
def Move.isLevel : Move → Bool
  | cutTo _ | cutX _ | cutY _ | cutArc .. | dropped => true
  | rapidZ _ | rapidTo _ | cutZ _ => false

variable {α : Type} [Scalar α] {settings : Settings α}

private theorem isLevel_of_mem_ring {op : Operation α} {radius : α} {step : Move}
    (h : step ∈ ring settings op radius) : step.isLevel = true := by
  simp only [ring, List.mem_cons, List.not_mem_nil, or_false] at h
  rcases h with rfl | rfl <;> rfl

private theorem isLevel_of_mem_facePasses {near far : α} {passes : List α} {step : Move}
    (h : step ∈ facePasses settings near far passes) : step.isLevel = true := by
  induction passes generalizing near far with
  | nil => cases h
  | cons y rest ih =>
    rw [facePasses, List.mem_cons, List.mem_cons] at h
    rcases h with rfl | rfl | hrest
    · rfl
    · rfl
    · exact ih hrest

private theorem isLevel_of_mem_chain {start : Point α} {segments : List (Segment α)} {step : Move}
    (h : step ∈ chain settings start segments) : step.isLevel = true := by
  induction segments generalizing start with
  | nil => cases h
  | cons segment rest ih =>
    rw [chain] at h
    split at h
    -- a segment gives a line or an arc, and one without an end a remark
    · rcases List.mem_cons.mp h with rfl | hrest
      · unfold segmentMove
        dsimp only
        split
        · split <;> rfl
        · rfl
      · exact ih hrest
    · rcases List.mem_cons.mp h with rfl | hrest
      · rfl
      · exact ih hrest

/-! ## Plans -/

/-- Behind every peck but the last there is a lift, if the tool is lifted at all. -/
theorem pecks_cons (plane z : α) {rest : List α} (h : rest ≠ []) :
    drillPlan.pecks settings plane (z :: rest) =
      .cutZ (settings.coordinate z) ::
        ((if Scalar.isPositive settings.peckRetract then
            [Move.rapidZ (settings.coordinate (Scalar.min (z + settings.peckRetract) plane))]
          else []) ++ drillPlan.pecks settings plane rest) := by
  cases rest with
  | nil => exact absurd rfl h
  | cons next rest => rfl

/-- The two forms of a plan. -/
inductive PlanForm (settings : Settings α) (op : Operation α) (plane : α) : List Move → Prop where
  /-- A hole: the pecks. -/
  | pecked (place : Place) {diameter : α} {layers : List α} (hdrill : op.feature = .drill diameter)
      (hlayers : Toolpath.Layers op.zStart op.zDepth op.stepDown layers) :
      PlanForm settings op plane (.rapidTo place :: drillPlan.pecks settings plane layers)
  /-- Any other feature: on each pass the same cuts, which keep the height. -/
  | layered (place : Place) {layers : List α} {cuts : List Move}
      (hother : ∀ diameter, op.feature ≠ .drill diameter)
      (hlayers : Toolpath.Layers op.zStart op.zDepth op.stepDown layers)
      (hcuts : ∀ step ∈ cuts, step.isLevel = true) :
      PlanForm settings op plane
        (.rapidTo place :: layers.flatMap fun z => .cutZ (settings.coordinate z) :: cuts)

variable {stock : Stock α} {op : Operation α} {plane : α} {moves : List Move}

/-- A plan with one pass. -/
private theorem planForm_of_single (place : Place) {cuts : List Move}
    (hother : ∀ diameter, op.feature ≠ .drill diameter)
    (hcuts : ∀ step ∈ cuts, step.isLevel = true) :
    PlanForm settings op plane
      (.rapidTo place :: .cutZ (settings.coordinate op.zDepth) :: cuts) := by
  have hform : PlanForm settings op plane
      (.rapidTo place :: [op.zDepth].flatMap fun z => .cutZ (settings.coordinate z) :: cuts) :=
    .layered place hother .single hcuts
  rwa [List.flatMap_singleton] at hform

private theorem planForm_of_circularPocket {diameter : α}
    (hfeature : op.feature = .circularPocket diameter)
    (h : circularPocketPlan settings op diameter = .ok moves) :
    PlanForm settings op plane moves := by
  unfold circularPocketPlan at h
  obtain ⟨radii, -, h⟩ := exists_of_bind_eq_ok h
  obtain ⟨layers, hlayers, h⟩ := exists_of_bind_eq_ok h
  cases h
  refine .layered _ (by simp [hfeature]) (Toolpath.layers_of_depthLayers hlayers) ?_
  refine List.forall_mem_append.mpr ⟨?_, ?_⟩
  · intro step hstep
    obtain ⟨radius, -, hring⟩ := List.mem_flatMap.mp hstep
    exact isLevel_of_mem_ring hring
  · split <;> simp [Move.isLevel]

private theorem planForm_of_rectangularPocket {width length : α}
    (hfeature : op.feature = .rectangularPocket width length)
    (h : rectangularPocketPlan settings op width length = .ok moves) :
    PlanForm settings op plane moves := by
  unfold rectangularPocketPlan at h
  obtain ⟨rings, -, h⟩ := exists_of_bind_eq_ok h
  obtain ⟨layers, hlayers, h⟩ := exists_of_bind_eq_ok h
  cases h
  refine .layered _ (by simp [hfeature]) (Toolpath.layers_of_depthLayers hlayers) ?_
  -- the corners of all rings are cut to
  intro step hstep
  obtain ⟨place, -, rfl⟩ := List.mem_map.mp hstep
  rfl

private theorem planForm_of_faceMill (hfeature : op.feature = .faceMill)
    (h : faceMillPlan settings stock op = .ok moves) : PlanForm settings op plane moves := by
  unfold faceMillPlan at h
  obtain ⟨passes, hpasses, hmoves⟩ := exists_of_map_eq_ok h
  obtain ⟨first, rest, rfl⟩ := Toolpath.exists_cons_of_rasterOffsets hpasses
  obtain rfl := hmoves
  exact planForm_of_single _ (by simp [hfeature])
    (List.forall_mem_cons.mpr ⟨rfl, fun step => isLevel_of_mem_facePasses⟩)

/-- **Every plan has one of the forms.** -/
theorem planForm_of_plan (hkind : op.kind ≠ .unknown)
    (h : plan settings stock op plane = .ok moves) : PlanForm settings op plane moves := by
  unfold plan at h
  -- a contour is cut in a single pass, and the others in layers
  cases hfeature : op.feature with
  | drill diameter =>
    rw [hfeature] at h
    obtain ⟨layers, hlayers, rfl⟩ := exists_of_map_eq_ok h
    exact .pecked _ hfeature (Toolpath.layers_of_depthLayers hlayers)
  | circularPocket diameter =>
    rw [hfeature] at h
    exact planForm_of_circularPocket hfeature h
  | rectangularPocket width length =>
    rw [hfeature] at h
    exact planForm_of_rectangularPocket hfeature h
  | faceMill =>
    rw [hfeature] at h
    exact planForm_of_faceMill hfeature h
  | contour segments =>
    rw [hfeature] at h
    cases h
    exact planForm_of_single _ (by simp [hfeature]) fun step => isLevel_of_mem_chain
  | unknown => exact absurd (by rw [Operation.kind, hfeature]; rfl) hkind

end Machining.Program
