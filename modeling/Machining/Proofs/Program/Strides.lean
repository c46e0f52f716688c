import Machining.Program.Compile

/-!
# Where compiling asks for a whole number

A job is planned in numbers that may be anything, and whole numbers are made of them in one place
only: how many steps of a given size cover a distance.  This module gathers the distances of a job
and shows that nothing else decides whether it compiles.

* `strides` are the distances that an operation covers in steps; `compile_hinges` says that a job
  compiles when all their steps can be counted, and fails as one of the counts does otherwise.
* `step_of_mem_strides`: no distance is covered in steps of zero or less.
-/

namespace Machining.Program

open Machining.Numeric Machining.Job

variable {α : Type} [Scalar α]

/-! ## Distances -/

/-- A distance that is covered in steps of at most a given size. -/
structure Stride (α : Type) where
  /-- The distance. -/
  span : α
  /-- The size of a step. -/
  step : α

/-- How many steps a distance takes. -/
def Stride.count (stride : Stride α) : Except ArithmeticError Nat :=
  Toolpath.stepCount stride.span stride.step

/-- The way down from one depth to another, unless it is one pass. -/
def depthStrides (zStart zDepth stepDown : α) : List (Stride α) :=
  if Scalar.le stepDown Scalar.zero || Scalar.le (zStart - zDepth) Scalar.zero ||
      !Scalar.isFinite stepDown then []
  else [⟨zStart - zDepth, stepDown⟩]

/-- The way out to the last ring of a disc, if there is room. -/
def ringStrides (limit stepover : α) : List (Stride α) :=
  if Scalar.le limit Scalar.zero || Scalar.le stepover Scalar.zero then []
  else [⟨limit, stepover⟩]

/-- The way out to the boundary of a rectangle, if there is any. -/
def rectangleStrides (halfX halfY stepover : α) : List (Stride α) :=
  let reach := Scalar.min halfX halfY
  if Scalar.lt reach Scalar.zero || Scalar.le stepover Scalar.zero then []
  else if Scalar.eq reach Scalar.zero then []
  else [⟨reach, stepover⟩]

/-- The way across a face, unless it is one pass. -/
def rasterStrides (low high stepover : α) : List (Stride α) :=
  if Scalar.le high low || Scalar.le stepover Scalar.zero then []
  else [⟨high - low, stepover⟩]

/-- The distances that a feature covers in steps. -/
def featureStrides (settings : Settings α) (stock : Stock α) (op : Operation α) :
    List (Stride α) :=
  let toolRadius := Scalar.half op.toolDiameter
  let stepover := op.toolDiameter * settings.pocketStepover
  let depths := depthStrides op.zStart op.zDepth op.stepDown
  match op.feature with
  | .drill _ => depths
  | .circularPocket diameter => ringStrides (Scalar.half diameter - toolRadius) stepover ++ depths
  | .rectangularPocket width length =>
    rectangleStrides (Scalar.half width - toolRadius) (Scalar.half length - toolRadius) stepover ++
      depths
  | .faceMill =>
    rasterStrides stock.footprint.yMin stock.footprint.yMax
      (op.toolDiameter * (Scalar.ofNat 1 - settings.faceOverlap))
  | .contour _ | .unknown => []

/-- The distances that an operation covers in steps; none where it is skipped. -/
def strides (settings : Settings α) (stock : Stock α) (op : Operation α) : List (Stride α) :=
  match skipReason? stock op with
  | some _ => []
  | none => featureStrides settings stock op

/-! ## What hinges on a count -/

/-- A computation that succeeds when the steps of all distances can be counted, and otherwise fails
as one of the counts does. -/
inductive Hinges {β : Type} (result : Except ArithmeticError β) (on : List (Stride α)) : Prop where
  /-- All steps can be counted. -/
  | ok (value : β) (hresult : result = .ok value)
      (hcounts : ∀ stride ∈ on, ∃ steps, stride.count = .ok steps)
  /-- The steps of one distance cannot. -/
  | error (error : ArithmeticError) (hresult : result = .error error)
      (hcount : ∃ stride ∈ on, stride.count = .error error)

namespace Hinges

variable {β γ : Type} {result : Except ArithmeticError β} {on others : List (Stride α)}

/-- A value hinges on nothing. -/
theorem of_ok (value : β) : Hinges (.ok value) ([] : List (Stride α)) :=
  .ok value rfl (List.forall_mem_nil _)

/-- What is made of a result hinges on the same. -/
theorem map (h : Hinges result on) (f : β → γ) : Hinges (result.map f) on := by
  cases h with
  | ok value hresult hcounts => exact .ok (f value) (by rw [hresult]; rfl) hcounts
  | error error hresult hcount => exact .error error (by rw [hresult]; rfl) hcount

/-- What follows a result hinges on more. -/
theorem bind {f : β → Except ArithmeticError γ} (h : Hinges result on)
    (hf : ∀ value, Hinges (f value) others) : Hinges (result >>= f) (on ++ others) := by
  -- the first count that fails ends both
  cases h with
  | error error hresult hcount =>
    obtain ⟨stride, hmem, hcount⟩ := hcount
    exact .error error (by rw [hresult]; rfl) ⟨stride, List.mem_append_left _ hmem, hcount⟩
  | ok value hresult hcounts =>
    have hnext : result >>= f = f value := by rw [hresult]; rfl
    rw [hnext]
    cases hf value with
    | ok made hmade hothers =>
      exact .ok made hmade fun stride hmem =>
        (List.mem_append.mp hmem).elim (hcounts stride) (hothers stride)
    | error error hmade hcount =>
      obtain ⟨stride, hmem, hcount⟩ := hcount
      exact .error error hmade ⟨stride, List.mem_append_right _ hmem, hcount⟩

/-- A count hinges on itself. -/
theorem count (stride : Stride α) : Hinges stride.count [stride] := by
  rcases hcount : stride.count with error | steps
  · exact .error error rfl ⟨stride, List.mem_singleton_self _, hcount⟩
  · exact .ok steps rfl (List.forall_mem_singleton.mpr ⟨steps, hcount⟩)

end Hinges

/-! ## Plans -/

section Toolpaths

variable (a b c : α)

private theorem depthLayers_hinges :
    Hinges (Toolpath.depthLayers a b c) (depthStrides a b c) := by
  unfold Toolpath.depthLayers depthStrides
  dsimp only
  split
  · exact .of_ok _
  · exact (Hinges.count ⟨a - b, c⟩).map _

private theorem ringRadii_hinges : Hinges (Toolpath.ringRadii a b) (ringStrides a b) := by
  unfold Toolpath.ringRadii ringStrides
  split
  · exact .of_ok _
  · exact (Hinges.count ⟨a, b⟩).map _

private theorem rectangleRings_hinges :
    Hinges (Toolpath.rectangleRings a b c) (rectangleStrides a b c) := by
  unfold Toolpath.rectangleRings rectangleStrides
  dsimp only
  split
  · exact .of_ok _
  · split
    · exact .of_ok _
    · exact (Hinges.count ⟨Scalar.min a b, c⟩).map _

private theorem rasterOffsets_hinges :
    Hinges (Toolpath.rasterOffsets a b c) (rasterStrides a b c) := by
  unfold Toolpath.rasterOffsets rasterStrides
  split
  · exact .of_ok _
  · exact (Hinges.count ⟨b - a, c⟩).map _

end Toolpaths

variable (settings : Settings α) (stock : Stock α)

/-- A plan hinges on the distances of its feature. -/
private theorem plan_hinges (op : Operation α) (safeZ : α) :
    Hinges (plan settings stock op safeZ) (featureStrides settings stock op) := by
  unfold plan featureStrides
  dsimp only
  cases op.feature with
  | drill diameter => exact (depthLayers_hinges ..).map _
  | circularPocket diameter =>
    exact (ringRadii_hinges ..).bind fun radii => (depthLayers_hinges ..).map _
  | rectangularPocket width length =>
    exact (rectangleRings_hinges ..).bind fun rings => (depthLayers_hinges ..).map _
  | faceMill => exact (rasterOffsets_hinges ..).map _
  | contour segments => exact .of_ok _
  | unknown => exact .of_ok _

private theorem block_hinges (carried : Carried α) (index : Nat) (op : Operation α) :
    Hinges (block settings stock carried index op) (strides settings stock op) := by
  unfold block strides
  cases hskip : skipReason? stock op with
  | some reason =>
    -- nothing is planned for it, whatever it is
    cases op.feature <;> exact .of_ok _
  | none =>
    have hplan := plan_hinges settings stock op (safeZ settings stock op)
    cases hfeature : op.feature with
    | unknown =>
      simp only [featureStrides, hfeature]
      exact .of_ok _
    | drill | circularPocket | rectangularPocket | faceMill | contour => exact hplan.map _

private theorem blocks_hinges (carried : Carried α) (index : Nat) (ops : List (Operation α)) :
    Hinges (blocks settings stock carried index ops) (ops.flatMap (strides settings stock)) := by
  -- along the job, since no distance depends on what earlier blocks leave
  induction ops generalizing carried index with
  | nil => exact .of_ok _
  | cons op rest ih =>
    rw [List.flatMap_cons]
    exact (block_hinges settings stock carried index op).bind fun lines => (ih _ _).map _

/-- **A job compiles when all its steps can be counted**, and fails as one of the counts does
otherwise. -/
theorem compile_hinges (ops : List (Operation α)) :
    Hinges (compile settings stock ops) (ops.flatMap (strides settings stock)) :=
  (blocks_hinges settings stock (start settings stock) 1 ops).map _

/-! ## What is known of a distance -/

/-- Where a distance of an operation comes from, with all that was checked before. -/
inductive Arises : Stride α → Operation α → Prop where
  /-- The way down of a hole or a pocket. -/
  | depth {op : Operation α} (hstart : Scalar.isFinite op.zStart = true)
      (hdepth : Scalar.isFinite op.zDepth = true) (hfinite : Scalar.isFinite op.stepDown = true)
      (hspan : Scalar.le (op.zStart - op.zDepth) Scalar.zero = false)
      (hstep : Scalar.le op.stepDown Scalar.zero = false) :
      Arises ⟨op.zStart - op.zDepth, op.stepDown⟩ op
  /-- The way out in a round pocket. -/
  | ring {op : Operation α} {diameter : α} (htool : Scalar.isPositive op.toolDiameter = true)
      (hdiameter : Scalar.isFinite diameter = true)
      (hroom : Scalar.lt diameter op.toolDiameter = false)
      (hspan : Scalar.le (Scalar.half diameter - Scalar.half op.toolDiameter) Scalar.zero = false)
      (hstep : Scalar.le (op.toolDiameter * settings.pocketStepover) Scalar.zero = false) :
      Arises ⟨Scalar.half diameter - Scalar.half op.toolDiameter,
        op.toolDiameter * settings.pocketStepover⟩ op
  /-- The way out in a rectangular pocket. -/
  | rectangle {op : Operation α} {width length : α}
      (htool : Scalar.isPositive op.toolDiameter = true)
      (hsize : Scalar.isFinite (width + length) = true)
      (hroom : Scalar.lt (Scalar.min width length) op.toolDiameter = false)
      (hspan : Scalar.lt (Scalar.min (Scalar.half width - Scalar.half op.toolDiameter)
        (Scalar.half length - Scalar.half op.toolDiameter)) Scalar.zero = false)
      (hstep : Scalar.le (op.toolDiameter * settings.pocketStepover) Scalar.zero = false) :
      Arises ⟨Scalar.min (Scalar.half width - Scalar.half op.toolDiameter)
        (Scalar.half length - Scalar.half op.toolDiameter),
        op.toolDiameter * settings.pocketStepover⟩ op
  /-- The way across a face. -/
  | raster {op : Operation α} (hfinite : Scalar.isFinite op.toolDiameter = true)
      (hstock : stock.isWellFormed = true)
      (hspan : Scalar.le stock.footprint.yMax stock.footprint.yMin = false)
      (hstep : Scalar.le (op.toolDiameter * (Scalar.ofNat 1 - settings.faceOverlap))
        Scalar.zero = false) :
      Arises ⟨stock.footprint.yMax - stock.footprint.yMin,
        op.toolDiameter * (Scalar.ofNat 1 - settings.faceOverlap)⟩ op

section Distances

variable {settings : Settings α} {stock : Stock α} {op : Operation α} {stride : Stride α}

/-- Where no reason is given, the first one does not apply and none of the others does. -/
private theorem of_ite_eq_none {ρ : Type} {check : Prop} [Decidable check] {reason : ρ}
    {others : Option ρ} (h : (if check then some reason else others) = none) :
    ¬check ∧ others = none := by
  split at h
  · cases h
  · rename_i hcheck
    exact ⟨hcheck, h⟩

/-- What is known of an operation that is not skipped. -/
structure Passed (stock : Stock α) (op : Operation α) : Prop where
  stockHeight : Scalar.isFinite stock.height = true
  x : Scalar.isFinite op.x = true
  y : Scalar.isFinite op.y = true
  zStart : Scalar.isFinite op.zStart = true
  zDepth : Scalar.isFinite op.zDepth = true
  feedRate : isUsable op.feedRate = true
  spindleSpeed : isUsable op.spindleSpeed = true
  feature : featureSkipReason? stock op = none

theorem passed_of_skipReason? (h : skipReason? stock op = none) : Passed stock op := by
  obtain ⟨hheight, h⟩ := of_ite_eq_none h
  obtain ⟨hcoordinates, h⟩ := of_ite_eq_none h
  obtain ⟨hfeed, h⟩ := of_ite_eq_none h
  obtain ⟨hspeed, h⟩ := of_ite_eq_none h
  have hall : [op.x, op.y, op.zStart, op.zDepth].all Scalar.isFinite = true := by
    simpa using hcoordinates
  simp only [List.all_cons, Bool.and_eq_true] at hall
  exact ⟨by simpa using hheight, hall.1, hall.2.1, hall.2.2.1, hall.2.2.2.1, by simpa using hfeed,
    by simpa using hspeed, h⟩

namespace Passed

theorem circularPocket {diameter : α} (h : Passed stock op)
    (hfeature : op.feature = .circularPocket diameter) :
    Scalar.isPositive op.toolDiameter = true ∧ Scalar.isFinite diameter = true ∧
      Scalar.lt diameter op.toolDiameter = false := by
  have hchecked := h.feature
  simp only [featureSkipReason?, hfeature] at hchecked
  obtain ⟨htool, hchecked⟩ := of_ite_eq_none hchecked
  obtain ⟨hdiameter, hchecked⟩ := of_ite_eq_none hchecked
  obtain ⟨hroom, -⟩ := of_ite_eq_none hchecked
  simp only [Bool.or_eq_true, Bool.not_eq_true', not_or, Bool.not_eq_true,
    Bool.not_eq_false] at hdiameter htool hroom
  exact ⟨htool, hdiameter.1, hroom⟩

theorem rectangularPocket {width length : α} (h : Passed stock op)
    (hfeature : op.feature = .rectangularPocket width length) :
    Scalar.isPositive op.toolDiameter = true ∧ Scalar.isFinite (width + length) = true ∧
      Scalar.lt (Scalar.min width length) op.toolDiameter = false := by
  have hchecked := h.feature
  simp only [featureSkipReason?, hfeature] at hchecked
  obtain ⟨htool, hchecked⟩ := of_ite_eq_none hchecked
  obtain ⟨hsize, hchecked⟩ := of_ite_eq_none hchecked
  obtain ⟨hroom, -⟩ := of_ite_eq_none hchecked
  simp only [Bool.or_eq_true, Bool.not_eq_true', not_or, Bool.not_eq_true,
    Bool.not_eq_false] at hsize htool hroom
  exact ⟨htool, hsize.1.1, hroom⟩

theorem faceMill (h : Passed stock op) (hfeature : op.feature = .faceMill) :
    Scalar.isFinite op.toolDiameter = true ∧ Scalar.isPositive op.toolDiameter = true ∧
      stock.isWellFormed = true := by
  have hchecked := h.feature
  simp only [featureSkipReason?, hfeature, Operation.isWellFormed] at hchecked
  obtain ⟨htool, hchecked⟩ := of_ite_eq_none hchecked
  obtain ⟨hstock, -⟩ := of_ite_eq_none hchecked
  simp only [Bool.and_eq_true, Bool.not_eq_true', Bool.not_eq_false] at hstock htool
  exact ⟨htool.1, htool.2, hstock⟩

end Passed

private theorem arises_of_mem_depthStrides (hpassed : Passed stock op)
    (h : stride ∈ depthStrides op.zStart op.zDepth op.stepDown) :
    Arises settings stock stride op := by
  obtain ⟨hguard, h⟩ := List.mem_ite_nil_left.mp h
  simp only [Bool.or_eq_true, Bool.not_eq_true', not_or, Bool.not_eq_true,
    Bool.not_eq_false] at hguard
  obtain rfl := List.mem_singleton.mp h
  exact .depth hpassed.zStart hpassed.zDepth hguard.2 hguard.1.2 hguard.1.1

private theorem arises_of_mem_ringStrides {diameter : α}
    (hfeature : op.feature = .circularPocket diameter) (hpassed : Passed stock op)
    (h : stride ∈ ringStrides (Scalar.half diameter - Scalar.half op.toolDiameter)
      (op.toolDiameter * settings.pocketStepover)) :
    Arises settings stock stride op := by
  -- first what the operation was checked for, then what the plan asks
  obtain ⟨htool, hdiameter, hroom⟩ := hpassed.circularPocket hfeature
  obtain ⟨hguard, h⟩ := List.mem_ite_nil_left.mp h
  simp only [Bool.or_eq_true, not_or, Bool.not_eq_true] at hguard
  obtain rfl := List.mem_singleton.mp h
  exact .ring htool hdiameter hroom hguard.1 hguard.2

private theorem arises_of_mem_rectangleStrides {width length : α}
    (hfeature : op.feature = .rectangularPocket width length) (hpassed : Passed stock op)
    (h : stride ∈ rectangleStrides (Scalar.half width - Scalar.half op.toolDiameter)
      (Scalar.half length - Scalar.half op.toolDiameter)
      (op.toolDiameter * settings.pocketStepover)) :
    Arises settings stock stride op := by
  obtain ⟨htool, hsize, hroom⟩ := hpassed.rectangularPocket hfeature
  obtain ⟨hguard, h⟩ := List.mem_ite_nil_left.mp h
  -- a rectangle without any reach is one point
  obtain ⟨-, h⟩ := List.mem_ite_nil_left.mp h
  simp only [Bool.or_eq_true, not_or, Bool.not_eq_true] at hguard
  obtain rfl := List.mem_singleton.mp h
  exact .rectangle htool hsize hroom hguard.1 hguard.2

private theorem arises_of_mem_rasterStrides (hfeature : op.feature = .faceMill)
    (hpassed : Passed stock op)
    (h : stride ∈ rasterStrides stock.footprint.yMin stock.footprint.yMax
      (op.toolDiameter * (Scalar.ofNat 1 - settings.faceOverlap))) :
    Arises settings stock stride op := by
  obtain ⟨htool, -, hstock⟩ := hpassed.faceMill hfeature
  obtain ⟨hguard, h⟩ := List.mem_ite_nil_left.mp h
  simp only [Bool.or_eq_true, not_or, Bool.not_eq_true] at hguard
  obtain rfl := List.mem_singleton.mp h
  exact .raster htool hstock hguard.1 hguard.2

/-- Every distance of an operation comes from one of its sizes. -/
theorem arises_of_mem_strides (h : stride ∈ strides settings stock op) :
    Arises settings stock stride op := by
  unfold strides at h
  split at h
  · cases h
  rename_i hskip
  have hpassed := passed_of_skipReason? hskip
  unfold featureStrides at h
  dsimp only at h
  -- rings or lines come before the layers; a contour and the unknown have no strides
  cases hfeature : op.feature with
  | drill diameter =>
    rw [hfeature] at h
    exact arises_of_mem_depthStrides hpassed h
  | circularPocket diameter =>
    rw [hfeature] at h
    exact (List.mem_append.mp h).elim (arises_of_mem_ringStrides hfeature hpassed)
      (arises_of_mem_depthStrides hpassed)
  | rectangularPocket width length =>
    rw [hfeature] at h
    exact (List.mem_append.mp h).elim (arises_of_mem_rectangleStrides hfeature hpassed)
      (arises_of_mem_depthStrides hpassed)
  | faceMill =>
    rw [hfeature] at h
    exact arises_of_mem_rasterStrides hfeature hpassed h
  | contour segments =>
    rw [hfeature] at h
    cases h
  | unknown =>
    rw [hfeature] at h
    cases h

/-- No distance is covered in steps of zero or less. -/
theorem step_of_mem_strides (h : stride ∈ strides settings stock op) :
    Scalar.le stride.step Scalar.zero = false := by
  cases arises_of_mem_strides h with
  | depth _ _ _ _ hstep | ring _ _ _ _ hstep | rectangle _ _ _ _ hstep | raster _ _ _ hstep =>
    exact hstep

end Distances

end Machining.Program
