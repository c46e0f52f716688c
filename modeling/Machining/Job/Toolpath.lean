import Machining.Numeric.Scalar

/-!
# Toolpath planning

The depths of the passes of a cut, the rings that clear a pocket and the passes over a face.  Every
sequence advances by steps of at most a given size and ends exactly on its limit, never on the last
multiple of the step, so that rounding neither overshoots nor leaves a sliver.
-/

namespace Machining.Job.Toolpath

open Machining.Numeric

variable {α : Type} [Scalar α]

/-- By how much a count of steps may exceed a whole number before one more step is taken. -/
def slack : α := Scalar.ofDecimal 1 9

/-- How many steps of at most `step` cover `span`; one at the least. -/
def stepCount (span step : α) : Except ArithmeticError Nat :=
  if Scalar.eq step Scalar.zero then .error .divisionByZero
  -- a quotient that is whole but for rounding asks for no further step
  else (Scalar.ceil (span / step - slack)).map fun steps => (max 1 steps).toNat

/-- The positions of the steps `1` to `count - 1`. -/
def inner (count : Nat) (position : Nat → α) : List α :=
  (List.range (count - 1)).map fun i => position (i + 1)

/-- The depths of the passes from `zStart` down to `zDepth`; one pass when the step is not positive
or not finite, or nothing lies between. -/
def depthLayers (zStart zDepth stepDown : α) : Except ArithmeticError (List α) :=
  let span := zStart - zDepth
  if Scalar.le stepDown Scalar.zero || Scalar.le span Scalar.zero ||
      !Scalar.isFinite stepDown then .ok [zDepth]
  else (stepCount span stepDown).map fun count =>
    -- the last depth is the limit as it is given and not a sum of steps
    inner count (fun k => zStart - Scalar.ofNat k * stepDown) ++ [zDepth]

/-- The radii of the rings that clear a disc from its centre out to `limit`; none when there is no
room. -/
def ringRadii (limit stepover : α) : Except ArithmeticError (List α) :=
  if Scalar.le limit Scalar.zero || Scalar.le stepover Scalar.zero then .ok []
  else (stepCount limit stepover).map fun count =>
    inner count (fun k => Scalar.ofNat k * stepover) ++ [limit]

/-- The half-sizes of the rectangles that clear a rectangle, from the innermost, which is a line or
a point, out to the boundary; none when a half-size is negative. -/
def rectangleRings (halfX halfY stepover : α) : Except ArithmeticError (List (α × α)) :=
  let reach := Scalar.min halfX halfY
  if Scalar.lt reach Scalar.zero || Scalar.le stepover Scalar.zero then .ok []
  -- the tool just fits: one pass along the middle
  else if Scalar.eq reach Scalar.zero then .ok [(halfX, halfY)]
  else (stepCount reach stepover).map fun count =>
    -- from the middle outwards, so the greatest distance from the boundary comes first
    let offsets := (List.range count).reverse.map fun i => Scalar.ofNat i * stepover
    (reach :: offsets).map fun offset => (halfX - offset, halfY - offset)

/-- The positions of the passes from `low` to `high`, both included. -/
def rasterOffsets (low high stepover : α) : Except ArithmeticError (List α) :=
  if Scalar.le high low || Scalar.le stepover Scalar.zero then .ok [low]
  else (stepCount (high - low) stepover).map fun count =>
    (List.range count).map (fun k => low + Scalar.ofNat k * stepover) ++ [high]

end Machining.Job.Toolpath
