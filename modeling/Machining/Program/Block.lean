import Machining.Job.Toolpath
import Machining.Program.Line

/-!
# The moves of an operation

For each feature there is a plan: the moves between the tool's arrival at the safe plane and its
return to it.  A plan prints positions at once, because what a move says on paper decides whether it
is needed: inside a rectangular pocket a move to the position that is already printed is left out.

* `skipReason?` says why an operation cannot be machined.
* `plan` gives the moves of one that can.
* `withFeed` puts the feed on the first cutting move of a block.
-/

namespace Machining.Program

open Machining.Numeric Machining.Job

/-- What shapes a program: its name, its precision and its clearances. -/
structure Settings (α : Type) where
  /-- The name in the first remark. -/
  programName : String
  /-- The work coordinate system. -/
  workOffset : String
  /-- The decimal places of positions. -/
  coordinatePlaces : Nat
  /-- The decimal places of feeds. -/
  feedPlaces : Nat
  /-- The height of the safe plane above the cut and the stock. -/
  safeClearance : α
  /-- The lift that breaks the chip between two pecks of a drill. -/
  peckRetract : α
  /-- The distance of rings in a pocket, as a fraction of the cutter's diameter. -/
  pocketStepover : α
  /-- The overlap of passes over a face, as a fraction of the cutter's diameter. -/
  faceOverlap : α
  /-- Whether the coolant runs. -/
  coolant : Bool

variable {α : Type} [Scalar α]

namespace Settings

/-- A position's word: rounded, and a zero without a sign. -/
def coordinate (settings : Settings α) (value : α) : Fixed :=
  (Scalar.fixed settings.coordinatePlaces value).unsigned

/-- The words of a position in the plane. -/
def place (settings : Settings α) (point : Point α) : Place :=
  ⟨settings.coordinate point.x, settings.coordinate point.y⟩

/-- The word of a feed. -/
def feed (settings : Settings α) (value : α) : Fixed :=
  Scalar.fixed settings.feedPlaces value

end Settings

/-! ## Operations that cannot be machined -/

/-- Whether a number is finite and greater than zero. -/
def isUsable (value : α) : Bool :=
  Scalar.isFinite value && Scalar.isPositive value

/-- Why a feature cannot be machined, if it cannot. -/
def featureSkipReason? (stock : Stock α) (op : Operation α) : Option SkipReason :=
  match op.feature with
  | .drill _ => if op.isWellFormed then none else some .drillDiameter
  -- "not positive" instead of "at most zero", so that no number counts as too small as well
  | .circularPocket diameter =>
    if !Scalar.isPositive op.toolDiameter then some .toolDiameter
    else if !Scalar.isFinite diameter || Scalar.le diameter Scalar.zero then some .pocketDiameter
    else if Scalar.lt diameter op.toolDiameter then some .toolTooWide
    else none
  | .rectangularPocket width length =>
    if !Scalar.isPositive op.toolDiameter then some .toolDiameter
    -- the sum stands for both sizes: one that is not finite makes it so
    else if !Scalar.isFinite (width + length) || Scalar.le width Scalar.zero ||
        Scalar.le length Scalar.zero then some .pocketSize
    else if Scalar.lt (Scalar.min width length) op.toolDiameter then some .toolTooWide
    else none
  | .faceMill =>
    if !op.isWellFormed then some .toolDiameter
    else if !stock.isWellFormed then some .footprint
    else none
  | .contour segments => if segments.isEmpty then some .emptyContour else none
  | .unknown => none

/-- Why an operation cannot be machined, if it cannot; the first reason that applies. -/
def skipReason? (stock : Stock α) (op : Operation α) : Option SkipReason :=
  if !Scalar.isFinite stock.height then some .stockHeight
  else if !([op.x, op.y, op.zStart, op.zDepth].all Scalar.isFinite) then some .coordinates
  else if !isUsable op.feedRate then some .feedRate
  else if !isUsable op.spindleSpeed then some .spindleSpeed
  -- from here on the sizes of the feature are all that may be wrong
  else featureSkipReason? stock op

/-! ## Plans -/

/-- A hole: the pecks, with a lift after each but the last that stays below the safe plane. -/
def drillPlan (settings : Settings α) (op : Operation α) (safeZ : α) :
    Except ArithmeticError (List Move) :=
  (Toolpath.depthLayers op.zStart op.zDepth op.stepDown).map fun layers =>
    .rapidTo (settings.place op.origin) :: pecks layers
where
  /-- The pecks from here on. -/
  pecks : List α → List Move
    | [] => []
    -- the retract of the block follows the last peck
    | [z] => [.cutZ (settings.coordinate z)]
    | z :: rest =>
      -- a lift above the safe plane would leave it
      let lift := Scalar.min (z + settings.peckRetract) safeZ
      .cutZ (settings.coordinate z) ::
        ((if Scalar.isPositive settings.peckRetract then
            [Move.rapidZ (settings.coordinate lift)] else []) ++ pecks rest)

/-- One full circle of a round pocket, begun from the side of larger X. -/
def ring (settings : Settings α) (op : Operation α) (radius : α) : List Move :=
  let start := settings.place ⟨op.x + radius, op.y⟩
  -- the centre is told from the start, so it lies a radius towards smaller X
  [.cutTo start,
    .cutArc false start (settings.coordinate (-radius)) (settings.coordinate Scalar.zero)]

/-- A round pocket: on every layer the rings from the inside out, and back to the centre. -/
def circularPocketPlan (settings : Settings α) (op : Operation α) (diameter : α) :
    Except ArithmeticError (List Move) := do
  -- how far the axis of the tool may go from the centre
  let limit := Scalar.half diameter - Scalar.half op.toolDiameter
  let radii ← Toolpath.ringRadii limit (op.toolDiameter * settings.pocketStepover)
  let layers ← Toolpath.depthLayers op.zStart op.zDepth op.stepDown
  let center := settings.place op.origin
  let rings := radii.flatMap (ring settings op)
  -- without rings the tool has not left the centre
  let back := if radii.isEmpty then [] else [Move.cutTo center]
  return .rapidTo center ::
    layers.flatMap fun z => .cutZ (settings.coordinate z) :: (rings ++ back)

/-- The corners of a rectangle about a point, closed, from the corner of least X and Y. -/
def corners (center : Point α) (halfX halfY : α) : List (Point α) :=
  [⟨center.x - halfX, center.y - halfY⟩, ⟨center.x + halfX, center.y - halfY⟩,
    ⟨center.x + halfX, center.y + halfY⟩, ⟨center.x - halfX, center.y + halfY⟩,
    ⟨center.x - halfX, center.y - halfY⟩]

/-- The places that differ from the one before them, starting from a current place. -/
def visited (current : Place) : List Place → List Place
  | [] => []
  | place :: rest =>
    if place = current then visited current rest else place :: visited place rest

/-- A rectangular pocket: on every layer the rectangles from the inside out, and back to the
centre. -/
def rectangularPocketPlan (settings : Settings α) (op : Operation α) (width length : α) :
    Except ArithmeticError (List Move) := do
  let toolRadius := Scalar.half op.toolDiameter
  let rings ← Toolpath.rectangleRings (Scalar.half width - toolRadius)
    (Scalar.half length - toolRadius) (op.toolDiameter * settings.pocketStepover)
  let layers ← Toolpath.depthLayers op.zStart op.zDepth op.stepDown
  let center := settings.place op.origin
  let targets := rings.flatMap fun (halfX, halfY) =>
    (corners op.origin halfX halfY).map settings.place
  -- each layer begins and ends at the centre, so the centre is where it comes from
  let cuts := (visited center (targets ++ [center])).map Move.cutTo
  return .rapidTo center :: layers.flatMap fun z => .cutZ (settings.coordinate z) :: cuts

/-- The passes of a face from the second on, to and fro between two positions along X. -/
def facePasses (settings : Settings α) (near far : α) : List α → List Move
  | [] => []
  | y :: rest =>
    .cutY (settings.coordinate y) :: .cutX (settings.coordinate near) ::
      facePasses settings far near rest

/-- The top face: passes along X over the whole outline, at the depth of the cut. -/
def faceMillPlan (settings : Settings α) (stock : Stock α) (op : Operation α) :
    Except ArithmeticError (List Move) :=
  let outline := stock.footprint
  let toolRadius := Scalar.half op.toolDiameter
  -- the passes begin and end with the whole tool outside
  let low := outline.xMin - toolRadius
  let high := outline.xMax + toolRadius
  let stepover := op.toolDiameter * (Scalar.ofNat 1 - settings.faceOverlap)
  (Toolpath.rasterOffsets outline.yMin outline.yMax stepover).map fun passes =>
    match passes with
    -- there is at least one pass
    | [] => []
    | first :: rest =>
      .rapidTo (settings.place ⟨low, first⟩) :: .cutZ (settings.coordinate op.zDepth) ::
        .cutX (settings.coordinate high) :: facePasses settings low high rest

/-- The move of one segment from `start`.  An arc without a centre that serves is cut straight. -/
def segmentMove (settings : Settings α) (start : Point α) (segment : Segment α) : Move :=
  let target := settings.place segment.finish
  -- a centre from a radius fits as well as the radius allows; a written one is tested
  let fits := segment.explicitCenter?.isNone || segment.isWellFormed start Segment.tolerance
  match segment.center? start with
  | some center =>
    if fits then
      .cutArc segment.isClockwise target (settings.coordinate (center.x - start.x))
        (settings.coordinate (center.y - start.y))
    else .cutTo target
  | none => .cutTo target

/-- The moves of a chain of segments; one with an end point that is not finite is dropped. -/
def chain (settings : Settings α) (start : Point α) : List (Segment α) → List Move
  | [] => []
  | segment :: rest =>
    if Scalar.isFinite segment.x && Scalar.isFinite segment.y then
      segmentMove settings start segment :: chain settings segment.finish rest
    -- the next segment starts where the last one that was cut ends
    else .dropped :: chain settings start rest

/-- A contour: down to the depth at its start, and along its segments. -/
def contourPlan (settings : Settings α) (op : Operation α) (segments : List (Segment α)) :
    List Move :=
  .rapidTo (settings.place op.origin) :: .cutZ (settings.coordinate op.zDepth) ::
    chain settings op.origin segments

/-- The moves of an operation between two stays at the safe plane. -/
def plan (settings : Settings α) (stock : Stock α) (op : Operation α) (safeZ : α) :
    Except ArithmeticError (List Move) :=
  match op.feature with
  | .drill _ => drillPlan settings op safeZ
  | .circularPocket diameter => circularPocketPlan settings op diameter
  | .rectangularPocket width length => rectangularPocketPlan settings op width length
  | .faceMill => faceMillPlan settings stock op
  | .contour segments => .ok (contourPlan settings op segments)
  -- its block has no moves at all
  | .unknown => .ok []

/-! ## The feed -/

/-- The lines of a block's moves: the first cutting move sets the feed, and the others keep it. -/
def withFeed (feed : Fixed) : List Move → List Line
  | [] => []
  | step :: rest =>
    -- the feed holds until it is set again, so once is enough
    if step.isCut then .move step (some feed) :: rest.map (.move · none)
    else .move step none :: withFeed feed rest

end Machining.Program
