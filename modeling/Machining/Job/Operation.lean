import Machining.Job.Segment

/-!
# Machining operations

A job is a list of operations.  All of them share a reference point, the depths, the feed, the
spindle speed and the cutter; what is cut is the operation's `Feature`, which holds just the sizes
that this kind of cut needs.  No operation is refused for its sizes: `Operation.isWellFormed` says
whether they make sense.
-/

namespace Machining.Job

open Machining.Numeric

/-- The kinds of operation, as they are named in files. -/
inductive OperationKind where
  /-- A round pocket. -/
  | circularPocket
  /-- A rectangular pocket. -/
  | rectangularPocket
  /-- A hole. -/
  | drill
  /-- A pass over the whole top face. -/
  | faceMill
  /-- A chain of segments. -/
  | contour
  /-- Something that could not be recognised. -/
  | unknown
  deriving DecidableEq

namespace OperationKind

/-- All kinds. -/
def all : List OperationKind :=
  [circularPocket, rectangularPocket, drill, faceMill, contour, unknown]

/-- The name of a kind in files and programs. -/
def name : OperationKind → String
  | circularPocket => "CIRCULAR_POCKET"
  | rectangularPocket => "RECTANGULAR_POCKET"
  | drill => "DRILL"
  | faceMill => "FACE_MILL"
  | contour => "CONTOUR"
  | unknown => "UNKNOWN"

/-- The kind of a name. -/
def ofName? (text : String) : Option OperationKind :=
  all.find? fun kind => kind.name == text

end OperationKind

/-- The families of cutters; the machine knows its tools by these names. -/
inductive Tool where
  /-- A flat cutter. -/
  | endMill
  /-- A cutter with a round tip. -/
  | ballMill
  /-- A twist drill. -/
  | drill
  /-- A wide cutter for faces. -/
  | faceMill
  deriving DecidableEq

namespace Tool

/-- All cutter families. -/
def all : List Tool := [endMill, ballMill, drill, faceMill]

/-- The name of a cutter family in files and programs. -/
def name : Tool → String
  | endMill => "END_MILL"
  | ballMill => "BALL_MILL"
  | drill => "DRILL"
  | faceMill => "FACE_MILL"

/-- The cutter family of a name. -/
def ofName? (text : String) : Option Tool :=
  all.find? fun tool => tool.name == text

end Tool

/-- What an operation cuts, with the sizes of that cut. -/
inductive Feature (α : Type) where
  /-- A hole at the reference point. -/
  | drill (diameter : α)
  /-- A round pocket about the reference point. -/
  | circularPocket (diameter : α)
  /-- A pocket about the reference point, `width` along X and `length` along Y. -/
  | rectangularPocket (width length : α)
  /-- The whole top face. -/
  | faceMill
  /-- A chain of segments from the reference point. -/
  | contour (segments : List (Segment α))
  /-- Nothing that is known. -/
  | unknown

/-- The kind of a feature. -/
def Feature.kind {α : Type} : Feature α → OperationKind
  | drill _ => .drill
  | circularPocket _ => .circularPocket
  | rectangularPocket _ _ => .rectangularPocket
  | faceMill => .faceMill
  | contour _ => .contour
  | unknown => .unknown

/-- One machining operation. -/
structure Operation (α : Type) where
  /-- The reference point along X: a centre, or the start of a contour. -/
  x : α
  /-- The reference point along Y. -/
  y : α
  /-- The Z of the top of the cut. -/
  zStart : α
  /-- The Z of the bottom of the cut. -/
  zDepth : α
  /-- The cutting feed in millimetres per minute. -/
  feedRate : α
  /-- The spindle speed in turns per minute. -/
  spindleSpeed : α
  /-- The diameter of the cutter. -/
  toolDiameter : α
  /-- The family of the cutter. -/
  tool : Tool
  /-- The greatest depth of one pass; zero for a single pass. -/
  stepDown : α
  /-- What is cut. -/
  feature : Feature α

namespace Operation

variable {α : Type} [Scalar α]

/-- The kind of what is cut. -/
def kind (op : Operation α) : OperationKind := op.feature.kind

/-- The reference point. -/
def origin (op : Operation α) : Point α := ⟨op.x, op.y⟩

/-- The segments of a contour, each with its start point; nothing for other features. -/
def walk (op : Operation α) : List (Point α × Segment α) :=
  match op.feature with
  | .contour segments => Segment.walk op.origin segments
  | _ => []

/-- Whether the sizes of the feature make sense, for this cutter. -/
def isWellFormed (op : Operation α) : Bool :=
  match op.feature with
  | .drill diameter => Scalar.isFinite diameter && Scalar.isPositive diameter
  | .circularPocket diameter =>
    Scalar.isFinite diameter && Scalar.le op.toolDiameter diameter &&
      Scalar.isPositive op.toolDiameter
  | .rectangularPocket width length =>
    Scalar.isFinite width && Scalar.isFinite length && Scalar.isPositive op.toolDiameter &&
      Scalar.le op.toolDiameter (Scalar.min width length)
  | .faceMill => Scalar.isFinite op.toolDiameter && Scalar.isPositive op.toolDiameter
  | .contour segments =>
    !segments.isEmpty &&
      op.walk.all fun (start, segment) => segment.isWellFormed start Segment.tolerance
  | .unknown => true

end Operation

namespace Feature

variable {α : Type} [Scalar α]

/-- Whether two features are of one kind and agree in every size, by value. -/
def agrees : Feature α → Feature α → Bool
  | drill a, drill b => Scalar.eq a b
  | circularPocket a, circularPocket b => Scalar.eq a b
  | rectangularPocket a b, rectangularPocket c d => Scalar.eq a c && Scalar.eq b d
  | faceMill, faceMill => true
  | contour a, contour b =>
    a.length == b.length && (a.zip b).all fun (s, t) => s.agrees t
  | unknown, unknown => true
  | _, _ => false

end Feature

/-- Whether two operations are of one kind and agree in every field, numbers by value. -/
def Operation.agrees {α : Type} [Scalar α] (a b : Operation α) : Bool :=
  Scalar.eq a.x b.x && Scalar.eq a.y b.y && Scalar.eq a.zStart b.zStart &&
    Scalar.eq a.zDepth b.zDepth && Scalar.eq a.feedRate b.feedRate &&
    Scalar.eq a.spindleSpeed b.spindleSpeed && Scalar.eq a.toolDiameter b.toolDiameter &&
    a.tool == b.tool && Scalar.eq a.stepDown b.stepDown && a.feature.agrees b.feature

end Machining.Job
