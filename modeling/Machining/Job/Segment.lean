import Machining.Numeric.Scalar

/-!
# Contour segments and their arcs

A contour is a chain of segments, each of which starts where the one before it ends.  An arc says
where its centre is, or gives a radius from which the centre follows.

* `Segment.center?` finds the centre that an arc is cut about.
* `Segment.isWellFormed` says whether a segment's own data fit its start point.
-/

namespace Machining.Job

open Machining.Numeric

/-- A position in the plane. -/
structure Point (α : Type) where
  /-- The position along X. -/
  x : α
  /-- The position along Y. -/
  y : α

/-- How a segment runs to its end point. -/
inductive Course where
  /-- Straight. -/
  | line
  /-- On a clockwise arc. -/
  | clockwise
  /-- On a counter-clockwise arc. -/
  | counterClockwise
  deriving DecidableEq

namespace Course

/-- All courses. -/
def all : List Course := [line, clockwise, counterClockwise]

/-- The name of a course in files. -/
def name : Course → String
  | line => "LINE"
  | clockwise => "ARC_CW"
  | counterClockwise => "ARC_CCW"

/-- The course of a name. -/
def ofName? (text : String) : Option Course :=
  all.find? fun course => course.name == text

end Course

/-- One move of a contour, to the end point `(x, y)`. -/
structure Segment (α : Type) where
  /-- Straight, or on an arc in one of the directions. -/
  course : Course
  /-- The end point's position along X. -/
  x : α
  /-- The end point's position along Y. -/
  y : α
  /-- The centre of an arc along X, if it is given. -/
  cx : Option α
  /-- The centre of an arc along Y, if it is given. -/
  cy : Option α
  /-- The radius of an arc, for when no centre is given: positive for the shorter arc, negative for
  the longer one. -/
  radius : Option α

namespace Segment

variable {α : Type} [Scalar α]

/-- Whether the segment runs on an arc. -/
def isArc (segment : Segment α) : Bool := segment.course != .line

/-- Whether the segment runs on a clockwise arc. -/
def isClockwise (segment : Segment α) : Bool := segment.course == .clockwise

/-- The end point. -/
def finish (segment : Segment α) : Point α := ⟨segment.x, segment.y⟩

/-- The centre that is written in the segment, when both of its coordinates are. -/
def explicitCenter? (segment : Segment α) : Option (Point α) :=
  match segment.cx, segment.cy with
  | some cx, some cy => some ⟨cx, cy⟩
  | _, _ => none

/-- How far the ends of an arc may differ in their distance from its centre, in millimetres. -/
def tolerance : α := Scalar.ofDecimal 1 3

/-- The shortest chord that still has a direction. -/
def leastChord : α := Scalar.ofDecimal 1 12

/-- The centre of an arc with this radius from `start`: it lies beside the middle of the chord, on
the left for a counter-clockwise arc with a positive radius, and each of the two reversals changes
the side.  A radius under half of the chord counts as half of the chord. -/
def centerByRadius (segment : Segment α) (start : Point α) (radius : α) : Option (Point α) :=
  let dx := segment.x - start.x
  let dy := segment.y - start.y
  let chord := Scalar.hypot dx dy
  if Scalar.lt chord leastChord then none
  else
    let halfChord := Scalar.half chord
    -- a radius that is too short is stretched to reach both ends
    let r := Scalar.max (Scalar.abs radius) halfChord
    let height := Scalar.sqrt (Scalar.max (r * r - halfChord * halfChord) Scalar.zero)
    -- the unit vector to the left of the way from start to end
    let nx := -dy / chord
    let ny := dx / chord
    let one : α := Scalar.ofNat 1
    -- the shorter counter-clockwise arc has its centre on the left
    let direction := if segment.isClockwise then -one else one
    let side := if Scalar.lt radius Scalar.zero then -direction else direction
    let mx := start.x + Scalar.half dx
    let my := start.y + Scalar.half dy
    some ⟨mx + side * height * nx, my + side * height * ny⟩

/-- The radius when it can shape an arc: finite and not zero. -/
def usableRadius? (segment : Segment α) : Option α :=
  segment.radius.filter fun radius =>
    !Scalar.eq radius Scalar.zero && Scalar.isFinite radius

/-- The centre of an arc drawn from `start`: the written one, or the one that follows from the
radius.  A line has none, nor has an arc without either, nor one with a radius that ends where it
starts. -/
def center? (segment : Segment α) (start : Point α) : Option (Point α) :=
  if segment.isArc then
    match segment.explicitCenter? with
    | some center => some center
    | none => segment.usableRadius?.bind (segment.centerByRadius start)
  else none

/-- The distance between two points. -/
def distance (a b : Point α) : α := Scalar.hypot (a.x - b.x) (a.y - b.y)

/-- Whether both ends are equally far from a centre, and not on top of it. -/
def fitsCenter (segment : Segment α) (start center : Point α) (tolerance : α) : Bool :=
  let atStart := distance start center
  let atFinish := distance segment.finish center
  -- an arc about its own start has no direction
  Scalar.lt tolerance atStart && Scalar.le (Scalar.abs (atStart - atFinish)) tolerance

/-- Whether the radius reaches over half of a chord that is not empty. -/
def fitsRadius (segment : Segment α) (start : Point α) (tolerance : α) : Bool :=
  match segment.radius with
  | none => false
  | some radius =>
    let chord := distance segment.finish start
    !Scalar.eq radius Scalar.zero && Scalar.isPositive chord &&
      Scalar.le (Scalar.half chord - tolerance) (Scalar.abs radius)

/-- Whether the end point is finite and an arc's centre or radius fits both ends. -/
def isWellFormed (segment : Segment α) (start : Point α) (tolerance : α) : Bool :=
  Scalar.isFinite segment.x && Scalar.isFinite segment.y &&
    (!segment.isArc ||
      match segment.explicitCenter? with
      -- a written centre makes the radius idle
      | some center => segment.fitsCenter start center tolerance
      | none => segment.fitsRadius start tolerance)

/-- The segments of a chain, each with the point where it starts. -/
def walk (start : Point α) : List (Segment α) → List (Point α × Segment α)
  | [] => []
  | segment :: rest => (start, segment) :: walk segment.finish rest

/-- Whether two segments agree in every field, numbers by value. -/
def agrees (a b : Segment α) : Bool :=
  let same : Option α → Option α → Bool
    | some u, some v => Scalar.eq u v
    | none, none => true
    | _, _ => false
  a.course == b.course && Scalar.eq a.x b.x && Scalar.eq a.y b.y && same a.cx b.cx &&
    same a.cy b.cy && same a.radius b.radius

end Segment

end Machining.Job
