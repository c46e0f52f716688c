import Machining.Program.Compile

/-!
# Notices about a compilation

While a job is compiled, notice is taken of everything that is left out of the program or cut
otherwise than it was asked for.  `notices` lists what there is to say about a job, in the order of
its operations and up to the first one whose moves cannot be computed.
-/

namespace Machining.Program

open Machining.Numeric Machining.Job

/-- Something worth saying about a job. -/
inductive Notice where
  /-- An operation is left out. -/
  | skipped (index : Nat) (kind : OperationKind) (reason : SkipReason)
  /-- A segment of a contour is left out. -/
  | dropped
  /-- An arc to a position is cut straight. -/
  | straightened (x y : Fixed)
  deriving DecidableEq

/-- The wording of a notice. -/
def Notice.text : Notice → String
  | skipped index kind reason => s!"Operation {index} ({kind.name}) skipped: {reason.text}"
  | dropped => "Contour segment with non-finite end point dropped"
  | straightened x y => s!"Arc to ({x.text}, {y.text}) has no usable centre; cutting a line"

/-- Whether a move follows an arc. -/
def Move.isArc : Move → Bool
  | .cutArc .. => true
  | _ => false

variable {α : Type} [Scalar α]

/-- The notices about a chain of segments. -/
def chainNotices (settings : Settings α) (start : Point α) : List (Segment α) → List Notice
  | [] => []
  | segment :: rest =>
    if Scalar.isFinite segment.x && Scalar.isFinite segment.y then
      let straight := segment.isArc && !(segmentMove settings start segment).isArc
      (if straight then [Notice.straightened (Scalar.fixed 3 segment.x) (Scalar.fixed 3 segment.y)]
        else []) ++ chainNotices settings segment.finish rest
    else .dropped :: chainNotices settings start rest

/-- The notices about the plan of an operation. -/
def planNotices (settings : Settings α) (op : Operation α) : List Notice :=
  match op.feature with
  | .contour segments => chainNotices settings op.origin segments
  | _ => []

/-- The notices about an operation, or why its moves cannot be computed. -/
def operationNotices (settings : Settings α) (stock : Stock α) (index : Nat) (op : Operation α) :
    Except ArithmeticError (List Notice) :=
  match op.feature with
  | .unknown => .ok []
  | _ =>
    match skipReason? stock op with
    | some reason => .ok [.skipped index op.kind reason]
    | none =>
      (plan settings stock op (safeZ settings stock op)).map fun _ => planNotices settings op

/-- The notices about operations numbered from `index` on. -/
def noticesFrom (settings : Settings α) (stock : Stock α) (index : Nat) :
    List (Operation α) → List Notice
  | [] => []
  | op :: rest =>
    match operationNotices settings stock index op with
    | .ok found => found ++ noticesFrom settings stock (index + 1) rest
    | .error _ => []

/-- The notices about a job. -/
def notices (settings : Settings α) (stock : Stock α) (ops : List (Operation α)) : List Notice :=
  noticesFrom settings stock 1 ops

end Machining.Program
