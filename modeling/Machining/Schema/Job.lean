import Machining.Job.Operation
import Machining.Job.Stock
import Machining.Schema.Field

/-!
# Jobs in documents

How a stock, a segment and an operation are written as records.  An operation's record is flat: the
sizes of all features are fields of it, those that its kind does not need are passed over, and
those that it needs and lacks count as zero, so that the operation is skipped later and not refused
here.  A kind that is not known is the unknown kind.
-/

namespace Machining.Schema

open Machining.Document Machining.Numeric Machining.Job

/-- Reads a segment. -/
def segment : Reader (Segment Float) :=
  record fun entries =>
    Segment.mk <$> defaulted entries "type" .line (choice Course.ofName?)
      <*> required entries "x" number
      <*> required entries "y" number
      <*> defaulted entries "cx" none (nullable number)
      <*> defaulted entries "cy" none (nullable number)
      <*> defaulted entries "radius" none (nullable number)

/-- Reads a stock. -/
def stock : Reader (Stock Float) :=
  record fun entries =>
    Stock.mk <$> defaulted entries "shape" .rectangular (choice StockShape.ofName?)
      <*> defaulted entries "width" Scalar.zero number
      <*> defaulted entries "length" Scalar.zero number
      <*> required entries "height" number
      <*> defaulted entries "diameter" Scalar.zero number
      <*> defaulted entries "material" "" text

/-- Reads the kind of an operation; a name that is not known gives the unknown kind. -/
def operationKind : Reader OperationKind
  | .text s => .valid ((OperationKind.ofName? (choiceName s)).getD .unknown)
  -- what is no text is not an unknown name but a wrong value
  | other => choice OperationKind.ofName? other

/-- The sizes of all features, as they are written. -/
structure Sizes where
  /-- The diameter of a hole or a round pocket. -/
  diameter : Option Float
  /-- The extent of a rectangular pocket along X. -/
  width : Option Float
  /-- The extent of a rectangular pocket along Y. -/
  length : Option Float
  /-- The segments of a contour. -/
  segments : List (Segment Float)

/-- The feature of a kind; a size that is not written is zero. -/
def Sizes.feature (sizes : Sizes) : OperationKind → Feature Float
  | .drill => .drill (size sizes.diameter)
  | .circularPocket => .circularPocket (size sizes.diameter)
  | .rectangularPocket => .rectangularPocket (size sizes.width) (size sizes.length)
  | .faceMill => .faceMill
  | .contour => .contour sizes.segments
  | .unknown => .unknown
where
  /-- A size, and positive zero for none or for any zero. -/
  size : Option Float → Float
    | some x => if x == Float.ofNat 0 then Float.ofNat 0 else x
    | none => Float.ofNat 0

/-- Reads an operation. -/
def operation : Reader (Operation Float) :=
  record fun entries =>
    (fun kind x y zStart zDepth diameter width length segments feedRate spindleSpeed toolDiameter
        tool stepDown =>
      { x, y, zStart, zDepth, feedRate, spindleSpeed, toolDiameter, tool, stepDown,
        feature := Sizes.feature ⟨diameter, width, length, segments⟩ kind })
      <$> defaulted entries "type" .unknown operationKind
      <*> defaulted entries "x" Scalar.zero number
      <*> defaulted entries "y" Scalar.zero number
      <*> defaulted entries "z_start" Scalar.zero number
      <*> required entries "z_depth" number
      <*> defaulted entries "diameter" none (nullable number)
      <*> defaulted entries "width" none (nullable number)
      <*> defaulted entries "length" none (nullable number)
      <*> defaulted entries "path_segments" [] (list segment)
      <*> required entries "feed_rate" number
      <*> required entries "spindle_speed" number
      <*> required entries "tool_diameter" number
      <*> required entries "tool_type" (choice Tool.ofName?)
      <*> defaulted entries "step_down" Scalar.zero number

/-- A job as it is filed: a stock, its operations and some words about them. -/
structure JobFile where
  /-- The block that is cut. -/
  stock : Stock Float
  /-- The operations in order. -/
  operations : List (Operation Float)
  /-- What the job does. -/
  explanation : String

/-- Reads a job. -/
def jobFile : Reader JobFile :=
  record fun entries =>
    JobFile.mk <$> required entries "stock" stock
      <*> defaulted entries "operations" [] (list operation)
      <*> defaulted entries "explanation" "" text

end Machining.Schema
