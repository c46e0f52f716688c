import Machining.Job.Operation
import Machining.Job.Stock

/-!
# Lines of a program

A program is a list of lines.  A `Line` is one of them before it is written: what the machine is
told to do, with its words already rounded to the decimals that will be printed, or a remark.
`Line.text` writes it.
-/

namespace Machining.Program

open Machining.Numeric Machining.Job

/-- Why an operation is skipped. -/
inductive SkipReason where
  /-- The top of the stock is nowhere. -/
  | stockHeight
  /-- The reference point or a depth is not finite. -/
  | coordinates
  /-- The feed is not finite and positive. -/
  | feedRate
  /-- The spindle speed is not finite and positive. -/
  | spindleSpeed
  /-- The hole has no diameter. -/
  | drillDiameter
  /-- The cutter has no diameter. -/
  | toolDiameter
  /-- The round pocket has no diameter. -/
  | pocketDiameter
  /-- The rectangular pocket has no area. -/
  | pocketSize
  /-- The cutter does not fit into the pocket. -/
  | toolTooWide
  /-- The face has no outline. -/
  | footprint
  /-- The contour is empty. -/
  | emptyContour
  deriving DecidableEq

/-- The wording of a reason. -/
def SkipReason.text : SkipReason → String
  | stockHeight => "stock height must be finite"
  | coordinates => "non-finite coordinates"
  | feedRate => "feed rate must be positive"
  | spindleSpeed => "spindle speed must be positive"
  | drillDiameter => "drill diameter must be positive"
  | toolDiameter => "tool diameter must be positive"
  | pocketDiameter => "pocket diameter must be positive"
  | pocketSize => "pocket width and length must be positive"
  | toolTooWide => "tool is wider than the pocket"
  | footprint => "stock footprint is undefined"
  | emptyContour => "contour has no path segments"

/-- A position in the plane as it is printed. -/
structure Place where
  /-- The `X` word. -/
  x : Fixed
  /-- The `Y` word. -/
  y : Fixed
  deriving DecidableEq

/-- The two words of a position. -/
def Place.text (place : Place) : String :=
  "X" ++ place.x.text ++ " Y" ++ place.y.text

/-- One step of the tool inside a block. -/
inductive Move where
  /-- A rapid move along Z. -/
  | rapidZ (z : Fixed)
  /-- A rapid move in the plane. -/
  | rapidTo (place : Place)
  /-- A cutting move along Z. -/
  | cutZ (z : Fixed)
  /-- A cutting move in the plane. -/
  | cutTo (place : Place)
  /-- A cutting move along X. -/
  | cutX (x : Fixed)
  /-- A cutting move along Y. -/
  | cutY (y : Fixed)
  /-- A cutting move on an arc about the centre that lies `(i, j)` from where it starts. -/
  | cutArc (clockwise : Bool) (place : Place) (i j : Fixed)
  /-- A segment that cannot be cut; the tool stays. -/
  | dropped
  deriving DecidableEq

namespace Move

/-- Whether the move runs at the cutting feed. -/
def isCut : Move → Bool
  | cutZ _ | cutTo _ | cutX _ | cutY _ | cutArc .. => true
  | rapidZ _ | rapidTo _ | dropped => false

/-- The words of a move, without its feed. -/
def text : Move → String
  | rapidZ z => "G0 Z" ++ z.text
  | rapidTo place => "G0 " ++ place.text
  | cutZ z => "G1 Z" ++ z.text
  | cutTo place => "G1 " ++ place.text
  | cutX x => "G1 X" ++ x.text
  | cutY y => "G1 Y" ++ y.text
  | cutArc clockwise place i j =>
    (if clockwise then "G2 " else "G3 ") ++ place.text ++ " I" ++ i.text ++ " J" ++ j.text
  | dropped => "; segment dropped: non-finite end point"

end Move

/-- The printed sizes of a stock. -/
inductive StockSize where
  /-- A cylinder's diameter. -/
  | diameter (d : Fixed)
  /-- A box's width and length. -/
  | widthLength (w l : Fixed)
  deriving DecidableEq

/-- The words of a stock's sizes. -/
def StockSize.text : StockSize → String
  | diameter d => "D" ++ d.text
  | widthLength w l => "W" ++ w.text ++ " L" ++ l.text

/-- One line of a program. -/
inductive Line where
  /-- The remark with the program's name. -/
  | title (name : String)
  /-- The remark that describes the stock. -/
  | stock (shape : StockShape) (size : StockSize) (height : Fixed) (material : String)
  /-- The remark that counts the operations. -/
  | operationCount (count : Nat)
  /-- Plane XY, absolute positions, millimetres, feed per minute. -/
  | modes
  /-- The choice of the work coordinate system. -/
  | workOffset (name : String)
  /-- The remark that opens the block of an operation. -/
  | opening (index : Nat) (kind : OperationKind)
  /-- The remark for an operation without geometry. -/
  | nothingToMachine
  /-- The remark for an operation that is left out. -/
  | skipped (reason : SkipReason)
  /-- The remark that describes the tool to load. -/
  | toolRemark (tool : Tool) (diameter : Fixed)
  /-- The choice of the next tool. -/
  | selectTool (tool : Tool)
  /-- The exchange of the tool. -/
  | changeTool
  /-- The spindle turns at a speed. -/
  | spindleOn (speed : Int)
  /-- The spindle stops. -/
  | spindleOff
  /-- The coolant runs. -/
  | coolantOn
  /-- The coolant stops. -/
  | coolantOff
  /-- A move, with the feed where it has to be set. -/
  | move (step : Move) (feed : Option Fixed)
  /-- The remark in front of the footer. -/
  | closing
  /-- The end of the program. -/
  | endOfProgram
  deriving DecidableEq

/-- Writes a line, without the line break. -/
def Line.text : Line → String
  | title name => "; " ++ name
  | stock shape size height material =>
    "; STOCK: " ++ shape.name ++ " " ++ size.text ++ " H" ++ height.text ++ " " ++ material
  | operationCount count => "; OPERATIONS: " ++ toString count
  | modes => "G17 G90 G71 G94"
  | workOffset name => name
  | opening index kind => "; --- OP " ++ toString index ++ ": " ++ kind.name ++ " ---"
  | nothingToMachine => "; no geometry, nothing to machine"
  | skipped reason => "; SKIPPED: " ++ reason.text
  | toolRemark tool diameter => "; tool: " ++ tool.name ++ " D" ++ diameter.text
  | selectTool tool => "T=\"" ++ tool.name ++ "\""
  | changeTool => "M6"
  | spindleOn speed => "S" ++ toString speed ++ " M3"
  | spindleOff => "M5"
  | coolantOn => "M8"
  | coolantOff => "M9"
  | move step none => step.text
  | move step (some feed) => step.text ++ " F" ++ feed.text
  | closing => "; --- END ---"
  | endOfProgram => "M30"

/-- Writes the lines of a program, each with a line break after it. -/
def render (lines : List Line) : String :=
  String.join (lines.map fun line => line.text ++ "\n")

end Machining.Program
