import Machining.Numeric.Scalar

/-!
# Stock

The raw block that a job is cut from, in millimetres.  A rectangular block lies on `[0, width] ×
[0, length]`, a cylindrical one is centred on the origin; the top face of either is at `Z =
height`.  Nothing keeps a stock from holding impossible sizes: `Stock.isWellFormed` says whether it
does, and the compiler decides what to do about it.
-/

namespace Machining.Job

open Machining.Numeric

/-- The two shapes of a raw block. -/
inductive StockShape where
  /-- A box with a corner at the origin. -/
  | rectangular
  /-- A cylinder about the Z axis. -/
  | cylindrical
  deriving DecidableEq

namespace StockShape

/-- All shapes. -/
def all : List StockShape := [rectangular, cylindrical]

/-- The name of a shape in files and programs. -/
def name : StockShape → String
  | rectangular => "RECTANGULAR"
  | cylindrical => "CYLINDRICAL"

/-- The shape of a name. -/
def ofName? (text : String) : Option StockShape :=
  all.find? fun shape => shape.name == text

end StockShape

/-- A raw block of material. -/
structure Stock (α : Type) where
  /-- Which of the planar sizes count. -/
  shape : StockShape
  /-- The extent of a rectangular block along X. -/
  width : α
  /-- The extent of a rectangular block along Y. -/
  length : α
  /-- The extent along Z; the top face is there. -/
  height : α
  /-- The diameter of a cylindrical block. -/
  diameter : α
  /-- What the block is made of, in free words. -/
  material : String

/-- An axis-parallel rectangle. -/
structure Footprint (α : Type) where
  /-- The least X. -/
  xMin : α
  /-- The least Y. -/
  yMin : α
  /-- The greatest X. -/
  xMax : α
  /-- The greatest Y. -/
  yMax : α

namespace Stock

variable {α : Type} [Scalar α]

/-- The outline from above; of a cylinder its bounding square. -/
def footprint (stock : Stock α) : Footprint α :=
  match stock.shape with
  | .cylindrical =>
    let radius := Scalar.half stock.diameter
    ⟨-radius, -radius, radius, radius⟩
  | .rectangular => ⟨Scalar.zero, Scalar.zero, stock.width, stock.length⟩

/-- Whether the height is finite and not negative, and the sizes that count for the shape are
finite and positive. -/
def isWellFormed (stock : Stock α) : Bool :=
  Scalar.isFinite stock.height && !Scalar.lt stock.height Scalar.zero &&
    match stock.shape with
    | .cylindrical => Scalar.isFinite stock.diameter && Scalar.isPositive stock.diameter
    | .rectangular =>
      Scalar.isFinite stock.width && Scalar.isFinite stock.length &&
        Scalar.isPositive stock.width && Scalar.isPositive stock.length

end Stock

end Machining.Job
