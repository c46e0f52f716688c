import Machining.Program.Block

/-!
# Compiling a job

`compile` turns a stock and its operations into a program: a header, one block for each operation
in order, and a footer.  What one block leaves to the next is a small value, `Carried`: the tool
that is loaded, the speed of the spindle and the highest safe plane so far.  A job that cannot be
machined still compiles; an operation that makes no sense is skipped with a remark.
-/

namespace Machining.Program

open Machining.Numeric Machining.Job

variable {α : Type} [Scalar α]

/-- What a block leaves to the blocks after it. -/
structure Carried (α : Type) where
  /-- The loaded tool and the speed of the spindle, after the first machined operation. -/
  spindle : Option (Tool × Int)
  /-- The highest safe plane so far. -/
  topSafeZ : α

/-- The top face of a stock; zero where it is not finite. -/
def stockTop (stock : Stock α) : α :=
  if Scalar.isFinite stock.height then stock.height else Scalar.zero

/-- The safe plane of an operation: the clearance above its top and above the stock. -/
def safeZ (settings : Settings α) (stock : Stock α) (op : Operation α) : α :=
  -- a top that is not finite leaves the plane to the stock
  let top := if Scalar.isFinite op.zStart then op.zStart else stockTop stock
  Scalar.max top (stockTop stock) + settings.safeClearance

/-- The lines that load a tool and start the spindle: nothing while both stay, the speed alone when
only the speed changes. -/
def toolLines (settings : Settings α) (op : Operation α) (speed : Int) :
    Option (Tool × Int) → List Line
  | none => load
  | some (tool, current) =>
    if op.tool ≠ tool then .spindleOff :: load
    else if speed ≠ current then [.spindleOn speed]
    else []
where
  /-- The exchange of the tool with the spindle at rest. -/
  load : List Line :=
    [.toolRemark op.tool (settings.coordinate op.toolDiameter), .selectTool op.tool, .changeTool,
      .spindleOn speed] ++ if settings.coolant then [.coolantOn] else []

/-- What the block of an operation leaves behind, also when its moves cannot be computed: the tool
is loaded before them. -/
def leaves (settings : Settings α) (stock : Stock α) (carried : Carried α) (op : Operation α) :
    Carried α :=
  match op.feature with
  | .unknown => carried
  | _ =>
    -- the plane of a skipped operation counts: its block ends there
    let top := Scalar.max carried.topSafeZ (safeZ settings stock op)
    match skipReason? stock op with
    | some _ => { carried with topSafeZ := top }
    | none => ⟨some (op.tool, Scalar.nearest op.spindleSpeed), top⟩

/-- The block of an operation. -/
def block (settings : Settings α) (stock : Stock α) (carried : Carried α) (index : Nat)
    (op : Operation α) : Except ArithmeticError (List Line) :=
  let opening := Line.opening index op.kind
  match op.feature with
  -- nothing moves, not even to the safe plane
  | .unknown => .ok [opening, .nothingToMachine]
  | _ =>
    let plane := safeZ settings stock op
    let retract := Line.move (.rapidZ (settings.coordinate plane)) none
    match skipReason? stock op with
    -- the tool is neither loaded nor compared here
    | some reason => .ok [opening, .skipped reason, retract]
    | none =>
      -- only the moves may fail
      (plan settings stock op plane).map fun moves =>
        let speed := Scalar.nearest op.spindleSpeed
        opening :: retract :: toolLines settings op speed carried.spindle ++
          withFeed (settings.feed op.feedRate) moves ++ [retract]

/-- The blocks of operations numbered from `index` on, with what they leave behind. -/
def blocks (settings : Settings α) (stock : Stock α) (carried : Carried α) (index : Nat) :
    List (Operation α) → Except ArithmeticError (List Line × Carried α)
  | [] => .ok ([], carried)
  | op :: rest => do
    let lines ← block settings stock carried index op
    -- skipped and unknown operations keep their number
    let (others, last) ← blocks settings stock (leaves settings stock carried op) (index + 1) rest
    return (lines ++ others, last)

/-- What is left over before the first block. -/
def start (settings : Settings α) (stock : Stock α) : Carried α :=
  ⟨none, stockTop stock + settings.safeClearance⟩

/-- The sizes of a stock that count for its shape, as they are printed. -/
def stockSize (settings : Settings α) (stock : Stock α) : StockSize :=
  match stock.shape with
  | .cylindrical => .diameter (settings.coordinate stock.diameter)
  | .rectangular =>
    .widthLength (settings.coordinate stock.width) (settings.coordinate stock.length)

/-- The lines in front of the first block. -/
def header (settings : Settings α) (stock : Stock α) (count : Nat) : List Line :=
  [.title settings.programName,
    .stock stock.shape (stockSize settings stock) (settings.coordinate stock.height)
      stock.material,
    .operationCount count, .modes, .workOffset settings.workOffset]

/-- The lines behind the last block. -/
def footer (settings : Settings α) (carried : Carried α) : List Line :=
  [.closing, .move (.rapidZ (settings.coordinate carried.topSafeZ)) none, .spindleOff] ++
    (if settings.coolant then [.coolantOff] else []) ++ [.endOfProgram]

/-- The program of a job. -/
def compile (settings : Settings α) (stock : Stock α) (ops : List (Operation α)) :
    Except ArithmeticError (List Line) :=
  (blocks settings stock (start settings stock) 1 ops).map fun (lines, carried) =>
    header settings stock ops.length ++ lines ++ footer settings carried

/-- A program together with the job that it was made from. -/
structure Output (α : Type) where
  /-- The text of the program. -/
  text : String
  /-- What the program does, in free words. -/
  explanation : String
  /-- The operations of the job. -/
  operations : List (Operation α)
  /-- The stock of the job. -/
  stock : Stock α

/-- Compiles a job and keeps it with its program. -/
def output (settings : Settings α) (stock : Stock α) (ops : List (Operation α))
    (explanation : String) : Except ArithmeticError (Output α) :=
  (compile settings stock ops).map fun lines => ⟨render lines, explanation, ops, stock⟩

end Machining.Program
