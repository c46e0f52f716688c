import Machining.Program.Compile

/-!
# One job after another

A compiler can serve for many jobs.  What it has to know from one line to the next it keeps in
registers: the stock of the job at hand and the height of its top, the tool that is loaded, the
speed of the spindle, the feed of the machine, and the highest safe plane so far.  Every block reads
and writes them, and a job that breaks off in the middle of a block leaves them as they are at that
moment.  The next job begins by clearing them.

* `Compiler.addBlock` adds one block, `Compiler.next` compiles one job; both give the compiler as it
  stands afterwards, also when they fail.
* `Compiler.series` compiles jobs one after another on one compiler.
-/

namespace Machining.Program

open Machining.Numeric Machining.Job

variable {α : Type} [Scalar α]

/-- What is to be compiled. -/
structure Assignment (α : Type) where
  /-- The stock. -/
  stock : Stock α
  /-- The operations in order. -/
  operations : List (Operation α)
  /-- What the job does, in free words. -/
  explanation : String

/-- A compiler with its registers. -/
structure Compiler (α : Type) where
  /-- What shapes its programs. -/
  settings : Settings α
  /-- The stock of the job at hand; before the first job there is none. -/
  stock : Option (Stock α)
  /-- The tool that is loaded. -/
  tool : Option Tool
  /-- The speed of the spindle. -/
  speed : Option Int
  /-- The feed of the machine, as far as the block at hand has set it. -/
  feed : Option Fixed
  /-- The top of the stock. -/
  top : α
  /-- The highest safe plane so far. -/
  topSafeZ : α

namespace Compiler

/-- A compiler that has not been used. -/
def fresh (settings : Settings α) : Compiler α :=
  ⟨settings, none, none, none, none, Scalar.zero, Scalar.zero⟩

/-- Clears the registers. -/
def clear (c : Compiler α) : Compiler α :=
  { c with
    stock := none, tool := none, speed := none, feed := none, top := Scalar.zero,
    topSafeZ := Scalar.zero }

/-- Makes ready for a job. -/
def ready (c : Compiler α) (stock : Stock α) : Compiler α :=
  { c.clear with
    stock := some stock, top := stockTop stock
    topSafeZ := stockTop stock + c.settings.safeClearance }

/-- What the blocks so far have left behind. -/
def carried (c : Compiler α) : Carried α :=
  ⟨c.tool.bind fun tool => c.speed.map fun speed => (tool, speed), c.topSafeZ⟩

/-! ## One block -/

/-- The safe plane of an operation. -/
def plane (c : Compiler α) (op : Operation α) : α :=
  let top := if Scalar.isFinite op.zStart then op.zStart else c.top
  Scalar.max top c.top + c.settings.safeClearance

/-- Takes note of a safe plane. -/
def reach (c : Compiler α) (plane : α) : Compiler α :=
  { c with topSafeZ := Scalar.max c.topSafeZ plane }

/-- Why an operation cannot be machined from the stock at hand, if it cannot. -/
def skipReason? (c : Compiler α) (op : Operation α) : Option SkipReason :=
  match c.stock with
  | none => some .stockHeight
  | some stock => Program.skipReason? stock op

/-- Loads the tool of an operation and starts the spindle: nothing while both stay, the speed alone
when only the speed changes. -/
def load (c : Compiler α) (op : Operation α) : List Line × Compiler α :=
  let speed := Scalar.nearest op.spindleSpeed
  let lines :=
    if c.tool ≠ some op.tool then
      (if c.tool.isSome then [Line.spindleOff] else []) ++ toolLines.load c.settings op speed
    else if c.speed ≠ some speed then [.spindleOn speed]
    else []
  (lines, { c with tool := some op.tool, speed := some speed })

/-- The moves of an operation.  Without a stock there are none, but then every operation is
skipped. -/
def moves (c : Compiler α) (op : Operation α) (plane : α) : Except ArithmeticError (List Move) :=
  match c.stock with
  | none => .ok []
  | some stock => plan c.settings stock op plane

/-- Writes moves; a cutting move sets the feed where the machine has another one. -/
def write (c : Compiler α) (feed : Fixed) : List Move → List Line × Compiler α
  | [] => ([], c)
  | step :: rest =>
    if step.isCut then
      -- the register is empty when a block begins
      let word := if c.feed = some feed then none else some feed
      let (lines, last) := write { c with feed := some feed } feed rest
      (.move step word :: lines, last)
    else
      let (lines, last) := c.write feed rest
      (.move step none :: lines, last)

/-- Machines an operation, or says why not.  When its moves cannot be computed, its tool is loaded
already. -/
def machine (c : Compiler α) (op : Operation α) : Except ArithmeticError (List Line) × Compiler α :=
  let plane := c.plane op
  let retract := Line.move (.rapidZ (c.settings.coordinate plane)) none
  -- the plane is noted before the operation is looked at
  let reached := c.reach plane
  match reached.skipReason? op with
  | some reason => (.ok [.skipped reason, retract], reached)
  | none =>
    -- the tool is noted before the moves are computed
    let (tool, loaded) := reached.load op
    match loaded.moves op plane with
    | .error error => (.error error, loaded)
    | .ok moves =>
      let (cuts, last) := loaded.write (c.settings.feed op.feedRate) moves
      (.ok (retract :: tool ++ cuts ++ [retract]), last)

/-- Adds the block of an operation. -/
def addBlock (c : Compiler α) (index : Nat) (op : Operation α) :
    Except ArithmeticError (List Line) × Compiler α :=
  let opening := Line.opening index op.kind
  -- each block sets the feed anew
  let opened := { c with feed := none }
  match op.feature with
  | .unknown => (.ok [opening, .nothingToMachine], opened)
  | _ =>
    let (lines, last) := opened.machine op
    (lines.map (opening :: ·), last)

/-! ## Jobs -/

/-- Adds the blocks of operations numbered from `index` on. -/
def addBlocks (c : Compiler α) (index : Nat) :
    List (Operation α) → Except ArithmeticError (List Line) × Compiler α
  | [] => (.ok [], c)
  | op :: rest =>
    match c.addBlock index op with
    | (.error error, broken) => (.error error, broken)
    | (.ok lines, after) =>
      let (others, last) := after.addBlocks (index + 1) rest
      (others.map (lines ++ ·), last)

/-- Compiles a job; the compiler is given back as the job leaves it, also one that breaks off. -/
def next (c : Compiler α) (given : Assignment α) :
    Except ArithmeticError (Output α) × Compiler α :=
  let (body, last) := (c.ready given.stock).addBlocks 1 given.operations
  let program := body.map fun lines =>
    header c.settings given.stock given.operations.length ++ lines ++ footer c.settings last.carried
  (program.map fun lines => ⟨render lines, given.explanation, given.operations, given.stock⟩, last)

/-- Compiles jobs one after another, each on the compiler as the one before it left it. -/
def series (c : Compiler α) : List (Assignment α) → List (Except ArithmeticError (Output α))
  | [] => []
  | given :: rest =>
    let (result, after) := c.next given
    result :: after.series rest

end Compiler

end Machining.Program
