import Machining.Job.Operation
import Machining.Job.Stock
import Machining.Session.Mode

/-!
# The ledger of a session

The ledger holds the operations of the job in order and the stock they are cut from.  A turn first
looks at the operations that its result would give, so that they can be compiled before anything
changes, and then commits them.
-/

namespace Machining.Session

open Machining.Job

/-- The operations of a job and their stock. -/
structure Ledger where
  /-- The operations in order. -/
  operations : List (Operation Float)
  /-- The current stock. -/
  stock : Stock Float

namespace Ledger

/-- A ledger without operations. -/
def empty (stock : Stock Float) : Ledger := ⟨[], stock⟩

/-- The operations that a turn's operation would give. -/
def preview (ledger : Ledger) (mode : Mode) (op : Operation Float) : List (Operation Float) :=
  match mode with
  | .accumulate => ledger.operations ++ [op]
  | .replace => [op]

/-- The ledger with new operations and a new stock. -/
def commit (_ : Ledger) (operations : List (Operation Float)) (stock : Stock Float) : Ledger :=
  ⟨operations, stock⟩

@[simp] theorem preview_replace (ledger : Ledger) (op : Operation Float) :
    ledger.preview .replace op = [op] := rfl

@[simp] theorem length_preview_accumulate (ledger : Ledger) (op : Operation Float) :
    (ledger.preview .accumulate op).length = ledger.operations.length + 1 := by
  simp [preview]

end Ledger

end Machining.Session
