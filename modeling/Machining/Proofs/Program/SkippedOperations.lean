import Machining.Numeric.Numeral
import Machining.Proofs.Numeric.FloatRange
import Machining.Proofs.Program.Independence

/-!
# Operations that are skipped

Whether an operation makes sense is asked in two places: `Operation.isWellFormed` asks it of its own
sizes, and `skipReason?` asks it again before the operation is compiled, in other words.  Here the
answers are set side by side, for all floating-point numbers: infinities and "no number" may stand
in any field that is not asked about before.

A pocket is asked in one place whether both of its extents are finite, and in the other whether
their sum is.  So the two answers agree but for a pocket whose extents are finite and have an
infinite sum, `Operation.isVast`: it is skipped however well it is formed
(`skips_ill_formed_and_vast_operations`).  There is such a pocket (`vast_pocket_is_skipped`).

* `skipReason?_isSome_iff`: the two answers, without a program around them.
* `LeavesOut` says of a block that its operation is skipped, and `leavesOut_iff` when it is.
-/

namespace Machining.Job.Operation

open Machining.Numeric

/-- Whether an operation is a pocket whose extents have no finite sum. -/
def isVast {α : Type} [Scalar α] (op : Operation α) : Bool :=
  match op.feature with
  | .rectangularPocket width length => !Scalar.isFinite (width + length)
  | _ => false

end Machining.Job.Operation

namespace Machining.Program

open Machining.Numeric Machining.Job

/-! ## Blocks of operations that are skipped -/

section Blocks

variable {α : Type} [Scalar α] {settings : Settings α} {stock : Stock α} {carried : Carried α}
  {index : Nat} {op : Operation α} {body : List Line}

/-- The block of an operation that is skipped: its number, the reason, and the way to the safe
plane. -/
def LeavesOut (settings : Settings α) (stock : Stock α) (index : Nat) (op : Operation α)
    (body : List Line) : Prop :=
  ∃ reason, body = [.opening index op.kind, .skipped reason, retract settings stock op]

/-- Whether a line has a part in machining: it is about the tool, the spindle or the coolant, or it
cuts. -/
def Line.machines : Line → Bool
  | toolRemark .. | selectTool _ | changeTool => true
  | spindleOn _ | spindleOff | coolantOn | coolantOff => true
  | move step _ => step.isCut
  | _ => false

/-- Where an operation is left out, nothing is machined. -/
theorem LeavesOut.machines_eq_false (h : LeavesOut settings stock index op body) :
    ∀ line ∈ body, line.machines = false := by
  obtain ⟨reason, rfl⟩ := h
  simp [Line.machines, retract, Move.isCut]

/-- A block leaves its operation out exactly when there is a reason to. -/
theorem leavesOut_iff (hkind : op.kind ≠ .unknown)
    (h : block settings stock carried index op = .ok body) :
    LeavesOut settings stock index op body ↔ (skipReason? stock op).isSome = true := by
  cases blockForm_of_block h with
  | unknown hunknown => exact absurd hunknown hkind
  | skipped _ hreason => exact iff_of_true ⟨_, rfl⟩ (by rw [hreason]; rfl)
  | machined _ hreason _ =>
    -- the second line of a block that is machined is a move
    refine iff_of_false ?_ (by simp [hreason])
    rintro ⟨reason, hbody⟩
    simp [retract] at hbody

/-- Where there is a reason, the block can be compiled at any place. -/
theorem exists_leavesOut (hkind : op.kind ≠ .unknown) (h : (skipReason? stock op).isSome = true)
    (settings : Settings α) (carried : Carried α) (index : Nat) :
    ∃ body, block settings stock carried index op = .ok body ∧
      LeavesOut settings stock index op body := by
  obtain ⟨reason, hreason⟩ := Option.isSome_iff_exists.mp h
  exact ⟨_, by rw [block_of_known hkind, hreason], reason, rfl⟩

/-- The block of an operation of a program. -/
theorem exists_block_of_compile {ops : List (Operation α)} {program : List Line}
    (h : compile settings stock ops = .ok program) {i : ℕ} (hop : ops[i]? = some op) :
    ∃ bodies foot before body, Divided settings stock ops program bodies foot ∧
      bodies[i]? = some body ∧ block settings stock before (i + 1) op = .ok body := by
  obtain ⟨bodies, last, hchained, hdivided⟩ := exists_divided_of_compile h
  obtain ⟨before, body, hbody, hblock, -⟩ := hchained.inherits hop
  rw [Nat.add_comm] at hblock
  exact ⟨bodies, _, before, body, hdivided, hbody, hblock⟩

end Blocks

/-! ## The two answers -/

section Answers

variable {stock : Stock Float} {op : Operation Float} {width length size tool : Float}

/-- Into a size that is not positive no cutter fits. -/
private theorem lt_tool_of_le_zero (htool : Scalar.isPositive tool = true)
    (h : Scalar.le size Scalar.zero = true) : Scalar.lt size tool = true :=
  lt_of_le_lt h htool

/-- A cutter that is wider than an extent is wider than the least extent. -/
private theorem min_lt_of_lt (hwidth : IsNumber width) (hlength : IsNumber length)
    (h : Scalar.lt width tool = true ∨ Scalar.lt length tool = true) :
    Scalar.lt (Scalar.min width length) tool = true := by
  unfold Scalar.min
  split
  · rename_i hless
    exact h.elim (OrderedScalar.lt_trans hless) id
  · rename_i hnot
    refine h.elim id fun hwide => lt_of_le_lt ?_ hwide
    rw [hwidth.le_eq_not_lt hlength]
    simpa using hnot

/-- Of a round pocket the two answers are the same. -/
theorem circularPocket_answers {diameter : Float}
    (hfeature : op.feature = .circularPocket diameter) :
    (featureSkipReason? stock op).isSome = !op.isWellFormed := by
  simp only [featureSkipReason?, Operation.isWellFormed, hfeature]
  cases htool : Scalar.isPositive op.toolDiameter with
  | false => simp
  | true =>
    cases hfinite : Scalar.isFinite diameter with
    | false => simp
    | true =>
      rw [(isNumber_of_isPositive htool).le_eq_not_lt (isNumber_of_isFinite hfinite)]
      cases hzero : Scalar.le diameter Scalar.zero with
      | true => simp [lt_tool_of_le_zero htool hzero]
      | false => cases Scalar.lt diameter op.toolDiameter <;> simp

/-- Of a rectangular pocket they are the same where the sum of its extents is finite. -/
theorem rectangularPocket_answers (hfeature : op.feature = .rectangularPocket width length) :
    (featureSkipReason? stock op).isSome =
      (!op.isWellFormed || !Scalar.isFinite (width + length)) := by
  simp only [featureSkipReason?, Operation.isWellFormed, hfeature]
  cases htool : Scalar.isPositive op.toolDiameter with
  | false => simp
  | true =>
    cases hsum : Scalar.isFinite (width + length) with
    | false => simp
    | true =>
      obtain ⟨hwidth, hlength⟩ := isFinite_of_isFinite_add hsum
      have hw := isNumber_of_isFinite hwidth
      have hl := isNumber_of_isFinite hlength
      have hmin : IsNumber (Scalar.min width length) := Scalar.min_rec (P := IsNumber) hw hl
      rw [(isNumber_of_isPositive htool).le_eq_not_lt hmin]
      -- an extent that is not positive makes the cutter too wide
      have hnarrow : (Scalar.le width Scalar.zero || Scalar.le length Scalar.zero) = true →
          Scalar.lt (Scalar.min width length) op.toolDiameter = true := fun h =>
        min_lt_of_lt hw hl <|
          (Bool.or_eq_true_iff.mp h).imp (lt_tool_of_le_zero htool) (lt_tool_of_le_zero htool)
      cases hzero : Scalar.le width Scalar.zero || Scalar.le length Scalar.zero with
      | true => simp [hnarrow hzero, hwidth, hlength, hzero]
      | false =>
        cases Scalar.lt (Scalar.min width length) op.toolDiameter <;>
          simp [hwidth, hlength, hzero]

theorem featureSkipReason?_isSome (hstock : stock.isWellFormed = true)
    (hkind : op.kind ∈ [.drill, .circularPocket, .rectangularPocket, .faceMill]) :
    (featureSkipReason? stock op).isSome = (!op.isWellFormed || op.isVast) := by
  -- pockets are vast or not; the others have no sizes that could overflow
  cases hfeature : op.feature with
  | drill diameter =>
    simp only [featureSkipReason?, Operation.isVast, hfeature, Bool.or_false]
    cases op.isWellFormed <;> rfl
  | circularPocket diameter =>
    rw [circularPocket_answers hfeature]
    simp [Operation.isVast, hfeature]
  | rectangularPocket width length =>
    rw [rectangularPocket_answers hfeature]
    simp [Operation.isVast, hfeature]
  | faceMill =>
    simp only [featureSkipReason?, Operation.isVast, hfeature, hstock, Bool.or_false]
    cases op.isWellFormed <;> rfl
  | contour segments | unknown => simp [Operation.kind, hfeature, Feature.kind] at hkind

/-- What is asked of every operation before it is asked about its sizes. -/
structure Placed (op : Operation Float) : Prop where
  /-- The reference point and the depths are finite. -/
  coordinates : [op.x, op.y, op.zStart, op.zDepth].all Scalar.isFinite = true
  /-- So is the feed, which is positive. -/
  feedRate : isUsable op.feedRate = true
  /-- And so is the spindle speed. -/
  spindleSpeed : isUsable op.spindleSpeed = true

/-- Of an operation with a place in a stock, only its sizes are in question. -/
theorem Placed.skipReason?_eq (h : Placed op) (hstock : stock.isWellFormed = true) :
    skipReason? stock op = featureSkipReason? stock op := by
  have hheight : Scalar.isFinite stock.height = true := by
    simp only [Stock.isWellFormed, Bool.and_eq_true] at hstock
    exact hstock.1.1
  simp [skipReason?, hheight, h.coordinates, h.feedRate, h.spindleSpeed]

/-- The two answers of an operation with a place in a stock. -/
theorem skipReason?_isSome_iff (h : Placed op) (hstock : stock.isWellFormed = true)
    (hkind : op.kind ∈ [.drill, .circularPocket, .rectangularPocket, .faceMill]) :
    (skipReason? stock op).isSome = true ↔ op.isWellFormed = false ∨ op.isVast = true := by
  rw [h.skipReason?_eq hstock, featureSkipReason?_isSome hstock hkind]
  simp

end Answers

/-- **Ill-formed operations are skipped, and vast pockets.**  A hole, a pocket or a face with a
place in a well-formed stock is skipped exactly when it is ill-formed or a pocket whose extents have
no finite sum: its block, wherever it is compiled, and the block at its place in any program, leaves
it out just then. -/
theorem skips_ill_formed_and_vast_operations (settings : Settings Float) {stock : Stock Float}
    {op : Operation Float} (hstock : stock.isWellFormed = true) (hplaced : Placed op)
    (hkind : op.kind ∈ [.drill, .circularPocket, .rectangularPocket, .faceMill]) :
    (∀ carried index, (∃ body, block settings stock carried index op = .ok body ∧
      LeavesOut settings stock index op body) ↔ op.isWellFormed = false ∨ op.isVast = true) ∧
    ∀ (ops : List (Operation Float)) (program : List Line) (i : ℕ),
      compile settings stock ops = .ok program → ops[i]? = some op →
      ∃ bodies foot body, Divided settings stock ops program bodies foot ∧
        bodies[i]? = some body ∧
        (LeavesOut settings stock (i + 1) op body ↔
          op.isWellFormed = false ∨ op.isVast = true) := by
  -- for these kinds the reasons to skip are just these two
  have hanswers := skipReason?_isSome_iff hplaced hstock hkind
  have hknown : op.kind ≠ .unknown := by
    intro hunknown
    simp [hunknown] at hkind
  refine ⟨fun carried index => ⟨?_, fun h => ?_⟩, ?_⟩
  · rintro ⟨body, hblock, hleaves⟩
    exact hanswers.mp ((leavesOut_iff hknown hblock).mp hleaves)
  · exact exists_leavesOut hknown (hanswers.mpr h) settings carried index
  · intro ops program i hcompile hop
    obtain ⟨bodies, foot, before, body, hdivided, hbody, hblock⟩ :=
      exists_block_of_compile hcompile hop
    exact ⟨bodies, foot, body, hdivided, hbody, (leavesOut_iff hknown hblock).trans hanswers⟩

/-! ## Sample pockets -/

/-- A round pocket of which only the cutter, infinitely wide, is known. -/
def unmeasuredPocket : Operation Float :=
  { sampleHole 30 20 with toolDiameter := infinity false, feature := .circularPocket notNumber }

/-- The unmeasured pocket has a place and is ill-formed, so it is left out between two holes. -/
theorem skips_ill_formed_and_vast_operations_of_unmeasuredPocket :
    sampleStock.isWellFormed = true ∧ Placed unmeasuredPocket ∧
      unmeasuredPocket.kind ∈
        [OperationKind.drill, .circularPocket, .rectangularPocket, .faceMill] ∧
      ∃ program bodies foot body,
        compile sampleSettings sampleStock [sampleHole 10 20, unmeasuredPocket, sampleHole 50 28] =
          .ok program ∧
        Divided sampleSettings sampleStock [sampleHole 10 20, unmeasuredPocket, sampleHole 50 28]
          program bodies foot ∧
        bodies[1]? = some body ∧ LeavesOut sampleSettings sampleStock 2 unmeasuredPocket body := by
  -- the job is checked and compiled, and then the theorem is applied to its second operation
  have hstock : sampleStock.isWellFormed = true := by decide +kernel
  have hplaced : Placed unmeasuredPocket :=
    ⟨by decide +kernel, by decide +kernel, by decide +kernel⟩
  have hkind : unmeasuredPocket.kind ∈
      [OperationKind.drill, .circularPocket, .rectangularPocket, .faceMill] := by decide
  have hcompiled :
      (compile sampleSettings sampleStock
        [sampleHole 10 20, unmeasuredPocket, sampleHole 50 28]).toOption.any (fun _ => true) =
          true := by
    decide +kernel
  obtain ⟨program, hcompile, -⟩ := exists_of_any_eq_true hcompiled
  obtain ⟨bodies, foot, body, hdivided, hbody, hleaves⟩ :=
    (skips_ill_formed_and_vast_operations sampleSettings hstock hplaced hkind).2 _ program 1
      hcompile rfl
  have hformed : unmeasuredPocket.isWellFormed = false := by decide +kernel
  exact ⟨hstock, hplaced, hkind, program, bodies, foot, body, hcompile, hdivided, hbody,
    hleaves.mpr (.inl hformed)⟩

/-- A pocket as wide as its cutter, of which two side by side would have no finite width. -/
def vastPocket : Operation Float :=
  { sampleHole 10 20 with
    toolDiameter := 1e308, tool := .endMill, feature := .rectangularPocket 1e308 1e308 }

/-- **A vast pocket is skipped.**  It has a place in a well-formed stock and is well-formed itself,
and yet its block says that its extents are not positive. -/
theorem vast_pocket_is_skipped :
    sampleStock.isWellFormed = true ∧ Placed vastPocket ∧ vastPocket.isWellFormed = true ∧
      block sampleSettings sampleStock (start sampleSettings sampleStock) 1 vastPocket =
        .ok [.opening 1 .rectangularPocket, .skipped .pocketSize,
          retract sampleSettings sampleStock vastPocket] := by
  have hreason : skipReason? sampleStock vastPocket = some .pocketSize := by decide +kernel
  refine ⟨by decide +kernel, ⟨by decide +kernel, by decide +kernel, by decide +kernel⟩,
    by decide +kernel, ?_⟩
  rw [block_of_known (by decide), hreason]
  rfl

end Machining.Program
