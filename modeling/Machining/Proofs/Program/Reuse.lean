import Machining.Program.Series
import Machining.Proofs.Program.Layout

/-!
# A compiler that has been used is as good as new

A compiler keeps registers, every block of a job changes them, and a job that breaks off leaves them
as they stand in the middle of a block.  Nothing of this reaches the next job: whatever jobs a
compiler has served, the programs that it makes, and the failures that it reports, are those of a
compiler that has not been used.

## How it is shown

* `registers` are the registers in the middle of a job, made from what the blocks so far leave
  behind.
* `exists_addBlock_registers` is the step: on such registers a block comes out as `block` says, and
  such registers stay behind, also when it breaks off.  `exists_addBlocks_registers` carries it over
  all blocks of a job.
* `next_fst` says that a job comes out as `output` says, and `settings_next` that a job leaves the
  settings alone.
-/

namespace Machining.Program.Compiler

open Machining.Numeric Machining.Job

variable {α : Type} [Scalar α]

/-- The registers in the middle of a job: the stock is that of the job, and the tool, the speed and
the highest safe plane are what the blocks so far leave behind.  Nothing is said about the feed. -/
def registers (settings : Settings α) (stock : Stock α) (carried : Carried α)
    (feed : Option Fixed) : Compiler α where
  settings := settings
  stock := some stock
  tool := carried.spindle.map (·.1)
  speed := carried.spindle.map (·.2)
  feed := feed
  top := stockTop stock
  topSafeZ := carried.topSafeZ

variable {settings : Settings α} {stock : Stock α} {carried : Carried α} {feed : Option Fixed}

@[simp] theorem settings_registers :
    (registers settings stock carried feed).settings = settings := rfl

@[simp] theorem carried_registers : (registers settings stock carried feed).carried = carried := by
  obtain ⟨_ | ⟨tool, speed⟩, top⟩ := carried <;> rfl

@[simp] theorem plane_registers (op : Operation α) :
    (registers settings stock carried feed).plane op = safeZ settings stock op := rfl

@[simp] theorem reach_registers (plane : α) :
    (registers settings stock carried feed).reach plane =
      registers settings stock
        { carried with topSafeZ := Scalar.max carried.topSafeZ plane } feed := rfl

@[simp] theorem skipReason?_registers (op : Operation α) :
    (registers settings stock carried feed).skipReason? op = Program.skipReason? stock op := rfl

@[simp] theorem moves_registers (op : Operation α) (plane : α) :
    (registers settings stock carried feed).moves op plane = plan settings stock op plane := rfl

/-- Whatever a compiler was used for, it begins a job with the same registers. -/
theorem ready_eq_registers (c : Compiler α) (stock : Stock α) :
    c.ready stock = registers c.settings stock (start c.settings stock) none := rfl

/-! ## One block -/

/-- Loading a tool writes the lines that the tool and the speed so far ask for. -/
theorem load_registers (op : Operation α) :
    (registers settings stock carried feed).load op =
      (toolLines settings op (Scalar.nearest op.spindleSpeed) carried.spindle,
        registers settings stock
          { carried with spindle := some (op.tool, Scalar.nearest op.spindleSpeed) } feed) := by
  obtain ⟨_ | ⟨tool, speed⟩, top⟩ := carried
  · simp [load, registers, toolLines]
  · by_cases htool : op.tool = tool
    · by_cases hspeed : Scalar.nearest op.spindleSpeed = speed
      · simp [load, registers, toolLines, htool, hspeed]
      · simp [load, registers, toolLines, htool, hspeed, Ne.symm hspeed]
    · simp [load, registers, toolLines, htool, Ne.symm htool]

omit [Scalar α] in
/-- While the feed of the machine is right, no move sets it. -/
theorem write_of_feed_eq {c : Compiler α} {word : Fixed} (h : c.feed = some word)
    (moves : List Move) : c.write word moves = (moves.map (Line.move · none), c) := by
  induction moves with
  | nil => rfl
  | cons step rest ih =>
    have hsame : { c with feed := some word } = c := by rw [← h]
    by_cases hcut : step.isCut = true
    · simp [write, hcut, h, hsame, ih]
    · simp [write, hcut, ih]

/-- Where the feed is not set, the first cutting move sets it. -/
theorem exists_write_registers (settings : Settings α) (stock : Stock α) (carried : Carried α)
    (word : Fixed) (moves : List Move) :
    ∃ feed, (registers settings stock carried none).write word moves =
      (withFeed word moves, registers settings stock carried feed) := by
  induction moves with
  | nil => exact ⟨none, rfl⟩
  | cons step rest ih =>
    by_cases hcut : step.isCut = true
    · refine ⟨some word, ?_⟩
      have hset : (registers settings stock carried (some word)).feed = some word := rfl
      -- from here on the feed is right, and no later move sets it
      rw [write, withFeed, if_pos hcut, if_pos hcut]
      show (Line.move step (some word) :: ((registers settings stock carried (some word)).write word
        rest).1, ((registers settings stock carried (some word)).write word rest).2) = _
      rw [write_of_feed_eq hset]
    · obtain ⟨feed, hrest⟩ := ih
      refine ⟨feed, ?_⟩
      rw [write, withFeed, if_neg hcut, if_neg hcut, hrest]

/-- An operation that cannot be machined only takes the tool to the safe plane. -/
theorem machine_of_skipped {op : Operation α} {reason : SkipReason}
    (h : Program.skipReason? stock op = some reason) :
    (registers settings stock carried feed).machine op =
      (.ok [.skipped reason, retract settings stock op],
        registers settings stock
          { carried with topSafeZ := Scalar.max carried.topSafeZ (safeZ settings stock op) }
          feed) := by
  simp only [machine, plane_registers, reach_registers, skipReason?_registers, h]
  rfl

/-- An operation that can be machined loads its tool, also when its moves cannot be computed. -/
theorem exists_machine_of_machined (settings : Settings α) (carried : Carried α)
    {op : Operation α} (h : Program.skipReason? stock op = none) :
    ∃ feed, (registers settings stock carried none).machine op =
      ((plan settings stock op (safeZ settings stock op)).map fun moves =>
          retract settings stock op ::
            toolLines settings op (Scalar.nearest op.spindleSpeed) carried.spindle ++
              withFeed (settings.feed op.feedRate) moves ++ [retract settings stock op],
        registers settings stock
          ⟨some (op.tool, Scalar.nearest op.spindleSpeed),
            Scalar.max carried.topSafeZ (safeZ settings stock op)⟩ feed) := by
  simp only [machine, plane_registers, reach_registers, skipReason?_registers, h, load_registers,
    moves_registers]
  cases plan settings stock op (safeZ settings stock op) with
  | error error => exact ⟨none, rfl⟩
  | ok moves =>
    obtain ⟨feed, hwrite⟩ := exists_write_registers settings stock
      ⟨some (op.tool, Scalar.nearest op.spindleSpeed),
        Scalar.max carried.topSafeZ (safeZ settings stock op)⟩ (settings.feed op.feedRate) moves
    refine ⟨feed, ?_⟩
    simp only [settings_registers, hwrite]
    rfl

theorem addBlock_of_unknown (c : Compiler α) (index : Nat) {op : Operation α}
    (hkind : op.kind = .unknown) :
    c.addBlock index op =
      (.ok [.opening index op.kind, .nothingToMachine], { c with feed := none }) := by
  cases hfeature : op.feature with
  | unknown => rw [addBlock, hfeature]
  | _ => simp [Operation.kind, hfeature, Feature.kind] at hkind

theorem addBlock_of_known (c : Compiler α) (index : Nat) {op : Operation α}
    (hkind : op.kind ≠ .unknown) :
    c.addBlock index op =
      (({ c with feed := none }.machine op).1.map (Line.opening index op.kind :: ·),
        ({ c with feed := none }.machine op).2) := by
  cases hfeature : op.feature with
  | unknown => exact absurd (by rw [Operation.kind, hfeature]; rfl) hkind
  | _ => rw [addBlock, hfeature]

/-- A block comes out as `block` says, and leaves behind what `leaves` says: also when its moves
cannot be computed. -/
theorem exists_addBlock_registers (settings : Settings α) (stock : Stock α) (carried : Carried α)
    (feed : Option Fixed) (index : Nat) (op : Operation α) :
    ∃ feed', (registers settings stock carried feed).addBlock index op =
      (block settings stock carried index op,
        registers settings stock (leaves settings stock carried op) feed') := by
  -- the registers are those that a fresh compiler would carry, up to the feed
  by_cases hkind : op.kind = .unknown
  · refine ⟨none, ?_⟩
    rw [addBlock_of_unknown _ _ hkind, block_of_unknown hkind, leaves_of_unknown hkind]
    rfl
  · have hclosed : { registers settings stock carried feed with feed := none } =
        registers settings stock carried none := rfl
    rw [addBlock_of_known _ _ hkind, block_of_known hkind, hclosed]
    cases hreason : Program.skipReason? stock op with
    | some reason =>
      refine ⟨none, ?_⟩
      rw [machine_of_skipped hreason, leaves_of_skipped hkind hreason]
      rfl
    | none =>
      obtain ⟨last, hmachine⟩ := exists_machine_of_machined settings carried hreason
      refine ⟨last, ?_⟩
      rw [hmachine, leaves_of_machined hkind hreason]
      cases plan settings stock op (safeZ settings stock op) <;> rfl

/-! ## A job -/

/-- The blocks of a job come out as `blocks` says.  Behind the last one, or where the job breaks
off, the registers are again those in the middle of a job. -/
theorem exists_addBlocks_registers (settings : Settings α) (stock : Stock α) (carried : Carried α)
    (feed : Option Fixed) (index : Nat) (ops : List (Operation α)) :
    ∃ last feed', (registers settings stock carried feed).addBlocks index ops =
        ((blocks settings stock carried index ops).map Prod.fst,
          registers settings stock last feed') ∧
      ∀ lines left, blocks settings stock carried index ops = .ok (lines, left) → left = last := by
  induction ops generalizing carried feed index with
  | nil =>
    refine ⟨carried, feed, rfl, ?_⟩
    rintro lines left h
    cases h
    rfl
  | cons op ops ih =>
    obtain ⟨feed', hblock⟩ := exists_addBlock_registers settings stock carried feed index op
    rw [addBlocks, hblock, blocks]
    cases hbody : block settings stock carried index op with
    | error error =>
      -- the block that breaks off has been counted: its tool is loaded
      refine ⟨leaves settings stock carried op, feed', rfl, ?_⟩
      rintro lines left ⟨⟩
    | ok body =>
      obtain ⟨last, feed'', hrest, hleft⟩ := ih (leaves settings stock carried op) feed' (index + 1)
      refine ⟨last, feed'', ?_, ?_⟩
      · simp only [hrest]
        cases blocks settings stock (leaves settings stock carried op) (index + 1) ops <;> rfl
      · rintro lines left h
        generalize hmade :
          blocks settings stock (leaves settings stock carried op) (index + 1) ops = made at h
        cases made with
        | error error => cases h
        | ok made =>
          cases h
          exact hleft _ _ hmade

/-- A compiler makes of a job what `output` makes of it, whatever it was used for before. -/
theorem next_fst (c : Compiler α) (given : Assignment α) :
    (c.next given).1 =
      output c.settings given.stock given.operations given.explanation := by
  obtain ⟨last, feed, hblocks, hleft⟩ := exists_addBlocks_registers c.settings given.stock
    (start c.settings given.stock) none 1 given.operations
  rw [next, ready_eq_registers, hblocks, output, compile]
  cases hmade : blocks c.settings given.stock (start c.settings given.stock) 1 given.operations with
  | error error => rfl
  | ok made =>
    obtain rfl := hleft _ _ hmade
    simp only [carried_registers]
    rfl

/-- A job leaves the settings of its compiler alone, also one that breaks off. -/
@[simp] theorem settings_next (c : Compiler α) (given : Assignment α) :
    (c.next given).2.settings = c.settings := by
  obtain ⟨last, feed, hblocks, -⟩ := exists_addBlocks_registers c.settings given.stock
    (start c.settings given.stock) none 1 given.operations
  rw [next, ready_eq_registers, hblocks]
  rfl

/-- **Jobs leave no trace in a compiler.**  Jobs that are compiled one after another on one compiler
come out as on compilers that have not been used, their failures included: it does not matter which
jobs came before, nor whether one of them broke off. -/
theorem series_leaves_no_trace (c : Compiler α) (jobs : List (Assignment α)) :
    c.series jobs = jobs.map fun given => ((fresh c.settings).next given).1 := by
  induction jobs generalizing c with
  | nil => rfl
  | cons given rest ih =>
    have hfirst : (c.next given).1 = ((fresh c.settings).next given).1 := by
      rw [next_fst, next_fst]
      rfl
    show (c.next given).1 :: (c.next given).2.series rest = _
    rw [hfirst, ih, settings_next, List.map_cons]

/-- A hole that breaks off, because it takes too many pecks, leaves its tool loaded. -/
example :
    let hole := { sampleHole 10 20 with stepDown := Float.ofBits 1 }
    let (result, after) := (fresh sampleSettings).next ⟨sampleStock, [hole], ""⟩
    result.toOption.isNone = true ∧ after.tool = some .drill := by
  decide +kernel

end Machining.Program.Compiler
