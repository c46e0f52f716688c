import Machining.Program.Compile
import Machining.Proofs.Program.Machine

/-!
# The layout of a program

A compiled program falls into a header, one block for each operation, and a footer.  The blocks
can be told apart in the program, because each begins with the remark that opens it and no other
line of it is such a remark.

## How blocks depend on each other

`Chained` says how the blocks follow from each other: each is made from its operation and from
what the blocks before it leave behind.  What holds of all blocks of a program is shown by
induction on it.
-/

namespace Machining.Program

open Machining.Numeric Machining.Job

variable {α : Type} [Scalar α] {settings : Settings α} {stock : Stock α}

/-! ## Blocks one after another -/

/-- `Chained settings stock carried index ops bodies last`: the blocks of operations numbered from
`index` on are `bodies`, where `carried` is left over before them and `last` behind them. -/
inductive Chained (settings : Settings α) (stock : Stock α) :
    Carried α → Nat → List (Operation α) → List (List Line) → Carried α → Prop where
  /-- No operation has no block. -/
  | nil (carried : Carried α) (index : Nat) : Chained settings stock carried index [] [] carried
  /-- A block, and the blocks that follow from what it leaves behind. -/
  | cons {carried last : Carried α} {index : Nat} {op : Operation α} {ops : List (Operation α)}
      {body : List Line} {bodies : List (List Line)}
      (hbody : block settings stock carried index op = .ok body)
      (hrest : Chained settings stock (leaves settings stock carried op) (index + 1) ops bodies
        last) :
      Chained settings stock carried index (op :: ops) (body :: bodies) last

/-- Blocks that are compiled are chained. -/
theorem exists_chained_of_blocks {carried last : Carried α} {index : Nat}
    {ops : List (Operation α)} {lines : List Line}
    (h : blocks settings stock carried index ops = .ok (lines, last)) :
    ∃ bodies, Chained settings stock carried index ops bodies last ∧ lines = bodies.flatten := by
  induction ops generalizing carried index lines with
  | nil =>
    cases h
    exact ⟨[], .nil _ _, rfl⟩
  | cons op ops ih =>
    rw [blocks] at h
    cases hbody : block settings stock carried index op with
    | error error =>
      rw [hbody] at h
      cases h
    | ok body =>
      -- the later blocks are compiled with what this one leaves behind
      cases hrest : blocks settings stock (leaves settings stock carried op) (index + 1) ops with
      | error error =>
        rw [hbody, hrest] at h
        cases h
      | ok rest =>
        rw [hbody, hrest] at h
        cases h
        obtain ⟨bodies, hchained, hlines⟩ := ih hrest
        refine ⟨body :: bodies, .cons hbody hchained, ?_⟩
        rw [hlines]
        rfl

/-! ## What a block holds -/

/-- The line that takes the tool to the safe plane of an operation. -/
def retract (settings : Settings α) (stock : Stock α) (op : Operation α) : Line :=
  .move (.rapidZ (settings.coordinate (safeZ settings stock op))) none

/-- Whether an operation is machined: it is known, and nothing keeps it from being cut. -/
def isMachined (stock : Stock α) (op : Operation α) : Bool :=
  op.kind ≠ .unknown && (skipReason? stock op).isNone

theorem block_of_unknown {op : Operation α} (hkind : op.kind = .unknown)
    (carried : Carried α) (index : Nat) :
    block settings stock carried index op = .ok [.opening index op.kind, .nothingToMachine] := by
  cases hfeature : op.feature with
  | unknown =>
    rw [block, hfeature]
  | _ => simp [Operation.kind, hfeature, Feature.kind] at hkind

/-- The block of a known operation, of which the number and the lines for the tool depend on the
place. -/
theorem block_of_known {op : Operation α} (hkind : op.kind ≠ .unknown)
    (carried : Carried α) (index : Nat) :
    block settings stock carried index op =
      match skipReason? stock op with
      | some reason => .ok [.opening index op.kind, .skipped reason, retract settings stock op]
      | none =>
        (plan settings stock op (safeZ settings stock op)).map fun moves =>
          Line.opening index op.kind :: retract settings stock op ::
            toolLines settings op (Scalar.nearest op.spindleSpeed) carried.spindle ++
              withFeed (settings.feed op.feedRate) moves ++ [retract settings stock op] := by
  cases hfeature : op.feature with
  | unknown => exact absurd (by rw [Operation.kind, hfeature]; rfl) hkind
  | _ =>
    rw [block, hfeature]
    rfl

/-- The three forms of a block. -/
inductive BlockForm (settings : Settings α) (stock : Stock α) (carried : Carried α) (index : Nat)
    (op : Operation α) : List Line → Prop where
  /-- An unknown operation leaves a remark. -/
  | unknown (hkind : op.kind = .unknown) :
      BlockForm settings stock carried index op [.opening index op.kind, .nothingToMachine]
  /-- A skipped operation leaves a remark and takes the tool to the safe plane. -/
  | skipped {reason : SkipReason} (hkind : op.kind ≠ .unknown)
      (hreason : skipReason? stock op = some reason) :
      BlockForm settings stock carried index op
        [.opening index op.kind, .skipped reason, retract settings stock op]
  /-- A machined operation begins and ends at the safe plane. -/
  | machined {moves : List Move} (hkind : op.kind ≠ .unknown)
      (hreason : skipReason? stock op = none)
      (hplan : plan settings stock op (safeZ settings stock op) = .ok moves) :
      BlockForm settings stock carried index op
        (.opening index op.kind :: retract settings stock op ::
          (toolLines settings op (Scalar.nearest op.spindleSpeed) carried.spindle ++
            (withFeed (settings.feed op.feedRate) moves ++ [retract settings stock op])))

/-- Every block has one of the forms. -/
theorem blockForm_of_block {carried : Carried α} {index : Nat} {op : Operation α}
    {body : List Line} (h : block settings stock carried index op = .ok body) :
    BlockForm settings stock carried index op body := by
  -- the three ways that a block goes, in the order in which they are decided
  by_cases hkind : op.kind = .unknown
  · rw [block_of_unknown hkind] at h
    cases h
    exact .unknown hkind
  · rw [block_of_known hkind] at h
    cases hreason : skipReason? stock op with
    | some reason =>
      rw [hreason] at h
      cases h
      exact .skipped hkind hreason
    | none =>
      rw [hreason] at h
      cases hplan : plan settings stock op (safeZ settings stock op) with
      | error error =>
        rw [hplan] at h
        cases h
      | ok moves =>
        rw [hplan] at h
        cases h
        simp only [List.cons_append, List.append_assoc]
        exact .machined hkind hreason hplan

/-! ## What a block leaves behind -/

theorem leaves_of_unknown {carried : Carried α} {op : Operation α} (hkind : op.kind = .unknown) :
    leaves settings stock carried op = carried := by
  cases hfeature : op.feature with
  | unknown => rw [leaves, hfeature]
  | _ => simp [Operation.kind, hfeature, Feature.kind] at hkind

theorem leaves_of_skipped {carried : Carried α} {op : Operation α} {reason : SkipReason}
    (hkind : op.kind ≠ .unknown) (hreason : skipReason? stock op = some reason) :
    leaves settings stock carried op =
      { carried with topSafeZ := Scalar.max carried.topSafeZ (safeZ settings stock op) } := by
  cases hfeature : op.feature with
  | unknown => exact absurd (by rw [Operation.kind, hfeature]; rfl) hkind
  | _ => rw [leaves, hfeature, hreason]

theorem leaves_of_machined {carried : Carried α} {op : Operation α} (hkind : op.kind ≠ .unknown)
    (hreason : skipReason? stock op = none) :
    leaves settings stock carried op =
      ⟨some (op.tool, Scalar.nearest op.spindleSpeed),
        Scalar.max carried.topSafeZ (safeZ settings stock op)⟩ := by
  cases hfeature : op.feature with
  | unknown => exact absurd (by rw [Operation.kind, hfeature]; rfl) hkind
  | _ => rw [leaves, hfeature, hreason]

/-- Only a machined operation changes the tool and the speed. -/
theorem spindle_leaves (settings : Settings α) (stock : Stock α) (carried : Carried α)
    (op : Operation α) :
    (leaves settings stock carried op).spindle =
      if isMachined stock op then some (op.tool, Scalar.nearest op.spindleSpeed)
      else carried.spindle := by
  by_cases hkind : op.kind = .unknown
  · rw [leaves_of_unknown hkind]
    simp [isMachined, hkind]
  · cases hreason : skipReason? stock op with
    | some reason =>
      rw [leaves_of_skipped hkind hreason]
      simp [isMachined, hreason]
    | none =>
      rw [leaves_of_machined hkind hreason]
      simp [isMachined, hkind, hreason]

/-! ## The lines of a block -/

/-- Whether a line can stand inside a block, behind the remark that opens it. -/
def Line.isInner : Line → Bool
  | nothingToMachine | skipped _ | toolRemark .. | selectTool _ | changeTool | spindleOn _
  | spindleOff | coolantOn | move .. => true
  | _ => false

theorem ne_workOffset_of_isInner {line : Line} (h : line.isInner = true) (name : String) :
    line ≠ .workOffset name := by
  rintro rfl
  cases h

/-- The lines of moves are these moves, in order. -/
theorem map_step?_withFeed (feed : Fixed) (moves : List Move) :
    (withFeed feed moves).map Line.step? = moves.map some := by
  induction moves with
  | nil => rfl
  | cons step rest ih =>
    rw [withFeed]
    -- behind the first cutting move, which has the feed, no move has one
    split
    · rw [List.map_cons, List.map_map]
      rfl
    · rw [List.map_cons, List.map_cons, ih]
      rfl

theorem exists_move_of_mem_withFeed {feed : Fixed} {moves : List Move} {line : Line}
    (h : line ∈ withFeed feed moves) : ∃ step ∈ moves, ∃ word, line = .move step word := by
  have hmem : line.step? ∈ moves.map some := by
    rw [← map_step?_withFeed feed moves]
    exact List.mem_map_of_mem h
  obtain ⟨step, hstep, hline⟩ := List.mem_map.mp hmem
  exact ⟨step, hstep, eq_move_of_step? hline.symm⟩

/-- No move has another feed than the one of its block. -/
theorem eq_feed_of_mem_withFeed {feed : Fixed} {moves : List Move} {step : Move}
    {word : Option Fixed} (h : .move step word ∈ withFeed feed moves) : ∀ x ∈ word, x = feed := by
  induction moves with
  | nil => cases h
  | cons first rest ih =>
    rw [withFeed] at h
    -- the first cut has the feed, and every move behind it has none
    split at h
    · rcases List.mem_cons.mp h with hfirst | hrest
      · obtain ⟨-, rfl⟩ := Line.move.inj hfirst
        exact fun x hx => (Option.some.inj hx).symm
      · obtain ⟨other, -, hother⟩ := List.mem_map.mp hrest
        obtain ⟨-, rfl⟩ := Line.move.inj hother
        exact fun x hx => nomatch hx
    · rcases List.mem_cons.mp h with hfirst | hrest
      · obtain ⟨-, rfl⟩ := Line.move.inj hfirst
        exact fun x hx => nomatch hx
      · exact ih hrest

/-- The lines of a tool change stand inside a block and move nothing. -/
theorem inner_of_mem_toolLines {op : Operation α} {speed : Int} {spindle : Option (Tool × Int)}
    {line : Line} (h : line ∈ toolLines settings op speed spindle) :
    line.isInner = true ∧ line.step? = none := by
  have hload : ∀ line ∈ toolLines.load settings op speed,
      line.isInner = true ∧ line.step? = none := by
    rw [toolLines.load]
    cases settings.coolant <;> simp [Line.isInner, Line.step?]
  cases spindle with
  | none => exact hload line h
  | some loaded =>
    obtain ⟨tool, current⟩ := loaded
    rw [toolLines] at h
    -- another tool, another speed, or nothing new
    split at h
    · rcases List.mem_cons.mp h with hstop | hrest
      · rw [hstop]
        exact ⟨rfl, rfl⟩
      · exact hload line hrest
    · split at h
      · rw [List.mem_singleton.mp h]
        exact ⟨rfl, rfl⟩
      · cases h

/-- A block begins with the remark that opens it. -/
theorem BlockForm.inner {carried : Carried α} {index : Nat} {op : Operation α} {body : List Line}
    (h : BlockForm settings stock carried index op body) :
    ∃ rest, body = .opening index op.kind :: rest ∧ ∀ line ∈ rest, line.isInner = true := by
  cases h with
  | unknown hkind =>
    refine ⟨_, rfl, ?_⟩
    simp [Line.isInner]
  | skipped hkind hreason =>
    refine ⟨_, rfl, ?_⟩
    simp [Line.isInner, retract]
  | machined hkind hreason hplan =>
    refine ⟨_, rfl, ?_⟩
    -- a machined operation: the retract, the tool, the moves and the retract once more
    intro line hmem
    rcases List.mem_cons.mp hmem with rfl | hmem
    · rfl
    · rcases List.mem_append.mp hmem with htool | hmem
      · exact (inner_of_mem_toolLines htool).1
      · rcases List.mem_append.mp hmem with hmove | hretract
        · obtain ⟨step, _, word, rfl⟩ := exists_move_of_mem_withFeed hmove
          rfl
        · rw [List.mem_singleton.mp hretract]
          rfl

/-! ## The blocks in the program -/

/-- `Divided settings stock ops program bodies foot`: the program of the operations is the header,
a block of `bodies` for each operation, and the footer `foot` behind its remark.  Each block
begins with the remark that opens it, and the lines behind it stand inside a block. -/
structure Divided (settings : Settings α) (stock : Stock α) (ops : List (Operation α))
    (program : List Line) (bodies : List (List Line)) (foot : List Line) : Prop where
  program_eq :
    program = header settings stock ops.length ++ bodies.flatten ++ .closing :: foot
  length_eq : bodies.length = ops.length
  body_eq : ∀ (i : Nat) (op : Operation α) (body : List Line), ops[i]? = some op →
    bodies[i]? = some body →
      ∃ rest, body = .opening (i + 1) op.kind :: rest ∧ ∀ line ∈ rest, line.isInner = true

namespace Chained

variable {carried last : Carried α} {index : Nat} {ops : List (Operation α)}
  {bodies : List (List Line)}

theorem length_eq (h : Chained settings stock carried index ops bodies last) :
    bodies.length = ops.length := by
  induction h with
  | nil => rfl
  | cons _ _ ih => rw [List.length_cons, List.length_cons, ih]

theorem body_eq (h : Chained settings stock carried index ops bodies last) :
    ∀ (i : Nat) (op : Operation α) (body : List Line), ops[i]? = some op →
      bodies[i]? = some body →
        ∃ rest, body = .opening (index + i) op.kind :: rest ∧
          ∀ line ∈ rest, line.isInner = true := by
  induction h with
  | nil =>
    intro i op body hop
    cases hop
  | cons hbody _ ih =>
    intro i op body hop hnth
    cases i with
    -- the first block, and those behind it, whose numbers begin one later
    | zero =>
      cases hop
      cases hnth
      exact (blockForm_of_block hbody).inner
    | succ i =>
      obtain ⟨rest, hrest⟩ := ih i op body hop hnth
      exact ⟨rest, by rw [← Nat.add_assoc, Nat.add_right_comm]; exact hrest⟩

end Chained

/-- A compiled program is divided into the blocks of its operations. -/
theorem exists_divided_of_compile {ops : List (Operation α)} {program : List Line}
    (h : compile settings stock ops = .ok program) :
    ∃ bodies last, Chained settings stock (start settings stock) 1 ops bodies last ∧
      Divided settings stock ops program bodies (footer settings last).tail := by
  rw [compile] at h
  cases hblocks : blocks settings stock (start settings stock) 1 ops with
  | error error =>
    rw [hblocks] at h
    cases h
  | ok made =>
    obtain ⟨lines, last⟩ := made
    rw [hblocks] at h
    cases h
    -- the lines between header and footer are those of the blocks, one behind the other
    obtain ⟨bodies, hchained, rfl⟩ := exists_chained_of_blocks hblocks
    refine ⟨bodies, last, hchained, rfl, hchained.length_eq, ?_⟩
    intro i op body hop hnth
    rw [Nat.add_comm]
    exact hchained.body_eq i op body hop hnth

/-! ## A sample job -/

/-- Plain settings with coolant. -/
def sampleSettings : Settings Float := ⟨"SAMPLE", "G54", 3, 1, 5, 1, 0.5, 0.3, true⟩

/-- A block of metal. -/
def sampleStock : Stock Float := ⟨.rectangular, 100, 60, 20, 0, "Aluminum"⟩

/-- A hole whose top is at this height. -/
def sampleHole (x zStart : Float) : Operation Float :=
  ⟨x, 30, zStart, 10, 200, 1500, 8, .drill, 0, .drill 8⟩

/-- Two holes with an unknown operation between them; the second hole begins above the stock. -/
def sampleJob : List (Operation Float) :=
  [sampleHole 10 20, { sampleHole 30 20 with feature := .unknown }, sampleHole 50 28]

theorem exists_compile_sampleJob :
    ∃ program, compile sampleSettings sampleStock sampleJob = .ok program := by
  have hok : (compile sampleSettings sampleStock sampleJob).isOk = true := by decide +kernel
  cases hcompile : compile sampleSettings sampleStock sampleJob with
  | ok program => exact ⟨program, rfl⟩
  | error error =>
    rw [hcompile] at hok
    cases hok

end Machining.Program
