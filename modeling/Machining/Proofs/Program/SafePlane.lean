import Machining.Proofs.Numeric.FloatOrder
import Machining.Proofs.Program.Layout
import Machining.Proofs.Program.Plans

/-!
# The tool crosses the part at a safe height only

A rapid move in the plane at the depth of a cut would drive the tool through the part.  This
module shows that a program never does that: the tool moves rapidly in the plane, and is
exchanged, only while it is at the safe plane of the operation at hand, and it is taken back there
at the end of every block that moves it.

## How it is shown

Every plan begins with its only rapid move in the plane (`arrivesOnce_plan`), whatever is cut.  So
in the block of an operation this move and the tool change stand behind the first retract and in
front of the first descent (`BlockForm.safe`).  Between two blocks the height is that of the last
operation that is known (`Chained.safe`), and what the blocks leave behind for the footer is the
maximum of all safe planes (`Chained.topSafeZ_eq`).
-/

namespace Machining.Program

open Machining.Numeric Machining.Job

variable {α : Type} [Scalar α] {settings : Settings α} {stock : Stock α}

/-! ## Plans -/

/-- A plan that begins with a rapid move in the plane and has no other one, or that has no move. -/
def ArrivesOnce (moves : List Move) : Prop :=
  moves = [] ∨ ∃ place rest, moves = .rapidTo place :: rest ∧
    ∀ step ∈ rest, step.isRapidInPlane = false

theorem Move.isRapidInPlane_of_isLevel {step : Move} (h : step.isLevel = true) :
    step.isRapidInPlane = false := by
  cases step with
  | rapidTo place => cases h
  | _ => rfl

/-- Pecks go up and down only. -/
theorem pecks_plain (settings : Settings α) (plane : α) (layers : List α) :
    ∀ step ∈ drillPlan.pecks settings plane layers, step.isRapidInPlane = false := by
  induction layers with
  | nil => exact List.forall_mem_nil _
  | cons z rest ih =>
    cases rest with
    | nil => simp [drillPlan.pecks, Move.isRapidInPlane]
    | cons next rest =>
      rw [pecks_cons _ _ (List.cons_ne_nil next rest)]
      refine List.forall_mem_cons.mpr ⟨rfl, List.forall_mem_append.mpr ⟨?_, ih⟩⟩
      split <;> simp [Move.isRapidInPlane]

/-- On every pass the tool goes down and along. -/
theorem layers_plain (settings : Settings α) {cuts : List Move}
    (hcuts : ∀ step ∈ cuts, step.isLevel = true) (layers : List α) :
    ∀ step ∈ layers.flatMap fun z => Move.cutZ (settings.coordinate z) :: cuts,
      step.isRapidInPlane = false := by
  intro step hmem
  obtain ⟨z, _, hstep⟩ := List.mem_flatMap.mp hmem
  rcases List.mem_cons.mp hstep with rfl | hcut
  · rfl
  · exact Move.isRapidInPlane_of_isLevel (hcuts step hcut)

/-- Every plan begins with its only rapid move in the plane, if it has any move. -/
theorem arrivesOnce_plan {op : Operation α} {plane : α} {moves : List Move}
    (h : plan settings stock op plane = .ok moves) : ArrivesOnce moves := by
  by_cases hkind : op.kind = .unknown
  · cases hfeature : op.feature with
    | unknown =>
      rw [plan, hfeature] at h
      cases h
      exact Or.inl rfl
    | _ => simp [Operation.kind, hfeature, Feature.kind] at hkind
  · cases planForm_of_plan hkind h with
    | pecked place => exact Or.inr ⟨place, _, rfl, pecks_plain settings plane _⟩
    | layered place _ _ hcuts => exact Or.inr ⟨place, _, rfl, layers_plain settings hcuts _⟩

/-! ## Heights -/

theorem stockTop_of_isFinite (h : Scalar.isFinite stock.height = true) :
    stockTop stock = stock.height := if_pos h

/-- Where the numbers are finite, the safe plane is the clearance above the operation and the
stock. -/
theorem safeZ_of_isFinite {op : Operation α} (hheight : Scalar.isFinite stock.height = true)
    (hstart : Scalar.isFinite op.zStart = true) :
    safeZ settings stock op = Scalar.max op.zStart stock.height + settings.safeClearance := by
  rw [safeZ, stockTop_of_isFinite hheight, if_pos hstart]

/-- The printed height of the safe plane of an operation. -/
def safePlane (settings : Settings α) (stock : Stock α) (op : Operation α) : String :=
  (settings.coordinate (safeZ settings stock op)).text

/-- A rapid move in the plane and a tool change happen at a height and do not leave it. -/
def StaysAt (plane : String) (m : Machine) (line : Line) : Prop :=
  isRapidInPlane line.text = true ∨ isToolChange line.text = true →
    m.z = some plane ∧ (m.read line.text).z = some plane

private theorem staysAt_of_plain {plane : String} {m : Machine} {line : Line}
    (hrapid : isRapidInPlane line.text = false) (hchange : isToolChange line.text = false) :
    StaysAt plane m line := by
  rintro (h | h)
  · rw [hrapid] at h
    cases h
  · rw [hchange] at h
    cases h

private theorem staysAt_move {plane : String} {m : Machine} {step : Move}
    (h : step.isRapidInPlane = false) (feed : Option Fixed) :
    StaysAt plane m (.move step feed) := by
  have hoffset (name : String) : Line.move step feed ≠ .workOffset name := by simp
  apply staysAt_of_plain
  · rw [isRapidInPlane_text hoffset]
    exact h
  · rw [isToolChange_text hoffset]
    simp

/-- A line without a move keeps the height. -/
private theorem read_z_of_inner {line : Line} (m : Machine) (hinner : line.isInner = true)
    (hstep : line.step? = none) : (m.read line.text).z = m.z := by
  cases line with
  | move step feed => cases hstep
  | nothingToMachine | skipped _ | toolRemark _ _ | selectTool _ | changeTool | spindleOn _
  | spindleOff | coolantOn => simp
  | _ => cases hinner

/-- While the tool is changed, the height stays. -/
theorem toolLines_stay {plane : String} {m : Machine} (h : m.z = some plane)
    (op : Operation α) (speed : Int) (spindle : Option (Tool × Int)) :
    m.Always (StaysAt plane) (toolLines settings op speed spindle) ∧
      (m.execute (toolLines settings op speed spindle)).z = some plane := by
  have hkept : ∀ (m : Machine), ∀ line ∈ toolLines settings op speed spindle, m.z = some plane →
      (m.read line.text).z = some plane := by
    intro m line hmem hz
    obtain ⟨hinner, hstep⟩ := inner_of_mem_toolLines hmem
    rw [read_z_of_inner m hinner hstep]
    exact hz
  obtain ⟨halways, hlast⟩ := Machine.always_of_invariant h hkept
  exact ⟨halways.mono fun m line _ hz _ => hz, hlast⟩

/-- A plan that arrives once does so at the height where it starts. -/
private theorem withFeed_stay {plane : String} {m : Machine} (h : m.z = some plane) (feed : Fixed)
    {moves : List Move} (harrives : ArrivesOnce moves) :
    m.Always (StaysAt plane) (withFeed feed moves) := by
  rcases harrives with rfl | ⟨place, rest, rfl, hrest⟩
  · trivial
  · rw [withFeed, if_neg (by simp [Move.isCut]), Machine.always_cons]
    -- the first move is at the height of the beginning, and no other one is of the kind
    refine ⟨?_, Machine.always_of_forall _ ?_⟩
    · intro _
      refine ⟨h, ?_⟩
      rw [Machine.read_move]
      exact h
    · intro m line hmem
      obtain ⟨step, hstep, word, rfl⟩ := exists_move_of_mem_withFeed hmem
      exact staysAt_move (hrest step hstep) word

/-! ## Blocks -/

theorem read_retract_z (m : Machine) (settings : Settings α) (stock : Stock α)
    (op : Operation α) :
    (m.read (retract settings stock op).text).z = some (safePlane settings stock op) := by
  rw [retract, Machine.read_move]
  rfl

private theorem staysAt_opening {plane : String} {m : Machine} (index : Nat)
    (kind : OperationKind) : StaysAt plane m (.opening index kind) := by
  have hoffset (name : String) : Line.opening index kind ≠ .workOffset name := by simp
  apply staysAt_of_plain
  · rw [isRapidInPlane_text hoffset]
    rfl
  · rw [isToolChange_text hoffset]
    simp

/-- **One block.**  In the block of an operation the tool moves rapidly in the plane, and is
exchanged, at the safe plane of the operation only.  The block of a known operation ends there,
and that of an unknown one moves nothing. -/
theorem BlockForm.safe {carried : Carried α} {index : Nat} {op : Operation α} {body : List Line}
    (h : BlockForm settings stock carried index op body) (m : Machine) :
    m.Always (StaysAt (safePlane settings stock op)) body ∧
      (m.execute body).z =
        (if op.kind = .unknown then m.z else some (safePlane settings stock op)) ∧
      (op.kind = .unknown → ∀ line ∈ body, isMotion line.text = false) := by
  have hopen (m : Machine) : StaysAt (safePlane settings stock op) m
      (.opening index op.kind) := staysAt_opening index op.kind
  have hretract (m : Machine) : StaysAt (safePlane settings stock op) m
      (retract settings stock op) := staysAt_move rfl none
  cases h with
  -- remarks only: the height stays, and nothing moves
  | unknown hkind =>
    refine ⟨?_, ?_, ?_⟩
    · rw [Machine.always_cons, Machine.always_cons]
      exact ⟨hopen m, staysAt_of_plain rfl rfl, trivial⟩
    · rw [if_pos hkind]
      simp
    · intro _ line hmem
      rcases List.mem_cons.mp hmem with rfl | hmem
      · rw [isMotion_text (by simp)]
        rfl
      · rw [List.mem_singleton.mp hmem]
        rfl
  | @skipped reason hkind hreason =>
    -- the reason is a remark, and the retract behind it goes to the safe plane
    have hskipped (m : Machine) :
        StaysAt (safePlane settings stock op) m (.skipped reason) := by
      have hoffset (name : String) : Line.skipped reason ≠ .workOffset name := by simp
      apply staysAt_of_plain
      · rw [isRapidInPlane_text hoffset]
        rfl
      · rw [isToolChange_text hoffset]
        simp
    refine ⟨?_, ?_, fun hunknown => absurd hunknown hkind⟩
    · rw [Machine.always_cons, Machine.always_cons, Machine.always_cons]
      exact ⟨hopen _, hskipped _, hretract _, trivial⟩
    · rw [if_neg hkind, Machine.execute_cons, Machine.execute_cons, Machine.execute_cons,
        Machine.execute_nil]
      exact read_retract_z _ settings stock op
  | @machined moves hkind hreason hplan =>
    -- the first retract takes the tool to the safe plane, where it stays until it descends
    have hplane := read_retract_z m settings stock op
    obtain ⟨htool, hheld⟩ :=
      toolLines_stay hplane op (Scalar.nearest op.spindleSpeed) carried.spindle
    have hmoves := withFeed_stay hheld (settings.feed op.feedRate) (arrivesOnce_plan hplan)
    refine ⟨?_, ?_, fun hunknown => absurd hunknown hkind⟩
    · rw [Machine.always_cons, Machine.always_cons, Machine.always_append, Machine.always_append,
        Machine.read_opening, Machine.always_cons]
      -- the last line is a retract again
      exact ⟨hopen m, hretract m, htool, hmoves, hretract _, trivial⟩
    · rw [if_neg hkind, Machine.execute_cons, Machine.execute_cons, Machine.execute_append,
        Machine.execute_append, Machine.execute_cons, Machine.execute_nil]
      exact read_retract_z _ settings stock op

/-! ## Programs -/

/-- Whether an operation is known. -/
def isKnown (op : Operation α) : Bool := op.kind ≠ .unknown

/-- The height behind the blocks of some operations: the safe plane of the last known one, and
before any of them the height at the beginning. -/
def heightBehind (settings : Settings α) (stock : Stock α) (ops : List (Operation α))
    (z : Option String) : Option String :=
  (((ops.filter isKnown).getLast?).map (safePlane settings stock)).or z

private theorem heightBehind_cons (op : Operation α) (ops : List (Operation α))
    (z : Option String) :
    heightBehind settings stock (op :: ops) z =
      heightBehind settings stock ops
        (if op.kind = .unknown then z else some (safePlane settings stock op)) := by
  unfold heightBehind
  by_cases hkind : op.kind = .unknown
  · rw [List.filter_cons_of_neg (by simp [isKnown, hkind]), if_pos hkind]
  · rw [List.filter_cons_of_pos (by simp [isKnown, hkind]), if_neg hkind, List.getLast?_cons]
    cases (ops.filter isKnown).getLast? <;> rfl

/-- The blocks of a program, one after another. -/
theorem Chained.safe {carried last : Carried α} {index : Nat} {ops : List (Operation α)}
    {bodies : List (List Line)} (h : Chained settings stock carried index ops bodies last)
    (m : Machine) :
    (∀ (i : Nat) (op : Operation α) (body : List Line), ops[i]? = some op →
        bodies[i]? = some body →
          (m.execute (bodies.take i).flatten).Always (StaysAt (safePlane settings stock op)) body ∧
          (op.kind = .unknown → ∀ line ∈ body, isMotion line.text = false)) ∧
      ∀ i, (m.execute (bodies.take i).flatten).z =
        heightBehind settings stock (ops.take i) m.z := by
  induction h generalizing m with
  | nil carried index =>
    refine ⟨?_, ?_⟩
    · intro i op body hop
      cases hop
    · intro i
      simp [heightBehind]
  | @cons carried last index op ops body bodies hbody hrest ih =>
    obtain ⟨hstays, hz, hmotion⟩ := (blockForm_of_block hbody).safe m
    obtain ⟨hblocks, hheights⟩ := ih (m.execute body)
    -- behind the first block the others begin at the height where it ends
    refine ⟨?_, ?_⟩
    · intro i other otherBody hop hnth
      cases i with
      | zero =>
        cases hop
        cases hnth
        exact ⟨hstays, hmotion⟩
      | succ i =>
        rw [List.take_succ_cons, List.flatten_cons, Machine.execute_append]
        exact hblocks i other otherBody hop hnth
    · intro i
      cases i with
      | zero => simp [heightBehind]
      | succ i =>
        rw [List.take_succ_cons, List.take_succ_cons, List.flatten_cons, Machine.execute_append,
          hheights i, hz, heightBehind_cons]

/-- All safe planes of a program: the clearance above the stock, and those of the known
operations. -/
def safePlanes (settings : Settings α) (stock : Stock α) (ops : List (Operation α)) : List α :=
  (stockTop stock + settings.safeClearance) :: (ops.filter isKnown).map (safeZ settings stock)

/-- The highest safe plane of a program. -/
def topPlane (settings : Settings α) (stock : Stock α) (ops : List (Operation α)) : α :=
  ((ops.filter isKnown).map (safeZ settings stock)).foldl Scalar.max
    (stockTop stock + settings.safeClearance)

/-- The blocks leave behind the maximum of the safe planes of the known operations, also of those
that are skipped. -/
theorem Chained.topSafeZ_eq {carried last : Carried α} {index : Nat} {ops : List (Operation α)}
    {bodies : List (List Line)} (h : Chained settings stock carried index ops bodies last) :
    last.topSafeZ =
      ((ops.filter isKnown).map (safeZ settings stock)).foldl Scalar.max carried.topSafeZ := by
  induction h with
  | nil => rfl
  | @cons carried last index op ops body bodies hbody hrest ih =>
    rw [ih]
    -- a skipped operation counts for the maximum, and an unknown one does not
    by_cases hkind : op.kind = .unknown
    · rw [leaves_of_unknown hkind, List.filter_cons_of_neg (by simp [isKnown, hkind])]
    · rw [List.filter_cons_of_pos (by simp [isKnown, hkind]), List.map_cons, List.foldl_cons]
      cases hreason : skipReason? stock op with
      | some reason => rw [leaves_of_skipped hkind hreason]
      | none => rw [leaves_of_machined hkind hreason]

/-- The only height in a footer is that of the highest safe plane. -/
private theorem zWords_footer (settings : Settings α) (carried : Carried α) :
    ((footer settings carried).tail.flatMap fun line => readWords line.text).filter
        (fun word => word.letter = 'Z') =
      [⟨'Z', (settings.coordinate carried.topSafeZ).text⟩] := by
  simp only [readWords_text]
  cases hcoolant : settings.coolant <;>
    simp [footer, hcoolant, Line.words, Move.wordsWithFeed, Move.words]

/-- What is not above a number is not printed below it as a coordinate. -/
theorem not_below_coordinate [OrderedScalar α] {a b : α} (h : Scalar.lt a b = false) :
    ¬ (settings.coordinate a).Below (settings.coordinate b) := by
  rintro ⟨u, v, hu, hv, huv⟩
  rw [Settings.coordinate, Fixed.value?_unsigned] at hu hv
  exact Scalar.not_below_of_not_lt h _ ⟨u, v, hu, hv, huv⟩

/-- What is shown of the heights in a program. -/
structure CrossesSafely (settings : Settings α) (stock : Stock α) (ops : List (Operation α))
    (bodies : List (List Line)) (foot : List Line) : Prop where
  /-- Rapid moves in the plane and tool changes happen at the safe plane of their operation. -/
  stays : ∀ (i : Nat) (op : Operation α) (body : List Line), ops[i]? = some op →
    bodies[i]? = some body →
      (Machine.idle.execute (bodies.take i).flatten).Always
        (fun m line => isRapidInPlane line.text = true ∨ isToolChange line.text = true →
          m.z = some (safePlane settings stock op) ∧
            (m.read line.text).z = some (safePlane settings stock op)) body
  /-- A block that moves the tool ends at the safe plane of its operation. -/
  ends : ∀ (i : Nat) (op : Operation α) (body : List Line), ops[i]? = some op →
    bodies[i]? = some body → (∃ line ∈ body, isMotion line.text = true) →
      (Machine.idle.execute (bodies.take (i + 1)).flatten).z =
        some (safePlane settings stock op)
  /-- The block of an unknown operation moves nothing. -/
  unknown : ∀ (i : Nat) (op : Operation α) (body : List Line), ops[i]? = some op →
    bodies[i]? = some body → op.kind = .unknown → ∀ line ∈ body, isMotion line.text = false
  /-- Between two blocks the tool is at the safe plane of the last known operation. -/
  between : ∀ i, (Machine.idle.execute (bodies.take i).flatten).z =
    (((ops.take i).filter isKnown).getLast?).map (safePlane settings stock)
  /-- The footer takes the tool to the highest safe plane, and nowhere else along Z. -/
  footer : (foot.flatMap fun line => readWords line.text).filter
      (fun word => word.letter = 'Z') =
    [⟨'Z', (settings.coordinate (topPlane settings stock ops)).text⟩]
  /-- The highest safe plane is one of the safe planes. -/
  top_mem : topPlane settings stock ops ∈ safePlanes settings stock ops
  /-- No safe plane is above the highest one, neither before nor after it is printed. -/
  top_highest : ∀ plane ∈ safePlanes settings stock ops,
    Scalar.lt (topPlane settings stock ops) plane = false ∧
      ¬ (settings.coordinate (topPlane settings stock ops)).Below (settings.coordinate plane)
  /-- Where the numbers are finite, a safe plane is the clearance above the top of the operation and
  the top of the stock. -/
  plane_eq : Scalar.isFinite stock.height = true → stockTop stock = stock.height ∧
    ∀ op ∈ ops, Scalar.isFinite op.zStart = true →
      safeZ settings stock op = Scalar.max op.zStart stock.height + settings.safeClearance

/-- **The tool crosses the part at a safe height only.**  The machine reads the blocks of a compiled
program one after another, and its heights are as `CrossesSafely` says. -/
theorem tool_crosses_at_safe_planes [OrderedScalar α] {ops : List (Operation α)}
    {program : List Line} (h : compile settings stock ops = .ok program) :
    ∃ bodies foot, Divided settings stock ops program bodies foot ∧
      CrossesSafely settings stock ops bodies foot := by
  obtain ⟨bodies, last, hchained, hdivided⟩ := exists_divided_of_compile h
  -- each block is safe, and the height behind some of them is that of the last known one
  obtain ⟨hblocks, hheights⟩ := hchained.safe Machine.idle
  have hbetween (i : Nat) : (Machine.idle.execute (bodies.take i).flatten).z =
      (((ops.take i).filter isKnown).getLast?).map (safePlane settings stock) := by
    rw [hheights i, heightBehind]
    exact Option.or_none
  refine ⟨bodies, _, hdivided, ?_⟩
  constructor
  case stays =>
    intro i op body hop hnth
    exact (hblocks i op body hop hnth).1
  case ends =>
    intro i op body hop hnth hmoves
    obtain ⟨line, hmem, hmotion⟩ := hmoves
    have hkind : op.kind ≠ .unknown := by
      intro hunknown
      rw [(hblocks i op body hop hnth).2 hunknown line hmem] at hmotion
      cases hmotion
    -- the operation is the last known one among those up to it
    rw [hbetween, List.take_add_one, hop, List.filter_append]
    simp [isKnown, hkind]
  case unknown =>
    intro i op body hop hnth
    exact (hblocks i op body hop hnth).2
  case between => exact hbetween
  case footer =>
    rw [zWords_footer, hchained.topSafeZ_eq]
    rfl
  case top_mem => exact Scalar.foldl_max_mem _ _
  case top_highest =>
    intro plane hmem
    have hlt := Scalar.foldl_max_not_lt _ _ plane hmem
    exact ⟨hlt, not_below_coordinate hlt⟩
  case plane_eq =>
    intro hheight
    exact ⟨stockTop_of_isFinite hheight, fun op _ => safeZ_of_isFinite hheight⟩

/-- The second hole of the sample job begins above the stock, and the footer goes above both. -/
theorem tool_crosses_at_safe_planes_of_sampleJob :
    ∃ program, compile sampleSettings sampleStock sampleJob = .ok program ∧
      ∃ bodies foot, Divided sampleSettings sampleStock sampleJob program bodies foot ∧
        (Machine.idle.execute (bodies.take 2).flatten).z = some "25.000" ∧
        (foot.flatMap fun line => readWords line.text).filter (fun word => word.letter = 'Z') =
          [⟨'Z', "33.000"⟩] := by
  obtain ⟨program, hprogram⟩ := exists_compile_sampleJob
  obtain ⟨bodies, foot, hdivided, hsafe⟩ := tool_crosses_at_safe_planes hprogram
  refine ⟨program, hprogram, bodies, foot, hdivided, ?_, ?_⟩
  · rw [hsafe.between]
    decide +kernel
  · rw [hsafe.footer]
    decide +kernel

end Machining.Program
