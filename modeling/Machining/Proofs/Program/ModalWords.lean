import Machining.Proofs.Program.Layout
import Mathlib.Data.List.SplitBy

/-!
# Words that are left out because they last

The tool, the spindle, the coolant and the feed stay as they are until they are commanded anew,
and a program commands them only where they change.  This module shows that nothing is missing:
wherever a program cuts, the machine has the tool of the operation loaded, turns at its speed,
moves at its feed and has the coolant as the settings say.  Nor is anything commanded in vain: the
tool is changed as often as the machined operations change it, and always while the spindle stands
still.

## How it is shown

`Machine.Tracks` relates what a block leaves behind, as the compiler knows it, to the state of the
machine that has read the blocks so far.  Every block keeps this relation (`BlockForm.modal`),
also one of a skipped or an unknown operation, and the blocks of a program keep it one after
another.
-/

namespace Machining.Program

open Machining.Numeric Machining.Job

variable {α : Type} [Scalar α] {settings : Settings α} {stock : Stock α}

/-! ## What is to be set -/

/-- A machine that is set to cut an operation. -/
structure Machine.ReadyFor (settings : Settings α) (op : Operation α) (m : Machine) : Prop where
  loaded : m.loaded = some op.tool.name
  spinning : m.spinning = true
  speed : m.speed = some (toString (Scalar.nearest op.spindleSpeed))
  feed : m.feed = some (settings.feed op.feedRate).text
  coolant : m.coolant = settings.coolant

/-- How often a program changes the tool. -/
def toolChanges (lines : List Line) : Nat := lines.countP fun line => isToolChange line.text

/-- The longest runs of machined operations with the same tool. -/
def toolRuns (stock : Stock α) (ops : List (Operation α)) : List (List Tool) :=
  ((ops.filter (isMachined stock)).map (·.tool)).splitBy (· == ·)

/-- How often the tool changes along operations, from a loaded tool on. -/
def changesFrom (loaded : Option Tool) : List Tool → Nat
  | [] => 0
  | tool :: rest => (if loaded = some tool then 0 else 1) + changesFrom (some tool) rest

/-- The machine is as the compiler takes it to be: at the beginning nothing is loaded and nothing
runs, and later the tool, the speed and the coolant are the ones that were commanded last. -/
def Machine.Tracks (settings : Settings α) (m : Machine) : Option (Tool × Int) → Prop
  | none => m.loaded = none ∧ m.spinning = false ∧ m.coolant = false
  | some (tool, speed) =>
    m.loaded = some tool.name ∧ m.spinning = true ∧ m.speed = some (toString speed) ∧
      m.coolant = settings.coolant

/-! ## Counting runs -/

private theorem length_splitBy_loop (tools : List Tool) (tool : Tool) (run : List Tool)
    (runs : List (List Tool)) :
    (List.splitBy.loop (· == ·) tools tool run runs).length =
      runs.length + 1 + changesFrom (some tool) tools := by
  induction tools generalizing tool run runs with
  | nil => simp [List.splitBy.loop, changesFrom]
  | cons next rest ih =>
    rw [List.splitBy.loop]
    -- the same tool lengthens the current run, and another one opens a run
    by_cases heq : tool = next
    · subst heq
      simp only [BEq.rfl]
      rw [ih]
      simp [changesFrom]
    · have hne : (tool == next) = false := by simpa using heq
      simp only [hne]
      rw [ih]
      simp only [changesFrom, List.length_cons, Option.some.injEq, if_neg heq]
      omega

/-- There are as many runs as there are changes, the first load included. -/
theorem length_toolRuns (stock : Stock α) (ops : List (Operation α)) :
    (toolRuns stock ops).length =
      changesFrom none ((ops.filter (isMachined stock)).map (·.tool)) := by
  rw [toolRuns]
  cases (ops.filter (isMachined stock)).map (·.tool) with
  | nil => rfl
  | cons tool rest =>
    rw [List.splitBy, length_splitBy_loop, changesFrom]
    simp

/-! ## Lines that change neither tool nor spindle nor coolant -/

namespace Machine.Tracks

variable {m : Machine} {spindle : Option (Tool × Int)}

omit [Scalar α] in
theorem read_move (h : m.Tracks settings spindle) (step : Move) (feed : Option Fixed) :
    (m.read (Line.move step feed).text).Tracks settings spindle := by
  obtain ⟨f, z, hread⟩ := m.read_move_eq step feed
  rw [hread]
  cases spindle with
  | none => exact h
  | some loaded => exact h

omit [Scalar α] in
theorem withFeed (h : m.Tracks settings spindle) (feed : Fixed) (moves : List Move) :
    m.Always (fun m line => m.Tracks settings spindle ∧ (m.read line.text).Tracks settings spindle)
        (withFeed feed moves) ∧
      (m.execute (Program.withFeed feed moves)).Tracks settings spindle := by
  apply Machine.always_of_invariant h
  intro m line hmem hm
  obtain ⟨step, _, word, rfl⟩ := exists_move_of_mem_withFeed hmem
  exact hm.read_move step word

end Machine.Tracks

/-! ## The tool change -/

/-- The tool is exchanged while the spindle stands still. -/
def StandsStill (m : Machine) (line : Line) : Prop :=
  isToolChange line.text = true → m.spinning = false

private theorem isToolChange_of_ne {line : Line} (hinner : line.isInner = true)
    (hne : line ≠ .changeTool) : isToolChange line.text = false := by
  rw [isToolChange_text (ne_workOffset_of_isInner hinner)]
  exact decide_eq_false hne

/-- Loading a tool leaves the machine set for it, if the spindle stood still. -/
private theorem load_tracks {m : Machine} (settings : Settings α) (op : Operation α)
    (speed : Int)
    (hstill : m.spinning = false) (hcoolant : settings.coolant = false → m.coolant = false) :
    m.Always StandsStill (toolLines.load settings op speed) ∧
      (m.execute (toolLines.load settings op speed)).Tracks settings (some (op.tool, speed)) ∧
      toolChanges (toolLines.load settings op speed) = 1 := by
  -- of the lines, one exchanges the tool
  have hremark : isToolChange
      (Line.toolRemark op.tool (settings.coordinate op.toolDiameter)).text = false :=
    isToolChange_of_ne rfl (by simp)
  have hselect : isToolChange (Line.selectTool op.tool).text = false :=
    isToolChange_of_ne rfl (by simp)
  have hchange : isToolChange Line.changeTool.text = true := rfl
  have hspindle : isToolChange (Line.spindleOn speed).text = false :=
    isToolChange_of_ne rfl (by simp)
  have hrunning : isToolChange Line.coolantOn.text = false := rfl
  rw [toolLines.load]
  -- the coolant comes last, if it is wanted at all
  cases hset : settings.coolant with
  | true =>
    refine ⟨?_, ?_, ?_⟩
    · simp [StandsStill, hremark, hselect, hspindle, hrunning, hstill]
    · simp [Machine.Tracks, hset]
    · simp [toolChanges, hremark, hselect, hchange, hspindle, hrunning]
  | false =>
    refine ⟨?_, ?_, ?_⟩
    · simp [StandsStill, hremark, hselect, hspindle, hstill]
    · simp [Machine.Tracks, hset, hcoolant hset]
    · simp [toolChanges, hremark, hselect, hchange, hspindle]

/-- The lines in front of the moves set the machine for the tool and the speed, whatever it is set
for before.  The tool is exchanged once if it is another one than the loaded one, and else not at
all. -/
theorem toolLines_track {m : Machine} {spindle : Option (Tool × Int)} (op : Operation α)
    (speed : Int) (h : m.Tracks settings spindle) :
    m.Always StandsStill (toolLines settings op speed spindle) ∧
      (m.execute (toolLines settings op speed spindle)).Tracks settings (some (op.tool, speed)) ∧
      toolChanges (toolLines settings op speed spindle) =
        if spindle.map (·.1) = some op.tool then 0 else 1 := by
  -- no tool at all, the same tool, or another one
  cases spindle with
  | none =>
    obtain ⟨_, hstill, hcoolant⟩ := h
    obtain ⟨halways, htracks, hcount⟩ := load_tracks settings op speed hstill fun _ => hcoolant
    exact ⟨halways, htracks, hcount⟩
  | some loaded =>
    obtain ⟨tool, current⟩ := loaded
    obtain ⟨hloaded, hspinning, hspeed, hcoolant⟩ := h
    rw [toolLines]
    by_cases htool : op.tool = tool
    · -- the tool stays: at most the speed is commanded
      subst htool
      rw [if_neg (by simp)]
      by_cases hsame : speed = current
      · subst hsame
        rw [if_neg (by simp)]
        exact ⟨trivial, ⟨hloaded, hspinning, hspeed, hcoolant⟩, by simp [toolChanges]⟩
      · have hspindle : isToolChange (Line.spindleOn speed).text = false :=
          isToolChange_of_ne rfl (by simp)
        rw [if_pos hsame]
        refine ⟨?_, ?_, ?_⟩
        · simp [StandsStill, hspindle]
        · simp [Machine.Tracks, hloaded, hcoolant]
        · simp [toolChanges, hspindle]
    · -- the spindle is stopped before the new tool is loaded
      rw [if_pos htool]
      have hstop : isToolChange Line.spindleOff.text = false := rfl
      have hstopped : (m.read Line.spindleOff.text).spinning = false := by simp
      have hdry : settings.coolant = false → (m.read Line.spindleOff.text).coolant = false := by
        simp [hcoolant]
      obtain ⟨halways, htracks, hcount⟩ := load_tracks settings op speed hstopped hdry
      refine ⟨?_, ?_, ?_⟩
      · rw [Machine.always_cons]
        exact ⟨by simp [StandsStill, hstop], halways⟩
      · rw [Machine.execute_cons]
        exact htracks
      · rw [toolChanges, List.countP_cons_of_neg (by simp [hstop])]
        rw [← toolChanges, hcount]
        simp [Ne.symm htool]

/-! ## The feed -/

/-- A move at the feed runs at the feed of this text. -/
def FeedIs (feed : String) (m : Machine) (line : Line) : Prop :=
  isFeedMove line.text = true → (m.read line.text).feed = some feed

private theorem isFeedMove_move (step : Move) (feed : Option Fixed) :
    isFeedMove (Line.move step feed).text = step.isCut := by
  rw [isFeedMove_text (ne_workOffset_of_isInner rfl)]
  rfl

/-- Once the feed is set, moves without a feed keep it. -/
private theorem feedIs_of_set {feed : String} {m : Machine} (h : m.feed = some feed)
    (moves : List Move) : m.Always (FeedIs feed) (moves.map (Line.move · none)) := by
  induction moves generalizing m with
  | nil => trivial
  | cons step rest ih =>
    have hkept : (m.read (Line.move step none).text).feed = some feed := by
      rw [Machine.read_move]
      exact h
    rw [List.map_cons, Machine.always_cons]
    exact ⟨fun _ => hkept, ih hkept⟩

/-- The first cutting move of a block sets the feed, and the others keep it. -/
theorem withFeed_feedIs (m : Machine) (feed : Fixed) (moves : List Move) :
    m.Always (FeedIs feed.text) (withFeed feed moves) := by
  induction moves generalizing m with
  | nil => trivial
  | cons step rest ih =>
    rw [withFeed]
    cases hcut : step.isCut with
    | true =>
      -- the first cut sets the feed, and it stays set behind
      have hset : (m.read (Line.move step (some feed)).text).feed = some feed.text := by
        rw [Machine.read_move_feed m hcut]
      rw [if_pos rfl, Machine.always_cons]
      exact ⟨fun _ => hset, feedIs_of_set hset rest⟩
    | false =>
      rw [if_neg (by simp), Machine.always_cons]
      refine ⟨?_, ih _⟩
      -- a move in front of it feeds nothing
      intro hfeed
      rw [isFeedMove_move, hcut] at hfeed
      cases hfeed

/-! ## Blocks -/

/-- What is shown of every line of a block. -/
def IsModal (settings : Settings α) (op : Operation α) (m : Machine) (line : Line) : Prop :=
  (isFeedMove line.text = true → (m.read line.text).ReadyFor settings op) ∧ StandsStill m line

/-- A line that is neither a move at the feed nor a tool change. -/
private theorem isModal_of_quiet {m : Machine} {op : Operation α} {line : Line}
    (hfeed : isFeedMove line.text = false) (hchange : isToolChange line.text = false) :
    IsModal settings op m line := by
  constructor
  · intro h
    rw [hfeed] at h
    cases h
  · intro h
    rw [hchange] at h
    cases h

private theorem retract_quiet (settings : Settings α) (stock : Stock α) (op : Operation α) :
    isFeedMove (retract settings stock op).text = false ∧
      isToolChange (retract settings stock op).text = false :=
  ⟨isFeedMove_move _ _, isToolChange_of_ne rfl (by simp [retract])⟩

private theorem opening_quiet (index : Nat) (kind : OperationKind) :
    isFeedMove (Line.opening index kind).text = false ∧
      isToolChange (Line.opening index kind).text = false := by
  have hoffset (name : String) : Line.opening index kind ≠ .workOffset name := by simp
  rw [isFeedMove_text hoffset, isToolChange_text hoffset]
  simp [Line.step?]

/-- The lines of a tool change do not move at the feed. -/
private theorem isModal_toolLines {m : Machine} {op : Operation α} {speed : Int}
    {spindle : Option (Tool × Int)}
    (h : m.Always StandsStill (toolLines settings op speed spindle)) :
    m.Always (IsModal settings op) (toolLines settings op speed spindle) := by
  apply h.mono
  intro m line hmem hstill
  obtain ⟨hinner, hstep⟩ := inner_of_mem_toolLines hmem
  refine ⟨?_, hstill⟩
  intro hfeed
  rw [isFeedMove_text (ne_workOffset_of_isInner hinner), hstep] at hfeed
  cases hfeed

/-- The moves of an operation are cut as they are meant to be. -/
private theorem isModal_withFeed {m : Machine} {op : Operation α}
    (h : m.Tracks settings (some (op.tool, Scalar.nearest op.spindleSpeed))) (moves : List Move) :
    m.Always (IsModal settings op) (withFeed (settings.feed op.feedRate) moves) := by
  apply ((h.withFeed _ moves).1.and (withFeed_feedIs m _ moves)).mono
  rintro m line hmem ⟨⟨_, hloaded, hspinning, hspeed, hcoolant⟩, hfeed⟩
  obtain ⟨step, _, word, rfl⟩ := exists_move_of_mem_withFeed hmem
  refine ⟨?_, ?_⟩
  · intro hcut
    exact ⟨hloaded, hspinning, hspeed, hfeed hcut, hcoolant⟩
  · intro hchange
    rw [isToolChange_of_ne rfl (by simp)] at hchange
    cases hchange

private theorem toolChanges_withFeed (feed : Fixed) (moves : List Move) :
    toolChanges (withFeed feed moves) = 0 := by
  rw [toolChanges, List.countP_eq_zero]
  intro line hmem
  obtain ⟨step, _, word, rfl⟩ := exists_move_of_mem_withFeed hmem
  rw [isToolChange_of_ne rfl (by simp)]
  simp

private theorem toolChanges_append (first second : List Line) :
    toolChanges (first ++ second) = toolChanges first + toolChanges second :=
  List.countP_append

private theorem toolChanges_cons {line : Line} (h : isToolChange line.text = false)
    (rest : List Line) : toolChanges (line :: rest) = toolChanges rest :=
  List.countP_cons_of_neg (by simp [h])

/-- **One block.**  If the machine is as the compiler takes it to be, then the block of an
operation is cut as it is meant to be, and the machine is again as the compiler takes it to
be.  Only a machined operation with another tool than the loaded one changes the tool, and it does
so once. -/
theorem BlockForm.modal {carried : Carried α} {index : Nat} {op : Operation α} {body : List Line}
    {m : Machine} (h : BlockForm settings stock carried index op body)
    (hm : m.Tracks settings carried.spindle) :
    m.Always (IsModal settings op) body ∧
      (m.execute body).Tracks settings (leaves settings stock carried op).spindle ∧
      toolChanges body =
        if isMachined stock op then
          if carried.spindle.map (·.1) = some op.tool then 0 else 1
        else 0 := by
  obtain ⟨hopenFeed, hopenChange⟩ := opening_quiet index op.kind
  have hopen : IsModal settings op m (.opening index op.kind) :=
    isModal_of_quiet hopenFeed hopenChange
  obtain ⟨hretractFeed, hretractChange⟩ := retract_quiet settings stock op
  have hretract (m : Machine) : IsModal settings op m (retract settings stock op) :=
    isModal_of_quiet hretractFeed hretractChange
  have hkeep {m : Machine} {spindle : Option (Tool × Int)} (hm : m.Tracks settings spindle) :
      (m.read (retract settings stock op).text).Tracks settings spindle := hm.read_move _ _
  cases h with
  | unknown hkind =>
    have hfeed : isFeedMove Line.nothingToMachine.text = false := rfl
    have hchange : isToolChange Line.nothingToMachine.text = false := rfl
    have hmachined : isMachined stock op = false := by simp [isMachined, hkind]
    -- remarks leave the machine as it is
    refine ⟨?_, ?_, ?_⟩
    · rw [Machine.always_cons, Machine.always_cons]
      exact ⟨hopen, isModal_of_quiet hfeed hchange, trivial⟩
    · rw [leaves_of_unknown hkind]
      simpa using hm
    · rw [toolChanges_cons hopenChange, toolChanges_cons hchange, hmachined]
      rfl
  | @skipped reason hkind hreason =>
    -- a remark and a retract, neither of which feeds or changes the tool
    have hfeed : isFeedMove (Line.skipped reason).text = false := by
      rw [isFeedMove_text (ne_workOffset_of_isInner rfl)]
      rfl
    have hchange : isToolChange (Line.skipped reason).text = false :=
      isToolChange_of_ne rfl (by simp)
    have hmachined : isMachined stock op = false := by simp [isMachined, hreason]
    refine ⟨?_, ?_, ?_⟩
    · rw [Machine.always_cons, Machine.always_cons, Machine.always_cons]
      exact ⟨hopen, isModal_of_quiet hfeed hchange, hretract _, trivial⟩
    · rw [leaves_of_skipped hkind hreason]
      simp only [Machine.execute_cons, Machine.read_opening, Machine.read_skipped,
        Machine.execute_nil]
      exact hkeep hm
    · rw [toolChanges_cons hopenChange, toolChanges_cons hchange, toolChanges_cons hretractChange,
        hmachined]
      rfl
  | @machined moves hkind hreason hplan =>
    have hmachined : isMachined stock op = true := by simp [isMachined, hkind, hreason]
    -- at the safe plane, then with the tool in the spindle, then behind the moves
    obtain ⟨hstill, htracks, hcount⟩ :=
      toolLines_track op (Scalar.nearest op.spindleSpeed) (hkeep hm)
    have hmoved := (htracks.withFeed (settings.feed op.feedRate) moves).2
    refine ⟨?_, ?_, ?_⟩
    · rw [Machine.always_cons, Machine.always_cons, Machine.always_append, Machine.always_append,
        Machine.read_opening, Machine.always_cons]
      -- the feed moves run with what the tool lines have set
      exact ⟨hopen, hretract m, isModal_toolLines hstill, isModal_withFeed htracks moves,
        hretract _, trivial⟩
    · rw [leaves_of_machined hkind hreason, Machine.execute_cons, Machine.execute_cons,
        Machine.execute_append, Machine.execute_append, Machine.read_opening, Machine.execute_cons,
        Machine.execute_nil]
      exact hkeep hmoved
    · rw [toolChanges_cons hopenChange, toolChanges_cons hretractChange, toolChanges_append,
        toolChanges_append, toolChanges_withFeed, toolChanges_cons hretractChange, hcount,
        if_pos hmachined]
      rfl

/-! ## Programs -/

/-- The blocks of a program, one after another. -/
theorem Chained.modal {carried last : Carried α} {index : Nat} {ops : List (Operation α)}
    {bodies : List (List Line)} (h : Chained settings stock carried index ops bodies last)
    {m : Machine} (hm : m.Tracks settings carried.spindle) :
    (∀ (i : Nat) (op : Operation α) (body : List Line), ops[i]? = some op →
        bodies[i]? = some body →
          (m.execute (bodies.take i).flatten).Always (IsModal settings op) body) ∧
      m.Always StandsStill bodies.flatten ∧
      toolChanges bodies.flatten =
        changesFrom (carried.spindle.map (·.1)) ((ops.filter (isMachined stock)).map (·.tool)) := by
  -- along the blocks: each leaves the machine as the next one takes it up
  induction h generalizing m with
  | nil carried index =>
    refine ⟨?_, trivial, rfl⟩
    intro i op body hop
    cases hop
  | @cons carried last index op ops body bodies hbody hrest ih =>
    obtain ⟨hmodal, htracks, hcount⟩ := (blockForm_of_block hbody).modal hm
    obtain ⟨hblocks, hstill, hcounts⟩ := ih htracks
    refine ⟨?_, ?_, ?_⟩
    · intro i other otherBody hop hnth
      -- the first block, or one of those behind it
      cases i with
      | zero =>
        cases hop
        cases hnth
        exact hmodal
      | succ i =>
        rw [List.take_succ_cons, List.flatten_cons, Machine.execute_append]
        exact hblocks i other otherBody hop hnth
    · rw [List.flatten_cons, Machine.always_append]
      exact ⟨hmodal.mono fun _ _ _ hline => hline.2, hstill⟩
    · -- an operation that is not machined neither loads a tool nor ends a run
      rw [List.flatten_cons, toolChanges_append, hcount, hcounts, spindle_leaves]
      cases hmachined : isMachined stock op with
      | true =>
        rw [List.filter_cons_of_pos hmachined, List.map_cons, changesFrom]
        rfl
      | false =>
        rw [List.filter_cons_of_neg (by simp [hmachined])]
        simp

/-- **Nothing is missing among the words that are left out, and nothing is commanded in vain.**
The machine reads the blocks of a compiled program one after another.  Each move at the feed in
the block of an operation is executed with the tool of that operation loaded, the spindle turning
at its speed, the feed at its printed feed rate and the coolant as the settings say.  The tool is
only exchanged while the spindle stands still, and as often as there are longest runs of machined
operations with the same tool. -/
theorem cuts_run_with_their_own_words {ops : List (Operation α)} {program : List Line}
    (h : compile settings stock ops = .ok program) :
    ∃ bodies foot, Divided settings stock ops program bodies foot ∧
      (∀ (i : Nat) (op : Operation α) (body : List Line), ops[i]? = some op →
        bodies[i]? = some body →
          (Machine.idle.execute (bodies.take i).flatten).Always
            (fun m line => isFeedMove line.text = true →
              (m.read line.text).ReadyFor settings op) body) ∧
      Machine.idle.Always
        (fun m line => isToolChange line.text = true → m.spinning = false) bodies.flatten ∧
      toolChanges bodies.flatten = (toolRuns stock ops).length := by
  obtain ⟨bodies, last, hchained, hdivided⟩ := exists_divided_of_compile h
  have hidle : Machine.idle.Tracks settings (start settings stock).spindle := ⟨rfl, rfl, rfl⟩
  obtain ⟨hblocks, hstill, hcount⟩ := hchained.modal hidle
  refine ⟨bodies, _, hdivided, ?_, hstill, ?_⟩
  · intro i op body hop hnth
    exact (hblocks i op body hop hnth).mono fun _ _ _ hline => hline.1
  · rw [hcount, length_toolRuns]
    rfl

/-- Both holes of the sample job are drilled with one tool change, although an unknown operation
stands between them. -/
theorem cuts_run_with_their_own_words_of_sampleJob :
    ∃ program, compile sampleSettings sampleStock sampleJob = .ok program ∧
      ∃ bodies foot, Divided sampleSettings sampleStock sampleJob program bodies foot ∧
        toolChanges bodies.flatten = 1 := by
  obtain ⟨program, hprogram⟩ := exists_compile_sampleJob
  obtain ⟨bodies, foot, hdivided, _, _, hcount⟩ := cuts_run_with_their_own_words hprogram
  have hruns : (toolRuns sampleStock sampleJob).length = 1 := by decide +kernel
  refine ⟨program, hprogram, bodies, foot, hdivided, ?_⟩
  rw [hcount, hruns]

end Machining.Program
