import Machining.Session.Controller
import Machining.Session.Token

/-!
# Runs of a controller

A run is a controller with the tasks that its turns run in and the calls that they made to the
analyzer. A task is begun by a submission, waits at the analyzer while its call is parked, goes on
when the call is released, and may be stopped.  An event first takes effect and then, unless it is
told to leave them, all tasks that can go on do so in the order in which they became ready.
-/

namespace Machining.Session

open Machining.Config Machining.Job Machining.Json

/-- A call to the analyzer. -/
structure Call where
  /-- The generation of its turn. -/
  generation : Nat
  /-- What is asked. -/
  request : Request
  /-- Whether its turn was withdrawn. -/
  cancelled : Bool

/-- What the analyzer does when a call is released. -/
structure Release where
  /-- Its reply. -/
  reply : Reply
  /-- Whether it looks at the token first, and stops if the turn is withdrawn. -/
  heedsToken : Bool

/-- How a task ended. -/
inductive Ending where
  /-- Its turn was refused. -/
  | refused (error : SubmitError)
  /-- Its turn ended. -/
  | ended (outcome : Outcome)
  /-- It was stopped. -/
  | aborted
  /-- Its turn failed, and the kind of the failure could not be told. -/
  | escaped (error : StrictError)

/-- What a task is at. -/
inductive TaskStage where
  /-- Its turn has not begun. -/
  | waiting (turn : Turn)
  /-- Its call is parked. -/
  | parked (call : Nat)
  /-- Its call is released. -/
  | released (call : Nat) (release : Release)
  /-- It has ended. -/
  | done (ending : Ending)

/-- A task. -/
structure Task where
  /-- What it is at. -/
  stage : TaskStage
  /-- Whether it is to be stopped. -/
  aborting : Bool

/-- A controller with its tasks and calls. -/
structure Run where
  /-- The controller. -/
  controller : Controller
  /-- All tasks, in the order of their submission. -/
  tasks : List Task
  /-- All calls, in the order in which they reached the analyzer. -/
  calls : List Call
  /-- The tasks that can go on, in the order in which they became ready. -/
  ready : List Nat

/-- What can happen to a run. -/
inductive Event where
  /-- A turn is submitted. -/
  | submit (turn : Turn)
  /-- A call is released. -/
  | resolve (call : Nat) (release : Release)
  /-- The turn in flight is withdrawn. -/
  | cancel
  /-- The session is reset. -/
  | reset (stock : Option (Stock Float))
  /-- A task is stopped. -/
  | abort (task : Nat)
  /-- Nothing happens. -/
  | pause

/-- What an event answers at once. -/
inductive Response where
  /-- Nothing. -/
  | quiet
  /-- There is no such call. -/
  | noCall
  /-- Whether it had an effect. -/
  | effect (happened : Bool)

namespace Run

/-- A run at its beginning. -/
def new (controller : Controller) : Run := ⟨controller, [], [], []⟩

/-- Changes what a task is at. -/
def setStage (run : Run) (task : Nat) (stage : TaskStage) : Run :=
  { run with tasks := run.tasks.modify task fun t => { t with stage } }

/-- Marks the call of the turn in flight as withdrawn. -/
def cancelCalls (run : Run) : Run :=
  match run.controller.token with
  | none => run
  | some generation =>
    { run with calls := run.calls.map fun call =>
        if call.generation = generation then { call with cancelled := true } else call }

/-- The place of the task of a call that is parked. -/
def parkedTask? (run : Run) (call : Nat) : Option Nat :=
  run.tasks.findIdx? fun t =>
    match t.stage with
    | .parked c => c == call && !t.aborting
    | _ => false

/-- The stage of a task, with another release of a call if that one is released already. -/
def TaskStage.releasedAgain (call : Nat) (release : Release) : TaskStage → TaskStage
  | .released c old => .released c (if c = call then release else old)
  | stage => stage

/-- Releases a call.  Until its task goes on, another release may take the place of the first; a
call that is over stays as it is. -/
def resolve (run : Run) (call : Nat) (release : Release) : Run :=
  match run.parkedTask? call with
  | none =>
    { run with tasks := run.tasks.map fun t =>
        { t with stage := TaskStage.releasedAgain call release t.stage } }
  | some task =>
    let moved := run.setStage task (.released call release)
    -- its task is woken once; a further release only changes the reply
    { moved with ready := moved.ready ++ [task] }

/-- Whether a task is still to be made ready when it is stopped: only a parked one that nobody
stopped before. -/
def Task.wakesOnAbort (task : Task) : Bool :=
  match task.stage with
  | .parked _ => !task.aborting
  | _ => false

/-- Stops a task; says whether it had not ended. -/
def abort (run : Run) (task : Nat) : Run × Bool :=
  match run.tasks[task]? with
  | none => (run, false)
  | some ⟨.done _, _⟩ => (run, false)
  | some t =>
    let tasks := run.tasks.modify task fun t => { t with aborting := true }
    -- a task that waits or is released is woken already
    let ready := if Task.wakesOnAbort t then run.ready ++ [task] else run.ready
    ({ run with tasks, ready }, true)

/-- The immediate effect of an event. -/
def act (config : Assistant) (run : Run) : Event → Run × Response
  | .submit turn =>
    ({ run with
      tasks := run.tasks ++ [⟨.waiting turn, false⟩], ready := run.ready ++ [run.tasks.length] },
      .quiet)
  | .resolve call release =>
    if call < run.calls.length then (run.resolve call release, .quiet) else (run, .noCall)
  | .cancel =>
    let (controller, happened) := run.controller.cancel config
    -- the token is looked up before the controller drops it
    let marked := if happened then run.cancelCalls else run
    ({ marked with controller }, .effect happened)
  | .reset stock =>
    ({ run.cancelCalls with controller := run.controller.reset stock }, .quiet)
  | .abort task =>
    let (stopped, happened) := run.abort task
    (stopped, .effect happened)
  | .pause => (run, .quiet)

/-- How the task of a call ends that is over with an outcome.  The kind of a failure is looked for
first, also where the reply comes too late. -/
def endingOf (outcome : Outcome) : Reply → Ending
  | .aborted => .aborted
  | .result _ => .ended outcome
  | .failure failure =>
    match failure.kind with
    | .ok _ => .ended outcome
    | .error error => .escaped error

/-- Ends the task of a call with a reply. -/
def finishCall (config : Assistant) (run : Run) (task call : Nat) (reply : Reply) : Run :=
  match run.calls[call]? with
  | none => run
  | some c =>
    let (controller, outcome) :=
      run.controller.finish config c.generation c.request.mode reply
    { run.setStage task (.done (endingOf outcome reply)) with controller }

/-- What the analyzer replies when its call goes on. -/
def Release.replyTo (release : Release) (call : Call) : Reply :=
  if release.heedsToken && call.cancelled then .failure .withdrawn else release.reply

/-- Begins the turn of a task. -/
def start (config : Assistant) (run : Run) (task : Nat) (turn : Turn) : Run :=
  let (answer, controller) := run.controller.attempt config turn
  match answer with
  | .error error => { run.setStage task (.done (.refused error)) with controller }
  | .ok request =>
    let moved := run.setStage task (.parked run.calls.length)
    { moved with controller, calls := run.calls ++ [⟨controller.generation, request, false⟩] }

/-- Lets a task go on. -/
def advance (config : Assistant) (run : Run) (task : Nat) : Run :=
  match run.tasks[task]? with
  | none => run
  | some ⟨.waiting turn, aborting⟩ =>
    -- a task that is stopped before it begins leaves no trace in the session
    if aborting then run.setStage task (.done .aborted) else run.start config task turn
  | some ⟨.parked call, aborting⟩ =>
    if aborting then run.finishCall config task call .aborted else run
  | some ⟨.released call release, aborting⟩ =>
    match run.calls[call]? with
    | none => run
    | some c =>
      -- being stopped comes before the reply that was to be handed over
      run.finishCall config task call (if aborting then .aborted else Release.replyTo release c)
  | some ⟨.done _, _⟩ => run

/-- Lets all tasks that are ready go on.  None of them makes another one ready. -/
def settle (config : Assistant) (run : Run) : Run :=
  run.ready.foldl (fun run task => run.advance config task) { run with ready := [] }

/-- One event, after which the tasks go on or are left. -/
def step (config : Assistant) (run : Run) (event : Event) (settles : Bool) : Run × Response :=
  let (acted, response) := run.act config event
  (if settles then acted.settle config else acted, response)

/-- The tasks that have ended, with how they did. -/
def endings (run : Run) : List (Nat × Ending) :=
  (run.tasks.zipIdx).filterMap fun (task, index) =>
    match task.stage with
    | .done ending => some (index, ending)
    | _ => none

end Run

end Machining.Session
