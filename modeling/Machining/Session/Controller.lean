import Machining.Session.Analysis
import Machining.Session.Transcript
import Machining.Session.Turn

/-!
# The controller of a session

The controller lets one turn at a time ask the analyzer.  Every turn has a generation, a number
that only grows; withdrawing a turn or resetting the session moves on to a new generation.  When
the analyzer's reply comes, it counts only if its turn is of the current generation; the reply to
an older turn is dropped and changes nothing.

* `Controller.submit` begins a turn or refuses it; `Controller.attempt` does so one effect after
  another, and `attempt_eq` says that a refusal comes before all of them.
* `Controller.finish` takes the reply to a turn.
* `Controller.cancel` and `Controller.reset` withdraw the turn in flight.
* `finish_of_ne` says that a reply to an older turn changes nothing.
-/

namespace Machining.Session

open Machining.Config Machining.Document Machining.Job Machining.Numeric Machining.Program

/-- What a turn, or the controller, is at. -/
inductive Phase where
  /-- No turn is in flight. -/
  | idle
  /-- A turn waits for the analyzer. -/
  | requesting
  /-- A turn was committed. -/
  | success
  /-- A turn failed. -/
  | failed
  /-- A turn was withdrawn. -/
  | cancelled
  deriving DecidableEq

/-- The name of a phase. -/
def Phase.name : Phase → String
  | idle => "IDLE"
  | requesting => "REQUESTING"
  | success => "SUCCESS"
  | failed => "FAILED"
  | cancelled => "CANCELLED"

/-- How a turn ended. -/
structure Outcome where
  /-- Committed, failed or withdrawn. -/
  phase : Phase
  /-- The generation of the turn. -/
  generation : Nat
  /-- The answer in the transcript; none for a turn of an older generation. -/
  message : Option Message
  /-- The kind of failure. -/
  failure : Option FailureKind
  /-- Whether the session was changed. -/
  committed : Bool

/-- The state of a controller. -/
structure Controller where
  /-- The conversation. -/
  session : Conversation
  /-- The current generation. -/
  generation : Nat
  /-- The generation of the turn in flight. -/
  token : Option Nat
  /-- Whether a turn is in flight. -/
  phase : Phase
  /-- How the last turn ended since the last reset. -/
  last : Option Outcome

/-- Why a turn is refused. -/
inductive SubmitError where
  /-- Another turn is in flight. -/
  | inFlight (generation : Nat)
  /-- The mode is not known. -/
  | badMode (value : Value)
  /-- The label of the file cannot be written. -/
  | badLabel (fault : Text.Template.Fault)

/-- The wording of a refusal. -/
def SubmitError.message : SubmitError → String
  | inFlight generation => s!"turn {generation} is still being analyzed"
  | badMode value => Mode.complaint value
  | badLabel fault => fault.message

/-- What the analyzer replies. -/
inductive Reply where
  /-- A result. -/
  | result (analysis : Analysis)
  /-- A failure. -/
  | failure (failure : Failure)
  /-- Nothing, because the turn's task was stopped. -/
  | aborted

namespace Controller

/-- A controller of a session in which no turn has begun. -/
def new (session : Conversation) : Controller := ⟨session, 0, none, .idle, none⟩

/-- Begins a turn in a mode, once its label is written. -/
def begin (c : Controller) (label : String) (turn : Turn) : Controller :=
  { c with
    session := (c.session.postUser label (turn.attachment.map (·.fileName))).1
    generation := c.generation + 1
    token := some (c.generation + 1)
    phase := .requesting }

/-- Submits a turn: what comes out is the controller and the request, whose generation is the
controller's. -/
def submit (config : Assistant) (c : Controller) (turn : Turn) :
    Except SubmitError (Controller × Request) :=
  if c.phase = .requesting then .error (.inFlight c.generation)
  else
    -- a turn is refused before anything is put down, first for its mode, then for its label
    match Mode.ofName? turn.mode.plain with
    | none => .error (.badMode turn.mode)
    | some mode =>
      match turn.label config.session with
      | .error fault => .error (.badLabel fault)
      | .ok label => .ok (c.begin label turn, turn.request config.session mode)

/-- Moves on to a new generation, whose turn is in flight. -/
def launch (c : Controller) : Controller :=
  { c with
    generation := c.generation + 1, token := some (c.generation + 1), phase := .requesting }

/-- Submits a turn, one effect after another: what comes out is the request or the refusal, and the
controller as it stands by then. -/
def attempt (config : Assistant) (c : Controller) (turn : Turn) :
    Except SubmitError Request × Controller :=
  if c.phase = .requesting then (.error (.inFlight c.generation), c)
  else
    match Mode.ofName? turn.mode.plain with
    | none => (.error (.badMode turn.mode), c)
    | some mode =>
      match turn.label config.session with
      | .error fault => (.error (.badLabel fault), c)
      | .ok label =>
        -- the words are put down before the request is made
        let spoken := { c with
          session := (c.session.postUser label (turn.attachment.map Attachment.fileName)).1 }
        (.ok (turn.request config.session mode), spoken.launch)

/-- The text that answers a failure. -/
def failureText (messages : Messages) : FailureKind → String
  | .cancelled => messages.stopped
  | .quota => messages.quota
  | .parse => messages.parse
  | .other => messages.generic

/-- The phase in which a failed turn ends. -/
def failurePhase : FailureKind → Phase
  | .cancelled => .cancelled
  | _ => .failed

/-- Ends a turn of the current generation with a failure. -/
def fail (config : Assistant) (c : Controller) (kind : FailureKind) : Controller × Outcome :=
  let (session, message) :=
    c.session.postFailure kind (failureText config.session.messages kind)
  -- the turn is of the current generation, so this is its number
  let outcome : Outcome := ⟨failurePhase kind, c.generation, some message, some kind, false⟩
  ({ c with session, token := none, phase := .idle, last := some outcome }, outcome)

/-- The output of a result together with the job so far: the program that was supplied with a
replacement, or a compiled one. -/
def outputOf (config : Assistant) (ledger : Ledger) (mode : Mode) (analysis : Analysis) :
    Except ArithmeticError (Output Float) :=
  let ops := ledger.preview mode analysis.operation
  -- a program that comes along with an addition is passed over
  match mode, suppliedProgram? analysis.program with
  | .replace, some program => .ok ⟨program, analysis.explanation, ops, analysis.stock⟩
  | _, _ => Program.output config.compiler analysis.stock ops analysis.explanation

/-- Ends a turn of the current generation with an output. -/
def commit (c : Controller) (output : Output Float) : Controller × Outcome :=
  let session := { c.session with
    ledger := c.session.ledger.commit output.operations output.stock, output := some output }
  let (session, message) := session.postResult output
  let outcome : Outcome := ⟨.success, c.generation, some message, none, true⟩
  ({ c with session, token := none, phase := .idle, last := some outcome }, outcome)

/-- How a turn ends that leaves no answer in the transcript: one of an older generation, or one that
failed without a kind, of which nobody is told the outcome. -/
def stale (generation : Nat) : Outcome := ⟨.cancelled, generation, none, none, false⟩

/-- Ends a turn of the current generation that failed, when looking for the kind of its failure
fails as well: nothing is said about it. -/
def drop (c : Controller) : Controller × Outcome :=
  ({ c with token := none, phase := .idle }, stale c.generation)

/-- Ends a turn of the current generation. -/
def conclude (config : Assistant) (c : Controller) (mode : Mode) (reply : Reply) :
    Controller × Outcome :=
  match reply with
  | .aborted => c.fail config .cancelled
  | .failure failure =>
    match failure.kind with
    | .ok kind => c.fail config kind
    | .error _ => c.drop
  | .result analysis =>
    match outputOf config c.session.ledger mode analysis with
    -- the analyzer has succeeded, so the text of this error is not searched for a kind
    | .error _ => c.fail config .other
    | .ok output => c.commit output

/-- Takes the reply to a turn. -/
def finish (config : Assistant) (c : Controller) (generation : Nat) (mode : Mode) (reply : Reply) :
    Controller × Outcome :=
  if generation = c.generation then c.conclude config mode reply else (c, stale generation)

/-- Moves on to a new generation, without a turn in flight. -/
def withdraw (c : Controller) : Controller :=
  { c with generation := c.generation + 1, token := none, phase := .idle }

/-- Withdraws the turn in flight; says whether there was one. -/
def cancel (config : Assistant) (c : Controller) : Controller × Bool :=
  match c.phase, c.token with
  | .requesting, some generation =>
    -- the answer is put down here; the reply that still comes finds a newer generation
    let (session, message) :=
      c.session.postFailure .cancelled config.session.messages.stopped
    let outcome : Outcome := ⟨.cancelled, generation, some message, some .cancelled, false⟩
    ({ c.withdraw with session, last := some outcome }, true)
  | _, _ => (c, false)

/-- Withdraws the turn in flight, if there is one, and clears the session. -/
def reset (c : Controller) (stock : Option (Stock Float)) : Controller :=
  -- a generation is used up only where there is a turn to withdraw
  let moved := if c.token.isSome then c.withdraw else c
  { moved with session := c.session.reset stock, phase := .idle, last := none }

/-- A turn that is submitted step by step is refused or begun as a whole. -/
theorem attempt_eq (config : Assistant) (c : Controller) (turn : Turn) :
    c.attempt config turn =
      match c.submit config turn with
      | .error error => (.error error, c)
      | .ok (next, request) => (.ok request, next) := by
  unfold attempt submit
  by_cases hphase : c.phase = .requesting
  · rw [if_pos hphase, if_pos hphase]
  · rw [if_neg hphase, if_neg hphase]
    cases Mode.ofName? turn.mode.plain with
    | none => rfl
    | some mode => cases turn.label config.session <;> rfl

/-- A reply to a turn of another generation than the current one changes nothing. -/
theorem finish_of_ne (config : Assistant) (c : Controller) {generation : Nat} (mode : Mode)
    (reply : Reply) (h : generation ≠ c.generation) :
    c.finish config generation mode reply = (c, stale generation) := by
  simp [finish, h]

end Controller

end Machining.Session
