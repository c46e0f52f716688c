import Machining.Log.Record
import Machining.Program.Notice
import Machining.Session.Replay

/-!
# Notices about a turn

`Played.notices` lists what there is to say about a turn that is played back, from its beginning to
its end.
-/

namespace Machining.Session

open Machining.Config Machining.Job Machining.Log Machining.Program

/-- Something worth saying about a turn. -/
inductive Notice where
  /-- The turn begins. -/
  | started (mode : Mode) (model : String)
  /-- A recorded result is played back. -/
  | replaying (generation : Nat)
  /-- Something about the compilation of the job. -/
  | program (notice : Program.Notice)
  /-- The ledger holds a new job. -/
  | ledgerSize (count : Nat)
  /-- The turn is committed. -/
  | committed (count : Nat)
  /-- The analyzer saw that the turn is withdrawn. -/
  | stopped
  /-- The analyzer is used up for now. -/
  | exhausted (message : String)
  /-- The analyzer's answer is unusable. -/
  | unusable (message : String)
  /-- The turn failed otherwise. -/
  | failed (message : String)
  deriving DecidableEq

namespace Notice

/-- How serious a notice is. -/
def level : Notice → Level
  | started .. | committed _ | stopped => .info
  | replaying _ | ledgerSize _ => .debug
  | program _ | exhausted _ | unusable _ => .warning
  | failed _ => .error

/-- The wording of a notice. -/
def text : Notice → String
  | started mode model => s!"Turn started (mode={mode.name}, model={model})"
  | replaying generation => s!"Replaying recorded result for turn {generation}"
  | program notice => notice.text
  | ledgerSize count => s!"Ledger now holds {count} operation(s)"
  | committed count => s!"Turn committed; job holds {count} operation(s)"
  | stopped => "Analyzer stopped on its cancel token"
  | exhausted message => "Analyzer quota exhausted: " ++ message
  | unusable message => "Analyzer result unusable: " ++ message
  | failed message => "Turn failed: " ++ message

/-- The notice about a failure of a kind. -/
def ofFailure (failure : Failure) : FailureKind → Notice
  | .cancelled => stopped
  | .quota => exhausted failure.message
  | .parse => unusable failure.message
  | .other => failed failure.message

end Notice

/-- The notices about compiling the job of a result; a program that came along with a replacement
is not compiled. -/
def compileNotices (config : Assistant) (ops : List (Operation Float)) (mode : Mode)
    (analysis : Analysis) : List Notice :=
  match mode, suppliedProgram? analysis.program with
  | .replace, some _ => []
  | _, _ => (Program.notices config.compiler analysis.stock ops).map .program

/-- The notices about the reply to a turn that meets a ledger. -/
def Reply.notices (config : Assistant) (ledger : Ledger) (mode : Mode) : Reply → List Notice
  | .aborted => [.stopped]
  | .failure cause =>
    match cause.kind with
    | .ok kind => [.ofFailure cause kind]
    | .error _ => []
  | .result analysis =>
    let ops := ledger.preview mode analysis.operation
    compileNotices config ops mode analysis ++
      match Controller.outputOf config ledger mode analysis with
      -- nothing is said of the ledger before it changes
      | .ok _ => [.ledgerSize ops.length, .committed ops.length]
      | .error error => [.failed error.message]

/-- The notices about a turn that was played back, given the ledger and the records before it. -/
def Played.notices (config : Assistant) (ledger : Ledger) (records : List RawAnswer)
    (played : Played) : List Notice :=
  match played.request, played.reply with
  | some request, some reply =>
    let generation := played.controller.generation
    .started request.mode request.model ::
      ((match records.head? with
          | some record =>
            if (recordedError? record).isSome then [] else [.replaying generation]
          | none => []) ++ reply.notices config ledger request.mode)
  | _, _ => []

end Machining.Session
