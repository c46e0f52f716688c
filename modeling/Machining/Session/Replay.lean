import Machining.Session.Controller

/-!
# Replaying recorded answers

Instead of asking an analyzer, a session may play back records, one for each turn.  A record is an
answer, or it says how the turn failed.
-/

namespace Machining.Session

open Machining.Config Machining.Document Machining.Numeric Machining.Text

/-- What entries of a record say about how its turn failed. -/
def statedFailure (entries : Entries) : Except SizeError Failure := do
  let kindText ← ((Entries.get? (.text "kind") entries).getD (.text "other")).plain? stackRoom
  -- the message is looked at only under a kind that is known
  match FailureKind.ofName (lower kindText) with
  | .ok kind =>
    let message ← ((Entries.get? (.text "message") entries).getD (.text "")).plain? stackRoom
    return .state kind message
  | .error complaint => return .incident (.ofText "UnknownKind" complaint)

/-- What entries of a record say, or that they are too large to be written. -/
def saidFailure (entries : Entries) : Failure :=
  match statedFailure entries with
  | .ok failure => failure
  | .error error => .incident (.ofText "SizeError" error.message)

/-- What is wrong with a record that has an error. -/
def recordedFailure (error : Value) : Failure :=
  -- whatever counts as empty is an error without entries, also an empty text or list
  let fields : Value := if error.isEmpty then .mapping [] else error
  match fields.entries? with
  | some entries => saidFailure entries
  | none =>
    .incident (.ofText "NoAccess" ("'" ++ fields.typeName ++ "' object has no attribute 'get'"))

/-- What a record says about how its turn failed. -/
def recordedError? : RawAnswer → Option Value
  | .value value => value.field? "error"
  | _ => none

/-- The reply that a record stands for. -/
def recordedReply (record : RawAnswer) : Reply :=
  -- an entry `error` decides, whatever else the record holds
  match recordedError? record with
  | some error => .failure (recordedFailure error)
  | none =>
    match Analysis.read record with
    | .ok analysis => .result analysis
    | .error rejection => .failure rejection.failure

/-- The reply when no record is left. -/
def noRecord : Reply := .failure (.state .other "no recorded result left to replay")

/-- Takes the reply to the next turn off the records. -/
def nextReply : List RawAnswer → Reply × List RawAnswer
  | [] => (noRecord, [])
  | record :: rest => (recordedReply record, rest)

/-- What a turn that is played back leaves behind. -/
structure Played where
  /-- The controller after the turn. -/
  controller : Controller
  /-- The records that are left. -/
  records : List RawAnswer
  /-- How the turn ended, or why it was refused. -/
  result : Except SubmitError Outcome
  /-- What would have been asked. -/
  request : Option Request
  /-- The reply to the turn. -/
  reply : Option Reply

/-- Plays one turn back. -/
def playTurn (config : Assistant) (c : Controller) (records : List RawAnswer) (turn : Turn) :
    Played :=
  match c.submit config turn with
  | .error error => ⟨c, records, .error error, none, none⟩
  | .ok (begun, request) =>
    let (reply, rest) := nextReply records
    let (controller, outcome) := begun.finish config begun.generation request.mode reply
    ⟨controller, rest, .ok outcome, some request, some reply⟩

/-- Plays turns back one after another. -/
def play (config : Assistant) (c : Controller) (records : List RawAnswer) :
    List Turn → List Played
  | [] => []
  | turn :: rest =>
    let played := playTurn config c records turn
    played :: play config played.controller played.records rest

end Machining.Session
