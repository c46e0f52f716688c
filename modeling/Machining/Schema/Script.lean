import Machining.Schema.Field
import Machining.Session.Mode

/-!
# Session scripts

A session script lists turns that were recorded: what the user said, in which mode, and either the
result or the error that came of it.
-/

namespace Machining.Schema

open Machining.Document Machining.Session

/-- A turn as it was recorded. -/
structure TurnRecord where
  /-- What the user said. -/
  prompt : String
  /-- The mode of the turn. -/
  mode : Mode
  /-- The result. -/
  result : Option Entries
  /-- The error. -/
  error : Option Entries

/-- What a turn is answered with: the error, if there is one, and otherwise the result. -/
def TurnRecord.answer? (turn : TurnRecord) : Option Value :=
  match turn.error with
  | some error => some (Value.ofFields [("error", .mapping error)])
  | none => turn.result.map .mapping

/-- Reads a mode. -/
def mode : Reader Mode := fun value =>
  match Mode.ofValue value with
  | .ok mode => .valid mode
  | .error _ => .fail .refused

/-- Reads a turn. -/
def turnRecord : Reader TurnRecord :=
  record fun entries =>
    TurnRecord.mk <$> defaulted entries "prompt" "" text
      <*> defaulted entries "mode" .accumulate mode
      <*> defaulted entries "result" none (nullable mapping)
      <*> defaulted entries "error" none (nullable mapping)

/-- Reads the turns, of which there is at least one. -/
def turnRecords : Reader (List TurnRecord) := fun value =>
  match list turnRecord value with
  | .valid [] => .fail .tooShort
  | found => found

/-- Reads a script. -/
def script : Reader (List TurnRecord) :=
  record fun entries => required entries "turns" turnRecords

end Machining.Schema
