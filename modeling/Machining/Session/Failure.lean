import Machining.Session.Incident
import Machining.Text.Search
import Machining.Text.Utf8

/-!
# Failures of a turn

A turn that ends without a result fails in one of four kinds.  An analyzer may say the kind itself,
or report that it stopped because the turn was withdrawn; of anything else the kind is guessed from
its text: `"429"` or `"quota"` anywhere is a quota failure, otherwise `"JSON"` is an unusable
answer.  Where there is no such text, because what went wrong cannot be written, no kind can be
told.

* `kindOfText` is that guess.
* `Failure.kind` is the kind of any failure.
-/

namespace Machining.Session

open Machining.Document Machining.Json Machining.Text

/-- Why a turn ended without a result. -/
inductive FailureKind where
  /-- The turn was withdrawn. -/
  | cancelled
  /-- The analyzer is used up for now. -/
  | quota
  /-- The analyzer's answer is unusable. -/
  | parse
  /-- Anything else. -/
  | other
  deriving DecidableEq

namespace FailureKind

/-- All kinds. -/
def all : List FailureKind := [cancelled, quota, parse, other]

/-- The name of a kind. -/
def name : FailureKind → String
  | cancelled => "cancelled"
  | quota => "quota"
  | parse => "parse"
  | other => "other"

/-- The kind of a name, or the complaint about it. -/
def ofName (text : String) : Except String FailureKind :=
  match all.find? fun kind => kind.name == text with
  | some kind => .ok kind
  | none => .error (quoted text ++ " is not a valid FailureKind")

end FailureKind

/-- How the analysis of a turn may fail. -/
inductive Failure where
  /-- The analyzer saw that the turn is withdrawn. -/
  | withdrawn
  /-- The analyzer says what kind of failure it is. -/
  | stated (kind : FailureKind) (message : String)
  /-- Something else went wrong. -/
  | incident (event : Incident)

/-- A failure that states its kind; without a message the name of the kind stands for it. -/
def Failure.state (kind : FailureKind) (message : String) : Failure :=
  .stated kind (if message.isEmpty then kind.name else message)

/-- The kind that a text speaks of. -/
def kindOfText (text : String) : FailureKind :=
  if holds text "429" || holds text "quota" then .quota
  else if holds text "JSON" then .parse
  else .other

/-- The text that a payload is searched by, where there is room for so many levels: a list or a
mapping is written as JSON with sorted keys, bytes are read as a text, and anything else is as it
shows itself. -/
def payloadText (room : Nat) : Value → Except StrictError String
  | .bytes data => .ok (Utf8.decodeLossy data)
  | .list items => writeStrict (.list items) room
  | .tuple items => writeStrict (.tuple items) room
  | .mapping entries => writeStrict (.mapping entries) room
  | other => (other.plain? room).mapError .size

/-- The kind that a payload speaks of. -/
def kindOfPayload (room : Nat) (payload : Value) : Except StrictError FailureKind :=
  (payloadText room payload).map kindOfText

namespace Failure

/-- The kind of a failure, unless it cannot be told. -/
def kind : Failure → Except StrictError FailureKind
  | withdrawn => .ok .cancelled
  | stated kind _ => .ok kind
  | incident event => event.text.map kindOfText

/-- The words of a failure. -/
def message : Failure → String
  | withdrawn => ""
  | stated _ message => message
  | incident event => event.message

end Failure

end Machining.Session
