import Machining.Program.Compile
import Machining.Session.Failure
import Machining.Session.Ledger

/-!
# Sessions and their transcript

A session is a conversation: the ledger of its job, the program that was last compiled, and the
messages so far.  Messages are numbered from one over the whole life of the session, also across
resets.
-/

namespace Machining.Session

open Machining.Job Machining.Program Machining.Text

/-- Who speaks. -/
inductive Role where
  /-- The user. -/
  | user
  /-- The assistant. -/
  | assistant
  deriving DecidableEq

namespace Role

/-- The name of a role. -/
def name : Role → String
  | user => "user"
  | assistant => "assistant"

/-- The role of a name, or the complaint about it. -/
def ofName (text : String) : Except String Role :=
  match [user, assistant].find? fun role => role.name == text with
  | some role => .ok role
  | none => .error (quoted text ++ " is not a valid Role")

end Role

/-- One message of a transcript. -/
structure Message where
  /-- The number of the message in its session. -/
  number : Nat
  /-- Who speaks. -/
  role : Role
  /-- What is said. -/
  text : String
  /-- The name of the file that came with it. -/
  attachment : Option String
  /-- The output that a successful turn answers with. -/
  result : Option (Output Float)
  /-- The kind of failure that a failed turn answers with. -/
  failure : Option FailureKind

/-- The name of a message. -/
def Message.label (message : Message) : String := s!"msg-{message.number}"

/-- The messages of a session with the job that they have come to. -/
structure Conversation where
  /-- The stock that it begins with. -/
  defaultStock : Stock Float
  /-- The job so far. -/
  ledger : Ledger
  /-- The last output. -/
  output : Option (Output Float)
  /-- The messages since the last reset. -/
  messages : List Message
  /-- How many messages there have ever been. -/
  posted : Nat

namespace Conversation

/-- A new conversation. -/
def new (stock : Stock Float) : Conversation := ⟨stock, Ledger.empty stock, none, [], 0⟩

/-- The message that comes next. -/
def nextMessage (talk : Conversation) (role : Role) (text : String) : Message :=
  ⟨talk.posted + 1, role, text, none, none, none⟩

/-- Adds a message with the next number. -/
def post (talk : Conversation) (message : Message) : Conversation :=
  { talk with messages := talk.messages ++ [message], posted := talk.posted + 1 }

/-- Adds what the user says. -/
def postUser (talk : Conversation) (text : String) (attachment : Option String) :
    Conversation × Message :=
  let message := { talk.nextMessage .user text with attachment }
  (talk.post message, message)

/-- Adds the answer to a successful turn. -/
def postResult (talk : Conversation) (output : Output Float) : Conversation × Message :=
  let message := { talk.nextMessage .assistant output.explanation with result := some output }
  (talk.post message, message)

/-- Adds the answer to a failed turn. -/
def postFailure (talk : Conversation) (kind : FailureKind) (text : String) :
    Conversation × Message :=
  let message := { talk.nextMessage .assistant text with failure := some kind }
  (talk.post message, message)

/-- Clears the job, the output and the messages; the stock is the given one or that of the
beginning. -/
def reset (talk : Conversation) (stock : Option (Stock Float)) : Conversation :=
  -- the count of messages goes on, so that no number comes twice
  { talk with
    ledger := Ledger.empty (stock.getD talk.defaultStock), output := none, messages := [] }

end Conversation

end Machining.Session
