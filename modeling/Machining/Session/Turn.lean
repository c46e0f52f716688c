import Machining.Config.Basic
import Machining.Session.Mode
import Machining.Text.Template

/-!
# Turns and requests

A turn is what the user submits: some words, perhaps a file, a model and a mode.  From it come the
words for the transcript and the request for the analyzer.
-/

namespace Machining.Session

open Machining.Config Machining.Document Machining.Text

/-- A file that comes with a turn. -/
structure Attachment where
  /-- What is in the file. -/
  data : String
  /-- Its media type. -/
  mediaType : String
  /-- Its name. -/
  fileName : String
  deriving DecidableEq

/-- What the user submits. -/
structure Turn where
  /-- The words. -/
  prompt : Option String
  /-- A file. -/
  attachment : Option Attachment
  /-- The model that is to be asked. -/
  model : Option String
  /-- The name of the mode. -/
  mode : Value

/-- What the analyzer is asked. -/
structure Request where
  /-- The words. -/
  prompt : String
  /-- The file. -/
  attachment : Option Attachment
  /-- The model. -/
  model : String
  /-- The mode. -/
  mode : Mode
  deriving DecidableEq

namespace Turn

/-- The words without blanks around them. -/
def words (turn : Turn) : String := trim (turn.prompt.getD "")

/-- What the transcript shows of a turn: its words, or the label of its file. -/
def label (settings : SessionSettings) (turn : Turn) : Except Template.Fault String :=
  if !turn.words.isEmpty then .ok turn.words
  else
    match turn.attachment with
    | some file => Template.fill settings.uploadLabel uploadKey file.fileName
    | none => .ok "..."

/-- The request of a turn in a mode.  A turn without words asks the default prompt when it adds to
the job. -/
def request (settings : SessionSettings) (turn : Turn) (mode : Mode) : Request where
  prompt :=
    if turn.words.isEmpty ∧ mode = .accumulate then
      settings.defaultPrompt (turn.attachment.map (·.mediaType))
    else turn.words
  attachment := turn.attachment
  model := (turn.model.filter fun model => !model.isEmpty).getD settings.defaultModel
  mode := mode

end Turn

end Machining.Session
