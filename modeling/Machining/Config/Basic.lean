import Machining.Program.Block

/-!
# Settings of the assistant

The settings say how programs are written and how a session talks: the stock that it begins with,
the prompts for turns without words, and the texts of its answers to failed turns.
-/

namespace Machining.Config

open Machining.Job Machining.Program

/-- The answers to turns without a result. -/
structure Messages where
  /-- The turn was withdrawn. -/
  stopped : String
  /-- The analyzer is used up. -/
  quota : String
  /-- The analyzer's answer is unusable. -/
  parse : String
  /-- Anything else. -/
  generic : String

/-- How a session begins and talks. -/
structure SessionSettings where
  /-- The model that is asked when a turn names none. -/
  defaultModel : String
  /-- The stock of a new session. -/
  defaultStock : Stock Float
  /-- The prompts for turns without words, by the media type of what comes with them. -/
  defaultPrompts : List (String × String)
  /-- The template for the transcript of a turn that only brings a file. -/
  uploadLabel : String
  /-- The answers to turns without a result. -/
  messages : Messages

/-- All settings. -/
structure Assistant where
  /-- How programs are written. -/
  compiler : Settings Float
  /-- How a session begins and talks. -/
  session : SessionSettings

/-- The media type under which the prompt for everything else is kept. -/
def fallbackKey : String := "fallback"

/-- The name that the upload label is filled in for. -/
def uploadKey : String := "file_name"

/-- The prompt for a turn without words: the one of its media type, or the one for everything
else. -/
def SessionSettings.defaultPrompt (settings : SessionSettings) (mediaType : Option String) :
    String :=
  let own := mediaType.bind fun media =>
    if media.isEmpty then none else settings.defaultPrompts.lookup media
  own.getD ((settings.defaultPrompts.lookup fallbackKey).getD "")

end Machining.Config
