import Machining.Document.Shown
import Machining.Text.Blank
import Machining.Text.Case

/-!
# Modes of a turn

A turn either adds its operation to the job or puts it in the place of the whole job.  Both modes
have two names, which are compared without blanks around them and in lower case.
-/

namespace Machining.Session

open Machining.Document Machining.Text

/-- What a turn does to the job. -/
inductive Mode where
  /-- The new operation comes after the others. -/
  | accumulate
  /-- The new operation is the whole job. -/
  | replace
  deriving DecidableEq

namespace Mode

/-- The name of a mode. -/
def name : Mode → String
  | accumulate => "accumulate"
  | replace => "replace"

/-- The mode of a name. -/
def ofName? (text : String) : Option Mode :=
  match lower (trim text) with
  | "accumulate" => some accumulate
  | "generate" => some accumulate
  | "replace" => some replace
  | "optimize" => some replace
  | _ => none

/-- The complaint about a value that names no mode. -/
def complaint (value : Value) : String :=
  "mode must be one of accumulate, replace, generate, optimize; got " ++ value.shown

/-- Reads a mode, or complains about the value. -/
def ofValue (value : Value) : Except String Mode :=
  match ofName? value.plain with
  | some mode => .ok mode
  | none => .error (complaint value)

end Mode

end Machining.Session
