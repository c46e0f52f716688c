import Machining.Files.Document
import Machining.Schema.Job
import Machining.Schema.Script

/-!
# Jobs and scripts in files

Reading a job or a session script from a file of a tree.  An empty document counts as an empty
record.
-/

namespace Machining.Schema

open Machining.Document Machining.Files

/-- What a file is read as. -/
inductive FileKind where
  /-- A job. -/
  | job
  /-- A session script. -/
  | script
  deriving DecidableEq

/-- The name of a kind of file in messages. -/
def FileKind.text : FileKind → String
  | job => "Job file"
  | script => "Session script"

/-- The name of the record in a kind of file. -/
def FileKind.recordName : FileKind → String
  | job => "JobFileV1"
  | script => "SessionScriptV1"

/-- Why a file does not hold what it should. -/
inductive FileError where
  /-- It holds no document. -/
  | document (error : DocumentError)
  /-- The document does not have the shape. -/
  | invalid (kind : FileKind) (path : Path) (issues : List Issue)
  /-- A turn of a script has neither a result nor an error. -/
  | unanswered (path : Path)

/-- The wording of a file error. -/
def FileError.message : FileError → String
  | document error => error.message
  | invalid kind path issues =>
    s!"{kind.text} validation failed at {path.text}: " ++ issueSummary issues kind.recordName
  | unanswered path =>
    s!"{FileKind.text .script} validation failed at {path.text}: " ++
      "turn needs either 'result' or 'error'"

/-- Reads the record of a file. -/
def readRecord {α : Type} (kind : FileKind) (read : Reader α) (tree : Tree) (path : Path) :
    Except FileError α := do
  let document ← (readDocument tree path).mapError .document
  -- whatever counts as empty, also a zero or an empty list
  let given := if document.isEmpty then .mapping [] else document
  (read given).toExcept.mapError (.invalid kind path)

/-- Reads a job from a file. -/
def readJob (tree : Tree) (path : Path) : Except FileError JobFile :=
  readRecord .job jobFile tree path

/-- Reads a session script from a file; every turn has an answer. -/
def readScript (tree : Tree) (path : Path) : Except FileError (List TurnRecord) := do
  let turns ← readRecord .script script tree path
  if turns.all fun turn => turn.answer?.isSome then return turns else throw (.unanswered path)

end Machining.Schema
