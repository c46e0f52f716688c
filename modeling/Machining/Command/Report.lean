import Machining.Command.Arguments
import Machining.Config.Filed
import Machining.Files.Text
import Machining.Log.Record
import Machining.Schema.Filed
import Machining.Session.Controller

/-!
# What a command leaves behind

A command works on a tree of files and gives a report: the files afterwards, what is printed, what
is remarked beside that, and how the command ended.
-/

namespace Machining.Command

open Machining.Document Machining.Files Machining.Log Machining.Numeric

/-- Why a command broke off without an answer of its own. -/
inductive Crash where
  /-- The level of notices was given without a value. -/
  | noLevel
  /-- A file was given without a value. -/
  | noPath
  /-- There is no such level of notices. -/
  | level (error : LevelError)
  /-- The settings cannot be handled. -/
  | settings (error : Config.LoadError)
  /-- The file cannot be handled. -/
  | file (error : Schema.FileError)
  /-- The program cannot be computed. -/
  | arithmetic (error : ArithmeticError)
  /-- A turn was refused. -/
  | turn (error : Session.SubmitError)
  /-- The program cannot be written. -/
  | write (error : WriteError)

/-- The wording of a crash. -/
def Crash.message : Crash → String
  | noLevel => "'list' object has no attribute 'upper'"
  | noPath => "expected str, bytes or os.PathLike object, not list"
  | level error => error.message
  | settings error => error.message
  | file error => error.message
  | arithmetic error => error.message
  | turn error => error.message
  | write error => error.message

/-- How a command ended. -/
inductive Ending where
  /-- It came to its end with a status; zero is success. -/
  | status (code : Nat)
  /-- It broke off. -/
  | crash (why : Crash)

/-- Something that is said beside the output. -/
inductive Remark where
  /-- A record of the log with the fields that hold for it. -/
  | record (fields : Fields) (record : Record)
  /-- A complaint to the user. -/
  | complaint (text : String)

/-- What a command leaves behind. -/
structure Report where
  /-- The files. -/
  tree : Tree
  /-- What is printed. -/
  output : String
  /-- What is remarked. -/
  remarks : List Remark
  /-- How the command ended. -/
  ending : Ending

/-- A remark that is a record of a command, with further fields. -/
def Remark.note (command : Action) (more : Fields) (level : Level) (text : String) : Remark :=
  .record (Fields.push [(.text "app", .text command.name)] more)
    ⟨command.name, level, text, [], none⟩

namespace Report

/-- The report of a command that has done nothing so far. -/
def start (tree : Tree) : Report := ⟨tree, "", [], .status 0⟩

/-- Prints a text. -/
def print (report : Report) (text : String) : Report :=
  { report with output := report.output ++ text }

/-- Adds remarks. -/
def remark (report : Report) (remarks : List Remark) : Report :=
  { report with remarks := report.remarks ++ remarks }

/-- Ends with a status. -/
def exit (report : Report) (code : Nat) : Report := { report with ending := .status code }

/-- Ends with a complaint. -/
def complain (report : Report) (text : String) (code : Nat) : Report :=
  (report.remark [.complaint text]).exit code

/-- Breaks off. -/
def crash (report : Report) (why : Crash) : Report := { report with ending := .crash why }

/-- Writes a program to a file, or prints it if there is none. -/
def deliver (report : Report) (out : Option String) (program : String) : Report :=
  match out with
  | none => report.print program
  | some name =>
    match writeText report.tree (.ofText name) program standardCharset with
    | (tree, none) => { report with tree }.print s!"Program written to {name}\n"
    | (tree, some error) => { report with tree }.crash (.write error)

/-- Drops the records below a level. -/
def hear (report : Report) (threshold : Level) : Report :=
  { report with
    remarks := report.remarks.filter fun
      | .record _ record => record.level.passes threshold
      | .complaint _ => true }

end Report

/-! ## Steps that all commands share -/

/-- Whether the user is told about settings that could not be loaded; otherwise the command breaks
off. -/
def isReported : Config.LoadError → Bool
  | .noFile _ => true
  | .document (.noFile _) | .document (.malformed ..) => true
  | .document _ => false
  | .settings (.refused _) => true
  | .settings _ => false

/-- Whether the user is told about a file that could not be read; otherwise the command breaks
off. -/
def isReportedFile : Schema.FileError → Bool
  | .document (.noFile _) | .document (.malformed ..) => true
  | .document _ => false
  | .invalid .. | .unanswered _ => true

/-- Loads the settings and goes on with them. -/
def withSettings (command : Action) (arguments : Arguments) (report : Report)
    (next : Config.Assistant → Report → Report) : Report :=
  if arguments.config = some none then report.crash .noPath
  else
    match Config.load report.tree ((arguments.config.getD none).map Path.ofText) with
    | .ok config =>
      next config (report.remark
        [.note command [] .info "Configuration loaded successfully"])
    | .error error =>
      if isReported error then report.complain ("Error loading config: " ++ error.message) 1
      else report.crash (.settings error)

/-- Goes on with what a file holds, or tells why it holds nothing. -/
def withFile {α : Type} (what : String) (read : Tree → Path → Except Schema.FileError α)
    (arguments : Arguments) (report : Report) (next : α → Report → Report) : Report :=
  match arguments.file with
  | none => report.crash .noPath
  | some name =>
    match read report.tree (.ofText name) with
    | .ok value => next value report
    | .error error =>
      if isReportedFile error then
        report.complain (s!"Error loading {what}: " ++ error.message) 1
      else report.crash (.file error)

/-- Runs a command on its arguments; notices below the level that they name are dropped. -/
def runWith (command : Action) (words : List String) (tree : Tree)
    (run : Arguments → Report → Report) : Report :=
  let report := Report.start tree
  match command.read words with
  | .error error => report.complain (s!"{command.name}: error: " ++ error.message) 2
  -- asked how it is used, the command does nothing else
  | .ok none => report
  | .ok (some arguments) =>
    match arguments.logLevel.map Level.ofName with
    | none => report.crash .noLevel
    | some (.error error) => report.crash (.level error)
    | some (.ok threshold) => (run arguments report).hear threshold

end Machining.Command
