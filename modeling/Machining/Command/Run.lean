import Machining.Command.Report
import Machining.Session.Notice
import Machining.Text.Search

/-!
# Running a command

`Action.run` carries a command out on a tree of files.  The first command compiles a job file; the
second one replays a session script, turn by turn, and hands out the last program.
-/

namespace Machining.Command

open Machining.Config Machining.Document Machining.Files Machining.Log Machining.Schema
  Machining.Session Machining.Text

/-! ## Compiling a job file -/

/-- The remark in front of the reason why an operation is skipped. -/
def skipMark : String := "; SKIPPED:"

/-- Hands out a compiled job of so many operations. -/
def deliverJob (arguments : Arguments) (count : Nat) (program : String) (report : Report) :
    Report :=
  -- counted in the text, where a material or a name may hold the mark as well
  let skips := occurrences program skipMark
  let noted :=
    if skips = 0 then report
    else report.remark
      [.note .compileJob [] .warning s!"{skips} operation(s) skipped; see SKIPPED comments"]
  if arguments.dryRun then
    noted.print s!"Compiled {lineCount program} lines from {count} operation(s)\n"
  else noted.deliver arguments.out program

/-- Compiles a job. -/
def jobReport (arguments : Arguments) (config : Assistant) (job : JobFile) (report : Report) :
    Report :=
  let count := job.operations.length
  let found := Program.notices config.compiler job.stock job.operations
  let noted := report.remark
    (.note .compileJob [] .info s!"Job contains {count} operation(s)" ::
      found.map fun notice => .note .compileJob [] .warning notice.text)
  match Program.output config.compiler job.stock job.operations job.explanation with
  | .error error => noted.crash (.arithmetic error)
  | .ok output => deliverJob arguments count output.text noted

/-! ## Replaying a session script -/

/-- The turn that a record is played back for. -/
def recordedTurn (record : TurnRecord) : Turn :=
  ⟨some record.prompt, none, none, .text record.mode.name⟩

/-- The answers of records. -/
def recordedAnswers (records : List TurnRecord) : List RawAnswer :=
  records.map fun record => .value (record.answer?.getD .null)

/-- The line that tells how a turn ended. -/
def turnLine (record : TurnRecord) (outcome : Outcome) : String :=
  s!"[{outcome.generation}] " ++ Layout.padRight 10 record.mode.name ++ " " ++
    Layout.padRight 9 outcome.phase.name ++ " " ++
      ((outcome.message.map (·.text)).getD "") ++ "\n"

/-- Says what there is to say about a turn. -/
def noteTurn (config : Assistant) (ledger : Ledger) (answers : List RawAnswer) (played : Played)
    (report : Report) : Report :=
  let fields : Fields := [(.text "turn", .int played.controller.generation)]
  report.remark ((played.notices config ledger answers).map fun notice =>
    .note .runSession fields notice.level notice.text)

/-- Replays turns one after another and ends with the session after the last of them. -/
def replayTurns (config : Assistant) (c : Controller) :
    List TurnRecord → Report → Report × Except SubmitError Conversation
  | [], report => (report, .ok c.session)
  | record :: rest, report =>
    let answers := recordedAnswers (record :: rest)
    let played := playTurn config c answers (recordedTurn record)
    let noted := noteTurn config c.session.ledger answers played report
    match played.result with
    -- a turn that is refused ends the replay
    | .error error => (noted, .error error)
    | .ok outcome =>
      replayTurns config played.controller rest (noted.print (turnLine record outcome))

/-- Hands out the last program of a session. -/
def deliverSession (arguments : Arguments) (session : Conversation) (report : Report) : Report :=
  match session.output with
  | none => report.complain "No turn produced a program." 1
  | some output =>
    (report.print s!"Job holds {session.ledger.operations.length} operation(s)\n").deliver
      arguments.out output.text

/-- The notice that the turns begin to be played. -/
def playing : Remark := .note .runSession [] .debug "Using selector: EpollSelector"

/-- Replays a session. -/
def sessionReport (arguments : Arguments) (config : Assistant) (records : List TurnRecord)
    (report : Report) : Report :=
  let start := Controller.new (Conversation.new config.session.defaultStock)
  match replayTurns config start records (report.remark [playing]) with
  | (played, .error error) => played.crash (.turn error)
  | (played, .ok session) => deliverSession arguments session played

/-! ## Both commands -/

/-- Carries a command out with its words on a tree of files. -/
def Action.run (command : Action) (words : List String) (tree : Tree) : Report :=
  runWith command words tree fun arguments report =>
    withSettings command arguments report fun config report =>
      match command with
      | .compileJob => withFile "job file" readJob arguments report (jobReport arguments config)
      | .runSession =>
        withFile "session script" readScript arguments report (sessionReport arguments config)

end Machining.Command
