import Machining.Command.Run
import Machining.Log.Stamp
import Std.Time.DateTime.Timestamp

/-!
# The program

The first word of the command line names the command.  The files that the command is told about are
read into a tree, the command is carried out on the tree, and what it changed there is written
back.
-/

namespace Machining

open Command Files Log

/-- What lies under a name outside; what cannot be read as a file counts as a directory. -/
def peek (name : String) : IO (Option Entry) := do
  try
    let bytes ← IO.FS.readBinFile name
    return some (.file bytes.toList)
  catch
    | .noFileOrDirectory .. => return none
    | _ => return some .directory

/-- The tree of the files that a command is told about. -/
def gather (arguments : Arguments) : IO Tree := do
  let mut tree := Tree.empty
  let files := arguments.file.toList ++ (arguments.config.getD none).toList
  for name in files ++ arguments.out.toList do
    if let some entry ← peek name then
      tree := tree.insert (Path.ofText name).straight entry
  return tree

/-- Replaces a file outside in one step. -/
def store (path : Path) (bytes : List UInt8) : IO Unit := do
  let staging := path.text ++ stagingSuffix
  IO.FS.createDirAll path.parent.text
  IO.FS.writeBinFile staging ⟨bytes.toArray⟩
  IO.FS.rename staging path.text

/-- Writes back what is different in a tree. -/
def writeBack (old new : Tree) : IO Unit := do
  for (path, entry) in new.entries do
    if let .file bytes := entry then
      if old.find? path ≠ some entry then store path bytes

/-- The present instant. -/
def now : IO Instant := do
  let millis := (← Std.Time.Timestamp.now).toMillisecondsSinceUnixEpoch.val
  return ⟨millis / 1000, (millis % 1000).toNat * 1000⟩

/-- The text of a remark at an instant. -/
def remarkText (instant : Instant) : Remark → String
  | .complaint text => text
  | .record fields record =>
    let stamp := (instant.stamp .utc).toOption.getD ""
    (Layout.human.line stamp fields record).toOption.getD ""

/-- Shows a report and gives the status of the program. -/
def present (report : Report) : IO UInt32 := do
  let instant ← now
  for remark in report.remarks do
    IO.eprintln (remarkText instant remark)
  IO.print report.output
  match report.ending with
  | .status code => return code.toUInt32
  | .crash why => do
    IO.eprintln why.message
    return 1

/-- Carries out a command. -/
def perform (command : Action) (words : List String) : IO UInt32 := do
  let tree ← match command.read words with
    | .ok (some arguments) => gather arguments
    | _ => pure Tree.empty
  let report := command.run words tree
  writeBack tree report.tree
  present report

end Machining

/-- Carries out the command that the first word names. -/
def main (words : List String) : IO UInt32 := do
  match words with
  | name :: rest =>
    match Machining.Command.Action.ofName? name with
    | some command => Machining.perform command rest
    | none => do
      IO.eprintln ("unknown command: " ++ name)
      return 2
  | [] => do
    IO.eprintln "a command is needed: compile_job or run_session"
    return 2
