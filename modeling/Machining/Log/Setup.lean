import Machining.Files.Tree
import Machining.Log.Record
import Machining.Log.Stamp
import Machining.Text.Charset

/-!
# Setting up a log

A log is where records go: to the console and into a file.  It may be set up again at any time,
which replaces what it was before.  Loggers have dotted names; a logger without a level of its own
takes that of the nearest one above it that has one, and at last that of the log.

* `Journal.setUp` sets a log up.
* `Journal.emit` writes a record wherever it belongs.
-/

namespace Machining.Log

open Machining.Document Machining.Files Machining.Text

/-- How a log is to be set up. -/
structure Options where
  /-- The name of the level from which on records count. -/
  level : String
  /-- The file that records are written to. -/
  file : Option String
  /-- Whether the file holds JSON. -/
  jsonLines : Bool
  /-- Whether records go to the console. -/
  console : Bool
  /-- The zone of the stamps. -/
  zone : Zone
  /-- Loggers that are to be heard only from a warning on. -/
  quiet : List String
  /-- Fields to begin with. -/
  fields : Fields

/-- A log as it is set up where nothing else is said. -/
def Options.standard : Options := ⟨"INFO", none, false, true, .utc, [], []⟩

/-- Where a handler writes to. -/
inductive Target where
  /-- The console. -/
  | console
  /-- A file. -/
  | file (path : Path)
  deriving DecidableEq

/-- Something that writes records. -/
structure Handler where
  /-- Where it writes to. -/
  target : Target
  /-- How it writes. -/
  layout : Layout
  /-- The zone of its stamps. -/
  zone : Zone
  deriving DecidableEq

/-- The state of a log. -/
structure Journal where
  /-- What writes records. -/
  handlers : List Handler
  /-- The level from which on records count. -/
  level : Level
  /-- Levels of single loggers. -/
  levels : List (String × Level)
  /-- The fields. -/
  fields : Fields
  /-- The files. -/
  tree : Tree
  /-- What was written to the console. -/
  console : List String

/-- Why a log cannot be set up. -/
inductive SetupError where
  /-- There is no such level. -/
  | level (error : LevelError)
  /-- The file cannot be written. -/
  | file (error : IoError)
  /-- The path of the file cannot be used. -/
  | path (fault : Path.Fault)

/-- The wording of a setup error. -/
def SetupError.message : SetupError → String
  | level error => error.message
  | file error => error.message
  | path fault => fault.message

namespace Journal

/-- A log that was never set up, over some files. -/
def new (tree : Tree) : Journal := ⟨[], .warning, [], [], tree, []⟩

/-- The name of the logger that stands above all others. -/
def rootName : String := "root"

/-- Whether a name is that of the logger above all others. -/
def isRoot (name : String) : Bool := name.isEmpty || name == rootName

/-- Gives a logger a level of its own. -/
def setLevel (log : Journal) (name : String) (level : Level) : Journal :=
  if isRoot name then { log with level }
  else { log with levels := (name, level) :: log.levels }

/-- Opens the file of a log: the files afterwards, and the handler. -/
def openFile (tree : Tree) (options : Options) (name : String) :
    Tree × Except SetupError Handler :=
  let path := Path.ofText name
  match path.parent.fault?, path.fault? with
  | some fault, _ => (tree, .error (.path fault))
  | none, fault =>
    -- the directory is made before the path of the file itself is looked at
    match tree.makeDirectories path.parent, fault with
    | (made, some error), _ => (made, .error (.file error))
    | (made, none), some fault => (made, .error (.path fault))
    | (made, none), none =>
      match made.openToAppend path.straight with
      | .error error => (made, .error (.file error))
      | .ok opened =>
        let layout := if options.jsonLines then Layout.json else .human
        (opened, .ok ⟨.file path.straight, layout, options.zone⟩)

/-- The handler of a log for the console. -/
def consoleHandlers (options : Options) : List Handler :=
  if options.console then [⟨.console, .human, options.zone⟩] else []

/-- Installs handlers and levels, and adds the fields. -/
def install (log : Journal) (options : Options) (handlers : List Handler) : Journal :=
  let leveled :=
    options.quiet.foldl (fun log name => log.setLevel name .warning) { log with handlers }
  { leveled with fields := leveled.fields.push options.fields }

/-- Sets a log up.  What it was before is removed first, and that stays so when something is
wrong. -/
def setUp (log : Journal) (options : Options) : Journal × Option SetupError :=
  let cleared := { log with handlers := [] }
  match Level.ofName options.level with
  | .error error => (cleared, some (.level error))
  | .ok level =>
    -- the level is set before the file is opened, and stays when that fails
    let leveled := { cleared with level }
    match options.file.filter fun name => !name.isEmpty with
    | none => (leveled.install options (consoleHandlers options), none)
    | some name =>
      match openFile log.tree options name with
      | (tree, .error error) => ({ leveled with tree }, some error)
      | (tree, .ok handler) =>
        ({ leveled with tree }.install options (consoleHandlers options ++ [handler]), none)

/-! ## Writing records -/

/-- The names of a logger and of those above it, the nearest first. -/
def lineage (name : String) : List String :=
  let parts := name.splitOn "."
  (List.range parts.length).map fun i =>
    String.intercalate "." (parts.take (parts.length - i))

/-- The level from which on records of a logger count. -/
def levelOf (log : Journal) (name : String) : Level :=
  if isRoot name then log.level
  -- the nearest logger above that has a level of its own
  else ((lineage name).findSome? fun n => log.levels.lookup n).getD log.level

/-- Whether records of a level count. -/
def hears (log : Journal) (name : String) (level : Level) : Bool :=
  -- what has no level is never heard
  decide (0 < level.number) && level.passes (log.levelOf name)

/-- Writes a line to where a handler writes. -/
def writeTo (log : Journal) (line : String) : Target → Journal
  | .console => { log with console := log.console ++ [line] }
  | .file path =>
    match (Charset.utf8 false).encode (line ++ "\n") with
    | .ok bytes =>
      match log.tree.append path bytes with
      | .ok tree => { log with tree }
      | .error _ => log
    -- a line that cannot be written is lost
    | .error _ => log

/-- Writes a record by a handler. -/
def handle (log : Journal) (clock : Zone → String) (record : Record) (handler : Handler) :
    Journal :=
  match handler.layout.line (clock handler.zone) log.fields record with
  | .ok line => log.writeTo line handler.target
  | .error _ => log

/-- Writes a record wherever it belongs; the clock gives the stamp for a zone. -/
def emit (log : Journal) (clock : Zone → String) (record : Record) : Journal :=
  if !log.hears record.logger record.level then log
  else log.handlers.foldl (fun log handler => log.handle clock record handler) log

end Journal

end Machining.Log
