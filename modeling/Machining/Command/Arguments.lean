import Machining.Command.Switch

/-!
# The commands and their arguments

There are two commands: one compiles a job file, the other replays a session script.

* `Action.read` reads the arguments of a command.
-/

namespace Machining.Command

/-- A command. -/
inductive Action where
  /-- Compiles a job file. -/
  | compileJob
  /-- Replays a session script. -/
  | runSession
  deriving DecidableEq

/-- The value of a switch that was given, which may have none. -/
abbrev Parameter := Option String

/-- What a command is told. -/
structure Arguments where
  /-- The file to work on. -/
  file : Parameter
  /-- The file with the settings; without one, the shipped settings hold. -/
  config : Option Parameter
  /-- The file for the program; without one, the program is printed. -/
  out : Option String
  /-- Whether the program is neither printed nor written. -/
  dryRun : Bool
  /-- The name of the level from which on notices show. -/
  logLevel : Parameter
  deriving DecidableEq

/-- Asks how the command is used. -/
def helpSwitch : Switch := ⟨["-h", "--help"], false, false⟩

/-- The file to work on. -/
def fileSwitch : Switch := ⟨["--file", "-f"], true, true⟩

/-- The file with the settings. -/
def configSwitch : Switch := ⟨["--config", "-c"], true, false⟩

/-- The file for the program. -/
def outSwitch : Switch := ⟨["--out", "-o"], true, false⟩

/-- Keeps the program from being written. -/
def dryRunSwitch : Switch := ⟨["--dry-run"], false, false⟩

/-- The level of the notices. -/
def logLevelSwitch : Switch := ⟨["--log-level"], true, false⟩

/-- What was given last for a switch. -/
def parameter? (given : List Given) (switch : Switch) : Option Parameter :=
  -- the last of several counts
  given.reverse.findSome? fun g => if g.switch = switch then some g.value else none

namespace Action

/-- The name of a command. -/
def name : Action → String
  | compileJob => "compile_job"
  | runSession => "run_session"

/-- The command of a name. -/
def ofName? (text : String) : Option Action :=
  [compileJob, runSession].find? fun command => command.name == text

/-- The switches of a command. -/
def switches : Action → List Switch
  | compileJob =>
    [helpSwitch, fileSwitch, configSwitch, outSwitch, dryRunSwitch, logLevelSwitch]
  | runSession => [helpSwitch, fileSwitch, configSwitch, outSwitch, logLevelSwitch]

/-- The level from which on notices show where nothing is said. -/
def standardLevel : Action → String
  | compileJob => "INFO"
  | runSession => "WARNING"

/-- Reads the arguments of a command; there are none if it is only asked how it is used. -/
def read (command : Action) (words : List String) : Except UsageError (Option Arguments) :=
  (readSwitches command.switches (· = helpSwitch) words).map fun given =>
    if given.any fun g => g.switch = helpSwitch then none
    else
      some
        { file := (parameter? given fileSwitch).getD none
          config := parameter? given configSwitch
          out := ((parameter? given outSwitch).getD none).filter fun name => !name.isEmpty
          dryRun := given.any fun g => g.switch = dryRunSwitch
          logLevel := (parameter? given logLevelSwitch).getD (some command.standardLevel) }

end Action

end Machining.Command
