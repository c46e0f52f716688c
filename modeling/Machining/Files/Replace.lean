import Machining.Files.Tree

/-!
# Replacing a file in one step

A file is replaced by writing a new one beside it and moving that into its place, so that nobody
ever reads half of it.  `Replacement` is such a plan with its steps; each step may fail, because
the tree refuses it or because of a `Disturbance`.  When a step fails, the new file is removed.

* `Replacement.carryOut` carries out all steps.
* `replaceFile` is the plan for a path, carried out without disturbances.
-/

namespace Machining.Files

/-- A plan to replace a file. -/
structure Replacement where
  /-- The file to be replaced. -/
  target : Path
  /-- The file beside it that is written first. -/
  staging : Path
  /-- What is written. -/
  bytes : List UInt8

/-- A step of the plan. -/
inductive Step where
  /-- Makes the directory of the target. -/
  | makeParents
  /-- Opens the new file. -/
  | openStaging
  /-- Writes the bytes. -/
  | write
  /-- Hands the bytes over. -/
  | flush
  /-- Waits until the bytes are kept. -/
  | sync
  /-- Moves the new file into place. -/
  | rename
  /-- Removes the new file again. -/
  | remove
  deriving DecidableEq

/-- A failure that the tree does not account for: what is wrong, and how far the step had come. -/
structure Disturbance where
  /-- What is wrong. -/
  error : IoError
  /-- How many bytes were written before, or how many directories were gone into. -/
  progress : Nat

/-- Why a file was not replaced. -/
inductive ReplaceError where
  /-- The directory of the target could not be made. -/
  | parents (error : IoError)
  /-- The name of the new file cannot be formed. -/
  | name (error : NameError)
  /-- A path cannot be used at all. -/
  | path (fault : Path.Fault)
  /-- A later step failed. -/
  | failed (target : Path) (error : IoError)
  /-- A later step failed, and then the new file could not be removed. -/
  | cleanup (error : IoError)
  deriving DecidableEq

/-- The wording of the error. -/
def ReplaceError.message : ReplaceError → String
  | parents error => error.message
  | name error => error.message
  | path fault => fault.message
  | failed target error => s!"Could not write {target.text}: {error.message}"
  | cleanup error => error.message

namespace Step

/-- The steps behind the making of the directory, in order. -/
def onStaging : List Step := [openStaging, write, flush, sync, rename]

/-- A tree after an operation, or as it was and why the operation was refused. -/
def done (tree : Tree) : Except IoError Tree → Tree × Option IoError
  | .ok next => (next, none)
  | .error error => (tree, some error)

/-- What a step does to a tree, and what goes wrong. -/
def run (plan : Replacement) (tree : Tree) : Step → Tree × Option IoError
  | makeParents => tree.makeDirectories plan.target.parent
  | openStaging => done tree (tree.createFile plan.staging)
  | write => done tree (tree.append plan.staging plan.bytes)
  -- what is flushed and synced has been in the tree since it was written
  | flush => (tree, none)
  | sync => (tree, none)
  | rename => done tree (tree.rename plan.staging plan.target)
  | remove => done tree (tree.unlink plan.staging)

/-- What a disturbed step leaves behind: some of the directories, or a part of the bytes. -/
def leftover (plan : Replacement) (tree : Tree) (disturbance : Disturbance) : Step → Tree
  | makeParents => (tree.makeDirectories (plan.target.parent.upTo disturbance.progress)).1
  | write => (done tree (tree.append plan.staging (plan.bytes.take disturbance.progress))).1
  | _ => tree

/-- A step that may be disturbed: the tree afterwards, and what went wrong. -/
def attempt (plan : Replacement) (disturbed : Step → Option Disturbance) (tree : Tree)
    (step : Step) : Tree × Option IoError :=
  match disturbed step with
  | some disturbance => (step.leftover plan tree disturbance, some disturbance.error)
  | none => step.run plan tree

end Step

namespace Replacement

/-- Carries out steps up to the first that fails. -/
def attemptAll (plan : Replacement) (disturbed : Step → Option Disturbance) (tree : Tree) :
    List Step → Tree × Option IoError
  | [] => (tree, none)
  | step :: rest =>
    match step.attempt plan disturbed tree with
    | (next, none) => plan.attemptAll disturbed next rest
    | (next, some error) => (next, some error)

/-- Carries out the steps on the new file; when one fails, removes that file. -/
def stage (plan : Replacement) (disturbed : Step → Option Disturbance) (tree : Tree) :
    Tree × Option ReplaceError :=
  match plan.attemptAll disturbed tree Step.onStaging with
  | (done, none) => (done, none)
  | (broken, some error) =>
    match Step.remove.attempt plan disturbed broken with
    | (cleaned, none) => (cleaned, some (.failed plan.target error))
    | (left, some cleanup) => (left, some (.cleanup cleanup))

/-- Carries out the whole plan. -/
def carryOut (plan : Replacement) (disturbed : Step → Option Disturbance) (tree : Tree) :
    Tree × Option ReplaceError :=
  match Step.makeParents.attempt plan disturbed tree with
  | (next, some error) => (next, some (.parents error))
  | (next, none) => plan.stage disturbed next

end Replacement

/-- What is put behind the name of a file while it is written. -/
def stagingSuffix : String := ".tmp"

/-- Replaces a file, writing beside it under its name with a suffix. -/
def replaceFile (tree : Tree) (target : Path) (bytes : List UInt8) (suffix : String) :
    Tree × Option ReplaceError :=
  match target.parent.fault?, target.sibling suffix with
  | some fault, _ => (tree, some (.path fault))
  -- the directory is made before the name is looked at
  | none, .error error => refuse (.name error)
  | none, .ok staging =>
    match staging.fault? with
    | some fault => refuse (.path fault)
    | none => (Replacement.mk target staging bytes).carryOut (fun _ => none) tree
where
  /-- Makes the directory of the target, and goes no further. -/
  refuse (error : ReplaceError) : Tree × Option ReplaceError :=
    match tree.makeDirectories target.parent with
    | (next, some refused) => (next, some (.parents refused))
    | (next, none) => (next, some error)

end Machining.Files
