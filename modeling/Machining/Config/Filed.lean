import Machining.Config.Shipped
import Machining.Files.Document

/-!
# Settings in files

Settings are read from a named file, or from the shipped document where no file is named.
-/

namespace Machining.Config

open Machining.Files

/-- Why settings could not be loaded. -/
inductive LoadError where
  /-- Nothing lies at the path. -/
  | noFile (path : Path)
  /-- The file holds no document. -/
  | document (error : DocumentError)
  /-- The document does not hold settings. -/
  | settings (error : ReadError)

/-- The wording of a load error. -/
def LoadError.message : LoadError → String
  | noFile path => "Configuration file not found: " ++ path.text
  | document error => error.message
  | settings error => error.message

/-- Loads settings from a file of a tree. -/
def load (tree : Tree) (path : Option Path) : Except LoadError Assistant :=
  match path with
  | none => default.mapError .settings
  | some path =>
    if path.fault?.isSome then .error (.noFile path)
    else
      match tree.look path with
      | .error error => .error (.document (.refused error))
      | .ok none => .error (.noFile path)
      | .ok (some _) => do
        let document ← (readDocument tree path).mapError .document
        (read path.text document).mapError .settings

end Machining.Config
