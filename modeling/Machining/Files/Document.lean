import Machining.Files.Tree
import Machining.Text.Utf8
import Machining.Yaml.Reader

/-!
# Documents in files

A document is read from a file of a tree: its bytes are a text in UTF-8, whose line ends are made
alike, and the text is YAML.
-/

namespace Machining.Files

open Machining.Document Machining.Text

/-- Makes all line ends line feeds. -/
def unifyBreaks : List Char → List Char
  | [] => []
  | '\r' :: '\n' :: rest => '\n' :: unifyBreaks rest
  | '\r' :: rest => '\n' :: unifyBreaks rest
  | c :: rest => c :: unifyBreaks rest

/-- Why a document could not be read. -/
inductive DocumentError where
  /-- There is no such file. -/
  | noFile (path : Path)
  /-- The path cannot be followed. -/
  | refused (error : IoError)
  /-- The file is no text. -/
  | undecodable (error : Utf8.DecodeError)
  /-- The text breaks a rule of the format. -/
  | malformed (path : Path) (fault : Yaml.Fault)
  /-- A value of the text cannot be built. -/
  | unreadable (error : Yaml.ReadError)

/-- The wording of a document error. -/
def DocumentError.message : DocumentError → String
  | noFile path => "YAML file not found: " ++ path.text
  | refused error => error.message
  | undecodable error => error.message
  | malformed path _ => (path.name?.getD "") ++ ": invalid YAML"
  | unreadable error => error.message

/-- Reads the text of a file; at a path that cannot be used lies none. -/
def readText (tree : Tree) (path : Path) : Except DocumentError String := do
  if path.fault?.isSome then throw (.noFile path)
  match ← (tree.look path).mapError .refused with
  | some (.file bytes) =>
    let s ← (Utf8.decode? bytes).mapError .undecodable
    return String.ofList (unifyBreaks s.toList)
  -- a directory is no file either
  | _ => throw (.noFile path)

/-- Reads the document of a file. -/
def readDocument (tree : Tree) (path : Path) : Except DocumentError Value := do
  let text ← readText tree path
  match Yaml.read text with
  | .ok value => return value
  | .error (.malformed fault) => throw (.malformed path fault)
  | .error error => throw (.unreadable error)

end Machining.Files
