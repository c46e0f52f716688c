import Machining.Files.Replace
import Machining.Text.Charset

/-!
# Writing texts

A text is written like any other bytes, in one step, once a character set has made bytes of it.  A
text that has no bytes in the set is not written at all.
-/

namespace Machining.Files

open Machining.Text

/-- Why a text was not written. -/
inductive WriteError where
  /-- There is no such character set. -/
  | charset (error : Charset.NameError)
  /-- The text has no bytes in the set. -/
  | encode (error : EncodeError)
  /-- The file was not replaced. -/
  | replace (error : ReplaceError)

/-- The wording of a write error. -/
def WriteError.message : WriteError → String
  | charset error => error.message
  | encode error => error.message
  | replace error => error.message

/-- Writes a text in the character set of a name. -/
def writeText (tree : Tree) (target : Path) (text charset : String) : Tree × Option WriteError :=
  match Charset.ofName charset with
  | .error error => (tree, some (.charset error))
  | .ok set =>
    match set.encode text with
    | .error error => (tree, some (.encode error))
    | .ok bytes =>
      let (written, error?) := replaceFile tree target bytes stagingSuffix
      (written, error?.map .replace)

/-- The name of the character set that programs are written in. -/
def standardCharset : String := "utf-8"

end Machining.Files
