import Machining.Document.Shown
import Machining.Json.Reader

/-!
# Writing JSON

`Json.write` writes a value on one line: `", "` between members, `": "` after a key, and every
character outside ASCII as an escape.
-/

namespace Machining.Json

open Machining.Document Machining.Numeric

/-- The escape of one code unit. -/
def unitEscape (unit : Nat) : String := "\\u" ++ Text.hexDigits 4 unit

/-- A character inside a string. -/
def writeChar (c : Char) : String :=
  match c with
  | '"' => "\\\""
  | '\\' => "\\\\"
  | '\n' => "\\n"
  | '\r' => "\\r"
  | '\t' => "\\t"
  | '\x08' => "\\b"
  | '\x0c' => "\\f"
  | _ =>
    let code := Text.codePoint c
    if 0x20 ≤ code && code < 0x7F then c.toString
    else if code < 0x10000 then unitEscape code
    else
      let offset := code - 0x10000
      unitEscape (0xD800 + offset / 0x400) ++ unitEscape (0xDC00 + offset % 0x400)

/-- A string in quotes. -/
def writeText (s : String) : String :=
  "\"" ++ String.join (s.toList.map writeChar) ++ "\""

/-- A floating-point number. -/
def writeFloat (x : Float) : String :=
  match Binary64.ofFloat x with
  | .nan => "NaN"
  | .infinite negative => if negative then "-Infinity" else "Infinity"
  | .finite .. => shortestText x

/-- A key as the text that it is written as; bytes and days cannot be one. -/
def keyText? : Key → Option String
  | .null => some "null"
  | .bool b => some (if b then "true" else "false")
  | .int n => some (toString n)
  | .float x => some (writeFloat x)
  | .text s => some s
  | .bytes _ | .date _ => none

/-- Parts between two brackets. -/
def enclose (opening closing : String) (parts : List String) : String :=
  opening ++ String.intercalate ", " parts ++ closing

mutual

/-- Writes a value; keys that are no texts are written as texts, and so is what JSON has no form
for.  A value inside itself is left out. -/
def write : Value → String
  | .null => "null"
  | .bool b => if b then "true" else "false"
  | .int n => toString n
  | .float x => writeFloat x
  | .text s => writeText s
  | .date d => writeText d.text
  | .list items | .tuple items => enclose "[" "]" (writeItems items)
  | .mapping entries => enclose "\x7b" "\x7d" (writeEntries entries)
  | .bytes data => writeText (Text.quotedBytes data)
  | .set members => writeText (Value.set members).shown
  | .again _ => "null"

/-- Writes the members of a list. -/
def writeItems : List Value → List String
  | [] => []
  | item :: rest => write item :: writeItems rest

/-- Writes the entries of a mapping. -/
def writeEntries : List (Key × Value) → List String
  | [] => []
  | (key, value) :: rest =>
    (writeText ((keyText? key).getD "") ++ ": " ++ write value) :: writeEntries rest

end

theorem writeItems_eq (items : List Value) : writeItems items = items.map write := by
  induction items with
  | nil => rfl
  | cons item rest ih => rw [writeItems, ih, List.map_cons]

theorem writeEntries_eq (entries : Entries) :
    writeEntries entries = entries.map fun entry =>
      writeText ((keyText? entry.1).getD "") ++ ": " ++ write entry.2 := by
  induction entries with
  | nil => rfl
  | cons entry rest ih => rw [writeEntries, ih, List.map_cons]

end Machining.Json
