import Machining.Document.Order
import Machining.Json.Writer

/-!
# Writing JSON strictly

`Json.writeStrict` writes a value on one line like `Json.write`, with the entries of every mapping
in the order of their keys.  Values that JSON has no form for are written as texts.  It
refuses a mapping whose keys have no order among each other, keys that JSON has no form for, whole
numbers that are too long, a value that is nested too deep for the room that is left on the stack,
and a value that is inside itself.
-/

namespace Machining.Json

open Machining.Document Machining.Numeric

/-- Why a value cannot be written. -/
inductive StrictError where
  /-- The keys of a mapping have no order. -/
  | unordered (error : OrderError)
  /-- Nothing of this type is a key. -/
  | badKey (typeName : String)
  /-- Something in it is too large to be written as a text. -/
  | size (error : SizeError)
  /-- The nesting is too deep for the stack. -/
  | tooDeep
  /-- A list or a mapping is inside itself. -/
  | circular
  deriving DecidableEq

/-- The wording of the error. -/
def StrictError.message : StrictError → String
  | unordered error => error.message
  | badKey typeName => "keys must be str, int, float, bool or None, not " ++ typeName
  | size error => error.message
  | tooDeep => "maximum recursion depth exceeded while encoding a JSON object"
  | circular => "Circular reference detected"

/-- A whole number, unless it has too many digits. -/
def strictInt (n : Int) : Except StrictError String :=
  if isLongInteger n then .error (.size (.longInteger ⟨none⟩)) else .ok (toString n)

/-- The text that a key is written as. -/
def strictKey (key : Key) : Except StrictError String :=
  match key with
  | .int n => strictInt n
  | _ =>
    match keyText? key with
    | some s => .ok s
    | none => .error (.badKey key.typeName)

mutual

/-- Writes a value with the entries of every mapping in the order of their keys, where there is room
for so many levels.  Whatever has members takes one, and so does what is written as a text. -/
def writeStrict : Value → Nat → Except StrictError String
  | .null, _ => .ok "null"
  | .bool b, _ => .ok (if b then "true" else "false")
  | .int n, _ => strictInt n
  | .float x, _ => .ok (writeFloat x)
  | .text s, _ => .ok (writeText s)
  -- the values above need no room, so they are written at any depth
  | _, 0 => .error .tooDeep
  | .list items, room + 1 | .tuple items, room + 1 =>
    (strictItems items room).map (enclose "[" "]")
  | .mapping entries, room + 1 => do
    let parts ← (sortedByKey (strictEntries entries room)).mapError .unordered
    return enclose "\x7b" "\x7d" (← parts.mapM (·.2))
  | .again _, _ + 1 => .error .circular
  | other, room + 1 => ((other.plain? (room + 1)).mapError .size).map writeText

/-- Writes the members of a list. -/
def strictItems : List Value → Nat → Except StrictError (List String)
  | [], _ => .ok []
  | item :: rest, room => do
    let first ← writeStrict item room
    return first :: (← strictItems rest room)

/-- Writes the entries of a mapping, each for itself. -/
def strictEntries : List (Key × Value) → Nat → List (Key × Except StrictError String)
  | [], _ => []
  | (key, value) :: rest, room =>
    let part : Except StrictError String := do
      let name ← strictKey key
      let text ← writeStrict value room
      return writeText name ++ ": " ++ text
    (key, part) :: strictEntries rest room

end

end Machining.Json
