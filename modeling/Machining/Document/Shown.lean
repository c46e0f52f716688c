import Machining.Document.Value
import Machining.Numeric.Numeral
import Machining.Numeric.Scientific
import Machining.Text.Quoted

/-!
# Values in messages

`Value.shown` writes a value so that its type can be told: a text is quoted, a list stands in
brackets and a mapping in braces; of a list or mapping that is inside itself, only dots stand there.
`Value.plain` does the same, but leaves a text as it is.

A whole number of too many digits is not written, and neither is a value that is nested too deep for
the room that is left on the stack: `Value.shown?` and `Value.plain?` refuse a value for the first
such place in it.

* `Value.levels` counts how deep a value is nested.
* `Value.obstacle?_eq_none_iff` says which values are not refused.
-/

namespace Machining.Document

open Machining.Numeric Machining.Text

namespace TimeOfDay

/-- How far the clock is ahead of the common zone, in hours and minutes. -/
def offsetText (minutes : Int) : String :=
  (if minutes < 0 then "-" else "+") ++ Fixed.paddedDigits 2 (minutes.natAbs / 60) ++ ":" ++
    Fixed.paddedDigits 2 (minutes.natAbs % 60)

/-- The time as it is written. -/
def text (t : TimeOfDay) : String :=
  Fixed.paddedDigits 2 t.hour ++ ":" ++ Fixed.paddedDigits 2 t.minute ++ ":" ++
    Fixed.paddedDigits 2 t.second ++
      (if t.micro = 0 then "" else "." ++ Fixed.paddedDigits 6 t.micro) ++
        ((t.offset.map offsetText).getD "")

/-- A zone inside a list or a mapping. -/
def offsetShown (minutes : Int) : String :=
  let seconds := minutes * 60
  let days := seconds / 86400
  let parts := (if days = 0 then [] else [s!"days={days}"]) ++ [s!"seconds={seconds % 86400}"]
  if minutes = 0 then "datetime.timezone.utc"
  else "datetime.timezone(datetime.timedelta(" ++ String.intercalate ", " parts ++ "))"

/-- The parts of a time inside a list or a mapping; zeros at the end are left out. -/
def shownParts (t : TimeOfDay) : List String :=
  let late := if t.micro = 0 then (if t.second = 0 then [] else [t.second])
    else [t.second, t.micro]
  ([t.hour, t.minute] ++ late).map toString ++
    (t.offset.map fun minutes => "tzinfo=" ++ offsetShown minutes).toList

end TimeOfDay

namespace Date

/-- The day as it is written: year, month and day, and the time behind them. -/
def text (d : Date) : String :=
  Fixed.paddedDigits 4 d.year ++ "-" ++ Fixed.paddedDigits 2 d.month ++ "-" ++
    Fixed.paddedDigits 2 d.day ++ ((d.time.map fun t => " " ++ t.text).getD "")

/-- The day inside a list or a mapping. -/
def shown (d : Date) : String :=
  let parts := [d.year, d.month, d.day].map toString ++ (d.time.map (·.shownParts)).getD []
  d.typeName ++ "(" ++ String.intercalate ", " parts ++ ")"

end Date

/-- The two truth values in messages. -/
def boolText (b : Bool) : String := if b then "True" else "False"

/-- A key in a message. -/
def Key.shown : Key → String
  | null => "None"
  | bool b => boolText b
  | int n => toString n
  | float x => shortestText x
  | text s => quoted s
  | bytes data => quotedBytes data
  | date d => d.shown

/-- A key alone, with a text as it is. -/
def Key.plain : Key → String
  | text s => s
  | date d => d.text
  | other => other.shown

/-- Whether a key is a whole number of too many digits. -/
def Key.isLong : Key → Bool
  | int n => isLongInteger n
  | _ => false

/-- A key on its own, unless it is a number that is too long. -/
def Key.plain? (key : Key) : Except LongInteger String :=
  if key.isLong then .error ⟨none⟩ else .ok key.plain

namespace Value

mutual

/-- A value in a message, with texts in quotes. -/
def shown : Value → String
  | .null => "None"
  | .bool b => boolText b
  | .int n => toString n
  | .float x => shortestText x
  | .text s => quoted s
  | .bytes data => quotedBytes data
  | .date d => d.shown
  | .list items => "[" ++ String.intercalate ", " (shownItems items) ++ "]"
  | .tuple items => "(" ++ String.intercalate ", " (shownItems items) ++ ")"
  -- empty braces are those of a mapping
  | .set [] => "set()"
  | .set members => "\x7b" ++ String.intercalate ", " (members.map Key.shown) ++ "\x7d"
  | .mapping entries => "\x7b" ++ String.intercalate ", " (shownEntries entries) ++ "\x7d"
  | .again false => "[...]"
  | .again true => "\x7b...\x7d"

/-- The members of a list. -/
def shownItems : List Value → List String
  | [] => []
  | item :: rest => shown item :: shownItems rest

/-- The entries of a mapping. -/
def shownEntries : List (Key × Value) → List String
  | [] => []
  | (key, value) :: rest => (key.shown ++ ": " ++ shown value) :: shownEntries rest

end

/-- A value on its own, with a text as it is. -/
def plain : Value → String
  | text s => s
  | date d => d.text
  | other => other.shown

/-! ## Long numbers -/

mutual

/-- Whether a value has a whole number of too many digits in it. -/
def isLong : Value → Bool
  | .int n => isLongInteger n
  | .list items | .tuple items => anyLong items
  | .set members => members.any Key.isLong
  | .mapping entries => anyLongEntry entries
  | _ => false

/-- Whether one of the members of a list has. -/
def anyLong : List Value → Bool
  | [] => false
  | item :: rest => isLong item || anyLong rest

/-- Whether one of the entries of a mapping has. -/
def anyLongEntry : List (Key × Value) → Bool
  | [] => false
  | (key, value) :: rest => key.isLong || isLong value || anyLongEntry rest

end

/-! ## Deep nestings -/

mutual

/-- How many levels are entered where a value is gone through, if a value without members takes
`leaf` of them.  The members of a set are gone through as a list. -/
def levels (leaf : Nat) : Value → Nat
  | .list items | .tuple items => itemsLevels leaf items + 1
  | .set [] => 1
  | .set (_ :: _) => leaf + 2
  | .mapping entries => entriesLevels leaf entries + 1
  | _ => leaf

/-- The levels of the deepest member of a list. -/
def itemsLevels (leaf : Nat) : List Value → Nat
  | [] => 0
  | item :: rest => max (levels leaf item) (itemsLevels leaf rest)

/-- The levels of the deepest entry of a mapping. -/
def entriesLevels (leaf : Nat) : List (Key × Value) → Nat
  | [] => 0
  | (_, value) :: rest => max (max leaf (levels leaf value)) (entriesLevels leaf rest)

end

end Value

/-- Why a value is too large to be written. -/
inductive SizeError where
  /-- A whole number has too many digits. -/
  | longInteger (complaint : LongInteger)
  /-- The nesting is too deep for the stack. -/
  | tooDeep
  deriving DecidableEq

/-- The wording of the error. -/
def SizeError.message : SizeError → String
  | longInteger complaint => complaint.message
  | tooDeep => "maximum recursion depth exceeded while getting the repr of an object"

/-- How many levels can be entered on the stack of a caller.  The number holds for one depth of the
caller's own stack; a caller who stands deeper has less. -/
def stackRoom : Nat := 980

/-- What keeps a key from being written where there is room for it. -/
def Key.obstacle? (key : Key) : Option SizeError :=
  if key.isLong then some (.longInteger ⟨none⟩) else none

namespace Value

mutual

/-- What is met first that keeps a value from being written, where there is room for so many
levels. -/
def obstacle? : Value → Nat → Option SizeError
  | _, 0 => some .tooDeep
  | .int n, _ + 1 => (Key.int n).obstacle?
  | .list items, room + 1 | .tuple items, room + 1 => itemsObstacle? items room
  | .set [], _ + 1 => none
  -- the members are gone through as a list, which takes a level of its own
  | .set members, room + 1 => if room < 2 then some .tooDeep else members.findSome? Key.obstacle?
  | .mapping entries, room + 1 => entriesObstacle? entries room
  | _, _ + 1 => none

/-- What is met first in the members of a list. -/
def itemsObstacle? : List Value → Nat → Option SizeError
  | [], _ => none
  | item :: rest, room => (obstacle? item room).or (itemsObstacle? rest room)

/-- What is met first in the entries of a mapping: a key comes before its value. -/
def entriesObstacle? : List (Key × Value) → Nat → Option SizeError
  | [], _ => none
  | _ :: _, 0 => some .tooDeep
  | (key, value) :: rest, room + 1 =>
    (key.obstacle?.or (obstacle? value (room + 1))).or (entriesObstacle? rest (room + 1))

end

/-- A value in a message, if there is nothing that keeps it from being written. -/
def shown? (room : Nat) (value : Value) : Except SizeError String :=
  match value.obstacle? room with
  | some error => .error error
  | none => .ok value.shown

/-- A value on its own, which is a text or a day as it is written, or is shown. -/
def plain? (room : Nat) : Value → Except SizeError String
  | text s => .ok s
  | date d => .ok d.text
  | other => other.shown? room

end Value

end Machining.Document
