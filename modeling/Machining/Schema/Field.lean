import Machining.Numeric.Numeral
import Machining.Schema.Checked
import Machining.Text.Blank
import Machining.Text.Case
import Machining.Text.CodePoint
import Machining.Text.Utf8

/-!
# Reading fields

The readers of single values, and of the fields of a record: required, with a default, or optional.
Numbers are read generously: a truth value counts as one or zero, and a text is read as a numeral.
Bytes count as the text that they are in UTF-8, and rows and sets as lists.
Choices are compared without blanks around them and in upper case.
-/

namespace Machining.Schema

open Machining.Document Machining.Numeric Machining.Text

/-- A reader of values. -/
abbrev Reader (α : Type) := Value → Checked α

/-- Whether two underscores stand in a row. -/
def hasDoubleMark : List Char → Bool
  | '_' :: '_' :: _ => true
  | _ :: rest => hasDoubleMark rest
  | [] => false

/-- Takes out underscores, which may stand anywhere but at the ends and beside one another. -/
def withoutMarks? (s : List Char) : Option (List Char) :=
  if s.head? = some '_' || s.getLast? = some '_' || hasDoubleMark s then none
  else some (s.filter (· ≠ '_'))

/-- Reads a text as a number: a numeral between blanks, or one with underscores and no blanks. -/
def numeral? (s : String) : Option Float :=
  (plainNumeral? (numeralChars s)).or ((withoutMarks? s.toList).bind plainNumeral?)

/-- Reads a number. -/
def number : Reader Float
  | .float x => .valid x
  | .int n =>
    let x := Float.ofInt n
    if x.isFinite then .valid x else .fail .notNumber
  | .bool b => .valid (Float.ofNat b.toNat)
  | .text s =>
    -- half of a pair is found before the text is read as a numeral
    if s.any holdsSurrogate then .fail .notUnicode
    else
      match numeral? s with
      | some x => .valid x
      | none => .fail .unreadableNumber
  | .bytes data =>
    match (Utf8.decode? data).toOption.bind numeral? with
    | some x => .valid x
    | none => .fail .unreadableNumber
  | _ => .fail .notNumber

/-- Reads a text. -/
def text : Reader String
  | .text s => .valid s
  | .bytes data =>
    match Utf8.decode? data with
    | .ok s => .valid s
    | .error _ => .fail .notUnicode
  | _ => .fail .notText

/-- Reads a mapping as it is. -/
def mapping : Reader Entries := fun value =>
  match value.entries? with
  | some entries => .valid entries
  | none => .fail .notMapping

/-- The name that a text stands for when choices are compared. -/
def choiceName (s : String) : String := upper (trim s)

/-- Reads one of several choices by its name. -/
def choice {α : Type} (ofName? : String → Option α) : Reader α
  | .text s =>
    match ofName? (choiceName s) with
    | some found => .valid found
    | none => .fail (if s.any holdsSurrogate then .notUnicode else .notChoice)
  -- bytes are not brought into the form of names before they are compared
  | .bytes data =>
    match (Utf8.decode? data).toOption.bind ofName? with
    | some found => .valid found
    | none => .fail .notChoice
  | _ => .fail .notChoice

/-- Reads a value that may be empty. -/
def nullable {α : Type} (read : Reader α) : Reader (Option α)
  | .null => .valid none
  | value => (read value).map some

/-- Reads every member of a list. -/
def members {α : Type} (read : Reader α) (index : Nat) : List Value → Checked (List α)
  | [] => .valid []
  | item :: rest =>
    (fun found others => found :: others) <$> (read item).under (.index index) <*>
      members read (index + 1) rest

/-- Reads a list. -/
def list {α : Type} (read : Reader α) : Reader (List α) := fun value =>
  match value.members? with
  | some items => members read 0 items
  | none => .fail .notList

/-- Reads a record from the entries of a mapping; entries that are no fields are passed over. -/
def record {α : Type} (read : Entries → Checked α) : Reader α := fun value =>
  match value.entries? with
  | some entries => read entries
  | none => .fail .notRecord

/-- A field that has to be there. -/
def required {α : Type} (entries : Entries) (name : String) (read : Reader α) : Checked α :=
  Checked.under (.field name) <|
    match Entries.get? (.text name) entries with
    | some value => read value
    | none => .fail .missing

/-- A field with a value for when it is not there. -/
def defaulted {α : Type} (entries : Entries) (name : String) (default : α) (read : Reader α) :
    Checked α :=
  match Entries.get? (.text name) entries with
  | some value => (read value).under (.field name)
  | none => .valid default

end Machining.Schema
