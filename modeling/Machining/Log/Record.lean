import Machining.Json.Writer
import Machining.Log.Level
import Machining.Log.Phrase

/-!
# Records and their lines

A record says what happened: a phrase with its values, a level, and perhaps what went wrong.
Fields that hold for a while, such as the turn that is at work, are kept beside the records and
show on every line.

* `Fields.push` and `Fields.pop` change the fields.
* `Layout.line` writes a record: in columns for a human reader, or as one JSON object.
-/

namespace Machining.Log

open Machining.Document Machining.Text

/-! ## Fields -/

/-- Named values that show on every line, in the order in which they came. -/
abbrev Fields := Entries

namespace Fields

/-- Adds fields; one that is there already changes its value in place. -/
def push (fields more : Fields) : Fields :=
  more.foldl (fun all (key, value) => Entries.put key value all) fields

/-- Drops the named fields, or all of them. -/
def pop (fields : Fields) : Option (List String) → Fields
  | none => []
  | some names => fields.filter fun (key, _) => !names.any fun name => key = .text name

/-- The fields as they show in a line. -/
def text (fields : Fields) : String :=
  String.intercalate " " (fields.map fun (key, value) => key.plain ++ "=" ++ value.plain)

end Fields

/-! ## Records -/

/-- What went wrong. -/
structure Cause where
  /-- What sort of thing it is. -/
  name : String
  /-- Its own words. -/
  message : String
  deriving DecidableEq

/-- The wording of a cause. -/
def Cause.text (cause : Cause) : String :=
  if cause.message.isEmpty then cause.name else cause.name ++ ": " ++ cause.message

/-- What happened. -/
structure Record where
  /-- Who says so. -/
  logger : String
  /-- How serious it is. -/
  level : Level
  /-- What happened, with places for values. -/
  phrase : String
  /-- The values. -/
  values : List Value
  /-- What went wrong. -/
  cause : Option Cause

/-- The words of a record. -/
def Record.message (record : Record) : Except PhraseFault String :=
  fill record.phrase record.values

/-! ## Lines -/

/-- How a record is written. -/
inductive Layout where
  /-- In columns. -/
  | human
  /-- As a JSON object. -/
  | json
  deriving DecidableEq

namespace Layout

/-- The name of a layout. -/
def name : Layout → String
  | human => "human"
  | json => "json"

/-- The layout of a name, or the complaint about it. -/
def ofName (name : String) : Except String Layout :=
  if name = "human" then .ok human
  else if name = "json" then .ok json
  else .error ("fmt_mode must be 'human' or 'json', got " ++ quoted name)

/-- Text that is filled up with blanks to a width. -/
def padRight (width : Nat) (s : String) : String := s.pushn ' ' (width - s.length)

/-- The columns of a line behind its stamp; fields have one only if there are any. -/
def columns (fields : Fields) (record : Record) : Except PhraseFault (List String) :=
  record.message.map fun message =>
    padRight 8 record.level.text ::
      ((if fields.isEmpty then [] else [Fields.text fields]) ++ [message])

/-- Columns side by side. -/
def joinColumns (columns : List String) : String := String.intercalate " | " columns

/-- The entries of a line in JSON; a field of the same name as an entry changes it in place. -/
def entries (stamp : String) (fields : Fields) (record : Record) : Except PhraseFault Entries :=
  record.message.map fun message =>
    let base : Entries :=
      [(.text "t", .text stamp), (.text "lvl", .text record.level.text),
        (.text "name", .text record.logger), (.text "msg", .text message)]
    match record.cause with
    | none => Fields.push base fields
    | some cause => Entries.put (.text "exc") (.text cause.text) (Fields.push base fields)

/-- The line of a record with a stamp. -/
def line (layout : Layout) (stamp : String) (fields : Fields) (record : Record) :
    Except PhraseFault String :=
  match layout with
  | json => (entries stamp fields record).map fun all => Json.write (.mapping all)
  | human =>
    (columns fields record).map fun others =>
      joinColumns (stamp :: others) ++
        match record.cause with
        | none => ""
        | some cause => "\n" ++ cause.text

end Layout

end Machining.Log
