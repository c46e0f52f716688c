import Machining.Text.Case
import Machining.Text.Quoted

/-!
# Levels of a log

Every record has a level that says how serious it is; a greater number is more serious.  Some
levels have names.

* `Level.ofName` finds the level of a name, in whatever case it is written.
-/

namespace Machining.Log

open Machining.Text

/-- How serious a record is. -/
structure Level where
  /-- The greater, the more serious. -/
  number : Int
  deriving DecidableEq

namespace Level

/-- No level of its own. -/
def unset : Level := ⟨0⟩

/-- Details for whoever searches a fault. -/
def debug : Level := ⟨10⟩

/-- What happens as it should. -/
def info : Level := ⟨20⟩

/-- Something is odd. -/
def warning : Level := ⟨30⟩

/-- Something failed. -/
def error : Level := ⟨40⟩

/-- Nothing works any more. -/
def critical : Level := ⟨50⟩

/-- The levels with their names. -/
def named : List (String × Level) :=
  [("NOTSET", unset), ("DEBUG", debug), ("INFO", info), ("WARNING", warning), ("ERROR", error),
    ("CRITICAL", critical)]

/-- Further names of levels. -/
def aliases : List (String × Level) := [("WARN", warning), ("FATAL", critical)]

/-- The name of a level, or its number where it has none. -/
def text (level : Level) : String :=
  match named.find? fun (_, other) => other = level with
  | some (name, _) => name
  | none => "Level " ++ toString level.number

/-- Whether a record of a level passes a threshold. -/
def passes (level threshold : Level) : Bool := decide (threshold.number ≤ level.number)

end Level

/-- Why there is no level of a name. -/
inductive LevelError where
  /-- Nothing has the name, which is in upper case. -/
  | unknown (name : String)
  /-- The name is that of a form of lines. -/
  | lineForm
  /-- The name is that of the table of all forms of lines. -/
  | lineForms
  deriving DecidableEq

/-- The usual form of lines, in the signs of phrases. -/
def usualForm : String := "%(levelname)s:%(name)s:%(message)s"

/-- The forms of lines: a sign for each, the name of what reads it, and the usual form in it. -/
def lineForms : List (String × String × String) :=
  [("%", "PercentStyle", usualForm),
    ("\x7b", "StrFormatStyle", "\x7blevelname\x7d:\x7bname\x7d:\x7bmessage\x7d"),
    ("$", "StringTemplateStyle", "$\x7blevelname\x7d:$\x7bname\x7d:$\x7bmessage\x7d")]

/-- The table of all forms of lines in messages. -/
def lineFormsText : String :=
  let entries := lineForms.map fun (sign, reader, form) =>
    quoted sign ++ ": (<class 'logging." ++ reader ++ "'>, " ++ quoted form ++ ")"
  "\x7b" ++ String.intercalate ", " entries ++ "\x7d"

/-- The wording of the complaint. -/
def LevelError.message : LevelError → String
  | unknown name => "module 'logging' has no attribute '" ++ name ++ "'"
  | lineForm => "Unknown level: " ++ quoted usualForm
  | .lineForms => "Level not an integer or a valid string: " ++ lineFormsText

/-- The level of a name. -/
def Level.ofName (name : String) : Except LevelError Level :=
  let capital := upper name
  match (named ++ aliases).lookup capital with
  | some level => .ok level
  | none =>
    .error <|
      if capital = "BASIC_FORMAT" then .lineForm
      else if capital = "_STYLES" then .lineForms
      else .unknown capital

end Machining.Log
