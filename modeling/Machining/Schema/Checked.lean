import Machining.Document.Shown

/-!
# Checking documents

Reading a document as a job either gives the job or everything that is wrong with the document.  An
`Issue` names the place and the problem; a `Checked` result keeps the issues of all its parts, in
the order in which the parts are read.

* `Checked.seq_invalid`: when both parts are wrong, both kinds of issues are kept.
-/

namespace Machining.Schema

open Machining.Document

/-- What is wrong with a value. -/
inductive Problem where
  /-- A required field is absent. -/
  | missing
  /-- The value is no number. -/
  | notNumber
  /-- The text cannot be read as a number. -/
  | unreadableNumber
  /-- The value is no text. -/
  | notText
  /-- The text has halves of surrogate pairs in it. -/
  | notUnicode
  /-- The value is no record. -/
  | notRecord
  /-- The value is no list. -/
  | notList
  /-- The value is no mapping. -/
  | notMapping
  /-- The value is none of the known choices. -/
  | notChoice
  /-- The list has too few members. -/
  | tooShort
  /-- The value is refused by its own rule. -/
  | refused
  deriving DecidableEq

/-- The code of a problem in reports. -/
def Problem.code : Problem → String
  | missing => "missing"
  | notNumber => "float_type"
  | unreadableNumber => "float_parsing"
  | notText => "string_type"
  | notUnicode => "string_unicode"
  | notRecord => "model_type"
  | notList => "list_type"
  | notMapping => "dict_type"
  | notChoice => "enum"
  | tooShort => "too_short"
  | refused => "value_error"

/-- One step from a value into a part of it. -/
inductive Step where
  /-- Into the value of a field. -/
  | field (name : String)
  /-- Into a member of a list. -/
  | index (position : Nat)
  deriving DecidableEq

/-- A problem and the way to where it is. -/
structure Issue where
  /-- The steps from the document to the value. -/
  location : List Step
  /-- What is wrong there. -/
  problem : Problem
  deriving DecidableEq

/-- A count of validation errors, for the record of a name. -/
def issueSummary (issues : List Issue) (name : String) : String :=
  let noun := if issues.length = 1 then "error" else "errors"
  s!"{issues.length} validation {noun} for {name}"

/-- A result, or all the issues that keep it from being one. -/
inductive Checked (α : Type) where
  /-- Nothing is wrong. -/
  | valid (result : α)
  /-- These are wrong. -/
  | invalid (issues : List Issue)

namespace Checked

variable {α β : Type}

/-- Applies a function to the result. -/
def map (f : α → β) : Checked α → Checked β
  | valid a => valid (f a)
  | invalid issues => invalid issues

/-- Combines two parts; the issues of both are kept. -/
def seq (f : Checked (α → β)) (a : Unit → Checked α) : Checked β :=
  match f, a () with
  | valid f, valid a => valid (f a)
  | valid _, invalid issues => invalid issues
  | invalid issues, valid _ => invalid issues
  | invalid issues, invalid more => invalid (issues ++ more)

instance : Applicative Checked where
  map f a := map f a
  pure a := valid a
  seq f a := seq f a

@[simp] theorem seq_valid (f : α → β) (a : α) :
    seq (valid f) (fun _ => valid a) = valid (f a) := rfl

@[simp] theorem seq_invalid (issues more : List Issue) :
    seq (invalid issues : Checked (α → β)) (fun _ => invalid more) = invalid (issues ++ more) := rfl

/-- A single problem at the value itself. -/
def fail (problem : Problem) : Checked α := invalid [⟨[], problem⟩]

/-- Places the issues of a part. -/
def under (step : Step) : Checked α → Checked α
  | valid a => valid a
  | invalid issues =>
    invalid (issues.map fun issue => { issue with location := step :: issue.location })

/-- The result or the issues. -/
def toExcept : Checked α → Except (List Issue) α
  | valid a => .ok a
  | invalid issues => .error issues

end Checked

end Machining.Schema
