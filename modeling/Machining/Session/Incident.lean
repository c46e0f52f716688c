import Machining.Json.Strict

/-!
# Incidents

An incident is something that went wrong without saying its kind: what sort of thing it is, its own
words, and further data about it.  An incident of the operating system may carry a number, a reason
and the names of the files; then its words are made of these.  What an incident says may be too
large to be put into words, and its data need not have a form in JSON; then it has no text either.

* `Incident.ofParts` makes an incident of a message and of data.
* `Incident.text` is the text that an incident is searched by.
-/

namespace Machining.Session

open Machining.Document Machining.Json

/-- Something that went wrong without saying its kind. -/
structure Incident where
  /-- What sort of thing it is. -/
  name : String
  /-- Its own words, unless they are too large to be written. -/
  words : Except SizeError String
  /-- Further data about it. -/
  details : List (String × Value)

namespace Incident

/-- The sorts of incidents that come from the operating system. -/
def systemNames : List String := ["OSError", "TimeoutError"]

/-- The sort of incidents that consist of a missing key. -/
def keyName : String := "KeyError"

/-- The names of the data that an incident of the operating system is told by. -/
def systemParts : List String := ["errno", "strerror", "filename", "filename2"]

/-- The name of the data that stand for the message. -/
def argumentsName : String := "args"

/-- What is said in an incident, one thing after another. -/
def argumentsOf : Value → List Value
  | .text s => s.toList.map fun c => .text c.toString
  | .mapping entries => entries.map fun (key, _) => key.value
  | other => (other.members?).getD []

/-- The words for what is said in an incident. -/
def wording (name : String) : List Value → Except SizeError String
  | [] => .ok ""
  -- a key that is missing is shown in quotes
  | [one] => if name = keyName then one.shown? stackRoom else one.plain? stackRoom
  | several => (Value.tuple several).shown? stackRoom

/-- The words of an incident of the operating system, if it carries enough data. -/
def systemWording? (details : List (String × Value)) : Option (Except SizeError String) :=
  -- the number and the reason, each as a text, the empty value too
  let start : Except SizeError String := do
    let number ← ((details.lookup "errno").getD .null).plain? stackRoom
    let reason ← ((details.lookup "strerror").getD .null).plain? stackRoom
    return "[Errno " ++ number ++ "] " ++ reason
  match details.lookup "filename", details.lookup "filename2" with
  | some file, some target => some do
    return (← start) ++ ": " ++ (← file.shown? stackRoom) ++ " -> " ++
      (← target.shown? stackRoom)
  | some file, none => some do
    return (← start) ++ ": " ++ (← file.shown? stackRoom)
  -- without a file both of them have to be there
  | none, _ =>
    if (details.lookup "errno").isSome && (details.lookup "strerror").isSome then some start
    else none

/-- An incident without data. -/
def ofText (name words : String) : Incident := ⟨name, .ok words, []⟩

/-- An incident of a sort, with a message and with data.  The data that its words are made of do not
count as details. -/
def ofParts (name : String) (message : Option String) (data : List (String × Value)) : Incident :=
  let isSystem := systemNames.contains name
  -- arguments that are set later take the place of the message
  let said := match data.lookup argumentsName with
    | some arguments => argumentsOf arguments
    | none => message.toList.map .text
  let words := (if isSystem then systemWording? data else none).getD (wording name said)
  -- these are slots of the incident, so they are not found among its data
  ⟨name, words, data.filter fun (key, _) =>
    key ≠ argumentsName && !(isSystem && systemParts.contains key)⟩

/-- The words of an incident in a message, where others stand for words that cannot be written. -/
def message (incident : Incident) : String :=
  incident.words.toOption.getD "<exception str() failed>"

/-- The details that an incident is searched by: those whose name does not begin with an
underscore. -/
def searched (incident : Incident) : List (String × Value) :=
  incident.details.filter fun (name, _) => !name.startsWith "_"

/-- The text that an incident is searched by: its name, its words, and its details as JSON. -/
def text (incident : Incident) : Except StrictError String := do
  let base := incident.name ++ " " ++ (← incident.words.mapError .size)
  -- without data there is not even an empty mapping
  if incident.searched.isEmpty then return base
  else return base ++ " " ++ (← writeStrict (Value.ofFields incident.searched) stackRoom)

end Incident

end Machining.Session
