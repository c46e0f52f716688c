import Machining.Text.Digit
import Machining.Text.Quoted

/-!
# Switches on a command line

A command line is a list of words.  A word that begins with a dash names a switch, in full or by
the beginning of a long name that no other switch shares; the value of a switch is in the same word
or in the next one.  A value of two dashes only counts as none.

* `readSwitches` reads a command line.
-/

namespace Machining.Command

open Machining.Text

/-- Something that can be given on a command line. -/
structure Switch where
  /-- Its names with their dashes. -/
  names : List String
  /-- Whether it has a value. -/
  takesValue : Bool
  /-- Whether it has to be given. -/
  required : Bool
  deriving DecidableEq

/-- The names of a switch in messages. -/
def Switch.label (switch : Switch) : String := String.intercalate "/" switch.names

/-- Why a command line cannot be read. -/
inductive UsageError where
  /-- A name is the beginning of several names. -/
  | ambiguous (given : String) (names : List String)
  /-- A switch lacks its value. -/
  | lacksValue (switch : Switch)
  /-- A switch has no value. -/
  | refusesValue (switch : Switch) (value : String)
  /-- Switches that have to be given are not. -/
  | missing (switches : List Switch)
  /-- Words are left over. -/
  | unrecognized (words : List String)
  deriving DecidableEq

/-- The wording of a usage error. -/
def UsageError.message : UsageError → String
  | ambiguous given names =>
    s!"ambiguous option: {given} could match " ++ String.intercalate ", " names
  | lacksValue switch => s!"argument {switch.label}: expected one argument"
  | refusesValue switch value =>
    s!"argument {switch.label}: ignored explicit argument " ++ quoted value
  | missing switches =>
    "the following arguments are required: " ++
      String.intercalate ", " (switches.map Switch.label)
  | unrecognized words => "unrecognized arguments: " ++ String.intercalate " " words

/-! ## Words -/

/-- What a word is taken for. -/
inductive Word where
  /-- A word that names no switch. -/
  | plain (text : String)
  /-- The mark behind which no word names a switch. -/
  | divider
  /-- A word that looks like a switch but names none. -/
  | unknown (text : String)
  /-- A switch, by its short name or not, perhaps with a value in the same word. -/
  | switch (found : Switch) (isShort : Bool) (value : Option String)

/-- All names with their switches. -/
def allNames (switches : List Switch) : List (String × Switch) :=
  switches.flatMap fun switch => switch.names.map fun name => (name, switch)

/-- The part before the first equals sign, and the part behind it if there is one. -/
def splitValue (text : String) : String × Option String :=
  let characters := text.toList
  match characters.dropWhile (· ≠ '=') with
  | [] => (text, none)
  | _ :: value => (String.ofList (characters.takeWhile (· ≠ '=')), some (String.ofList value))

/-- The long names that begin like a word, with the value in the word. -/
def longMatches (switches : List Switch) (text : String) : List (String × Word) :=
  let (start, value) := splitValue text
  ((allNames switches).filter fun (name, _) => name.startsWith start).map
    fun (name, switch) => (name, .switch switch false value)

/-- The short names that a word begins with, with the rest of the word as value, and the long names
that begin like it. -/
def shortMatches (switches : List Switch) (text : String) : List (String × Word) :=
  let short := String.ofList (text.toList.take 2)
  (allNames switches).filterMap fun (name, switch) =>
    if name = short then
      some (name, .switch switch true (some (String.ofList (text.toList.drop 2))))
    else if name.startsWith text then some (name, .switch switch false none)
    else none

/-- Whether a character is a digit of any script. -/
def isAnyDigit (c : Char) : Bool := (digitValue? c).isSome

/-- Whether characters are a number without a sign; a line may end behind it. -/
def isNumber (s : List Char) : Bool :=
  -- the end of a line may stand behind the number
  let body := if s.getLast? = some '\n' then s.dropLast else s
  let whole := body.takeWhile isAnyDigit
  match body.dropWhile isAnyDigit with
  | [] => !whole.isEmpty
  | '.' :: fraction => !fraction.isEmpty && fraction.all isAnyDigit
  | _ => false

/-- Whether a word is a negative number, which names no switch. -/
def isNegativeNumber (text : String) : Bool :=
  match text.toList with
  | '-' :: rest => isNumber rest
  | _ => false

/-- What a word is taken for that names no switch in full. -/
def guessWord (switches : List Switch) (text : String) : Except UsageError Word :=
  let found :=
    if text.startsWith "--" then longMatches switches text else shortMatches switches text
  match found with
  | [(_, word)] => .ok word
  -- a negative number and a word with a blank name no switch
  | [] => .ok (if isNegativeNumber text || text.contains ' ' then .plain text else .unknown text)
  | _ => .error (.ambiguous text (found.map (·.1)))

/-- What a word in front of a divider is taken for. -/
def classify (switches : List Switch) (text : String) : Except UsageError Word :=
  if !text.startsWith "-" || text == "-" then .ok (.plain text)
  else
    match (allNames switches).lookup text with
    | some switch => .ok (.switch switch false none)
    | none =>
      -- a name in full with a value comes before any beginning of a name
      match splitValue text with
      | (name, some value) =>
        match (allNames switches).lookup name with
        | some switch => .ok (.switch switch (!name.startsWith "--") (some value))
        | none => guessWord switches text
      | (_, none) => guessWord switches text

/-- What all words are taken for. -/
def classifyAll (switches : List Switch) : List String → Except UsageError (List Word)
  | [] => .ok []
  | text :: rest =>
    if text = "--" then .ok (.divider :: rest.map .plain)
    else do
      let word ← classify switches text
      return word :: (← classifyAll switches rest)

/-! ## Switches -/

/-- A switch that was given, with its value if it has one. -/
structure Given where
  /-- The switch. -/
  switch : Switch
  /-- Its value. -/
  value : Option String
  deriving DecidableEq

/-- A switch with a value. -/
def Given.valued (switch : Switch) (value : String) : Given :=
  ⟨switch, if value = "--" then none else some value⟩

/-- What a word with a switch gives. -/
structure Opened where
  /-- Switches that are complete. -/
  given : List Given
  /-- A switch that may still have its value in the next word. -/
  pending : Option Switch

/-- Takes single letters apart that stand in one word behind a switch. -/
def unpack (switches : List Switch) (switch : Switch) (found : List Given) :
    List Char → Except UsageError Opened
  | [] => .ok ⟨found, some switch⟩
  | c :: rest =>
    let text := String.ofList (c :: rest)
    -- the letters behind a switch with a value are that value
    if switch.takesValue then .ok ⟨found ++ [.valued switch text], none⟩
    else
      match (allNames switches).lookup ("-" ++ c.toString) with
      | some next => unpack switches next (found ++ [⟨switch, none⟩]) rest
      | none => .error (.refusesValue switch text)

/-- Opens a word with a switch.  What stands in the word behind a short name may be further
names. -/
def openWord (switches : List Switch) (switch : Switch) (isShort : Bool) :
    Option String → Except UsageError Opened
  | none => .ok ⟨[], some switch⟩
  | some value =>
    if switch.takesValue then .ok ⟨[.valued switch value], none⟩
    else if isShort && !value.isEmpty then unpack switches switch [] value.toList
    else .error (.refusesValue switch value)

/-- What a command line gives. -/
structure Reading where
  /-- The switches in order. -/
  given : List Given
  /-- The words that are left over. -/
  stray : List String

/-- Adds switches in front of what is given. -/
def Reading.withGiven (more : List Given) (reading : Reading) : Reading :=
  { reading with given := more ++ reading.given }

/-- Adds words in front of those that are left over. -/
def Reading.withStray (words : List String) (reading : Reading) : Reading :=
  { reading with stray := words ++ reading.stray }

/-- Gives a switch that is open its value from the next word, if it has one. -/
def closeWord (switch : Switch) : List Word → Except UsageError (Given × List Word)
  | .plain value :: rest =>
    .ok (if switch.takesValue then (.valued switch value, rest)
      else (⟨switch, none⟩, .plain value :: rest))
  | rest => if switch.takesValue then .error (.lacksValue switch) else .ok (⟨switch, none⟩, rest)

/-- Reads words.  Behind a switch that `stops` nothing is read any more. -/
def readWords (switches : List Switch) (stops : Switch → Bool) :
    Nat → List Word → Except UsageError Reading
  | 0, _ | _, [] => .ok ⟨[], []⟩
  | fuel + 1, .plain text :: rest | fuel + 1, .unknown text :: rest =>
    (readWords switches stops fuel rest).map (Reading.withStray [text])
  | fuel + 1, .divider :: rest =>
    (readWords switches stops fuel rest).map (Reading.withStray ["--"])
  | fuel + 1, .switch switch isShort value :: rest => do
    -- first what the word itself gives, then a value from the next word
    let opened ← openWord switches switch isShort value
    let (given, after) ← match opened.pending with
      | none => pure (opened.given, rest)
      | some last => do
        let (closed, after) ← closeWord last rest
        pure (opened.given ++ [closed], after)
    if given.any fun g => stops g.switch then return ⟨given, []⟩
    else return (← readWords switches stops fuel after).withGiven given

/-- Passes if every switch that has to be given is, and no word is left over. -/
def Reading.check (switches : List Switch) (reading : Reading) : Except UsageError (List Given) :=
  -- what is missing is complained about before what is left over
  let absent := switches.filter fun switch =>
    switch.required && !reading.given.any fun g => g.switch = switch
  if !absent.isEmpty then .error (.missing absent)
  else if !reading.stray.isEmpty then .error (.unrecognized reading.stray)
  else .ok reading.given

/-- Reads a command line.  Once a switch that `stops` is given, nothing else has to be right. -/
def readSwitches (switches : List Switch) (stops : Switch → Bool) (words : List String) :
    Except UsageError (List Given) := do
  let classified ← classifyAll switches words
  let reading ← readWords switches stops classified.length classified
  -- who asks for help need not give anything else
  if reading.given.any fun g => stops g.switch then return reading.given
  else reading.check switches

end Machining.Command
