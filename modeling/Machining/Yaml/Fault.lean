import Machining.Numeric.Numeral
import Machining.Text.Quoted

/-!
# What can be wrong with a YAML text

A `Fault` is a break of the rules of the format.  A text that keeps them may still hold a value that
cannot be built, such as a day that is not in the calendar.
-/

namespace Machining.Yaml

open Machining.Numeric Machining.Text

/-- A break of the rules of the format. -/
inductive Fault where
  /-- A character that may not stand in a text. -/
  | forbiddenCharacter
  /-- A character that no word may begin with. -/
  | strayCharacter
  /-- A dash where no list can go on. -/
  | misplacedItem
  /-- A mark of a key where no mapping can go on. -/
  | misplacedKey
  /-- A colon where no mapping can go on. -/
  | misplacedValue
  /-- A word that can only be a key and is not followed by a colon. -/
  | keyWithoutColon
  /-- A directive that cannot be read. -/
  | badDirective
  /-- A directive that is given twice. -/
  | repeatedDirective
  /-- A version of the format that is not known. -/
  | unknownVersion
  /-- An anchor without a proper name. -/
  | badAnchor
  /-- A tag that cannot be read. -/
  | badTag
  /-- A tag with a handle that is not declared. -/
  | unknownHandle
  /-- A tag that stands for no known type, or not for this kind of node. -/
  | unknownType
  /-- A block text whose first line cannot be read. -/
  | badBlockHeader
  /-- A quoted text without an end. -/
  | unclosedQuote
  /-- A separator of documents inside a quoted text. -/
  | separatorInQuote
  /-- An escape that is not known. -/
  | badEscape
  /-- An escape of a code point beyond the last one. -/
  | badCodePoint (code : Nat)
  /-- A token where another one is needed. -/
  | unexpectedToken
  /-- A reference to an anchor that is not there. -/
  | unknownAnchor
  /-- An anchor that is given twice. -/
  | repeatedAnchor
  /-- A list or a mapping as a key. -/
  | collectionAsKey
  /-- Something else than mappings to be merged into a mapping. -/
  | badMerge
  /-- More than one document. -/
  | severalDocuments
  deriving DecidableEq

/-- Why a text could not be read. -/
inductive ReadError where
  /-- The text breaks a rule of the format. -/
  | malformed (fault : Fault)
  /-- A whole number is written with too many digits. -/
  | longInteger (complaint : LongInteger)
  /-- A number has no digits at all. -/
  | emptyNumber
  /-- A word is none of those for truth values. -/
  | unknownWord (word : String)
  /-- A text is no day. -/
  | noDate
  /-- Lists and mappings are nested too deeply. -/
  | tooDeep
  /-- A text in this base is no whole number. -/
  | unreadableInt (base : Nat) (text : String)
  /-- A text is no floating-point number. -/
  | unreadableFloat (text : String)
  /-- A whole number exceeds the range of floating-point numbers. -/
  | hugeInteger
  /-- An escape names a code point beyond the last one. -/
  | badCodePoint (code : Nat)
  /-- There is no such year. -/
  | yearOutOfRange (year : Nat)
  /-- There is no such month. -/
  | monthOutOfRange
  /-- The month has no such day. -/
  | dayOutOfRange
  /-- There is no such hour. -/
  | hourOutOfRange
  /-- There is no such minute. -/
  | minuteOutOfRange
  /-- There is no such second. -/
  | secondOutOfRange
  /-- No clock is a whole day or more ahead or behind. -/
  | offsetOutOfRange (minutes : Int)
  deriving DecidableEq

/-- The read error that a fault comes to. -/
def Fault.error : Fault → ReadError
  | badCodePoint code => .badCodePoint code
  | fault => .malformed fault

/-- The span of minutes in days and seconds, as it appears in messages. -/
def spanText (minutes : Int) : String :=
  let seconds := minutes * 60
  let days := seconds / 86400
  let parts := (if days = 0 then [] else [s!"days={days}"]) ++
    (if seconds % 86400 = 0 then [] else [s!"seconds={seconds % 86400}"])
  "datetime.timedelta(" ++ String.intercalate ", " parts ++ ")"

/-- The wording of a read error; a broken rule of the format has one wording only. -/
def ReadError.message : ReadError → String
  | malformed _ => "invalid YAML"
  | longInteger complaint => complaint.message
  | emptyNumber => "string index out of range"
  | unknownWord word => quoted word
  | noDate => "'NoneType' object has no attribute 'groupdict'"
  | tooDeep => "maximum recursion depth exceeded"
  | unreadableInt base text => unreadableIntMessage base (quoted text)
  | unreadableFloat text => "could not convert string to float: " ++ quoted text
  | hugeInteger => "int too large to convert to float"
  | badCodePoint code =>
    if code < 2 ^ 31 then "chr() arg not in range(0x110000)"
    else "Python int too large to convert to C int"
  | yearOutOfRange year => s!"year {year} is out of range"
  | monthOutOfRange => "month must be in 1..12"
  | dayOutOfRange => "day is out of range for month"
  | hourOutOfRange => "hour must be in 0..23"
  | minuteOutOfRange => "minute must be in 0..59"
  | secondOutOfRange => "second must be in 0..59"
  | offsetOutOfRange minutes =>
    "offset must be a timedelta strictly between -timedelta(hours=24) and timedelta(hours=24), " ++
      s!"not {spanText minutes}."

end Machining.Yaml
