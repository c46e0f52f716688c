import Machining.Document.Value
import Machining.Numeric.Numeral
import Machining.Text.CodePoint
import Machining.Text.Digit

/-!
# Reading JSON

`Json.read` reads one JSON document.  Beyond the standard it takes `NaN`, `Infinity` and
`-Infinity`; of a repeated key the last value counts; whole numbers have no size limit but one on
their digits, and numbers beyond the floating-point range are infinite.  A text that is no JSON is
refused with the first place where it goes wrong.

While reading, a position is what remains of the text.  `Fault` therefore counts the characters from
the fault to the end, and `read` turns that into a line and a column.
-/

namespace Machining.Json

open Machining.Document Machining.Numeric Machining.Text

/-- What is wrong at a place of a text that is no JSON. -/
inductive Complaint where
  /-- Something else stands where a value should. -/
  | expectingValue
  /-- Something else stands where a key should. -/
  | expectingName
  /-- A key is not followed by a colon. -/
  | expectingColon
  /-- A member is not followed by a comma or the closing bracket. -/
  | expectingComma
  /-- A string has no end. -/
  | unterminatedString
  /-- A control character stands in a string. -/
  | controlCharacter
  /-- A backslash is followed by the wrong character. -/
  | badEscape
  /-- A Unicode escape does not have four hexadecimal digits. -/
  | badUnicodeEscape
  /-- The document ends before the text does. -/
  | extraData
  /-- The text begins with a byte order mark. -/
  | byteOrderMark
  deriving DecidableEq

/-- The wording of a complaint. -/
def Complaint.text : Complaint → String
  | expectingValue => "Expecting value"
  | expectingName => "Expecting property name enclosed in double quotes"
  | expectingColon => "Expecting ':' delimiter"
  | expectingComma => "Expecting ',' delimiter"
  | unterminatedString => "Unterminated string starting at"
  | controlCharacter => "Invalid control character at"
  | badEscape => "Invalid \\escape"
  | badUnicodeEscape => "Invalid \\uXXXX escape"
  | extraData => "Extra data"
  | byteOrderMark => "Unexpected UTF-8 BOM (decode using utf-8-sig)"

/-- Why reading stopped. -/
inductive Fault where
  /-- The text is no JSON; so many characters remain at the place. -/
  | malformed (complaint : Complaint) (remaining : Nat)
  /-- A whole number has too many digits. -/
  | longInteger (complaint : LongInteger)
  /-- Lists and mappings are nested too deeply. -/
  | tooDeep
  deriving DecidableEq

/-- Reading a part gives the part and what remains of the text. -/
abbrev Read (α : Type) := List Char → Except Fault (α × List Char)

/-- Complains about the place where `rest` remains. -/
def complain {α : Type} (complaint : Complaint) (rest : List Char) : Except Fault α :=
  .error (.malformed complaint rest.length)

/-- Whether a character may stand between two parts. -/
def isSpace (c : Char) : Bool :=
  c == ' ' || c == '\t' || c == '\n' || c == '\r'

/-- Drops the space in front. -/
def skipSpace (s : List Char) : List Char := s.dropWhile isSpace

/-! ## Strings -/

/-- The character that a backslash and this character stand for. -/
def escaped? : Char → Option Char
  | '"' => some '"'
  | '\\' => some '\\'
  | '/' => some '/'
  | 'b' => some '\x08'
  | 'f' => some '\x0c'
  | 'n' => some '\n'
  | 'r' => some '\r'
  | 't' => some '\t'
  | _ => none

/-- The code units of a string up to its closing quote; `opening` counts what remained at the
opening one. -/
def stringUnits (opening : Nat) (units : List Nat) :
    List Char → Except Fault (List Nat × List Char)
  | [] => .error (.malformed .unterminatedString opening)
  | '"' :: rest => .ok (units.reverse, rest)
  | ['\\'] => .error (.malformed .unterminatedString opening)
  -- an escape at the very end of the text counts as cut off, so one more character is asked for
  | '\\' :: 'u' :: a :: b :: c :: d :: next :: rest =>
    match hexNumber? [a, b, c, d] with
    | some unit => stringUnits opening (unit :: units) (next :: rest)
    | none => complain .badUnicodeEscape ('u' :: a :: b :: c :: d :: next :: rest)
  | '\\' :: 'u' :: rest => complain .badUnicodeEscape ('u' :: rest)
  | '\\' :: c :: rest =>
    match escaped? c with
    | some plain => stringUnits opening (plain.toNat :: units) rest
    | none => complain .badEscape ('\\' :: c :: rest)
  | c :: rest =>
    if c.toNat < 0x20 then complain .controlCharacter (c :: rest)
    else stringUnits opening (c.toNat :: units) rest

/-- Whether a code unit is the first of a pair. -/
def isHighSurrogate (unit : Nat) : Bool := 0xD800 ≤ unit && unit < 0xDC00

/-- Whether a code unit is the second of a pair. -/
def isLowSurrogate (unit : Nat) : Bool := 0xDC00 ≤ unit && unit < 0xE000

/-- Joins surrogate pairs; half of a pair on its own stays. -/
def joinUnits : List Nat → List Char
  | [] => []
  | [unit] => [ofCodePoint unit]
  | high :: low :: rest =>
    if isHighSurrogate high && isLowSurrogate low then
      Char.ofNat (0x10000 + (high - 0xD800) * 0x400 + (low - 0xDC00)) :: joinUnits rest
    else ofCodePoint high :: joinUnits (low :: rest)

/-- A string, after its opening quote. -/
def stringBody (rest : List Char) : Except Fault (String × List Char) :=
  (stringUnits (rest.length + 1) [] rest).map fun (units, after) =>
    (String.ofList (joinUnits units), after)

/-! ## Numbers -/

/-- Splits a fraction off the front: a point and at least one digit. -/
def splitFraction : List Char → List Char × List Char
  | '.' :: rest =>
    let digits := rest.takeWhile Char.isDigit
    if digits.isEmpty then ([], '.' :: rest) else (digits, rest.dropWhile Char.isDigit)
  | rest => ([], rest)

/-- Splits an exponent off the front: its mark, perhaps a sign, and at least one digit. -/
def splitExponent : List Char → Option Int × List Char
  | mark :: rest =>
    if mark = 'e' ∨ mark = 'E' then
      let (negative, after) := splitSign rest
      let digits := after.takeWhile Char.isDigit
      if digits.isEmpty then (none, mark :: rest)
      else
        let size : Int := ofDigits digits
        (some (if negative then -size else size), after.dropWhile Char.isDigit)
    else (none, mark :: rest)
  | [] => (none, [])

/-- The digits of a whole part: a zero alone, or digits that do not begin with one. -/
def splitWhole : List Char → List Char × List Char
  | '0' :: rest => (['0'], rest)
  | rest => (rest.takeWhile Char.isDigit, rest.dropWhile Char.isDigit)

/-- A number, with its sign already read. -/
def unsignedNumber (start : List Char) (negative : Bool) (s : List Char) :
    Except Fault (Value × List Char) :=
  let (whole, afterWhole) := splitWhole s
  -- a sign alone is complained about where it stands
  if whole.isEmpty then complain .expectingValue start
  else
    let (fraction, afterFraction) := splitFraction afterWhole
    let (exponent, rest) := splitExponent afterFraction
    if fraction.isEmpty && exponent.isNone then
      if longestInteger < whole.length then .error (.longInteger ⟨some whole.length⟩)
      else
        let size : Int := ofDigits whole
        .ok (.int (if negative then -size else size), rest)
    else
      let scale := exponent.getD 0 - fraction.length
      .ok (.float (ofDecimalParts negative (ofDigits (whole ++ fraction)) scale), rest)

/-- A number, or one of the words for the values that have no digits. -/
def scalar (s : List Char) : Except Fault (Value × List Char) :=
  match s with
  | 'n' :: 'u' :: 'l' :: 'l' :: rest => .ok (.null, rest)
  | 't' :: 'r' :: 'u' :: 'e' :: rest => .ok (.bool true, rest)
  | 'f' :: 'a' :: 'l' :: 's' :: 'e' :: rest => .ok (.bool false, rest)
  | 'N' :: 'a' :: 'N' :: rest => .ok (.float notNumber, rest)
  | 'I' :: 'n' :: 'f' :: 'i' :: 'n' :: 'i' :: 't' :: 'y' :: rest =>
    .ok (.float (infinity false), rest)
  | '-' :: 'I' :: 'n' :: 'f' :: 'i' :: 'n' :: 'i' :: 't' :: 'y' :: rest =>
    .ok (.float (infinity true), rest)
  | '-' :: rest => unsignedNumber s true rest
  | _ => unsignedNumber s false s

/-! ## Lists and mappings -/

/-- The rest of a list after the bracket or a comma; each round takes at least one character. -/
def items (item : Read Value) (found : List Value) :
    Nat → List Char → Except Fault (List Value × List Char)
  | 0, s => complain .expectingValue s
  | fuel + 1, s => do
    let (value, rest) ← item (skipSpace s)
    match skipSpace rest with
    | ']' :: after => .ok ((value :: found).reverse, after)
    | ',' :: after => items item (value :: found) fuel after
    | other => complain .expectingComma other

/-- One key with its value. -/
def member (item : Read Value) (s : List Char) : Except Fault ((Key × Value) × List Char) :=
  match s with
  | '"' :: body => do
    let (name, rest) ← stringBody body
    match skipSpace rest with
    | ':' :: after => do
      let (value, last) ← item (skipSpace after)
      return ((.text name, value), last)
    | other => complain .expectingColon other
  | other => complain .expectingName other

/-- The rest of a mapping after the brace or a comma; each round takes at least one character. -/
def members (item : Read Value) (found : Entries) :
    Nat → List Char → Except Fault (Entries × List Char)
  | 0, s => complain .expectingName s
  | fuel + 1, s => do
    let (entry, rest) ← member item (skipSpace s)
    match skipSpace rest with
    | '}' :: after => .ok (Entries.put entry.1 entry.2 found, after)
    | ',' :: after => members item (Entries.put entry.1 entry.2 found) fuel after
    | other => complain .expectingComma other

/-- A value with at most `nesting` brackets around one another. -/
def value (nesting : Nat) (s : List Char) : Except Fault (Value × List Char) :=
  match nesting, s with
  | _, '"' :: rest => (stringBody rest).map fun (text, after) => (.text text, after)
  | 0, '[' :: _ => .error .tooDeep
  | 0, '{' :: _ => .error .tooDeep
  -- the empty list is told apart first: a comma may not stand before the bracket
  | deeper + 1, '[' :: rest =>
    match skipSpace rest with
    | ']' :: after => .ok (.list [], after)
    | inside => (items (value deeper) [] (inside.length + 1) inside).map fun (found, after) =>
        (.list found, after)
  | deeper + 1, '{' :: rest =>
    match skipSpace rest with
    | '}' :: after => .ok (.mapping [], after)
    | inside => (members (value deeper) [] (inside.length + 1) inside).map fun (found, after) =>
        (.mapping found, after)
  | _, s => scalar s

/-! ## Documents -/

/-- Why a text could not be read. -/
inductive ReadError where
  /-- The text is no JSON at this line, column and offset, counted in characters. -/
  | malformed (complaint : Complaint) (line column offset : Nat)
  /-- A whole number has too many digits. -/
  | longInteger (complaint : LongInteger)
  /-- Lists and mappings are nested too deeply. -/
  | tooDeep
  deriving DecidableEq

/-- The wording of a read error; the deepest nesting has none of its own. -/
def ReadError.message : ReadError → String
  | malformed complaint line column offset =>
    s!"{complaint.text}: line {line} column {column} (char {offset})"
  | longInteger complaint => complaint.message
  | tooDeep => "maximum recursion depth exceeded while decoding a JSON document"

/-- Counts the line and the column of an offset, both from one. -/
def lineColumn (s : List Char) (offset : Nat) : Nat × Nat :=
  let before := s.take offset
  (before.count '\n' + 1, (before.reverse.takeWhile (· ≠ '\n')).length + 1)

/-- Turns what remains at a fault into its place. -/
def Fault.locate (s : List Char) : Fault → ReadError
  | malformed complaint remaining =>
    let offset := s.length - remaining
    let (line, column) := lineColumn s offset
    .malformed complaint line column offset
  | longInteger complaint => .longInteger complaint
  | tooDeep => .tooDeep

/-- One value with space around it, and nothing else. -/
def document (nesting : Nat) (s : List Char) : Except Fault Value := do
  if s.head? = some '\uFEFF' then complain .byteOrderMark s
  let (found, rest) ← value nesting (skipSpace s)
  match skipSpace rest with
  | [] => .ok found
  | other => complain .extraData other

/-- The deepest nesting that is read.  The number holds for one depth of the caller's own stack; a
caller who stands deeper can read less. -/
def deepest : Nat := 990

/-- Reads a JSON document. -/
def read (s : String) : Except ReadError Value :=
  (document deepest s.toList).mapError (Fault.locate s.toList)

end Machining.Json
