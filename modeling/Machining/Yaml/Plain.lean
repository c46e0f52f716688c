import Machining.Document.Value
import Machining.Yaml.Number

/-!
# What plain words stand for

Plain words may stand for the empty value, a truth value, a number or a day; otherwise they are a
text.  A floating-point number has a point, and an exponent has a sign.  A day may have a time
behind it.

* `PlainType.of` tells what plain words stand for.
* `PlainType.read` builds the value.
-/

namespace Machining.Yaml

open Machining.Document Machining.Numeric Machining.Text

/-- What plain words may stand for. -/
inductive PlainType where
  /-- The empty value. -/
  | null
  /-- A truth value. -/
  | bool
  /-- A whole number. -/
  | int
  /-- A floating-point number. -/
  | float
  /-- A day. -/
  | date
  /-- The key under which mappings are merged. -/
  | merge
  /-- The mark of a default value. -/
  | standard
  /-- A text. -/
  | text
  deriving DecidableEq

/-! ## Truth values and the empty value -/

/-- The words for the two truth values, in small letters. -/
def truthWords : List (String × Bool) :=
  [("yes", true), ("no", false), ("true", true), ("false", false), ("on", true), ("off", false)]

/-- A word in small letters. -/
def small (s : List Char) : String := String.ofList (s.map Char.toLower)

/-- Whether a word is written in small letters, in capitals, or with a capital first. -/
def isCased (s : List Char) : Bool :=
  let lower := s.map Char.toLower
  let upper := s.map Char.toUpper
  s == lower || s == upper || s == upper.take 1 ++ lower.drop 1

/-- The truth value of a word. -/
def truth? (s : List Char) : Option Bool := if isCased s then truthWords.lookup (small s) else none

/-- Whether a word stands for the empty value. -/
def isNull (s : List Char) : Bool :=
  s.isEmpty || s == ['~'] || (isCased s && small s == "null")

/-! ## Whole numbers -/

/-- Whether a character is a digit or an underscore. -/
def isLooseDigit (c : Char) : Bool := c.isDigit || c == '_'

/-- Whether a character is a digit of a base, or an underscore. -/
def isDigitOf (base : Nat) (c : Char) : Bool :=
  c == '_' || (hexDigit? c).any fun n => decide (n < base)

/-- Whether a text is a number below sixty: one digit, or two of which the first is below six. -/
def isSixtieth (s : List Char) : Bool :=
  match s with
  | [a] => a.isDigit
  | [a, b] => a.isDigit && decide (a < '6') && b.isDigit
  | _ => false

/-- Whether a text is a whole number without its sign. -/
def isUnsignedInt (s : List Char) : Bool :=
  match s with
  | ['0'] => true
  | '0' :: 'b' :: digits => !digits.isEmpty && digits.all (isDigitOf 2)
  | '0' :: 'x' :: digits => !digits.isEmpty && digits.all (isDigitOf 16)
  -- a zero in front makes the number octal
  | '0' :: digits => digits.all (isDigitOf 8)
  | c :: rest =>
    c.isDigit &&
      (rest.all isLooseDigit ||
        match colonParts s with
        | first :: part :: parts => first.all isLooseDigit && (part :: parts).all isSixtieth
        | _ => false)
  | [] => false

/-- Splits off a sign; the first part says whether there is one, the second whether it is a
minus. -/
def signed (s : List Char) : Bool × Bool × List Char :=
  match s with
  | '-' :: rest => (true, true, rest)
  | '+' :: rest => (true, false, rest)
  | _ => (false, false, s)

/-! ## Floating-point numbers -/

/-- Whether a text is nothing, or an exponent with a sign. -/
def isExponent (s : List Char) : Bool :=
  match s with
  | [] => true
  | mark :: sign :: digits =>
    (mark == 'e' || mark == 'E') && (sign == '+' || sign == '-') && !digits.isEmpty &&
      digits.all Char.isDigit
  | _ => false

/-- Whether a text is a fraction behind a point, perhaps with an exponent. -/
def isFraction (s : List Char) : Bool := isExponent (s.dropWhile isLooseDigit)

/-- Whether a text is one of the words, with all its letters small, capital, or the first
capital. -/
def isPointWord (word : String) (s : List Char) : Bool := isCased s && small s == word

/-- The parts of a number in sixties with a point at the end: the parts and what follows the
point. -/
def sixtiesFloat? (s : List Char) : Option (List (List Char)) :=
  let whole := s.takeWhile (· ≠ '.')
  match s.dropWhile (· ≠ '.'), colonParts whole with
  | '.' :: fraction, first :: part :: parts =>
    let digits := first.head?.any Char.isDigit && first.all isLooseDigit
    if digits && (part :: parts).all isSixtieth && fraction.all isLooseDigit then
      some (first :: part :: parts)
    else none
  | _, _ => none

/-- Whether a text is a floating-point number. -/
def isFloat (s : List Char) : Bool :=
  let (hasSign, _, body) := signed s
  match body with
  | '.' :: c :: rest =>
    -- a number that begins with its point has no sign
    if c.isDigit then !hasSign && isFraction (c :: rest)
    else isPointWord "inf" (c :: rest) || (!hasSign && isNan (c :: rest))
  | c :: _ =>
    c.isDigit &&
      (match body.dropWhile isLooseDigit with
        | '.' :: rest => isFraction rest
        | _ => (sixtiesFloat? body).isSome)
  | [] => false
where
  /-- Whether a text is the word for "no number". -/
  isNan (s : List Char) : Bool := [['n', 'a', 'n'], ['N', 'a', 'N'], ['N', 'A', 'N']].contains s

/-! ## Days -/

/-- Takes so many digits off the front. -/
def takeDigits (count : Nat) (s : List Char) : Option (Nat × List Char) :=
  let digits := s.take count
  if digits.length = count ∧ digits.all Char.isDigit then some (ofDigits digits, s.drop count)
  else none

/-- Takes one or two digits off the front. -/
def takePair (s : List Char) : Option (Nat × List Char) :=
  match takeDigits 2 s with
  | some found => some found
  | none => takeDigits 1 s

/-- Takes a character off the front. -/
def takeMark (mark : Char) : List Char → Option (List Char)
  | c :: rest => if c = mark then some rest else none
  | [] => none

/-- The year, month and day of a text that has ten characters. -/
def dayParts? (s : List Char) : Option Date := do
  let (year, s₁) ← takeDigits 4 s
  let (month, s₂) ← takeDigits 2 (← takeMark '-' s₁)
  let (day, s₃) ← takeDigits 2 (← takeMark '-' s₂)
  if s₃.isEmpty then return ⟨year, month, day, none⟩ else none

/-- The year, month and day of a text that may leave out zeros in front. -/
def looseDayParts? (s : List Char) : Option Date := do
  let (year, s₁) ← takeDigits 4 s
  let (month, s₂) ← takePair (← takeMark '-' s₁)
  let (day, s₃) ← takePair (← takeMark '-' s₂)
  if s₃.isEmpty then return ⟨year, month, day, none⟩ else none

/-- The microseconds of the digits behind a second; digits beyond the sixth do not count. -/
def microsOf (digits : List Char) : Nat :=
  ofDigits (digits.take 6 ++ List.replicate (6 - digits.length) '0')

/-- The zone behind a time: nothing, the common one, or an offset with a sign. -/
def zone? (s : List Char) : Option (Option Int) :=
  match s.dropWhile fun c => c = ' ' ∨ c = '\t' with
  | [] => if s.isEmpty then some none else none
  | ['Z'] => some (some 0)
  | sign :: rest => do
    if sign ≠ '+' ∧ sign ≠ '-' then none
    let (hours, s₁) ← takePair rest
    -- the minutes may be left out
    let (minutes, s₂) ← if s₁.isEmpty then some (0, []) else do takeDigits 2 (← takeMark ':' s₁)
    let size : Int := 60 * hours + minutes
    if s₂.isEmpty then return some (if sign = '-' then -size else size) else none

/-- Takes what stands between a day and a time off the front. -/
def takeGap (s : List Char) : Option (List Char) :=
  match s with
  | 'T' :: rest | 't' :: rest => some rest
  | _ =>
    let rest := s.dropWhile fun c => c = ' ' ∨ c = '\t'
    if rest.length < s.length then some rest else none

/-- The day and the time of a text. -/
def momentParts? (s : List Char) : Option Date := do
  let (year, s₁) ← takeDigits 4 s
  let (month, s₂) ← takePair (← takeMark '-' s₁)
  let (day, s₃) ← takePair (← takeMark '-' s₂)
  let (hour, s₄) ← takePair (← takeGap s₃)
  let (minute, s₅) ← takeDigits 2 (← takeMark ':' s₄)
  let (second, s₆) ← takeDigits 2 (← takeMark ':' s₅)
  let (digits, s₇) := match s₆ with
    | '.' :: rest => (rest.takeWhile Char.isDigit, rest.dropWhile Char.isDigit)
    | _ => ([], s₆)
  let zone ← zone? s₇
  return ⟨year, month, day, some ⟨hour, minute, second, microsOf digits, zone⟩⟩

/-- The day of a text, perhaps with a time. -/
def dateParts? (s : List Char) : Option Date := dayParts? s <|> momentParts? s

/-- Whether a year has a leap day. -/
def isLeapYear (year : Nat) : Bool := year % 4 == 0 && (year % 100 != 0 || year % 400 == 0)

/-- How many days a month has. -/
def monthLength (year month : Nat) : Nat :=
  if month = 2 then (if isLeapYear year then 29 else 28)
  else if [4, 6, 9, 11].contains month then 30
  else 31

/-- Passes if there is such a day. -/
def checkDay (d : Date) : Except ReadError Unit :=
  if d.year = 0 then .error (.yearOutOfRange d.year)
  else if d.month = 0 ∨ 12 < d.month then .error .monthOutOfRange
  else if d.day = 0 ∨ monthLength d.year d.month < d.day then .error .dayOutOfRange
  else .ok ()

/-- Passes if no clock is a day or more ahead or behind. -/
def checkOffset (minutes : Int) : Except ReadError Unit :=
  if 1440 ≤ minutes.natAbs then .error (.offsetOutOfRange minutes) else .ok ()

/-- Passes if there is such a time. -/
def checkTime (t : TimeOfDay) : Except ReadError Unit :=
  if 23 < t.hour then .error .hourOutOfRange
  else if 59 < t.minute then .error .minuteOutOfRange
  else if 59 < t.second then .error .secondOutOfRange
  else .ok ()

/-- A day of the calendar, perhaps with a time. -/
def readDate (d : Date) : Except ReadError Date := do
  -- the clock is looked at first, then the day, then the time
  discard ((d.time.bind (·.offset)).mapM checkOffset)
  checkDay d
  discard (d.time.mapM checkTime)
  return d

/-! ## All types -/

namespace PlainType

/-- What plain words stand for. -/
def of (s : List Char) : PlainType :=
  if isNull s then .null
  else if (truth? s).isSome then .bool
  else if isFloat s then .float
  else if isUnsignedInt (signed s).2.2 then .int
  else if (dateParts? s).isSome then .date
  else if s == ['<', '<'] then .merge
  else if s == ['='] then .standard
  else .text

/-- Builds the value of a text of a type; a mark that is no value on its own has none. -/
def read (type : PlainType) (s : List Char) : Except ReadError Value :=
  match type with
  | null => .ok .null
  | bool =>
    let word := lower (String.ofList s)
    match truthWords.lookup word with
    | some b => .ok (.bool b)
    | none => .error (.unknownWord word)
  | int => (readInt s).map .int
  | float => (readFloat s).map .float
  | date =>
    match dateParts? s <|> looseDayParts? s with
    | some d => (readDate d).map .date
    | none => .error .noDate
  | text => .ok (.text (String.ofList s))
  -- these are marks and not values
  | merge | standard => .error (.malformed .unknownType)

end PlainType

end Machining.Yaml
