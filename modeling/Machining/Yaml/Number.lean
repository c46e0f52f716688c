import Machining.Numeric.Numeral
import Machining.Text.Blank
import Machining.Text.Case
import Machining.Text.Digit
import Machining.Yaml.Fault

/-!
# Numbers in a YAML text

A number may have underscores between its digits.  A whole number is decimal, or binary, octal or
hexadecimal by its first digits; parts between colons count in sixties.  The readers take any text,
since a tag may call any text a number.

* `readInt` reads a whole number.
* `readFloat` reads a floating-point number.
-/

namespace Machining.Yaml

open Machining.Numeric Machining.Text

/-- The parts of a text between colons. -/
def colonParts (s : List Char) : List (List Char) :=
  s.foldr (fun c parts =>
    match parts with
    | part :: rest => if c = ':' then [] :: part :: rest else (c :: part) :: rest
    | [] => [[c]]) [[]]

/-- The characters without underscores. -/
def withoutMarks (s : List Char) : List Char := s.filter (· ≠ '_')

/-- Splits off a sign, which is required to be in front of something; the first part says whether it
is a minus. -/
def takeSign (s : List Char) : Except ReadError (Bool × List Char) :=
  match s with
  | [] => .error .emptyNumber
  | '-' :: rest => .ok (true, rest)
  | '+' :: rest => .ok (false, rest)
  | _ => .ok (false, s)

/-! ## Whole numbers -/

/-- The characters of a numeral without blanks around it, its digits in ASCII. -/
def numeralOf (s : List Char) : List Char := (numeralChars (String.ofList s)).map plainDigit

/-- A decimal number. -/
def decimal (s : List Char) : Except ReadError Int :=
  match intNumeral (numeralOf s) with
  | .ok n => .ok n
  | .error .malformed => .error (.unreadableInt 10 (String.ofList s))
  | .error (.long complaint) => .error (.longInteger complaint)

/-- The letter that may mark the base of a number behind a zero. -/
def baseLetter (base : Nat) : Char := if base = 2 then 'b' else if base = 8 then 'o' else 'x'

/-- Drops the mark of a base from the front. -/
def dropBase (base : Nat) (s : List Char) : List Char :=
  match s with
  | '0' :: letter :: rest => if letter.toLower = baseLetter base then rest else s
  | _ => s

/-- A number in a base of two, eight or sixteen. -/
def inBase (base : Nat) (s : List Char) : Except ReadError Int :=
  let (negative, body) := splitSign (numeralOf s)
  let digits := dropBase base body
  let isDigit : Char → Bool := fun c => (hexDigit? c).any fun n => decide (n < base)
  if digits.isEmpty || !digits.all isDigit then .error (.unreadableInt base (String.ofList s))
  else
    let size : Int := digits.foldl (fun n c => base * n + (hexDigit? c).getD 0) 0
    .ok (if negative then -size else size)

/-- Counts parts in sixties, the greatest first. -/
def inSixties (parts : List Int) : Int := parts.foldl (fun total part => 60 * total + part) 0

/-- A whole number without its sign. -/
def unsignedInt (s : List Char) : Except ReadError Int :=
  match s with
  | [] => .error .emptyNumber
  | ['0'] => .ok 0
  | '0' :: 'b' :: digits => inBase 2 digits
  | '0' :: 'x' :: digits => inBase 16 digits
  -- a zero in front makes the number octal
  | '0' :: _ => inBase 8 s
  | _ => if s.contains ':' then ((colonParts s).mapM decimal).map inSixties else decimal s

/-- A whole number. -/
def readInt (s : List Char) : Except ReadError Int := do
  let (negative, body) ← takeSign (withoutMarks s)
  let n ← unsignedInt body
  return if negative then -n else n

/-! ## Floating-point numbers -/

/-- A part of a floating-point number. -/
def floatPart (s : List Char) : Except ReadError Float :=
  match floatNumeral? (numeralOf s) with
  | some x => .ok x
  | none => .error (.unreadableFloat (String.ofList s))

/-- Counts parts in sixties, the least first, from a power of sixty on; the power has to be within
the range of floating-point numbers. -/
def floatSixties (total : Float) (power : Nat) : List Float → Except ReadError Float
  | [] => .ok total
  | part :: rest =>
    let scale := Float.ofNat power
    if scale.isFinite then floatSixties (total + part * scale) (60 * power) rest
    else .error .hugeInteger

/-- A floating-point number without its sign. -/
def unsignedFloat (s : List Char) : Except ReadError Float :=
  match s with
  | ['.', 'i', 'n', 'f'] => .ok (infinity false)
  | ['.', 'n', 'a', 'n'] => .ok notNumber
  | _ =>
    if s.contains ':' then do
      let parts ← (colonParts s).mapM floatPart
      floatSixties (Float.ofNat 0) 1 parts.reverse
    else floatPart s

/-- A floating-point number. -/
def readFloat (s : List Char) : Except ReadError Float := do
  -- capitals do not count
  let (negative, body) ← takeSign (lower (String.ofList (withoutMarks s))).toList
  let x ← unsignedFloat body
  return if negative then -x else x

end Machining.Yaml
