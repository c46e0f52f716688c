import Machining.Numeric.Power

/-!
# Reading numerals

A written number is a sign, digits around at most one point, and an exponent; or it names an
infinity or "no number".  Underscores may part digits.  `floatNumeral?` reads such a numeral as the
nearest floating-point number and `intNumeral` reads a whole number exactly.
-/

namespace Machining.Numeric

/-- An infinity, by its sign. -/
def infinity (negative : Bool) : Float :=
  if negative then -(Float.ofNat 1 / Float.ofNat 0) else Float.ofNat 1 / Float.ofNat 0

/-- The floating-point value that is no number. -/
def notNumber : Float := Float.ofNat 0 / Float.ofNat 0

/-- The floating-point number nearest to `± mantissa * 10 ^ exponent`.  A value far outside the
range is settled without computing the power of ten. -/
def ofDecimalParts (negative : Bool) (mantissa : Nat) (exponent : Int) : Float :=
  let digits : Int := mantissa.log2 * 30103 / 100000
  let magnitude : Float :=
    if mantissa = 0 ∨ digits + exponent < -400 then Float.ofNat 0
    else if 400 < digits + exponent then infinity false
    else Float.ofScientific mantissa (exponent < 0) exponent.natAbs
  if negative then -magnitude else magnitude

/-- The whole number that decimal digits stand for. -/
def ofDigits (digits : List Char) : Nat :=
  digits.foldl (fun n c => 10 * n + (c.toNat - '0'.toNat)) 0

/-- Splits off a leading sign; the first part says whether it is a minus. -/
def splitSign : List Char → Bool × List Char
  | '-' :: rest => (true, rest)
  | '+' :: rest => (false, rest)
  | rest => (false, rest)

/-- Reads an exponent with its mark; nothing at all is the exponent zero. -/
def exponent? : List Char → Option Int
  | [] => some 0
  | mark :: rest =>
    if mark = 'e' ∨ mark = 'E' then
      let (negative, digits) := splitSign rest
      if digits.isEmpty || !digits.all Char.isDigit then none
      else some (if negative then -(ofDigits digits : Int) else ofDigits digits)
    else none

/-- Reads an unsigned decimal with at least one digit. -/
def unsignedDecimal? (negative : Bool) (s : List Char) : Option Float :=
  let whole := s.takeWhile Char.isDigit
  let afterWhole := s.dropWhile Char.isDigit
  let afterPoint := match afterWhole with
    | '.' :: rest => rest
    | _ => []
  let fraction := afterPoint.takeWhile Char.isDigit
  let tail := match afterWhole with
    | '.' :: rest => rest.dropWhile Char.isDigit
    | rest => rest
  -- a point alone is no number
  if whole.isEmpty && fraction.isEmpty then none
  else (exponent? tail).map fun e =>
    ofDecimalParts negative (ofDigits (whole ++ fraction)) (e - fraction.length)

/-- The names of values without digits, in any case. -/
def namedFloat? (negative : Bool) (s : List Char) : Option Float :=
  match String.ofList (s.map Char.toLower) with
  | "inf" | "infinity" => some (infinity negative)
  | "nan" => some notNumber
  | _ => none

/-- Takes out underscores; fails unless each stands between two digits. -/
def joinDigits? : List Char → Option (List Char)
  | [] => some []
  | ['_'] => none
  | [c] => some [c]
  -- an underscore needs a digit on either side
  | a :: '_' :: b :: rest =>
    if a.isDigit && b.isDigit then (joinDigits? (b :: rest)).map (a :: ·) else none
  | a :: rest => if a = '_' then none else (joinDigits? rest).map (a :: ·)

/-- Reads a numeral without underscores as a floating-point number. -/
def plainNumeral? (s : List Char) : Option Float :=
  let (negative, body) := splitSign s
  (namedFloat? negative body).or (unsignedDecimal? negative body)

/-- Reads a numeral as a floating-point number. -/
def floatNumeral? (s : List Char) : Option Float := (joinDigits? s).bind plainNumeral?

/-! ## Whole numbers -/

/-- The most digits that a whole number may have as a text. -/
def longestInteger : Nat := 4300

/-- A whole number has too many digits: so many in a text that is read, or too many to be
written. -/
structure LongInteger where
  /-- The digits of the text that is read. -/
  digits : Option Nat
  deriving DecidableEq

/-- The wording of the complaint. -/
def LongInteger.message (long : LongInteger) : String :=
  let count := match long.digits with
    | some digits => s!": value has {digits} digits"
    | none => ""
  s!"Exceeds the limit ({longestInteger} digits) for integer string conversion{count}" ++
    "; use sys.set_int_max_str_digits() to increase the limit"

/-- Whether a whole number has too many digits to be written. -/
def isLongInteger (n : Int) : Bool := 10 ^ longestInteger ≤ n.natAbs

/-- The longest part of a shown text in the complaint that it is no whole number. -/
def longestShown : Nat := 200

/-- The wording of the complaint that a text, shown like this, is no whole number in a base. -/
def unreadableIntMessage (base : Nat) (shown : String) : String :=
  s!"invalid literal for int() with base {base}: " ++
    String.ofList (shown.toList.take longestShown)

/-- Why a text could not be read as a whole number. -/
inductive IntFault where
  /-- It is none. -/
  | malformed
  /-- It has too many digits. -/
  | long (complaint : LongInteger)
  deriving DecidableEq

/-- Takes digits off the front that single underscores may part.  `parted` says that a digit has to
follow; nothing is taken where none does. -/
def takeDigits? (isDigit : Char → Bool) (parted : Bool) :
    List Char → Option (List Char × List Char)
  | [] => if parted then none else some ([], [])
  | c :: rest =>
    if c = '_' then if parted then none else takeDigits? isDigit true rest
    else if isDigit c then
      (takeDigits? isDigit false rest).map fun (digits, after) => (c :: digits, after)
    else if parted then none
    else some ([], c :: rest)

/-- Reads a whole number in decimal digits, with a sign or without.  Whether there are too many
digits counts before what follows them. -/
def intNumeral (s : List Char) : Except IntFault Int :=
  let (negative, body) := splitSign s
  match takeDigits? Char.isDigit true body with
  | none => .error .malformed
  | some (digits, rest) =>
    if longestInteger < digits.length then .error (.long ⟨some digits.length⟩)
    else if !rest.isEmpty then .error .malformed
    else .ok (if negative then -(ofDigits digits : Int) else ofDigits digits)

end Machining.Numeric
