import Machining.Numeric.Scientific

/-!
# Floating-point numbers in three styles

A number can be written with a set count of places behind the point, with a set count of places and
an exponent, or with a set count of significant digits in whichever of the two fits.  The last
style drops zeros at the end, unless the full form is asked for.
-/

namespace Machining.Numeric

/-- How a number is written. -/
inductive Style where
  /-- With places behind the point. -/
  | fixed
  /-- With places behind the point and an exponent. -/
  | exponential
  /-- With significant digits. -/
  | general
  deriving DecidableEq

namespace Style

/-- A power of ten behind its mark, with a sign and at least two digits. -/
def exponentText (power : Int) : String :=
  "e" ++ (if power < 0 then "-" else "+") ++ Fixed.paddedDigits 2 power.natAbs

/-- Exactly so many significant digits of a positive quotient, with the power of ten of the
first. -/
def significant (count num den : Nat) : List Char × Int :=
  let s := Scientific.rounded count num den
  let digits := Nat.toDigits 10 s.digits
  (digits ++ List.replicate (count - digits.length) '0', s.leadingPower)

/-- A whole part and a fraction with a point between; the point goes without a fraction unless the
full form is asked for. -/
def join (full : Bool) (whole fraction : List Char) : String :=
  String.ofList whole ++
    (if fraction.isEmpty then (if full then "." else "") else "." ++ String.ofList fraction)

/-- Drops zeros at the end, unless the full form is asked for. -/
def dropZeros (full : Bool) (fraction : List Char) : List Char :=
  if full then fraction else (fraction.reverse.dropWhile (· = '0')).reverse

/-- The digits of a value with so many significant ones; a zero has zeros only. -/
def digitsOf (count num den : Nat) : List Char × Int :=
  if num = 0 then (List.replicate count '0', 0) else significant count num den

/-- The quotient `num / den` in a style. -/
def magnitude (style : Style) (full : Bool) (precision num den : Nat) : String :=
  match style with
  | fixed =>
    let units := roundHalfEven (num * 10 ^ precision) den
    let text := (Fixed.decimal false units precision).text
    if full && precision = 0 then text ++ "." else text
  | exponential =>
    let (digits, power) := digitsOf (precision + 1) num den
    join full (digits.take 1) (digits.drop 1) ++ exponentText power
  | general =>
    let count := max precision 1
    let (digits, power) := digitsOf count num den
    if -4 ≤ power ∧ power < count then
      if 0 ≤ power then
        let cut := power.toNat + 1
        join full (digits.take cut) (dropZeros full (digits.drop cut))
      else
        join full ['0']
          (dropZeros full (List.replicate (-power - 1).toNat '0' ++ digits))
    else
      join full (digits.take 1) (dropZeros full (digits.drop 1)) ++ exponentText power

/-- A floating-point number in a style. -/
def text (style : Style) (full : Bool) (precision : Nat) (x : Float) : String :=
  match Binary64.ofFloat x with
  | .nan => "nan"
  | .infinite negative => if negative then "-inf" else "inf"
  | .finite negative mantissa exponent =>
    let (up, down) := powerParts 2 exponent
    (if negative then "-" else "") ++ style.magnitude full precision (mantissa * up) down

end Style

end Machining.Numeric
