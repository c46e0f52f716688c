import Machining.Numeric.Binary64

/-!
# Decimals with a fixed number of places

The words of a program hold decimals with a set number of places.  A `Fixed` is such a decimal
before it is written: two of them are equal exactly when they are written alike, so that a word can
be left out when it repeats the one before.

* `Fixed.ofFloat` rounds the exact binary value, halfway cases to the even last digit.
* `Fixed.unsigned` drops the sign of a zero.
* `Fixed.text` writes the digits.
-/

namespace Machining.Numeric

/-- A decimal with a fixed number of places, or one of the values that have no digits. -/
inductive Fixed where
  /-- No number. -/
  | nan
  /-- An infinity with its sign. -/
  | infinite (negative : Bool)
  /-- The decimal `± units / 10 ^ places`. -/
  | decimal (negative : Bool) (units places : Nat)
  deriving DecidableEq, Inhabited

namespace Fixed

/-- Rounds the exact value of a floating-point number to so many places. -/
def ofFloat (places : Nat) (x : Float) : Fixed :=
  match Binary64.ofFloat x with
  | .nan => .nan
  | .infinite negative => .infinite negative
  | .finite negative mantissa exponent =>
    let (up, down) := powerParts 2 exponent
    .decimal negative (roundHalfEven (mantissa * up * 10 ^ places) down) places

/-- A zero loses its sign; everything else stays. -/
def unsigned : Fixed → Fixed
  | .decimal true 0 places => .decimal false 0 places
  | other => other

/-- The digits of a number, with zeros in front up to a least width. -/
def paddedDigits (width n : Nat) : String :=
  let digits := String.ofList (Nat.toDigits 10 n)
  "".pushn '0' (width - digits.length) ++ digits

/-- The whole part, and after a point exactly as many digits as there are places. -/
def text : Fixed → String
  | .nan => "nan"
  | .infinite negative => if negative then "-inf" else "inf"
  | .decimal negative units places =>
    let sign := if negative then "-" else ""
    let whole := toString (units / 10 ^ places)
    let tail := if places = 0 then "" else "." ++ paddedDigits places (units % 10 ^ places)
    sign ++ whole ++ tail

end Fixed

end Machining.Numeric
