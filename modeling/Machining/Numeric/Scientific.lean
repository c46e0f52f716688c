import Machining.Numeric.Fixed

/-!
# Decimals by their significant digits

A floating-point number is shown by significant digits in two ways: by the fewest digits that read
back as the same number (`Scientific.shortest`), and by a set count of digits
(`Scientific.rounded`).  Both give a whole number of digits and a power of ten; a `Layout` says how
they are written.
-/

namespace Machining.Numeric

/-- The positive decimal `digits * 10 ^ exponent`. -/
structure Scientific where
  /-- The significant digits, read as one whole number. -/
  digits : Nat
  /-- The power of ten that they are multiplied by. -/
  exponent : Int
  deriving DecidableEq

/-- How a decimal is written. -/
structure Layout where
  /-- Powers of ten from here up to `positionalBelow` are written without an exponent. -/
  positionalFrom : Int
  /-- The first power of ten that is too large to be written without an exponent. -/
  positionalBelow : Int
  /-- Whether a whole number is written with a point and a zero. -/
  marksWhole : Bool
  /-- Whether a negative zero shows its sign. -/
  signsZero : Bool
  deriving DecidableEq

namespace Scientific

/-- Moves zeros at the end of the digits into the exponent. -/
def trim (s : Scientific) : Scientific :=
  go (s.digits.log2 + 1) s
where
  /-- One zero for each unit of fuel; there are no more zeros than binary digits. -/
  go : Nat → Scientific → Scientific
    | 0, s => s
    | fuel + 1, s =>
      if s.digits ≠ 0 ∧ s.digits % 10 = 0 then go fuel ⟨s.digits / 10, s.exponent + 1⟩ else s

/-- The power of ten with which the leading digit counts. -/
def leadingPower (s : Scientific) : Int :=
  s.exponent + (Nat.toDigits 10 s.digits).length - 1

/-- The least `k` with `num / den < 10 ^ k`, for a positive quotient. -/
def decimalScale (num den : Nat) : Int :=
  let bits : Int := (num.log2 : Int) - den.log2
  -- the logarithm from below; the search goes up from it
  let guess : Int := (bits - 1) * 30103 / 100000
  go 4 guess
where
  /-- Climbs from a guess that is at most a few below the answer. -/
  go : Nat → Int → Int
    | 0, k => k
    | fuel + 1, k =>
      let (up, down) := powerParts 10 k
      if num * down < den * up then k else go fuel (k + 1)

/-- The value `num / den` rounded to so many significant digits, ties to the even digit. -/
def rounded (count num den : Nat) : Scientific :=
  let power := decimalScale num den - count
  let (up, down) := powerParts 10 power
  trim ⟨roundHalfEven (num * down) (den * up), power⟩

/-- The interval of values that round to one floating-point number, over a common denominator. -/
structure Neighbourhood where
  /-- The lower end. -/
  low : Nat
  /-- The number itself. -/
  value : Nat
  /-- The upper end. -/
  high : Nat
  /-- What all three are divided by. -/
  den : Nat
  /-- Whether the ends themselves round to the number. -/
  closed : Bool

/-- The neighbourhood of `mantissa * 2 ^ exponent`.  Below a power of two the next number is half
as far away. -/
def neighbourhood (mantissa : Nat) (exponent : Int) : Neighbourhood :=
  let (up, down) := powerParts 2 (exponent - 2)
  let below :=
    if mantissa = Binary64.hiddenBit ∧ Binary64.leastExponent < exponent then 1 else 2
  ⟨(4 * mantissa - below) * up, 4 * mantissa * up, (4 * mantissa + 2) * up, down,
    mantissa % 2 == 0⟩

/-- Whether `digits * up / down` lies in the neighbourhood. -/
def Neighbourhood.holds (n : Neighbourhood) (up down digits : Nat) : Bool :=
  let point := digits * up * n.den
  if n.closed then n.low * down ≤ point && point ≤ n.high * down
  else n.low * down < point && point < n.high * down

/-- The candidate with so many digits: of the two grid points around the value those that read
back, and of two the nearer (from halfway, the even one). -/
def Neighbourhood.candidate? (n : Neighbourhood) (scale : Int) (count : Nat) :
    Option Scientific :=
  let power := scale - count
  let (up, down) := powerParts 10 power
  let floor := n.value * down / (n.den * up)
  let best := roundHalfEven (n.value * down) (n.den * up)
  let other := if best = floor then floor + 1 else floor
  if n.holds up down best then some ⟨best, power⟩
  else if n.holds up down other then some ⟨other, power⟩
  else none

/-- The fewest digits that read back as `mantissa * 2 ^ exponent`; of those the nearest. -/
def shortest (mantissa : Nat) (exponent : Int) : Scientific :=
  let n := neighbourhood mantissa exponent
  let scale := decimalScale n.value n.den
  let found := (List.range 17).findSome? fun i => n.candidate? scale (i + 1)
  trim (found.getD ⟨mantissa, 0⟩)

/-- The significant digits as text. -/
def digitText (s : Scientific) : String :=
  String.ofList (Nat.toDigits 10 s.digits)

/-- Writes a positive decimal by a layout. -/
def text (layout : Layout) (s : Scientific) : String :=
  let digits := s.digitText.toList
  let lead := s.leadingPower
  if layout.positionalFrom ≤ lead ∧ lead < layout.positionalBelow then
    if 0 ≤ s.exponent then
      let whole := s.digitText.pushn '0' s.exponent.toNat
      if layout.marksWhole then whole ++ ".0" else whole
    -- the point stands among the digits
    else if 0 ≤ lead then
      let cut := lead.toNat + 1
      String.ofList (digits.take cut) ++ "." ++ String.ofList (digits.drop cut)
    else
      "0.".pushn '0' (-lead - 1).toNat ++ s.digitText
  else
    let head := String.ofList (digits.take 1)
    let tail := String.ofList (digits.drop 1)
    let sign := if lead < 0 then "-" else "+"
    head ++ (if tail.isEmpty then "" else "." ++ tail) ++ "e" ++ sign ++
      Fixed.paddedDigits 2 lead.natAbs

end Scientific

/-- Writes a floating-point number, given how many significant digits of a positive value to
take. -/
def Layout.write (layout : Layout) (digitsOf : Nat → Int → Scientific) (x : Float) : String :=
  match Binary64.ofFloat x with
  | .nan => "nan"
  | .infinite negative => if negative then "-inf" else "inf"
  | .finite negative mantissa exponent =>
    if mantissa = 0 then
      (if negative && layout.signsZero then "-" else "") ++
        (if layout.marksWhole then "0.0" else "0")
    else
      (if negative then "-" else "") ++ (digitsOf mantissa exponent).text layout

/-- Shortest text: the fewest digits that read back, without an exponent from `0.0001` up to
`10 ^ 16`, and never without a point or an exponent. -/
def shortestLayout : Layout := ⟨-4, 16, true, true⟩

/-- Rounded text: twelve digits, without an exponent from `0.0001` up to `10 ^ 12`. -/
def roundedLayout : Layout := ⟨-4, 12, false, false⟩

/-- The text of a floating-point number with the fewest digits that read back. -/
def shortestText (x : Float) : String :=
  shortestLayout.write Scientific.shortest x

/-- The text of a floating-point number rounded to twelve significant digits. -/
def roundedText (x : Float) : String :=
  roundedLayout.write (fun mantissa exponent =>
    let (up, down) := powerParts 2 exponent
    Scientific.rounded 12 (mantissa * up) down) x

end Machining.Numeric
