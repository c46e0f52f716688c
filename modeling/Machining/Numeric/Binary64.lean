import Machining.Numeric.Rounding

/-!
# Binary64 numbers as exact values

A floating-point number is looked at through its bits: it is no number, an infinity, or a sign with
a whole mantissa times a power of two.  All printing and every conversion to whole numbers starts
from this view, so that it can be computed exactly.  `Binary64.nearest` goes the other way: it
builds the floating-point number that is nearest to a mantissa times a power of two.
-/

namespace Machining.Numeric

/-- What a floating-point number stands for. -/
inductive Binary64 where
  /-- No number. -/
  | nan
  /-- An infinity with its sign. -/
  | infinite (negative : Bool)
  /-- The value `± mantissa * 2 ^ exponent`; a zero keeps its sign. -/
  | finite (negative : Bool) (mantissa : Nat) (exponent : Int)
  deriving DecidableEq

namespace Binary64

/-- The exponent of the least subnormal number. -/
def leastExponent : Int := -1074

/-- The mantissa of a power of two in the normal range. -/
def hiddenBit : Nat := 2 ^ 52

/-- Takes the sign, the exponent field and the fraction out of the 64 bits. -/
def ofFloat (x : Float) : Binary64 :=
  let bits := x.toBits.toNat
  let negative := decide (2 ^ 63 ≤ bits)
  let field : Nat := bits / 2 ^ 52 % 2 ^ 11
  let fraction := bits % 2 ^ 52
  if field = 2047 then
    if fraction = 0 then .infinite negative else .nan
  -- subnormal numbers have the least exponent and no hidden bit
  else if field = 0 then .finite negative fraction leastExponent
  else .finite negative (hiddenBit + fraction) ((field : Int) - 1075)

/-- The bits of the number nearest to `mantissa * 2 ^ exponent`, ties to the even mantissa. -/
def nearestBits (mantissa : Nat) (exponent : Int) : Nat :=
  if mantissa = 0 then 0
  else
    -- the exponent that leaves 53 bits, unless the number is subnormal
    let unit := max (exponent + Nat.log2 mantissa - 52) leastExponent
    let (up, down) := powerParts 2 (exponent - unit)
    let rounded := roundHalfEven (mantissa * up) down
    -- a mantissa that rounds up to the next power carries into the exponent by itself
    min ((unit - leastExponent).toNat * hiddenBit + rounded) (2047 * hiddenBit)

/-- The floating-point number nearest to `mantissa * 2 ^ exponent`; beyond the range, infinity. -/
def nearest (mantissa : Nat) (exponent : Int) : Float :=
  Float.ofBits (nearestBits mantissa exponent).toUInt64

end Binary64

end Machining.Numeric
