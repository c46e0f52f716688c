import Machining.Numeric.Fixed

/-!
# The numbers a job is planned in

Geometry, toolpaths and the program compiler are written once over a type of numbers that offers
the operations below.  The floating-point numbers are the instance that runs; an exact instance
obeys the same definitions, which is how statements about exact geometry are made.

Comparisons are Boolean, because a floating-point number may compare with nothing: a comparison
with "no number" is false.  `Scalar.max` and `Scalar.min` keep their first argument unless the
second is strictly better, which settles what they do then.
-/

namespace Machining.Numeric

/-- Why a number could not be computed. -/
inductive ArithmeticError where
  /-- A quotient by zero. -/
  | divisionByZero
  /-- "No number" where a whole number is needed. -/
  | nanToInteger
  /-- An infinity where a whole number is needed. -/
  | infinityToInteger
  deriving DecidableEq

/-- The wording of an arithmetic error. -/
def ArithmeticError.message : ArithmeticError → String
  | divisionByZero => "float division by zero"
  | nanToInteger => "cannot convert float NaN to integer"
  | infinityToInteger => "cannot convert float infinity to integer"

/-- A type of numbers in which a job can be planned. -/
class Scalar (α : Type) extends Add α, Sub α, Mul α, Div α, Neg α where
  /-- A whole number. -/
  ofNat : Nat → α
  /-- The number `units / 10 ^ places`. -/
  ofDecimal (units places : Nat) : α
  /-- Whether the first number is less than the second. -/
  lt : α → α → Bool
  /-- Whether the first number is at most the second. -/
  le : α → α → Bool
  /-- Whether two numbers are equal in value. -/
  eq : α → α → Bool
  /-- Whether the number is neither infinite nor "no number". -/
  isFinite : α → Bool
  /-- The magnitude. -/
  abs : α → α
  /-- The square root of a number that is not negative. -/
  sqrt : α → α
  /-- The length of the hypotenuse over two legs. -/
  hypot : α → α → α
  /-- The least whole number that is not below the number. -/
  ceil : α → Except ArithmeticError Int
  /-- The nearest whole number, ties to even. -/
  nearest : α → Int
  /-- The decimal with so many places that is nearest, ties to even. -/
  fixed (places : Nat) : α → Fixed

namespace Scalar

variable {α : Type} [Scalar α]

/-- Zero. -/
def zero : α := ofNat 0

/-- Half of a number. -/
def half (x : α) : α := x / ofNat 2

/-- The second number if it is greater than the first, and otherwise the first. -/
def max (a b : α) : α := if lt a b then b else a

/-- The second number if it is less than the first, and otherwise the first. -/
def min (a b : α) : α := if lt b a then b else a

/-- Whether a number is greater than zero. -/
def isPositive (x : α) : Bool := lt zero x

end Scalar

/-! ## Floating-point numbers -/

namespace Binary64

/-- The least whole number that is not below the value. -/
def ceil : Binary64 → Except ArithmeticError Int
  | nan => .error .nanToInteger
  | infinite _ => .error .infinityToInteger
  | finite negative mantissa exponent =>
    let (up, down) := powerParts 2 exponent
    let signed : Int := if negative then -(mantissa * up : Nat) else (mantissa * up : Nat)
    .ok (-((-signed) / (down : Int)))

/-- The nearest whole number, ties to even; zero for a value without a nearest one. -/
def nearestInt : Binary64 → Int
  | finite negative mantissa exponent =>
    let (up, down) := powerParts 2 exponent
    let rounded : Int := roundHalfEven (mantissa * up) down
    if negative then -rounded else rounded
  | _ => 0

/-- The largest whole number whose square is at most `n`. -/
def isqrt (n : Nat) : Nat :=
  if n = 0 then 0 else descend n (2 ^ (n.log2 / 2 + 1)) (n.log2 + 2)
where
  /-- Newton's steps from above; each one but the last goes down. -/
  descend (n x : Nat) : Nat → Nat
    | 0 => x
    | fuel + 1 =>
      let next := (x + n / x) / 2
      if next < x then descend n next fuel else x

/-- The hypotenuse over two finite legs, rounded once. -/
def hypotenuse (m₁ : Nat) (e₁ : Int) (m₂ : Nat) (e₂ : Int) : Float :=
  let low := min e₁ e₂
  let a := m₁ * 2 ^ (e₁ - low).toNat
  let b := m₂ * 2 ^ (e₂ - low).toNat
  let square := a * a + b * b
  let extra := 64 - square.log2 / 2
  let root := isqrt (square * 4 ^ extra)
  let sticky := if root * root = square * 4 ^ extra then 0 else 1
  nearest (2 * root + sticky) (low - extra - 1)

/-- The hypotenuse over two legs: infinite if a leg is, and otherwise "no number" if a leg is. -/
def hypot (x y : Float) : Float :=
  match ofFloat x, ofFloat y with
  | .infinite _, _ | _, .infinite _ => nearest 1 1024
  | .nan, _ => x
  | _, .nan => y
  | .finite _ m₁ e₁, .finite _ m₂ e₂ => hypotenuse m₁ e₁ m₂ e₂

end Binary64

instance : Scalar Float where
  ofNat n := Float.ofNat n
  ofDecimal units places := Float.ofScientific units true places
  lt a b := a.lt b
  le a b := a.le b
  eq a b := a.beq b
  isFinite := Float.isFinite
  abs := Float.abs
  sqrt := Float.sqrt
  hypot := Binary64.hypot
  ceil x := (Binary64.ofFloat x).ceil
  nearest x := (Binary64.ofFloat x).nearestInt
  fixed := Fixed.ofFloat

end Machining.Numeric
