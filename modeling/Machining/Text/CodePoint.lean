/-!
# Code points

The characters of a text are numbered by their code points.  The code points of surrogates, the
halves of pairs, belong to no character; still, an escape can put a half into a text on its own.  A
text holds such a half as the private character that lies `surrogateShift` further.

* `precedes` is the order of texts by code points.
-/

namespace Machining.Text

/-- Whether a code point is that of a half of a pair. -/
def isSurrogate (code : Nat) : Bool := 0xD800 ≤ code && code < 0xE000

/-- How much further than a half lies the character that stands for it. -/
def surrogateShift : Nat := 0x100000

/-- The greatest number of code points. -/
def codePointLimit : Nat := 0x110000

/-- What a text holds for a code point. -/
def ofCodePoint (code : Nat) : Char :=
  Char.ofNat (if isSurrogate code then code + surrogateShift else code)

/-- Whether a character stands for a half of a pair. -/
def holdsSurrogate (c : Char) : Bool :=
  surrogateShift ≤ c.toNat && isSurrogate (c.toNat - surrogateShift)

/-- The code point that a character stands for. -/
def codePoint (c : Char) : Nat :=
  if holdsSurrogate c then c.toNat - surrogateShift else c.toNat

/-- Whether a text comes before another one in the order of code points. -/
def precedes : List Char → List Char → Bool
  | _, [] => false
  | [], _ :: _ => true
  | a :: s, b :: t =>
    codePoint a < codePoint b || (codePoint a == codePoint b && precedes s t)

end Machining.Text
