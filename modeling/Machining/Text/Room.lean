import Machining.Numeric.Power

/-!
# Room for texts

A text may be asked to fill a width.  `widest` is the greatest width that there is room for; a text
that is to fill more is refused.
-/

namespace Machining.Text

/-- The greatest width that a text may be asked to fill. -/
def widest : Nat := 2 ^ 36

end Machining.Text
