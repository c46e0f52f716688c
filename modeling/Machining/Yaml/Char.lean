/-!
# Characters of a YAML text

What a character means for the layout of a text: which characters end a line, part words, may be
printed, or may stand in a name or in a tag.  The end of the text counts as the end of a word and
of a line.
-/

namespace Machining.Yaml

/-- Whether a line ends at a character. -/
def isBreak (c : Char) : Bool :=
  c == '\n' || c.toNat == 0x85 || c.toNat == 0x2028 || c.toNat == 0x2029

/-- The line break that counts in a text: a line feed, unless it separates lines or paragraphs of
Unicode. -/
def plainBreak (c : Char) : Char := if c.toNat == 0x85 then '\n' else c

/-- Whether a character parts words on a line. -/
def isGap (c : Char) : Bool := c == ' ' || c == '\t'

/-- Whether a line ends here. -/
def endsLine : Option Char → Bool
  | none => true
  | some c => isBreak c

/-- Whether a word ends here. -/
def endsWord : Option Char → Bool
  | none => true
  | some c => isGap c || isBreak c

/-- Whether only a space or the end of the line stands here. -/
def endsMark : Option Char → Bool
  | none => true
  | some c => c == ' ' || isBreak c

/-- Whether a character may stand in a text. -/
def isAllowed (c : Char) : Bool :=
  let n := c.toNat
  n == 0x09 || n == 0x0A || n == 0x0D || (0x20 ≤ n && n ≤ 0x7E) || n == 0x85 ||
    (0xA0 ≤ n && n ≤ 0xFFFD) || 0x10000 ≤ n

/-- The mark that some editors put in front of a text. -/
def byteOrderMark : Char := '\uFEFF'

/-- Whether a character may stand in a name. -/
def isNameChar (c : Char) : Bool := c.isAlphanum || c == '-' || c == '_'

/-- Whether a character may stand in a tag. -/
def isTagChar (c : Char) : Bool := c.isAlphanum || "-;/?:@&=+$,_.!~*'()[]%".toList.contains c

/-- Whether a character opens, closes or parts collections in brackets. -/
def isFlowIndicator (c : Char) : Bool := ",?[]\x7b\x7d".toList.contains c

/-- Whether a character has a meaning of its own at the start of a word. -/
def isIndicator (c : Char) : Bool := "-?:,[]\x7b\x7d#&*!|>'\"%@`".toList.contains c

/-- Whether a text begins with a line that separates documents. -/
def atSeparator (s : List Char) : Bool :=
  match s with
  | '-' :: '-' :: '-' :: rest => endsWord rest.head?
  | '.' :: '.' :: '.' :: rest => endsWord rest.head?
  | _ => false

end Machining.Yaml
