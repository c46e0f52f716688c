/-!
# Blank characters and trimming

The characters that count as blank around a word, a number or a code fence: the Unicode characters
that separate words, lines or paragraphs.

* `isBlank_of_isDigit`: digits are not among them.
* `trim` takes them off both ends of a text, and `numeralChars` does so around a numeral.
-/

namespace Machining.Text

/-- The ranges of blank characters: controls, the space, and the Unicode separators. -/
def blankRanges : List (Nat × Nat) :=
  [(0x09, 0x0D), (0x1C, 0x20), (0x85, 0x85), (0xA0, 0xA0), (0x1680, 0x1680), (0x2000, 0x200A),
    (0x2028, 0x2029), (0x202F, 0x202F), (0x205F, 0x205F), (0x3000, 0x3000)]

/-- Whether a character is blank. -/
def isBlank (c : Char) : Bool :=
  blankRanges.any fun (first, last) => first ≤ c.toNat && c.toNat ≤ last

theorem isBlank_of_isDigit {c : Char} (hc : c.isDigit = true) : isBlank c = false := by
  simp only [Char.isDigit, Bool.and_eq_true, decide_eq_true_eq, ge_iff_le,
    UInt32.le_iff_toNat_le] at hc
  obtain ⟨hlow, hhigh⟩ := hc
  change 48 ≤ c.toNat at hlow
  change c.toNat ≤ 57 at hhigh
  simp [isBlank, blankRanges]
  omega

/-- Drops blank characters at the front. -/
def trimLeft (s : List Char) : List Char := s.dropWhile isBlank

/-- Drops blank characters at the end. -/
def trimRight (s : List Char) : List Char := (s.reverse.dropWhile isBlank).reverse

/-- Drops blank characters at both ends. -/
def trimChars (s : List Char) : List Char := trimRight (trimLeft s)

/-- The text without the blank characters at both ends. -/
def trim (s : String) : String := String.ofList (trimChars s.toList)

/-- Blank characters that may stand around a numeral: all but the four separator controls. -/
def isNumeralBlank (c : Char) : Bool :=
  isBlank c && !(0x1C ≤ c.toNat && c.toNat ≤ 0x1F)

/-- The characters of a numeral, without blanks around it. -/
def numeralChars (s : String) : List Char :=
  ((s.toList.dropWhile isNumeralBlank).reverse.dropWhile isNumeralBlank).reverse

end Machining.Text
