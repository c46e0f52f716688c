/-!
# Searching in text

Whether and how often one text occurs in another, and which lines a text has.
-/

namespace Machining.Text

/-- Whether `needle` occurs in a list of characters. -/
def occursIn (needle : List Char) : List Char → Bool
  | [] => needle.isEmpty
  | c :: rest => needle.isPrefixOf (c :: rest) || occursIn needle rest

/-- Whether a text contains another. -/
def holds (s needle : String) : Bool := occursIn needle.toList s.toList

/-- How often `needle` begins in a list of characters, without overlaps; `skip` characters belong to
the occurrence before. -/
def countFrom (needle : List Char) (skip : Nat) : List Char → Nat
  | [] => 0
  | c :: rest =>
    match skip with
    | k + 1 => countFrom needle k rest
    | 0 =>
      -- what belongs to an occurrence is not searched again
      if needle.isPrefixOf (c :: rest) then 1 + countFrom needle (needle.length - 1) rest
      else countFrom needle 0 rest

/-- How often a text contains another that is not empty, without overlaps. -/
def occurrences (s needle : String) : Nat := countFrom needle.toList 0 s.toList

/-- Whether a line ends at a character. -/
def isLineBreak (c : Char) : Bool :=
  [0x0A, 0x0B, 0x0C, 0x0D, 0x1C, 0x1D, 0x1E, 0x85, 0x2028, 0x2029].contains c.toNat

/-- The lines of a list of characters, each without its line break; `line` holds the characters of
the line that is open, the last one first, and `begun` tells whether one is. -/
def linesFrom (begun : Bool) (line : List Char) : List Char → List (List Char)
  | [] => if begun then [line.reverse] else []
  | '\r' :: '\n' :: rest => line.reverse :: linesFrom false [] rest
  | c :: rest =>
    if isLineBreak c then line.reverse :: linesFrom false [] rest
    else linesFrom true (c :: line) rest

/-- The lines of a text; a line break at the end begins no further one. -/
def lines (s : String) : List String := (linesFrom false [] s.toList).map String.ofList

/-- How many lines a text has. -/
def lineCount (s : String) : Nat := (lines s).length

/-- The first line of a text. -/
def firstLine (s : String) : String := (lines s).headD ""

end Machining.Text
