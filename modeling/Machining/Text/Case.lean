import Machining.Text.CaseTable
import Machining.Text.WordTable

/-!
# Upper and lower case

`upper` and `lower` map every letter of a text by the Unicode tables; a letter may become several.
The capital sigma has two small forms, one of which stands at the end of a word only.
-/

namespace Machining.Text

namespace CaseRun

/-- Whether a code point is one of the letters of the run. -/
def holds (run : CaseRun) (code : Nat) : Bool :=
  run.first ≤ code && code ≤ run.last && (code - run.first) % run.stride == 0

end CaseRun

/-- The other form of a letter by a table of runs and a table of expansions; other characters stay
as they are. -/
def mapCase (runs : List CaseRun) (expansions : List (Nat × List Nat)) (c : Char) : List Char :=
  match expansions.lookup c.toNat with
  | some letters => letters.map Char.ofNat
  | none =>
    match runs.find? (·.holds c.toNat) with
    | some run => [Char.ofNat (c.toNat + run.shift).toNat]
    | none => [c]

/-- The upper-case form of a character. -/
def upperChar (c : Char) : List Char :=
  if c.toNat < 0x80 then [c.toUpper] else mapCase upperRuns upperExpansions c

/-- The lower-case form of a character on its own. -/
def lowerChar (c : Char) : List Char :=
  if c.toNat < 0x80 then [c.toLower] else mapCase lowerRuns lowerExpansions c

/-! ## The end of a word -/

/-- Whether one of some ranges holds a character. -/
def inRanges (ranges : List (Nat × Nat)) (c : Char) : Bool :=
  ranges.any fun (first, last) => first ≤ c.toNat && c.toNat ≤ last

/-- Whether a letter comes first in a list of characters, behind such as do not part a word. -/
def meetsLetter (s : List Char) : Bool :=
  ((s.dropWhile (inRanges betweenRanges)).head?).any (inRanges casedRanges)

/-- The letter with two small forms. -/
def capitalSigma : Char := '\u03A3'

/-- The small form of the letter at the end of a word. -/
def finalSigma : Char := '\u03C2'

/-- The lower-case form of a list of characters behind others, of which the last comes first. -/
def lowerFrom (before : List Char) : List Char → List Char
  | [] => []
  | c :: rest =>
    let form :=
      if c = capitalSigma && meetsLetter before && !meetsLetter rest then [finalSigma]
      else lowerChar c
    form ++ lowerFrom (c :: before) rest

/-- The text in upper case. -/
def upper (s : String) : String := String.ofList (s.toList.flatMap upperChar)

/-- The text in lower case. -/
def lower (s : String) : String := String.ofList (lowerFrom [] s.toList)

end Machining.Text
