import Machining.Text.CodePoint
import Machining.Text.PrintableTable

/-!
# Quoted text

Messages quote a text so that one can see where it begins and ends: in single quotes, or in double
ones when it holds single quotes only.  Line breaks, tabs, backslashes and characters without a
printed form are written as escapes.  Bytes are quoted alike.
-/

namespace Machining.Text

/-- Whether a character has a printed form of its own. -/
def isPrintable (c : Char) : Bool :=
  if c.toNat < 0x7F then 0x20 ≤ c.toNat
  else !(unprintableRanges.any fun (first, last) => first ≤ c.toNat && c.toNat ≤ last)

/-- So many hexadecimal digits. -/
def hexDigits (width n : Nat) : String :=
  let digits := String.ofList (Nat.toDigits 16 n)
  "".pushn '0' (width - digits.length) ++ digits

/-- The escape of a character by its number. -/
def codeEscape (c : Char) : String :=
  let code := codePoint c
  if code < 0x100 then "\\x" ++ hexDigits 2 code
  else if code < 0x10000 then "\\u" ++ hexDigits 4 code
  else "\\U" ++ hexDigits 8 code

/-- A character inside quotes. -/
def quotedChar (quote c : Char) : String :=
  if c = quote || c = '\\' then "\\" ++ c.toString
  else if c = '\n' then "\\n"
  else if c = '\r' then "\\r"
  else if c = '\t' then "\\t"
  else if isPrintable c then c.toString
  else codeEscape c

/-- The quote for a text: the single one, unless only single ones occur in it. -/
def quoteFor (s : String) : Char :=
  if s.contains '\'' && !s.contains '"' then '"' else '\''

/-- A text in quotes. -/
def quoted (s : String) : String :=
  let quote := quoteFor s
  quote.toString ++ String.join (s.toList.map (quotedChar quote)) ++ quote.toString

/-- A byte inside quotes. -/
def quotedByte (quote : Char) (b : UInt8) : String :=
  let c := Char.ofNat b.toNat
  if c.toNat < 0x7F then quotedChar quote c else "\\x" ++ hexDigits 2 b.toNat

/-- Bytes in quotes, behind a mark that tells them from a text. -/
def quotedBytes (data : List UInt8) : String :=
  let quote := quoteFor (String.ofList (data.map fun b => Char.ofNat b.toNat))
  "b" ++ quote.toString ++ String.join (data.map (quotedByte quote)) ++ quote.toString

end Machining.Text
