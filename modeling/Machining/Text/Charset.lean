import Machining.Numeric.Power
import Machining.Text.Base64
import Machining.Text.CharsetTable
import Machining.Text.Quoted
import Machining.Text.Utf8

/-!
# Character sets

A text becomes bytes by a character set.  The small sets have one byte for each of their characters
and none for any other; the UTF family has bytes for every character, and other sets write what is
not ASCII in ASCII.

* `Charset.ofName` finds a set by one of its names.
* `Charset.encode` gives the bytes of a text, or the first run of characters that have none.
-/

namespace Machining.Text

/-- In which order the bytes of a number stand. -/
inductive ByteOrder where
  /-- The least first. -/
  | little
  /-- The greatest first. -/
  | big
  deriving DecidableEq

/-- A set of characters with their bytes. -/
inductive Charset where
  /-- The first 128 characters. -/
  | ascii
  /-- The first 256 characters. -/
  | latin1
  /-- A set with one byte for each character. -/
  | bytes (set : ByteSet)
  /-- All characters in one to four bytes, perhaps behind a mark. -/
  | utf8 (marked : Bool)
  /-- All characters in two or four bytes; without an order, the least is first and a mark stands in
  front. -/
  | utf16 (order : Option ByteOrder)
  /-- All characters in four bytes; without an order, the least is first and a mark stands in
  front. -/
  | utf32 (order : Option ByteOrder)
  /-- All characters in printed ASCII; runs of others are written in base 64. -/
  | utf7
  /-- All characters in ASCII; others are written as escapes. -/
  | escapes
  /-- The first 256 characters as they are; others are written as escapes. -/
  | rawEscapes
  deriving DecidableEq

/-- Characters that have no bytes in a set. -/
structure EncodeError where
  /-- The set. -/
  charset : Charset
  /-- The first of the characters. -/
  first : Char
  /-- Where it stands. -/
  offset : Nat
  /-- How many there are in a row. -/
  count : Nat
  deriving DecidableEq

namespace Charset

/-- The name of an order behind that of a set. -/
def orderName : Option ByteOrder → String
  | none => ""
  | some .little => "-le"
  | some .big => "-be"

/-- The name of a set in messages. -/
def name : Charset → String
  | ascii => "ascii"
  | latin1 => "latin-1"
  | bytes _ => "charmap"
  | utf8 _ => "utf-8"
  | utf16 order => "utf-16" ++ orderName order
  | utf32 order => "utf-32" ++ orderName order
  | utf7 => "utf-7"
  | escapes | rawEscapes => "unicode-escape"

/-- Why a set has no bytes for a character. -/
def reason : Charset → String
  | ascii => "ordinal not in range(128)"
  | latin1 => "ordinal not in range(256)"
  | bytes _ => "character maps to <undefined>"
  | _ => "surrogates not allowed"

/-! ## Names -/

/-- The sets that are no tables, with their names and with other names for them. -/
def wideSets : List (Charset × String × List String) :=
  [(ascii, "ascii", ["646", "ansi_x3.4_1968", "ansi_x3_4_1968", "ansi_x3.4_1986", "cp367",
      "csascii", "ibm367", "iso646_us", "iso_646.irv_1991", "iso_ir_6", "us", "us_ascii"]),
    (latin1, "latin_1", ["8859", "cp819", "csisolatin1", "ibm819", "iso8859", "iso8859_1",
      "iso_8859_1", "iso_8859_1_1987", "iso_ir_100", "l1", "latin", "latin1"]),
    (utf8 false, "utf_8", ["u8", "utf", "utf8", "utf8_ucs2", "utf8_ucs4", "cp65001"]),
    (utf8 true, "utf_8_sig", []),
    (utf16 none, "utf_16", ["u16", "utf16"]),
    (utf16 (some .little), "utf_16_le", ["unicodelittleunmarked", "utf_16le"]),
    (utf16 (some .big), "utf_16_be", ["unicodebigunmarked", "utf_16be"]),
    (utf32 none, "utf_32", ["u32", "utf32"]),
    (utf32 (some .little), "utf_32_le", ["utf_32le"]),
    (utf32 (some .big), "utf_32_be", ["utf_32be"]),
    (utf7, "utf_7", ["u7", "utf7", "unicode_1_1_utf_7"]),
    (escapes, "unicode_escape", []),
    (rawEscapes, "raw_unicode_escape", []),
    (latin1, "charmap", [])]

/-- All sets with their names and with other names for them. -/
def allSets : List (Charset × String × List String) :=
  wideSets ++ byteSets.map fun set => (bytes set, set.name, set.others)

/-- The names of ways to write bytes that are no character sets. -/
def codecs : List String :=
  ["base64_codec", "bz2_codec", "hex_codec", "quopri_codec", "rot_13", "uu_codec", "zlib_codec"]

/-- Other names for these ways. -/
def codecAliases : List String :=
  ["base64", "base_64", "bz2", "hex", "quopri", "quoted_printable", "quotedprintable", "rot13",
    "uu", "zip", "zlib"]

/-- Whether a character counts in the name of a set; all others only part its words. -/
def isNameChar (c : Char) : Bool := c.toNat < 0x80 && (c.isAlphanum || c = '.')

/-- The name of a set with its words parted by single underscores.  `parted` says that a part is
due, and `begun` that there is something before it. -/
def joinWords (begun parted : Bool) : List Char → List Char
  | [] => []
  | c :: rest =>
    if isNameChar c then
      (if begun && parted then ['_', c.toLower] else [c.toLower]) ++ joinWords true false rest
    else joinWords begun true rest

/-- Why there is no set of a name. -/
inductive NameError where
  /-- The name is not known. -/
  | unknown (name : String)
  /-- The name is that of another way to write bytes. -/
  | notText (name : String)
  /-- A name ends where it should not. -/
  | embeddedNul
  deriving DecidableEq

/-- The wording of a name error. -/
def NameError.message : NameError → String
  | unknown name => "unknown encoding: " ++ name
  | notText name =>
    s!"'{name}' is not a text encoding; use codecs.encode() to handle arbitrary codecs"
  | embeddedNul => "embedded null character"

/-- The set of a name, in whatever case and with whatever signs between its words.  A point in a
name may stand for a sign between words where the name is another name for a set. -/
def ofName (text : String) : Except NameError Charset :=
  let plain := joinWords false false text.toList
  let written := String.ofList plain
  let pointless := String.ofList (plain.map fun c => if c = '.' then '_' else c)
  let isNamed (key : String) : Charset × String × List String → Bool :=
    fun (_, _, others) => others.contains key
  let found := (allSets.find? (isNamed written)).or <|
    (allSets.find? (isNamed pointless)).or (allSets.find? fun (_, name, _) => name = written)
  if text.contains '\x00' then .error .embeddedNul
  else
    match found with
    | some (set, _) => .ok set
    | none =>
      let isCodec := codecs.contains written || codecAliases.contains pointless
      .error (if isCodec then .notText text else .unknown text)

/-! ## Characters -/

/-- The byte of a character in a set of a table; of several bytes the last counts. -/
def tableByte? (set : ByteSet) (c : Char) : Option Nat :=
  let characters := set.characters.toList
  match characters.reverse.findIdx? (· == c) with
  | some i => if c = '\uFFFD' then none else some (set.first + (characters.length - 1 - i))
  | none => if c.toNat < set.first then some c.toNat else none

/-- The lowest bytes of a number in an order. -/
def bytesOf (order : ByteOrder) (count n : Nat) : List UInt8 :=
  let low := (List.range count).map fun i => (n / 256 ^ i % 256).toUInt8
  match order with
  | .little => low
  | .big => low.reverse

/-- The 16-bit units of a code point. -/
def units (code : Nat) : List Nat :=
  if code < 0x10000 then [code]
  else [0xD800 + (code - 0x10000) / 0x400, 0xDC00 + (code - 0x10000) % 0x400]

/-- The bytes of ASCII characters. -/
def asciiBytes (s : String) : List UInt8 := s.toList.map fun c => c.toNat.toUInt8

/-- A character as an escape, unless it is printed ASCII. -/
def escapeOf (c : Char) : String :=
  match c with
  | '\\' => "\\\\"
  | '\t' => "\\t"
  | '\n' => "\\n"
  | '\r' => "\\r"
  | _ => if 0x20 ≤ c.toNat ∧ c.toNat < 0x7F then c.toString else codeEscape c

/-- The bytes of a character on its own, if it has any. -/
def bytes? (charset : Charset) (c : Char) : Option (List UInt8) :=
  let code := codePoint c
  let whole (found : List UInt8) := if isSurrogate code then none else some found
  match charset with
  | ascii => if code < 0x80 then some [code.toUInt8] else none
  | latin1 => if code < 0x100 then some [code.toUInt8] else none
  | bytes set => (tableByte? set c).map fun b => [b.toUInt8]
  | utf8 _ => whole (Utf8.encode c.toString)
  | utf16 order => whole ((units code).flatMap (bytesOf (order.getD .little) 2))
  | utf32 order => whole (bytesOf (order.getD .little) 4 code)
  | escapes => some (asciiBytes (escapeOf c))
  | rawEscapes => some (if code < 0x100 then [code.toUInt8] else asciiBytes (codeEscape c))
  | utf7 => some []

/-- The mark in front of a text. -/
def mark (charset : Charset) : List UInt8 :=
  match charset with
  | utf8 true | utf16 none | utf32 none => (charset.bytes? '\uFEFF').getD []
  | _ => []

/-- Whether a character has bytes. -/
def covers (charset : Charset) (c : Char) : Bool := (charset.bytes? c).isSome

/-- Whether characters without bytes are reported together where they stand in a row. -/
def reportsRuns : Charset → Bool
  | utf16 _ | utf32 _ => false
  | _ => true

/-! ## Runs in base 64 -/

/-- Whether a character is written as it is between runs in base 64. -/
def isDirect (c : Char) : Bool :=
  c.isAlphanum || "'(),-./:?!\"#$%&*;<=>@[]^_`\x7b|\x7d \t\n\r".toList.contains c

/-- The bits of a 16-bit unit, the greatest first. -/
def unitBits (unit : Nat) : List Bool := (List.range 16).map fun i => unit.testBit (15 - i)

/-- A run of characters in base 64. -/
def base64Run (run : List Char) : List Char :=
  let bits := (run.flatMap fun c => units (codePoint c)).flatMap unitBits
  Base64.ofBits bits (bits.length + 1)

/-- The characters of a text between printed ASCII; `run` holds the characters that are to be
written in base 64, the last one first. -/
def utf7From (run : List Char) : List Char → List Char
  | [] => if run.isEmpty then [] else '+' :: base64Run run.reverse ++ ['-']
  | c :: rest =>
    if run.isEmpty && c = '+' then '+' :: '-' :: utf7From [] rest
    else if !isDirect c then utf7From (c :: run) rest
    else if run.isEmpty then c :: utf7From [] rest
    else
      let ends := if Base64.digits.contains c || c = '-' then ['-', c] else [c]
      '+' :: base64Run run.reverse ++ ends ++ utf7From [] rest

/-! ## Texts -/

/-- The bytes of a text. -/
def encode (charset : Charset) (s : String) : Except EncodeError (List UInt8) :=
  let characters := s.toList
  match characters.dropWhile charset.covers with
  | [] =>
    .ok <| match charset with
      | utf7 => asciiBytes (String.ofList (utf7From [] characters))
      | _ => charset.mark ++ characters.flatMap fun c => (charset.bytes? c).getD []
  | first :: rest =>
    let further := if charset.reportsRuns then rest.takeWhile fun c => !charset.covers c else []
    .error ⟨charset, first, characters.length - (rest.length + 1), further.length + 1⟩

end Charset

/-- The wording of an encode error. -/
def EncodeError.message (e : EncodeError) : String :=
  let place :=
    if e.count = 1 then "character '" ++ codeEscape e.first ++ s!"' in position {e.offset}"
    else s!"characters in position {e.offset}-{e.offset + e.count - 1}"
  s!"'{e.charset.name}' codec can't encode {place}: {e.charset.reason}"

end Machining.Text
