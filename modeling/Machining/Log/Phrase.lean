import Machining.Document.Shown
import Machining.Numeric.Numeral
import Machining.Numeric.Scalar
import Machining.Numeric.Styled
import Machining.Text.Template

/-!
# Phrases

A phrase is a text with places for values.  A place begins with a percent sign; it may name an
entry of a mapping in parentheses, and it may give flags, a width and a precision before the letter
for the kind of value: `%s` for anything as it is, `%r` and `%a` in quotes, `%d` for whole numbers,
`%x` and `%o` in other bases, `%f`, `%e` and `%g` for floating-point numbers, `%c` for a character.

* `fill` fills in a phrase, or says what is wrong, at the first fault from the left.
-/

namespace Machining.Log

open Machining.Document Machining.Numeric Machining.Text

/-- What is wrong with a phrase or its values. -/
inductive PhraseFault where
  /-- The phrase ends inside a place. -/
  | incomplete
  /-- A name in parentheses is not closed. -/
  | incompleteName
  /-- The kind of value is not known. -/
  | unknownKind (c : Char) (index : Nat)
  /-- There is no value for a place. -/
  | tooFew
  /-- Values are left over. -/
  | tooMany
  /-- A place names an entry, but there is no mapping. -/
  | noMapping
  /-- There is no entry of this name. -/
  | noEntry (name : String)
  /-- A width or a precision is no whole number. -/
  | badWidth
  /-- A width that is written out is too great. -/
  | wideWidth
  /-- A precision that is written out is too great. -/
  | widePrecision
  /-- A width among the values is too great. -/
  | hugeWidth
  /-- A precision among the values is too great. -/
  | hugePrecision
  /-- A whole number cannot have so many digits. -/
  | tooPrecise
  /-- There is no room for the width of a place. -/
  | noRoom
  /-- A number stands for a whole one only. -/
  | notWhole (kind : Char) (typeName : String)
  /-- A value is no number. -/
  | notNumber (kind : Char) (typeName : String)
  /-- A value is no floating-point number. -/
  | notReal (typeName : String)
  /-- A whole number exceeds the range of floating-point numbers. -/
  | hugeInteger
  /-- A number has no whole part. -/
  | arithmetic (error : ArithmeticError)
  /-- A value is no character. -/
  | notCharacter
  /-- There is no character of this number. -/
  | noCharacter
  deriving DecidableEq

/-- The wording of a fault. -/
def PhraseFault.message : PhraseFault → String
  | incomplete => "incomplete format"
  | incompleteName => "incomplete format key"
  | unknownKind c index =>
    let shown := if 31 ≤ c.toNat ∧ c.toNat ≤ 126 then c else '?'
    "unsupported format character '" ++ shown.toString ++ "' (0x" ++ hexDigits 0 (codePoint c) ++
      ") at index " ++ toString index
  | tooFew => "not enough arguments for format string"
  | tooMany => "not all arguments converted during string formatting"
  | noMapping => "format requires a mapping"
  | noEntry name => quoted name
  | badWidth => "* wants int"
  | wideWidth => "width too big"
  | widePrecision => "precision too big"
  | hugeWidth => "Python int too large to convert to C ssize_t"
  | hugePrecision => "Python int too large to convert to C int"
  | tooPrecise => "precision too large"
  | noRoom => ""
  | notWhole kind typeName =>
    "%" ++ kind.toString ++ " format: an integer is required, not " ++ typeName
  | notNumber kind typeName =>
    "%" ++ kind.toString ++ " format: a real number is required, not " ++ typeName
  | notReal typeName => "must be real number, not " ++ typeName
  | hugeInteger => "int too large to convert to float"
  | arithmetic error => error.message
  | notCharacter => "%c requires int or char"
  | noCharacter => "%c arg not in range(0x110000)"

/-- The values for a phrase. -/
inductive Values where
  /-- Values that are taken in order. -/
  | list (values : List Value)
  /-- One mapping whose entries are named, and whether it may still be taken as a whole. -/
  | mapping (entries : Entries) (whole : Bool)
  /-- An entry that was named, and whether it may still be taken. -/
  | entry (mapping : Entries) (value : Value) (unused : Bool)

/-- The values of a record: one mapping that is not empty is meant to be named from. -/
def Values.ofList : List Value → Values
  | [.mapping (first :: rest)] => .mapping (first :: rest) true
  | values => .list values

/-- Takes the next value. -/
def Values.next : Values → Except PhraseFault (Value × Values)
  | list (value :: rest) => .ok (value, list rest)
  | mapping entries true => .ok (.mapping entries, mapping entries false)
  | entry all value true => .ok (value, entry all value false)
  | _ => .error .tooFew

/-- Names an entry, which is then the next value. -/
def Values.choose (name : String) : Values → Except PhraseFault Values
  | list _ => .error .noMapping
  | mapping all _ | entry all .. =>
    match Entries.get? (.text name) all with
    | some value => .ok (entry all value true)
    | none => .error (.noEntry name)

/-- Passes if entries can be named. -/
def Values.checkNamed : Values → Except PhraseFault Unit
  | list _ => .error .noMapping
  | _ => .ok ()

/-- Passes if no value is left over; entries need not be used. -/
def Values.finish : Values → Except PhraseFault Unit
  | list (_ :: _) => .error .tooMany
  | _ => .ok ()

/-! ## Places -/

/-- The flags of a place. -/
structure Flags where
  /-- The text goes to the left. -/
  left : Bool
  /-- A number that is not negative shows a plus sign. -/
  plus : Bool
  /-- A number that is not negative leaves space for a sign. -/
  blank : Bool
  /-- A number has its full form. -/
  full : Bool
  /-- A number is filled with zeros. -/
  zero : Bool

/-- Takes the flags. -/
def takeFlags (flags : Flags) : List Char → Flags × List Char
  | '-' :: rest => takeFlags { flags with left := true } rest
  | '+' :: rest => takeFlags { flags with plus := true } rest
  | ' ' :: rest => takeFlags { flags with blank := true } rest
  | '#' :: rest => takeFlags { flags with full := true } rest
  | '0' :: rest => takeFlags { flags with zero := true } rest
  | rest => (flags, rest)

/-- The range of a size: of widths with the sign, of precisions without one. -/
structure SizeRange where
  /-- The least number above the range. -/
  limit : Nat
  /-- The fault of a size that is written out. -/
  written : PhraseFault
  /-- The fault of a size among the values. -/
  given : PhraseFault

/-- The range of widths. -/
def widths : SizeRange := ⟨2 ^ 63, .wideWidth, .hugeWidth⟩

/-- The range of precisions. -/
def precisions : SizeRange := ⟨2 ^ 31, .widePrecision, .hugePrecision⟩

/-- A number in a place: written out, or taken from the values. -/
def takeSize (range : SizeRange) (values : Values) (s : List Char) :
    Except PhraseFault (Option Int × Values × List Char) :=
  let passed (n : Int) : Except PhraseFault (Option Int) :=
    if n < -range.limit ∨ range.limit ≤ n then .error range.given else .ok (some n)
  match s with
  | '*' :: rest => do
    let (value, others) ← values.next
    match value with
    | .int n => return (← passed n, others, rest)
    -- a truth value is in every range
    | .bool b => return (some b.toNat, others, rest)
    | _ => throw .badWidth
  | _ =>
    let digits := s.takeWhile Char.isDigit
    if digits.isEmpty then .ok (none, values, s)
    else
      let n := ofDigits digits
      if range.limit ≤ n then .error range.written
      else .ok (some n, values, s.dropWhile Char.isDigit)

/-- A place before its value is put in. -/
structure Slot where
  /-- The flags. -/
  flags : Flags
  /-- The least width. -/
  width : Nat
  /-- The precision. -/
  precision : Option Nat
  /-- The kind of value. -/
  kind : Char

/-- Takes the name of an entry, up to the parenthesis that closes it. -/
def takeName (depth : Nat) : List Char → Except PhraseFault (List Char × List Char)
  | [] => .error .incompleteName
  | '(' :: rest => (takeName (depth + 1) rest).map fun (name, after) => ('(' :: name, after)
  | ')' :: rest =>
    match depth with
    | 0 => .ok ([], rest)
    | outer + 1 => (takeName outer rest).map fun (name, after) => (')' :: name, after)
  | c :: rest => (takeName depth rest).map fun (name, after) => (c :: name, after)

/-- Takes a place after its percent sign. -/
def takeSlot (values : Values) (s : List Char) :
    Except PhraseFault (Slot × Values × List Char) := do
  let (named, s₁) ← match s with
    | '(' :: rest => do
      values.checkNamed
      let (name, after) ← takeName 0 rest
      let chosen ← values.choose (String.ofList name)
      pure (chosen, after)
    | _ => pure (values, s)
  let (flags, s₂) := takeFlags ⟨false, false, false, false, false⟩ s₁
  let (width, v₁, s₃) ← takeSize widths named s₂
  let (precision, v₂, s₄) ← match s₃ with
    | '.' :: rest => do
      let (size, others, after) ← takeSize precisions v₁ rest
      pure (some (size.getD 0).toNat, others, after)
    | _ => pure (none, v₁, s₃)
  -- letters for the size of a number are passed over
  let s₅ := match s₄ with
    | c :: rest => if c = 'h' ∨ c = 'l' ∨ c = 'L' then rest else s₄
    | [] => []
  match s₅ with
  | [] => throw .incomplete
  | kind :: rest =>
    let size := width.getD 0
    -- a width below zero asks for the left side
    return (⟨{ flags with left := flags.left || decide (size < 0) }, size.natAbs, precision, kind⟩,
      v₂, rest)

/-! ## Values -/

/-- The whole number of a value. -/
def wholeOf (kind : Char) : Value → Except PhraseFault Int
  | .int n => .ok n
  | .bool b => .ok b.toNat
  | .float x =>
    -- only decimal kinds cut a fraction off
    if kind = 'd' ∨ kind = 'i' ∨ kind = 'u' then
      match Binary64.ofFloat x with
      | .nan => .error (.arithmetic .nanToInteger)
      | .infinite _ => .error (.arithmetic .infinityToInteger)
      | .finite negative mantissa exponent =>
        let (up, down) := powerParts 2 exponent
        let size : Int := mantissa * up / down
        .ok (if negative then -size else size)
    else .error (.notWhole kind "float")
  | other =>
    if kind = 'd' ∨ kind = 'i' ∨ kind = 'u' then .error (.notNumber kind other.typeName)
    else .error (.notWhole kind other.typeName)

/-- The floating-point number of a value. -/
def realOf : Value → Except PhraseFault Float
  | .float x => .ok x
  | .bool b => .ok (Float.ofNat b.toNat)
  | .int n =>
    let x := Float.ofInt n
    if x.isFinite then .ok x else .error .hugeInteger
  | other => .error (.notReal other.typeName)

/-- What a value comes to: a sign, a mark of its base, and the rest. -/
structure Written where
  /-- The sign. -/
  sign : String
  /-- The mark of the base. -/
  mark : String
  /-- The rest. -/
  body : String

/-- The sign in front of a number that is not negative. -/
def Flags.sign (flags : Flags) : String :=
  if flags.plus then "+" else if flags.blank then " " else ""

/-- Splits the sign off a number. -/
def splitNumber (flags : Flags) (mark text : String) : Written :=
  if text.startsWith "-" then ⟨"-", mark, String.ofList (text.toList.drop 1)⟩
  else ⟨flags.sign, mark, text⟩

/-- The greatest number of digits that a whole number may be asked to have. -/
def mostDigits : Nat := 2 ^ 31 - 4

/-- A whole number with at least so many digits. -/
def wholeText (slot : Slot) (base : Nat) (mark : String) (n : Int) : Except PhraseFault Written :=
  let least := slot.precision.getD 0
  if mostDigits < least then .error .tooPrecise
  else
    let digits := String.ofList (Nat.toDigits base n.natAbs)
    let padded := "".pushn '0' (least - digits.length) ++ digits
    .ok ⟨if n < 0 then "-" else slot.flags.sign, if slot.flags.full then mark else "", padded⟩

/-- Letters in capitals. -/
def capitals (w : Written) : Written := { w with mark := w.mark.toUpper, body := w.body.toUpper }

/-- A floating-point number in a style. -/
def realText (slot : Slot) (style : Style) (x : Float) : Written :=
  splitNumber slot.flags "" (style.text slot.flags.full (slot.precision.getD 6) x)

/-- A text, of which at most so much is kept. -/
def cut (slot : Slot) (s : String) : Written :=
  ⟨"", "", match slot.precision with
    | some most => String.ofList (s.toList.take most)
    | none => s⟩

/-- A character, or the character of a number. -/
def characterOf : Value → Except PhraseFault String
  | .text s => if s.length = 1 then .ok s else .error .notCharacter
  | .int n =>
    if n < 0 ∨ 0x110000 ≤ n then .error .noCharacter
    else .ok (ofCodePoint n.toNat).toString
  | .bool b => .ok (Char.ofNat b.toNat).toString
  | _ => .error .notCharacter

/-- A value in a place; nothing if the kind is not known. -/
def write? (slot : Slot) (value : Value) : Option (Except PhraseFault Written) :=
  match slot.kind with
  | 's' => some (.ok (cut slot value.plain))
  | 'r' => some (.ok (cut slot value.shown))
  | 'a' => some (.ok (cut slot (Template.asciiText value.shown)))
  | 'd' | 'i' | 'u' => some (wholeOf slot.kind value >>= wholeText slot 10 "")
  | 'o' => some (wholeOf 'o' value >>= wholeText slot 8 "0o")
  | 'x' => some (wholeOf 'x' value >>= wholeText slot 16 "0x")
  | 'X' => some ((wholeOf 'X' value >>= wholeText slot 16 "0x").map capitals)
  | 'f' => some ((realOf value).map (realText slot .fixed))
  | 'F' => some ((realOf value).map fun x => capitals (realText slot .fixed x))
  | 'e' => some ((realOf value).map (realText slot .exponential))
  | 'E' => some ((realOf value).map fun x => capitals (realText slot .exponential x))
  | 'g' => some ((realOf value).map (realText slot .general))
  | 'G' => some ((realOf value).map fun x => capitals (realText slot .general x))
  | 'c' => some ((characterOf value).map fun s => ⟨"", "", s⟩)
  | _ => none

/-- Whether a kind is one of numbers, which are filled with zeros where this is asked for. -/
def isNumeric (kind : Char) : Bool := "diuoxXfFeEgG".toList.contains kind

/-- Fills the width of a place. -/
def Slot.pad (slot : Slot) (w : Written) : Except PhraseFault String :=
  let text := w.sign ++ w.mark ++ w.body
  let missing := slot.width - text.length
  if widest < slot.width then .error .noRoom
  else if slot.flags.left then .ok (text.pushn ' ' missing)
  else if slot.flags.zero && isNumeric slot.kind then
    .ok ((w.sign ++ w.mark).pushn '0' missing ++ w.body)
  else .ok ("".pushn ' ' missing ++ text)

/-! ## Whole phrases -/

/-- Fills in what remains of a phrase of this length; each round takes at least one character. -/
def fillFrom (size : Nat) (values : Values) : Nat → List Char → Except PhraseFault String
  | 0, _ => .ok ""
  | _ + 1, [] => values.finish.map fun _ => ""
  | fuel + 1, '%' :: '%' :: rest => (fillFrom size values fuel rest).map ("%" ++ ·)
  | fuel + 1, '%' :: rest => do
    let (slot, ready, after) ← takeSlot values rest
    -- the value is taken before the kind is looked at
    let (value, others) ← ready.next
    match write? slot value with
    | none => throw (.unknownKind slot.kind (size - after.length - 1))
    | some written => return (← slot.pad (← written)) ++ (← fillFrom size others fuel after)
  | fuel + 1, c :: rest => (fillFrom size values fuel rest).map (c.toString ++ ·)

/-- Fills in a phrase; without any values it is left as it is. -/
def fill (phrase : String) (values : List Value) : Except PhraseFault String :=
  if values.isEmpty then .ok phrase
  else fillFrom phrase.length (.ofList values) (phrase.length + 1) phrase.toList

end Machining.Log
