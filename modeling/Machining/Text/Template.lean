import Machining.Text.Digit
import Machining.Text.Part
import Machining.Text.Room

/-!
# Templates with one named text

A template is a text with fields in braces; a brace that is meant as such is doubled.  A field
names what to put in, may pick a part of it, may ask for quotes (`!r`), and may give a layout
(`:>10`, `:.3`): fill, alignment, width and the most characters to keep.  Only one name can be
filled in.

* `fill` writes a template out, or says what is wrong with it, at the first fault from the left.
-/

namespace Machining.Text.Template

/-- What is wrong with a template. -/
inductive Fault where
  /-- A brace stands alone. -/
  | loneBrace (brace : Char)
  /-- A field opens inside the name of a field. -/
  | braceInName
  /-- A field is not closed. -/
  | unclosedField
  /-- The text ends where a conversion should follow. -/
  | noConversion
  /-- A conversion is followed by something else than a layout. -/
  | afterConversion
  /-- A layout is not closed. -/
  | unclosedLayout
  /-- A number in the template is too large. -/
  | largeNumber
  /-- A field with this name cannot be filled. -/
  | unknownName (name : String)
  /-- A field asks for a text by its position. -/
  | unknownPosition (index : Nat)
  /-- A field asks for an item that a part does not have. -/
  | noItem (fault : Part.ItemFault)
  /-- A field asks for a part that the holder does not have. -/
  | unknownPart (holder name : String)
  /-- A bracket is followed by something else than another part. -/
  | afterBracket
  /-- The name of a part is empty. -/
  | emptyPart
  /-- The conversion is not known. -/
  | unknownConversion (c : Char)
  /-- Fields are nested too deeply in layouts. -/
  | tooDeep
  /-- There is a layout for a part that has none. -/
  | noLayout (typeName : String)
  /-- The layout cannot be read. -/
  | badLayout (layout : String)
  /-- The layout asks for another kind of value. -/
  | unknownCode (c : Char)
  /-- There is no room for the width of the layout. -/
  | noRoom
  /-- A point in the layout is not followed by a number. -/
  | noPrecision
  /-- Both marks between digits are asked for. -/
  | bothSeparators
  /-- A mark between digits does not go with the kind of value. -/
  | separatorWith (separator code : Char)
  /-- The layout asks for a sign. -/
  | sign
  /-- The layout asks for a space in place of a sign. -/
  | space
  /-- The layout asks about negative zeros. -/
  | negativeZero
  /-- The layout asks for the alternate form of numbers. -/
  | alternateForm
  /-- The layout asks for fill between a sign and digits. -/
  | signAlignment
  deriving DecidableEq

/-- A character in a message: itself, or its code when it is not printed in ASCII. -/
def codeText (c : Char) : String :=
  if 32 < c.toNat ∧ c.toNat < 127 then c.toString else "\\x" ++ hexDigits 0 c.toNat

/-- The wording of a fault. -/
def Fault.message : Fault → String
  | loneBrace brace => "Single '" ++ brace.toString ++ "' encountered in format string"
  | braceInName => "unexpected '\x7b' in field name"
  | unclosedField => "expected '\x7d' before end of string"
  | noConversion => "end of string while looking for conversion specifier"
  | afterConversion => "expected ':' after conversion specifier"
  | unclosedLayout => "unmatched '\x7b' in format spec"
  | largeNumber => "Too many decimal digits in format string"
  | unknownName name => quoted name
  | unknownPosition index =>
    "Replacement index " ++ toString index ++ " out of range for positional args tuple"
  | noItem (.beyondEnd row) => row ++ " index out of range"
  | noItem (.noItems complaint) => complaint
  | unknownPart holder name => holder ++ " has no attribute '" ++ name ++ "'"
  | afterBracket => "Only '.' or '[' may follow ']' in format field specifier"
  | emptyPart => "Empty attribute in format string"
  | unknownConversion c => "Unknown conversion specifier " ++ codeText c
  | tooDeep => "Max string recursion exceeded"
  | noLayout typeName => s!"unsupported format string passed to {typeName}.__format__"
  | badLayout layout => "Invalid format specifier '" ++ layout ++ "' for object of type 'str'"
  | unknownCode c => "Unknown format code '" ++ codeText c ++ "' for object of type 'str'"
  | noRoom => ""
  | noPrecision => "Format specifier missing precision"
  | bothSeparators => "Cannot specify both ',' and '_'."
  | separatorWith separator code =>
    "Cannot specify '" ++ separator.toString ++ "' with '" ++ codeText code ++ "'."
  | sign => "Sign not allowed in string format specifier"
  | space => "Space not allowed in string format specifier"
  | negativeZero => "Negative zero coercion (z) not allowed in string format specifier"
  | alternateForm => "Alternate form (#) not allowed in string format specifier"
  | signAlignment => "'=' alignment not allowed in string format specifier"

/-! ## Fields -/

/-- A field as it is written. -/
structure Field where
  /-- The name, with the parts that it picks. -/
  name : List Char
  /-- The conversion after an exclamation mark. -/
  conversion : Option Char
  /-- The layout after a colon. -/
  layout : List Char

/-- Splits off the name of a field, up to the character that ends it; brackets hide such
characters. -/
def splitName (inBracket : Bool) (name : List Char) :
    List Char → Except Fault (List Char × Char × List Char)
  | [] => .error .unclosedField
  | c :: rest =>
    if inBracket then splitName (c ≠ ']') (c :: name) rest
    else if c = '\x7b' then .error .braceInName
    else if c = '\x7d' ∨ c = ':' ∨ c = '!' then .ok (name.reverse, c, rest)
    else splitName (c = '[') (c :: name) rest

/-- Splits off a layout, up to the brace that closes the field. -/
def splitLayout (depth : Nat) (layout : List Char) :
    List Char → Except Fault (List Char × List Char)
  | [] => .error .unclosedLayout
  | c :: rest =>
    if c = '\x7b' then splitLayout (depth + 1) (c :: layout) rest
    else if c = '\x7d' then
      match depth with
      | 0 => .ok (layout.reverse, rest)
      | outer + 1 => splitLayout outer (c :: layout) rest
    else splitLayout depth (c :: layout) rest

/-- Splits off a field after its opening brace. -/
def splitField (s : List Char) : Except Fault (Field × List Char) :=
  match splitName false [] s with
  | .error fault => .error fault
  | .ok (name, '\x7d', rest) => .ok (⟨name, none, []⟩, rest)
  | .ok (name, ':', rest) =>
    (splitLayout 0 [] rest).map fun (layout, after) => (⟨name, none, layout⟩, after)
  | .ok (name, _, rest) =>
    match rest with
    | [] => .error .noConversion
    | [_] => .error .unclosedLayout
    | conversion :: '\x7d' :: after => .ok (⟨name, some conversion, []⟩, after)
    | conversion :: ':' :: more =>
      (splitLayout 0 [] more).map fun (layout, after) => (⟨name, some conversion, layout⟩, after)
    | _ :: _ :: _ => .error .afterConversion

/-- The largest number that a template may hold. -/
def largestNumber : Nat := 2 ^ 63 - 1

/-- A number in decimal digits, if these characters are one.  Digits in front that are too large
are a fault whatever follows them. -/
def number? (s : List Char) : Except Fault (Option Nat) :=
  let isDigit : Char → Bool := fun c => (digitValue? c).isSome
  let n := ((s.takeWhile isDigit).filterMap digitValue?).foldl (fun n d => 10 * n + d) 0
  if largestNumber < n then .error .largeNumber
  else if s.isEmpty || !s.all isDigit then .ok none
  else .ok (some n)

/-- Follows the parts that a field picks; each step takes at least one character. -/
def pick (part : Part) : Nat → List Char → Except Fault Part
  | _, [] => .ok part
  | 0, _ => .error .afterBracket
  | fuel + 1, '.' :: rest =>
    let name := rest.takeWhile fun c => c ≠ '.' && c ≠ '['
    if name.isEmpty then .error .emptyPart
    else
      match part.member? (String.ofList name) with
      | none => .error (.unknownPart part.holder (String.ofList name))
      | some found => pick found fuel (rest.drop name.length)
  | fuel + 1, '[' :: rest => do
    let inside := rest.takeWhile (· ≠ ']')
    let index ← number? inside
    if inside.isEmpty then .error .emptyPart
    else
      match part.item index with
      | .error fault => .error (.noItem fault)
      | .ok found => pick found fuel (rest.drop (inside.length + 1))
  | _, _ => .error .afterBracket

/-- The part that a field stands for. -/
def resolve (key value : String) (name : List Char) : Except Fault Part := do
  let isStep : Char → Bool := fun c => c = '.' || c = '['
  let first := name.takeWhile fun c => !isStep c
  -- there are no values by position
  match ← number? first with
  | some index => .error (.unknownPosition index)
  | none =>
    if first.isEmpty then .error (.unknownPosition 0)
    else if String.ofList first ≠ key then .error (.unknownName (String.ofList first))
    else pick (.text value.toList) name.length (name.dropWhile fun c => !isStep c)

/-- A text that is in quotes already, with every character outside ASCII as an escape. -/
def asciiText (s : String) : String :=
  String.join (s.toList.map fun c => if c.toNat < 0x80 then c.toString else codeEscape c)

/-- A part in quotes if it is a text. -/
def quotedPart : Part → String
  | .text s => quoted (String.ofList s)
  | part => part.shown

/-- Applies a conversion to a part. -/
def convert (part : Part) : Option Char → Except Fault Part
  | none => .ok part
  | some 's' => .ok (.ofString part.shown)
  | some 'r' => .ok (.ofString (quotedPart part))
  | some 'a' => .ok (.ofString (asciiText (quotedPart part)))
  | some c => .error (.unknownConversion c)

/-! ## Layouts -/

/-- Takes a character off the front if it satisfies a condition. -/
def takeOne (p : Char → Bool) : List Char → Option Char × List Char
  | c :: rest => if p c then (some c, rest) else (none, c :: rest)
  | [] => (none, [])

/-- Takes a number off the front. -/
def takeNumber (s : List Char) : Except Fault (Option Nat × List Char) :=
  let isDigit : Char → Bool := fun c => (digitValue? c).isSome
  (number? (s.takeWhile isDigit)).map fun n => (n, s.dropWhile isDigit)

/-- Whether a character gives an alignment. -/
def isAlignment (c : Char) : Bool := c = '<' || c = '>' || c = '=' || c = '^'

/-- Takes a fill and an alignment off the front. -/
def takeAlignment : List Char → Option Char × Option Char × List Char
  | fill :: align :: rest =>
    if isAlignment align then (some fill, some align, rest)
    else if isAlignment fill then (none, some fill, align :: rest)
    else (none, none, fill :: align :: rest)
  | [align] => if isAlignment align then (none, some align, []) else (none, none, [align])
  | [] => (none, none, [])

/-- A layout, taken apart. -/
structure Layout where
  /-- What fills the width. -/
  fill : Char
  /-- Where the text goes. -/
  align : Char
  /-- A sign that is asked for. -/
  sign : Option Char
  /-- Whether negative zeros are spoken of. -/
  negativeZero : Bool
  /-- Whether the alternate form is asked for. -/
  alternate : Bool
  /-- The least width. -/
  width : Nat
  /-- The most characters. -/
  precision : Option Nat
  /-- The kind of value. -/
  code : Char

/-- Whether a mark between digits goes with a kind of value. -/
def separatorFits (separator code : Char) : Bool :=
  "deEfFgG%".toList.contains code || (separator = '_' && "boxX".toList.contains code)

/-- Takes a layout apart. -/
def readLayout (s : List Char) : Except Fault Layout := do
  let (fill, align, s₁) := takeAlignment s
  let (sign, s₂) := takeOne (fun c => c = '+' || c = '-' || c = ' ') s₁
  let (zero, s₃) := takeOne (· = 'z') s₂
  let (alternate, s₄) := takeOne (· = '#') s₃
  -- a zero is a fill of its own, unless there is a fill already
  let (padding, s₅) := if fill.isNone then takeOne (· = '0') s₄ else (none, s₄)
  let (width, s₆) ← takeNumber s₅
  let (comma, s₇) := takeOne (· = ',') s₆
  let (underscore, s₈) := takeOne (· = '_') s₇
  if comma.isSome && underscore.isSome then .error .bothSeparators
  if underscore.isSome && s₈.head? = some ',' then .error .bothSeparators
  let (point, s₉) := takeOne (· = '.') s₈
  let (precision, rest) ← if point.isSome then takeNumber s₉ else .ok (none, s₉)
  if point.isSome && precision.isNone then .error .noPrecision
  if 1 < rest.length then .error (.badLayout (String.ofList s))
  -- whatever is left is the kind of value
  let code := rest.head?.getD 's'
  match comma.or underscore with
  | some separator =>
    if !separatorFits separator code then .error (.separatorWith separator code)
  | none => pure ()
  return ⟨(fill.or padding).getD ' ', align.getD '<', sign, zero.isSome, alternate.isSome,
    width.getD 0, precision, code⟩

/-- Lays a text out. -/
def Layout.apply (layout : Layout) (text : List Char) : Except Fault (List Char) :=
  if layout.code ≠ 's' then .error (.unknownCode layout.code)
  else if layout.sign = some ' ' then .error .space
  else if layout.sign.isSome then .error .sign
  else if layout.negativeZero then .error .negativeZero
  else if layout.alternate then .error .alternateForm
  else if layout.align = '=' then .error .signAlignment
  else if widest < layout.width then .error .noRoom
  else
    let kept := match layout.precision with
      | some most => text.take most
      | none => text
    let missing := layout.width - kept.length
    -- in the middle, the odd blank goes behind
    let before :=
      if layout.align = '>' then missing else if layout.align = '^' then missing / 2 else 0
    .ok (List.replicate before layout.fill ++ kept ++
      List.replicate (missing - before) layout.fill)

/-- A part in a layout; only texts have one that says something. -/
def layOut (layout : List Char) (part : Part) : Except Fault (List Char) :=
  if layout.isEmpty then .ok part.shown.toList
  else
    match part with
    | .text s => do (← readLayout layout).apply s
    | other => .error (.noLayout other.typeOf.name)

/-! ## Whole templates -/

/-- Writes out a template; `write` writes out the templates in its layouts, and `fuel` bounds its
length. -/
def expand (key value : String) (write : List Char → Except Fault (List Char)) :
    Nat → List Char → Except Fault (List Char)
  | _, [] => .ok []
  | 0, _ => .ok []
  | fuel + 1, c :: rest =>
    if c = '\x7b' ∨ c = '\x7d' then
      match rest with
      | [] => .error (.loneBrace c)
      | next :: after =>
        if next = c then (expand key value write fuel after).map (c :: ·)
        else if c = '\x7d' then .error (.loneBrace c)
        else do
          let (field, remaining) ← splitField (next :: after)
          let part ← resolve key value field.name
          let converted ← convert part field.conversion
          -- fields inside a layout are filled in first
          let layout ← if field.layout.contains '\x7b' then write field.layout else .ok field.layout
          let shown ← layOut layout converted
          let others ← expand key value write fuel remaining
          return shown ++ others
    else (expand key value write fuel rest).map (c :: ·)

/-- Writes out a template whose fields are nested at most so deep. -/
def fillWithin (key value : String) : Nat → List Char → Except Fault (List Char)
  | 0, _ => .error .tooDeep
  | depth + 1, s => expand key value (fillWithin key value depth) s.length s

/-- Writes out a template with a text for its name. -/
def fill (template key value : String) : Except Fault String :=
  -- a field may have fields in its layout, but those have none
  (fillWithin key value 2 template.toList).map String.ofList

end Machining.Text.Template
