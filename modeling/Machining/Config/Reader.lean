import Machining.Config.Basic
import Machining.Document.Shown
import Machining.Numeric.Numeral
import Machining.Text.Blank
import Machining.Text.Case
import Machining.Text.Digit
import Machining.Text.Search

/-!
# Reading settings

Settings are read from a document, generously: numbers may be written as texts, and any value
serves where a text is wanted.  What cannot be read, or lies outside its range, is refused with one
complaint, the first that comes up: the compiler's section is read before the session's, and the
ranges are checked after everything has been read.
-/

namespace Machining.Config

open Machining.Document Machining.Job Machining.Numeric Machining.Program Machining.Text

/-- Why a document does not hold settings. -/
inductive ConfigError where
  /-- The document is empty. -/
  | emptyFile (path : String)
  /-- A key is missing. -/
  | missingKey (key : String)
  /-- A section is looked up in a value of a type without sections. -/
  | notIndexed (typeName : String)
  /-- A section is looked up in a row of such members. -/
  | indexedRow (members : String)
  /-- A section is looked up in a text. -/
  | indexedText
  /-- A section is of a type without this access to its fields. -/
  | noAccess (typeName access : String)
  /-- A text or bytes, shown like this, are no floating-point numeral. -/
  | unreadableFloat (shown : String)
  /-- A text or bytes, shown like this, are no whole numeral. -/
  | unreadableInt (shown : String)
  /-- A value of this type is no number. -/
  | notFloat (typeName : String)
  /-- A value of this type is no whole number. -/
  | notInt (typeName : String)
  /-- "No number" stands where a whole number is wanted. -/
  | nanInt
  /-- A whole number has too many digits as a text. -/
  | longInteger (complaint : LongInteger)
  /-- The name of a stock's shape is not known. -/
  | unknownShape (name : String)
  /-- A setting lies outside its range. -/
  | outOfRange (name range shown : String)
  /-- There is no prompt for everything else. -/
  | noFallback
  /-- The upload label has no place for the name of the file. -/
  | noUploadKey
  /-- The stock of new sessions makes no sense. -/
  | badStock (stock : Stock Float)

/-- Why settings could not be read: a complaint, or something that is too large to be handled, or to
be written in a complaint. -/
inductive ReadError where
  /-- The document does not hold settings. -/
  | refused (error : ConfigError)
  /-- A whole number exceeds the range of floating-point numbers. -/
  | hugeInteger
  /-- An infinity stands where a whole number is wanted. -/
  | infiniteInteger
  /-- A setting that lies outside its range has too many digits. -/
  | longInteger (complaint : LongInteger)
  /-- A value that stands for a text is nested too deep. -/
  | tooDeep

/-- The text of a stock in a complaint. -/
def stockText (stock : Stock Float) : String :=
  "StockDimensions(shape=<StockShape." ++ stock.shape.name ++ ": '" ++ stock.shape.name ++
    "'>, width=" ++ shortestText stock.width ++ ", length=" ++ shortestText stock.length ++
    ", height=" ++ shortestText stock.height ++ ", diameter=" ++ shortestText stock.diameter ++
    ", material=" ++ quoted stock.material ++ ")"

/-- The wording of a complaint about a value, without what is said before it. -/
def ConfigError.detail : ConfigError → String
  | emptyFile path => path
  | missingKey key => quoted key
  | notIndexed typeName => "'" ++ typeName ++ "' object is not subscriptable"
  | indexedRow members => members ++ " indices must be integers or slices, not str"
  | indexedText => "string indices must be integers, not 'str'"
  | noAccess typeName access =>
    "'" ++ typeName ++ "' object has no attribute '" ++ access ++ "'"
  | unreadableFloat shown => "could not convert string to float: " ++ shown
  | unreadableInt shown => unreadableIntMessage 10 shown
  | notFloat typeName =>
    "float() argument must be a string or a real number, not '" ++ typeName ++ "'"
  | notInt typeName =>
    "int() argument must be a string, a bytes-like object or a real number, not '" ++
      typeName ++ "'"
  | nanInt => ArithmeticError.message .nanToInteger
  | longInteger complaint => complaint.message
  | unknownShape name => quoted name
  | outOfRange name range shown => name ++ " must be " ++ range ++ ", got " ++ shown
  | noFallback => "session.default_prompts must define 'fallback'"
  | noUploadKey => "session.upload_label must contain '\x7bfile_name\x7d'"
  | badStock stock => "session.default_stock is not a valid stock: " ++ stockText stock

/-- The wording of a complaint. -/
def ConfigError.message (error : ConfigError) : String :=
  match error with
  | emptyFile _ => "Empty configuration file: " ++ error.detail
  | missingKey _ => "Missing required configuration key: " ++ error.detail
  | unknownShape _ =>
    "default_stock.shape must be RECTANGULAR or CYLINDRICAL, got " ++ error.detail
  | outOfRange .. | noFallback | noUploadKey | badStock _ => error.detail
  | _ => "Invalid configuration value: " ++ error.detail

/-- The wording of a read error. -/
def ReadError.message : ReadError → String
  | refused error => error.message
  | hugeInteger => "int too large to convert to float"
  | infiniteInteger => ArithmeticError.message .infinityToInteger
  | longInteger complaint => complaint.message
  | tooDeep => SizeError.message .tooDeep

/-- The result of reading a part. -/
abbrev Outcome (α : Type) := Except ReadError α

/-- A complaint as a result. -/
def refuse {α : Type} (error : ConfigError) : Outcome α := .error (.refused error)

/-! ## Values -/

/-- Bytes as the characters of their numbers, as far as they are ASCII. -/
def byteText (data : List UInt8) : String :=
  String.ofList (data.map fun b => if b < 0x80 then Char.ofNat b.toNat else '\uFFFD')

/-- Reads a floating-point number. -/
def readFloat : Value → Outcome Float
  | .float x => .ok x
  | .int n =>
    -- a whole number beyond the range is refused, not made infinite
    let x := Float.ofInt n
    if x.isFinite then .ok x else .error .hugeInteger
  | .bool b => .ok (Float.ofNat b.toNat)
  | .text s =>
    match floatNumeral? ((numeralChars s).map plainDigit) with
    | some x => .ok x
    | none => refuse (.unreadableFloat (quoted s))
  | .bytes data =>
    match floatNumeral? (numeralChars (byteText data)) with
    | some x => .ok x
    | none => refuse (.unreadableFloat (quotedBytes data))
  | other => refuse (.notFloat other.typeName)

/-- The whole part of a floating-point number. -/
def truncate (x : Float) : Outcome Int :=
  match Binary64.ofFloat x with
  | .nan => refuse .nanInt
  | .infinite _ => .error .infiniteInteger
  | .finite negative mantissa exponent =>
    let (up, down) := powerParts 2 exponent
    let whole : Int := mantissa * up / down
    .ok (if negative then -whole else whole)

/-- A whole number that was read from a text or from bytes, which are shown like this. -/
def wholeNumber (shown : String) : Except IntFault Int → Outcome Int
  | .ok n => .ok n
  | .error .malformed => refuse (.unreadableInt shown)
  | .error (.long complaint) => refuse (.longInteger complaint)

/-- Reads a whole number. -/
def readInt : Value → Outcome Int
  | .int n => .ok n
  | .bool b => .ok b.toNat
  | .float x => truncate x
  | .text s =>
    wholeNumber (quoted s) (intNumeral ((numeralChars s).map plainDigit))
  | .bytes data => wholeNumber (quotedBytes data) (intNumeral (numeralChars (byteText data)))
  | other => refuse (.notInt other.typeName)

/-- Reads a text; any value serves as one. -/
def readText (value : Value) : Outcome String :=
  (value.plain? stackRoom).mapError fun
    | .longInteger complaint => .refused (.longInteger complaint)
    | .tooDeep => .tooDeep

/-! ## Sections -/

/-- The value of a key that has to be there. -/
def need (section? : Value) (key : String) : Outcome Value :=
  match section?.entries?, section? with
  | some entries, _ =>
    match Entries.get? (.text key) entries with
    | some value => .ok value
    | none => refuse (.missingKey key)
  | none, .list _ | none, .again _ => refuse (.indexedRow "list")
  | none, .tuple _ => refuse (.indexedRow "tuple")
  | none, .bytes _ => refuse (.indexedRow "byte")
  | none, .text _ => refuse .indexedText
  | none, other => refuse (.notIndexed other.typeName)

/-- The entries of a section whose keys need not all be there. -/
def entriesOf (section? : Value) (access : String) : Outcome Entries :=
  match section?.entries? with
  | some entries => .ok entries
  | none => refuse (.noAccess section?.typeName access)

/-- The value of a key, or a default. -/
def find (entries : Entries) (key : String) (default : Value) : Value :=
  (Entries.get? (.text key) entries).getD default

/-- The stock of new sessions. -/
def readStock (data : Value) : Outcome (Stock Float) := do
  let entries ← entriesOf data "get"
  let nothing := Value.float Scalar.zero
  -- the shape is settled before any size is read
  let shapeName := upper (← readText (find entries "shape" (.text "RECTANGULAR")))
  match StockShape.ofName? shapeName with
  | none => refuse (.unknownShape shapeName)
  | some shape =>
    let width ← readFloat (find entries "width" nothing)
    let length ← readFloat (find entries "length" nothing)
    let height ← readFloat (← need data "height")
    let diameter ← readFloat (find entries "diameter" nothing)
    let material ← readText (find entries "material" (.text ""))
    return ⟨shape, width, length, height, diameter, material⟩

/-- The numbers of decimal places before they are checked. -/
structure Places where
  /-- The decimal places of positions. -/
  coordinate : Int
  /-- The decimal places of feeds. -/
  feed : Int

/-- The compiler's section. -/
def readCompiler (data : Value) : Outcome (Settings Float × Places) := do
  let entries ← entriesOf data "get"
  let programName ← readText (find entries "program_name" (.text "MILL_ASSIST"))
  let workOffset ← readText (find entries "work_offset" (.text "G54"))
  let coordinate ← readInt (← need data "coordinate_decimals")
  let feed ← readInt (← need data "feed_decimals")
  let safeClearance ← readFloat (← need data "safe_clearance_mm")
  let peckRetract ← readFloat (← need data "peck_retract_mm")
  let pocketStepover ← readFloat (← need data "pocket_stepover")
  let faceOverlap ← readFloat (← need data "face_overlap")
  -- any value serves as a truth value
  let coolant := !(find entries "coolant" (.bool true)).isEmpty
  return ({ programName, workOffset, coordinatePlaces := coordinate.toNat,
            feedPlaces := feed.toNat, safeClearance, peckRetract, pocketStepover, faceOverlap,
            coolant }, ⟨coordinate, feed⟩)

/-- The answers to turns without a result. -/
def readMessages (data : Value) : Outcome Messages := do
  let stopped ← readText (← need data "stopped")
  let quota ← readText (← need data "quota")
  let parse ← readText (← need data "parse")
  let generic ← readText (← need data "generic")
  return ⟨stopped, quota, parse, generic⟩

/-- Sets the text of a name: in its old place, or at the end. -/
def putText (name text : String) : List (String × String) → List (String × String)
  | [] => [(name, text)]
  | (n, t) :: rest => if n = name then (n, text) :: rest else (n, t) :: putText name text rest

/-- The prompts for kinds of files; any values serve as kinds and as prompts. -/
def readPrompts (entries : Entries) : Outcome (List (String × String)) :=
  entries.foldlM (fun all (key, value) => do
    let name ← key.plain?.mapError fun complaint => ReadError.refused (.longInteger complaint)
    return putText name (← readText value) all) []

/-- The session's section. -/
def readSession (data : Value) : Outcome SessionSettings := do
  let messages ← readMessages (← need data "messages")
  let defaultPrompts ← readPrompts (← entriesOf (← need data "default_prompts") "items")
  let defaultModel ← readText (← need data "default_model")
  let defaultStock ← readStock (← need data "default_stock")
  let uploadLabel ← readText (← need data "upload_label")
  return ⟨defaultModel, defaultStock, defaultPrompts, uploadLabel, messages⟩

/-! ## Ranges -/

/-- Refuses a setting that fails its check. -/
def check (holds : Bool) (error : ConfigError) : Outcome Unit :=
  if holds then .ok () else refuse error

/-- A floating-point setting that fails its check. -/
def floatOutOfRange (name range : String) (x : Float) : ConfigError :=
  .outOfRange name range (shortestText x)

/-- Refuses a number of decimal places beyond the greatest; the complaint shows it. -/
def checkPlaces (name : String) (greatest places : Int) : Outcome Unit :=
  if 0 ≤ places && places ≤ greatest then .ok ()
  -- the complaint shows the number, which is refused when it is too long
  else if isLongInteger places then .error (.longInteger ⟨none⟩)
  else refuse (.outOfRange name s!"in [0, {greatest}]" (toString places))

/-- Checks the ranges of all settings, in order. -/
def validate (config : Assistant) (places : Places) : Outcome Unit := do
  let c := config.compiler
  let s := config.session
  let one := Float.ofNat 1
  checkPlaces "coordinate_decimals" 6 places.coordinate
  checkPlaces "feed_decimals" 3 places.feed
  -- the two lengths are refused if they lie below, which "no number" does not
  check (!Scalar.le c.safeClearance Scalar.zero)
    (floatOutOfRange "safe_clearance_mm" "> 0" c.safeClearance)
  check (!Scalar.lt c.peckRetract Scalar.zero)
    (floatOutOfRange "peck_retract_mm" ">= 0" c.peckRetract)
  -- the two fractions are taken only if they lie within
  check (Scalar.lt Scalar.zero c.pocketStepover && Scalar.le c.pocketStepover one)
    (floatOutOfRange "pocket_stepover" "in (0, 1]" c.pocketStepover)
  check (Scalar.le Scalar.zero c.faceOverlap && Scalar.lt c.faceOverlap one)
    (floatOutOfRange "face_overlap" "in [0, 1)" c.faceOverlap)
  check (s.defaultPrompts.lookup fallbackKey).isSome .noFallback
  check (holds s.uploadLabel ("\x7b" ++ uploadKey ++ "\x7d")) .noUploadKey
  check s.defaultStock.isWellFormed (.badStock s.defaultStock)

/-- Reads settings from the document of a file. -/
def read (path : String) (document : Value) : Outcome Assistant :=
  match document with
  | .null => refuse (.emptyFile path)
  | _ => do
    let (compiler, places) ← readCompiler (← need document "compiler")
    let session ← readSession (← need document "session")
    let config : Assistant := ⟨compiler, session⟩
    validate config places
    return config

end Machining.Config
