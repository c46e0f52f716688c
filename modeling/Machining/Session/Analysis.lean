import Machining.Json.Reader
import Machining.Schema.Job
import Machining.Session.Failure
import Machining.Text.Utf8

/-!
# Analysis results

The analyzer answers a turn with an operation, the stock it is cut from and some words; for a job
that is to be replaced it may write the program itself.  The answer comes as text, perhaps inside a
code fence, as bytes, or as a document.  `Analysis.read` gives the result or the reason why the
answer is unusable.

* `unfence` takes a text out of its code fence.
-/

namespace Machining.Session

open Machining.Document Machining.Job Machining.Text Machining.Schema

/-- What the analyzer makes of a request. -/
structure Analysis where
  /-- The operation to machine. -/
  operation : Operation Float
  /-- The stock it is cut from. -/
  stock : Stock Float
  /-- What the operation does, in free words. -/
  explanation : String
  /-- A program that was written along with it. -/
  program : Option String

/-- A program, where an empty one counts as none. -/
def suppliedProgram? (program : Option String) : Option String :=
  program.filter fun text => !text.isEmpty

/-- Reads an analysis result. -/
def analysis : Reader Analysis :=
  record fun entries =>
    (fun operation stock explanation program =>
      Analysis.mk operation stock explanation (suppliedProgram? program))
      <$> required entries "operation" operation
      <*> required entries "stock" stock
      <*> defaulted entries "explanation" "" text
      <*> defaulted entries "optimized_gcode" none (nullable text)

/-! ## Code fences -/

/-- The mark that opens and closes a code fence. -/
def fence : List Char := "```".toList

/-- Drops a word from the front if it is there. -/
def dropWord (word s : List Char) : List Char :=
  if word.isPrefixOf s then s.drop word.length else s

/-- The text inside a code fence, without blanks around it; a text that is not fenced stays. -/
def unfence (s : List Char) : List Char :=
  -- only for the test; a text without a fence keeps its blanks
  let body := trimLeft s
  if fence.isPrefixOf body then
    let inside := trimChars (dropWord "json".toList (body.drop fence.length))
    -- a fence that is not closed is no fence
    if fence.isSuffixOf inside then trimRight (inside.take (inside.length - fence.length))
    else s
  else s

/-! ## Answers -/

/-- An answer as it comes from the analyzer. -/
inductive RawAnswer where
  /-- A text. -/
  | text (s : String)
  /-- Bytes of a text. -/
  | bytes (bytes : List UInt8)
  /-- A document. -/
  | value (value : Value)

/-- Why an answer is unusable. -/
inductive Rejection where
  /-- The text is no JSON. -/
  | malformed (error : Json.ReadError)
  /-- The document is no mapping but something of this type. -/
  | notMapping (typeName : String)
  /-- The mapping does not have the shape of a result. -/
  | invalid (issues : List Issue)

/-- The wording of a rejection. -/
def Rejection.message : Rejection → String
  | malformed (.malformed complaint line column offset) =>
    "Analyzer returned invalid JSON: " ++
      (Json.ReadError.malformed complaint line column offset).message
  | malformed error => error.message
  | notMapping typeName => "Analyzer JSON must be an object, got " ++ typeName
  | invalid issues =>
    "Analyzer JSON failed validation: " ++ issueSummary issues "AnalysisPayload"

namespace Analysis

/-- Reads a document as an analysis result. -/
def ofValue (value : Value) : Except Rejection Analysis :=
  match value with
  | .mapping _ => (analysis value).toExcept.mapError .invalid
  | other => .error (.notMapping other.typeName)

/-- Reads a text as an analysis result. -/
def ofText (s : String) : Except Rejection Analysis :=
  match Json.read (String.ofList (unfence s.toList)) with
  | .ok value => ofValue value
  | .error error => .error (.malformed error)

/-- Reads an answer as an analysis result. -/
def read : RawAnswer → Except Rejection Analysis
  | .text s => ofText s
  | .bytes bytes => ofText (Utf8.decodeLossy bytes)
  | .value value => ofValue value

end Analysis

/-- The failure that a rejection is: an unusable answer, but for numbers and nestings that are too
large to be read at all. -/
def Rejection.failure (rejection : Rejection) : Failure :=
  match rejection with
  | malformed (.longInteger complaint) => .incident (.ofText "LongInteger" complaint.message)
  | malformed .tooDeep => .incident (.ofText "NestingTooDeep" Json.ReadError.tooDeep.message)
  | _ => .stated .parse rejection.message

end Machining.Session
