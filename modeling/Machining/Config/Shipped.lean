import Machining.Config.Reader

/-!
# The shipped settings

The document with the settings that hold when no other file is named.
-/

namespace Machining.Config

open Machining.Document

/-- The floating-point number `units / 10 ^ places` as a value. -/
def decimal (units places : Nat) : Value := .float (Numeric.Scalar.ofDecimal units places)

/-- How programs are written. -/
def shippedCompiler : Value :=
  Value.ofFields [
    ("program_name", .text "MILL_ASSIST"),
    ("work_offset", .text "G54"),
    ("coordinate_decimals", .int 3),
    ("feed_decimals", .int 1),
    ("safe_clearance_mm", decimal 50 1),
    ("peck_retract_mm", decimal 10 1),
    ("pocket_stepover", decimal 5 1),
    ("face_overlap", decimal 3 1),
    ("coolant", .bool true)]

/-- The stock of new sessions. -/
def shippedStock : Value :=
  Value.ofFields [
    ("shape", .text "RECTANGULAR"),
    ("width", decimal 1000 1),
    ("length", decimal 1000 1),
    ("height", decimal 200 1),
    ("diameter", decimal 0 1),
    ("material", .text "Aluminum")]

/-- The prompts for turns without words. -/
def shippedPrompts : Value :=
  Value.ofFields [
    ("text/plain",
      .text "Analyze the data in this DXF/text file and generate a machining program."),
    ("application/pdf", .text "Analyze this PDF drawing and generate a machining program."),
    ("fallback", .text "Analyze this image/model and generate a machining program.")]

/-- The answers to turns without a result. -/
def shippedMessages : Value :=
  Value.ofFields [
    ("stopped", .text "Generation stopped."),
    ("quota",
      .text "API quota exhausted (429). Take a short break or check your API quota."),
    ("parse",
      .text ("Could not parse the analysis result. Try a clearer description or a simpler " ++
        "drawing.")),
    ("generic", .text "Unable to process your request. Please try again later.")]

/-- How a session begins and talks. -/
def shippedSession : Value :=
  Value.ofFields [
    ("default_model", .text "gemini-2.5-flash"),
    ("default_stock", shippedStock),
    ("default_prompts", shippedPrompts),
    ("upload_label", .text "Uploaded file: \x7bfile_name\x7d"),
    ("messages", shippedMessages)]

/-- The shipped document. -/
def shipped : Value :=
  Value.ofFields [("compiler", shippedCompiler), ("session", shippedSession)]

/-- The name of the file that the shipped document stands in. -/
def shippedPath : String := "defaults.yaml"

/-- The shipped settings. -/
def default : Outcome Assistant := read shippedPath shipped

end Machining.Config
