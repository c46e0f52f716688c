import Machining.Proofs.Program.SkippedOperations
import Machining.Proofs.Result
import Machining.Proofs.Schema.MissingSizes
import Machining.Session.Analysis

/-!
# Answers without geometry

An answer of the analyzer that lacks the sizes of its feature is not refused.  It is read as the
operation with sizes of zero, which makes no sense, and the compiler skips it.  So from the answer
to the program nothing fails, and nothing is machined with sizes that nobody gave.

* `RawAnswer.document?` is the document that an answer carries, in whichever form it comes.
* `isSome_skipReason?_without`: an operation that lacks a size of its own is skipped.
* `answers_without_sizes_are_skipped` says of every answer that is read what becomes of it without
  some of its sizes, and with a kind that is none.
-/

namespace Machining.Session

open Machining.Document Machining.Job Machining.Numeric Machining.Program Machining.Schema
  Machining.Text

/-! ## The document of an answer -/

/-- The document that an answer carries: that of its text, or the answer itself. -/
def RawAnswer.document? : RawAnswer → Option Value
  | .text s => (Json.read (String.ofList (unfence s.toList))).toOption
  | .bytes content =>
    (Json.read (String.ofList (unfence (Utf8.decodeLossy content).toList))).toOption
  | .value document => some document

namespace Analysis

private theorem ofText_of_document {s : String} {value : Value}
    (h : (Json.read (String.ofList (unfence s.toList))).toOption = some value) :
    ofText s = ofValue value := by
  unfold ofText
  cases hread : Json.read (String.ofList (unfence s.toList)) with
  | error error =>
    rw [hread] at h
    cases h
  | ok found =>
    rw [hread] at h
    cases h
    rfl

/-- An answer is read as its document. -/
theorem read_of_document? {raw : RawAnswer} {value : Value} (h : raw.document? = some value) :
    read raw = ofValue value := by
  cases raw with
  | text s =>
    rw [read]
    exact ofText_of_document h
  | bytes content =>
    rw [read]
    exact ofText_of_document h
  | value found => rw [read, Option.some.inj h]

/-- The result with another feature. -/
def withFeature (result : Analysis) (feature : Feature Float) : Analysis :=
  { result with operation := { result.operation with feature } }

/-- A document with another record of its operation. -/
def withOperation (entries record : Entries) : Entries :=
  Entries.put (.text "operation") (.mapping record) entries

/-- A document is read as a result exactly when its fields can be read. -/
theorem ofValue_eq_ok_iff {entries : Entries} {result : Analysis} :
    ofValue (.mapping entries) = .ok result ↔
      ∃ program, required entries "operation" Schema.operation = .valid result.operation ∧
        required entries "stock" Schema.stock = .valid result.stock ∧
        defaulted entries "explanation" "" text = .valid result.explanation ∧
        defaulted entries "optimized_gcode" none (nullable text) = .valid program ∧
        result.program = suppliedProgram? program := by
  constructor
  · intro h
    have hvalid : analysis (.mapping entries) = .valid result := by
      have hok := eq_ok_of_mapError_eq_ok h
      cases hread : analysis (.mapping entries) with
      | valid found =>
        rw [hread] at hok
        exact congrArg Checked.valid (Except.ok.inj hok)
      | invalid issues =>
        rw [hread] at hok
        cases hok
    -- the record is read field by field, the last one outermost
    obtain ⟨_, program, h₁, hprogram, rfl⟩ := Checked.exists_of_seq_eq_valid hvalid
    obtain ⟨_, explanation, h₂, hexplanation, rfl⟩ := Checked.exists_of_seq_eq_valid h₁
    obtain ⟨_, block, h₃, hblock, rfl⟩ := Checked.exists_of_seq_eq_valid h₂
    obtain ⟨op, hop, rfl⟩ := Checked.exists_of_map_eq_valid h₃
    exact ⟨program, hop, hblock, hexplanation, hprogram, rfl⟩
  · rintro ⟨program, hop, hblock, hexplanation, hprogram, hsupplied⟩
    obtain ⟨op, block, explanation, supplied⟩ := result
    obtain rfl : supplied = suppliedProgram? program := hsupplied
    simp only [ofValue, analysis, record, Value.entries?, hop, hblock, hexplanation, hprogram]
    rfl

/-- A required record that was read is there. -/
private theorem exists_record_of_required {entries : Entries} {op : Operation Float}
    (h : required entries "operation" Schema.operation = .valid op) :
    ∃ given, Entries.get? (.text "operation") entries = some (.mapping given) ∧
      Schema.operation (.mapping given) = .valid op := by
  unfold required at h
  cases hvalue : Entries.get? (.text "operation") entries with
  | none =>
    rw [hvalue] at h
    cases h
  | some value =>
    rw [hvalue] at h
    have hread : Schema.operation value = .valid op := by
      cases hop : Schema.operation value with
      | valid found =>
        simp only [hop] at h
        exact h
      | invalid issues =>
        simp only [hop] at h
        cases h
    -- what an operation is read from is a mapping
    cases value with
    | mapping given => exact ⟨given, rfl, hread⟩
    | again isMapping => cases isMapping <;> cases hread
    | _ => cases hread

/-- A result has its operation from a record of its own, and with another record it has another
operation and is the same otherwise. -/
theorem exists_record_of_ofValue {entries : Entries} {result : Analysis}
    (h : ofValue (.mapping entries) = .ok result) :
    ∃ given, Entries.get? (.text "operation") entries = some (.mapping given) ∧
      Schema.operation (.mapping given) = .valid result.operation ∧
      ∀ other op, Schema.operation (.mapping other) = .valid op →
        ofValue (.mapping (withOperation entries other)) =
          .ok { result with operation := op } := by
  obtain ⟨program, hop, hblock, hexplanation, hprogram, hsupplied⟩ := ofValue_eq_ok_iff.mp h
  obtain ⟨given, hgiven, hread⟩ := exists_record_of_required hop
  refine ⟨given, hgiven, hread, fun other op hother =>
    ofValue_eq_ok_iff.mpr ⟨program, ?_, ?_, ?_, ?_, hsupplied⟩⟩
  · rw [required, withOperation, Entries.get?_put_self]
    show Checked.under (.field "operation") (Schema.operation (.mapping other)) = _
    rw [hother]
    rfl
  -- the other fields of the answer are read as before
  all_goals
    have hkept : ∀ name ≠ "operation", Entries.get? (.text name) (withOperation entries other) =
        Entries.get? (.text name) entries := fun name hname =>
      Entries.get?_put_of_not_agrees _ entries (by simp [SizeField.agrees_text, hname.symm])
  · exact (required_congr (hkept _ (by decide)) _).trans hblock
  · exact (defaulted_congr (hkept _ (by decide)) _ _).trans hexplanation
  · exact (defaulted_congr (hkept _ (by decide)) _ _).trans hprogram

end Analysis

/-! ## Operations without their sizes -/

section Sizes

variable {op : Operation Float} {edits : SizeField → SizeField.Edit}

private theorem left_of_ne_keep {α : Type} {how : SizeField.Edit} (h : how ≠ .keep)
    (empty part : α) : how.left empty part = empty := by
  cases how with
  | keep => exact absurd rfl h
  | remove | clear => rfl

private theorem zero_le_zero : Scalar.le (Scalar.zero : Float) Scalar.zero = true := by
  decide +kernel

private theorem zero_not_positive : Scalar.isPositive (Scalar.zero : Float) = false := by
  decide +kernel

/-- A feature that lacks one of its own sizes cannot be machined. -/
theorem isSome_featureSkipReason?_without (stock : Stock Float)
    (h : ∃ field ∈ SizeField.ofKind op.kind, edits field ≠ .keep) :
    (featureSkipReason? stock { op with feature := op.feature.without edits }).isSome = true := by
  obtain ⟨field, hfield, hedit⟩ := h
  rw [Operation.kind] at hfield
  -- each kind is refused for a size of zero, or for segments that are not there
  cases hfeature : op.feature with
  | drill diameter =>
    obtain rfl : field = .diameter := by
      simpa [hfeature, Feature.kind, SizeField.ofKind] using hfield
    simp [featureSkipReason?, Feature.without, Operation.isWellFormed, left_of_ne_keep hedit,
      zero_not_positive]
  | circularPocket diameter =>
    obtain rfl : field = .diameter := by
      simpa [hfeature, Feature.kind, SizeField.ofKind] using hfield
    cases htool : Scalar.isPositive op.toolDiameter <;>
      simp [featureSkipReason?, Feature.without, left_of_ne_keep hedit, zero_le_zero, htool]
  | rectangularPocket width length =>
    have hzero : (Scalar.le ((edits .width).left Scalar.zero width) Scalar.zero ||
        Scalar.le ((edits .length).left Scalar.zero length) Scalar.zero) = true := by
      obtain rfl | rfl : field = .width ∨ field = .length := by
        simpa [hfeature, Feature.kind, SizeField.ofKind] using hfield
      · simp [left_of_ne_keep hedit, zero_le_zero]
      · simp [left_of_ne_keep hedit, zero_le_zero]
    cases htool : Scalar.isPositive op.toolDiameter <;>
      simp [featureSkipReason?, Feature.without, Bool.or_assoc, hzero, htool]
  | contour segments =>
    obtain rfl : field = .segments := by
      simpa [hfeature, Feature.kind, SizeField.ofKind] using hfield
    simp [featureSkipReason?, Feature.without, left_of_ne_keep hedit]
  | faceMill | unknown => simp [hfeature, Feature.kind, SizeField.ofKind] at hfield

/-- What keeps a feature from being machined keeps its operation from it. -/
private theorem isSome_skipReason?_of_feature {stock : Stock Float}
    (h : (featureSkipReason? stock op).isSome = true) : (skipReason? stock op).isSome = true := by
  unfold skipReason?
  split_ifs
  all_goals first
    | rfl
    | exact h

/-- So an operation that lacks one of its own sizes is skipped, in every stock. -/
theorem isSome_skipReason?_without (stock : Stock Float)
    (h : ∃ field ∈ SizeField.ofKind op.kind, edits field ≠ .keep) :
    (skipReason? stock { op with feature := op.feature.without edits }).isSome = true :=
  isSome_skipReason?_of_feature (isSome_featureSkipReason?_without stock h)

end Sizes

/-! ## From the answer to the program -/

/-- What is shown of an operation: wherever it stands in a job, with whatever stock and settings the
job is compiled, its block has this form and machines nothing. -/
def LeftOutEverywhere (op : Operation Float)
    (form : Settings Float → Stock Float → ℕ → List Line → Prop) : Prop :=
  ∀ (settings : Settings Float) (stock : Stock Float) (ops : List (Operation Float))
    (program : List Line) (i : ℕ), compile settings stock ops = .ok program → ops[i]? = some op →
    ∃ bodies foot body, Divided settings stock ops program bodies foot ∧ bodies[i]? = some body ∧
      form settings stock (i + 1) body ∧ ∀ line ∈ body, line.machines = false

/-- An operation that lacks one of its own sizes is left out of every job. -/
theorem leftOutEverywhere_without {op : Operation Float} {edits : SizeField → SizeField.Edit}
    (h : ∃ field ∈ SizeField.ofKind op.kind, edits field ≠ .keep) :
    LeftOutEverywhere { op with feature := op.feature.without edits }
      fun settings stock index body =>
        LeavesOut settings stock index { op with feature := op.feature.without edits } body := by
  intro settings stock ops program i hcompile hop
  obtain ⟨bodies, foot, before, body, hdivided, hbody, hblock⟩ :=
    exists_block_of_compile hcompile hop
  have hknown : { op with feature := op.feature.without edits }.kind ≠ .unknown := by
    intro hunknown
    rw [Operation.kind, Feature.kind_without, ← Operation.kind] at hunknown
    simp [hunknown, SizeField.ofKind] at h
  have hleaves := (leavesOut_iff hknown hblock).mpr (isSome_skipReason?_without stock h)
  exact ⟨bodies, foot, body, hdivided, hbody, hleaves, hleaves.machines_eq_false⟩

/-- So is one of which nothing is known: its block is a remark. -/
theorem leftOutEverywhere_unknown {op : Operation Float} (hkind : op.kind = .unknown) :
    LeftOutEverywhere op fun _ _ index body =>
      body = [.opening index .unknown, .nothingToMachine] := by
  intro settings stock ops program i hcompile hop
  obtain ⟨bodies, foot, before, body, hdivided, hbody, hblock⟩ :=
    exists_block_of_compile hcompile hop
  rw [block_of_unknown hkind, hkind] at hblock
  cases hblock
  exact ⟨bodies, foot, _, hdivided, hbody, rfl, by simp [Line.machines]⟩

/-- **Answers without sizes are skipped.**  Of every answer that is read, in whichever form it
comes:

* with some sizes taken out of its operation, or cleared if they are numbers, it is read as the same
  result but for these sizes, which are zero or empty where the kind needs them; sizes that it does
  not need make no difference, and an operation that lacks one of its own is left out of every job;
* with its kind replaced by a name that is none, it is read as the same result but for its feature,
  of which nothing is known, and is left out of every job without any move. -/
theorem answers_without_sizes_are_skipped {raw : RawAnswer} {entries : Entries} {result : Analysis}
    (hobject : raw.document? = some (.mapping entries)) (hread : Analysis.read raw = .ok result) :
    ∃ given, Entries.get? (.text "operation") entries = some (.mapping given) ∧
      (∀ edits : SizeField → SizeField.Edit, edits .segments ≠ .clear →
        ∀ answer : RawAnswer, answer.document? =
            some (.mapping (Analysis.withOperation entries (SizeField.apply edits given))) →
          Analysis.read answer =
              .ok (result.withFeature (result.operation.feature.without edits)) ∧
            ((∀ field ∈ SizeField.ofKind result.operation.kind, edits field = .keep) →
              Analysis.read answer = .ok result) ∧
            ((∃ field ∈ SizeField.ofKind result.operation.kind, edits field ≠ .keep) →
              let op := (result.withFeature (result.operation.feature.without edits)).operation
              LeftOutEverywhere op fun settings stock index body =>
                LeavesOut settings stock index op body)) ∧
      ∀ s : String, (∀ kind : OperationKind, choiceName s ≠ kind.name) →
        ∀ answer : RawAnswer, answer.document? =
            some (.mapping (Analysis.withOperation entries
              (Entries.put (.text "type") (.text s) given))) →
          Analysis.read answer = .ok (result.withFeature .unknown) ∧
            LeftOutEverywhere (result.withFeature .unknown).operation fun _ _ index body =>
              body = [.opening index .unknown, .nothingToMachine] := by
  rw [Analysis.read_of_document? hobject] at hread
  -- another operation in its place is read on its own, and the rest stays
  obtain ⟨given, hgiven, hop, hother⟩ := Analysis.exists_record_of_ofValue hread
  refine ⟨given, hgiven, ?_, ?_⟩
  · intro edits hedits answer hanswer
    have hedited := hother _ _ (operation_of_edits hop hedits)
    rw [← Analysis.read_of_document? hanswer] at hedited
    refine ⟨hedited, fun hkept => ?_, leftOutEverywhere_without⟩
    rw [hedited, Feature.without_eq_self hkept]
  · intro s hname answer hanswer
    have hedited := hother _ _ (operation_of_unknownName hop hname)
    rw [← Analysis.read_of_document? hanswer] at hedited
    exact ⟨hedited, leftOutEverywhere_unknown rfl⟩

/-! ## A sample answer -/

/-- The record of a rectangular pocket. -/
def pocketRecord : Entries :=
  [(.text "type", .text " rectangular_pocket "), (.text "z_depth", .int 10),
    (.text "width", .int 30), (.text "length", .int 20), (.text "feed_rate", .int 200),
    (.text "spindle_speed", .int 1500), (.text "tool_diameter", .int 8),
    (.text "tool_type", .text "end_mill")]

/-- An answer with this record. -/
def pocketEntries : Entries :=
  [(.text "operation", .mapping pocketRecord),
    (.text "stock", .mapping [(.text "height", .int 20)])]

/-- Takes out the extent along Y, and the diameter, which a rectangular pocket does not need. -/
def withoutLength : SizeField → SizeField.Edit
  | .length | .diameter => .remove
  | .width | .segments => .keep

/-- The pocket is read with an extent of zero along Y, and left out of every job. -/
theorem answers_without_sizes_are_skipped_of_pocket :
    ∃ result, Analysis.read (.value (.mapping pocketEntries)) = .ok result ∧
      ∃ width length, result.operation.feature = .rectangularPocket width length ∧
        Analysis.read (.value (.mapping (Analysis.withOperation pocketEntries
          (SizeField.apply withoutLength pocketRecord)))) =
            .ok (result.withFeature (.rectangularPocket width Scalar.zero)) ∧
        LeftOutEverywhere (result.withFeature (.rectangularPocket width Scalar.zero)).operation
          fun settings stock index body => LeavesOut settings stock index
            (result.withFeature (.rectangularPocket width Scalar.zero)).operation body := by
  -- the answer is usable, and its operation is a pocket
  have hfound : (Analysis.read (.value (.mapping pocketEntries))).toOption.any (fun result =>
      result.operation.kind == .rectangularPocket) = true := by
    decide +kernel
  obtain ⟨result, hread, hkind⟩ := exists_of_any_eq_true hfound
  obtain ⟨width, length, hfeature⟩ :
      ∃ width length, result.operation.feature = .rectangularPocket width length := by
    cases hfeature : result.operation.feature with
    | rectangularPocket width length => exact ⟨width, length, rfl⟩
    | _ => simp [Operation.kind, hfeature, Feature.kind] at hkind
  obtain ⟨given, hgiven, hsizes, -⟩ :=
    @answers_without_sizes_are_skipped (.value (.mapping pocketEntries)) _ _ rfl hread
  obtain rfl : pocketRecord = given := Value.mapping.inj (Option.some.inj hgiven)
  obtain ⟨hedited, -, hskipped⟩ := hsizes withoutLength (by decide) (.value _) rfl
  -- without its length, one of its sizes is missing
  have hlacks : ∃ field ∈ SizeField.ofKind result.operation.kind, withoutLength field ≠ .keep := by
    rw [Operation.kind, hfeature]
    exact ⟨.length, by simp [Feature.kind, SizeField.ofKind], by decide⟩
  have hleft : result.operation.feature.without withoutLength =
      .rectangularPocket width Scalar.zero := by
    rw [hfeature]
    rfl
  have hleftOut := hskipped hlacks
  rw [hleft] at hedited hleftOut
  exact ⟨result, hread, width, length, hfeature, hedited, hleftOut⟩

end Machining.Session
