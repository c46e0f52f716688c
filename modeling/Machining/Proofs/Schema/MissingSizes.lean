import Mathlib
import Machining.Schema.Job

/-!
# Records of operations without their sizes

The record of an operation is flat, and the sizes of all features are fields of it.  A size that is
taken out of a record, or emptied, is no mistake in it: the record is read as before, and where its
kind needs the size there stands zero or nothing.

* `ReadsAs` says what every field of a record is read as, and `operation_eq_valid_iff` that reading
  a record is just that.
* `SizeField.apply` takes fields of sizes out of a record or empties them, and `Feature.without`
  says what is left of a feature.
* `operation_of_edits`: a record with such edits is read as the same operation but for its feature.
* `operation_of_unknownName`: so is one whose kind is replaced by a name that is none.
-/

namespace Machining.Schema

open Machining.Document Machining.Job Machining.Numeric

/-! ## Reading several parts -/

namespace Checked

variable {α β : Type}

theorem exists_of_map_eq_valid {f : α → β} {a : Checked α} {result : β}
    (h : f <$> a = .valid result) : ∃ x, a = .valid x ∧ f x = result := by
  cases a with
  | valid x => exact ⟨x, rfl, Checked.valid.inj h⟩
  | invalid issues => cases h

theorem exists_of_seq_eq_valid {f : Checked (α → β)} {a : Checked α} {result : β}
    (h : f <*> a = .valid result) : ∃ g x, f = .valid g ∧ a = .valid x ∧ g x = result := by
  cases f with
  | valid g =>
    cases a with
    | valid x => exact ⟨g, x, rfl, rfl, Checked.valid.inj h⟩
    | invalid issues => cases h
  | invalid issues => cases a <;> cases h

end Checked

/-! ## What a record says -/

/-- What the fields of a record are read as, one by one: a kind, the sizes of all features, and an
operation whose feature is made of these. -/
structure ReadsAs (entries : Entries) (kind : OperationKind) (sizes : Sizes)
    (op : Operation Float) : Prop where
  type : defaulted entries "type" .unknown operationKind = .valid kind
  x : defaulted entries "x" Scalar.zero number = .valid op.x
  y : defaulted entries "y" Scalar.zero number = .valid op.y
  zStart : defaulted entries "z_start" Scalar.zero number = .valid op.zStart
  zDepth : required entries "z_depth" number = .valid op.zDepth
  diameter : defaulted entries "diameter" none (nullable number) = .valid sizes.diameter
  width : defaulted entries "width" none (nullable number) = .valid sizes.width
  length : defaulted entries "length" none (nullable number) = .valid sizes.length
  segments : defaulted entries "path_segments" [] (list segment) = .valid sizes.segments
  feedRate : required entries "feed_rate" number = .valid op.feedRate
  spindleSpeed : required entries "spindle_speed" number = .valid op.spindleSpeed
  toolDiameter : required entries "tool_diameter" number = .valid op.toolDiameter
  tool : required entries "tool_type" (choice Tool.ofName?) = .valid op.tool
  stepDown : defaulted entries "step_down" Scalar.zero number = .valid op.stepDown
  feature : op.feature = sizes.feature kind

/-- A record is read as an operation exactly when each of its fields can be read. -/
theorem operation_eq_valid_iff {entries : Entries} {op : Operation Float} :
    operation (.mapping entries) = .valid op ↔ ∃ kind sizes, ReadsAs entries kind sizes op := by
  constructor
  · intro hread
    -- the fields one by one, from the last to the first
    obtain ⟨_, stepDown, h₁, hstepDown, rfl⟩ := Checked.exists_of_seq_eq_valid hread
    obtain ⟨_, tool, h₂, htool, rfl⟩ := Checked.exists_of_seq_eq_valid h₁
    obtain ⟨_, toolDiameter, h₃, htoolDiameter, rfl⟩ := Checked.exists_of_seq_eq_valid h₂
    obtain ⟨_, spindleSpeed, h₄, hspindleSpeed, rfl⟩ := Checked.exists_of_seq_eq_valid h₃
    obtain ⟨_, feedRate, h₅, hfeedRate, rfl⟩ := Checked.exists_of_seq_eq_valid h₄
    obtain ⟨_, segments, h₆, hsegments, rfl⟩ := Checked.exists_of_seq_eq_valid h₅
    obtain ⟨_, length, h₇, hlength, rfl⟩ := Checked.exists_of_seq_eq_valid h₆
    obtain ⟨_, width, h₈, hwidth, rfl⟩ := Checked.exists_of_seq_eq_valid h₇
    obtain ⟨_, diameter, h₉, hdiameter, rfl⟩ := Checked.exists_of_seq_eq_valid h₈
    obtain ⟨_, zDepth, h₁₀, hzDepth, rfl⟩ := Checked.exists_of_seq_eq_valid h₉
    obtain ⟨_, zStart, h₁₁, hzStart, rfl⟩ := Checked.exists_of_seq_eq_valid h₁₀
    obtain ⟨_, y, h₁₂, hy, rfl⟩ := Checked.exists_of_seq_eq_valid h₁₁
    obtain ⟨_, x, h₁₃, hx, rfl⟩ := Checked.exists_of_seq_eq_valid h₁₂
    obtain ⟨kind, hkind, rfl⟩ := Checked.exists_of_map_eq_valid h₁₃
    exact ⟨kind, ⟨diameter, width, length, segments⟩, hkind, hx, hy, hzStart, hzDepth, hdiameter,
      hwidth, hlength, hsegments, hfeedRate, hspindleSpeed, htoolDiameter, htool, hstepDown, rfl⟩
  · rintro ⟨kind, sizes, h⟩
    obtain ⟨x, y, zStart, zDepth, feedRate, spindleSpeed, toolDiameter, tool, stepDown,
      feature⟩ := op
    obtain rfl : feature = sizes.feature kind := h.feature
    simp only [operation, record, Value.entries?, h.type, h.x, h.y, h.zStart, h.zDepth, h.diameter,
      h.width, h.length, h.segments, h.feedRate, h.spindleSpeed, h.toolDiameter, h.tool, h.stepDown]
    rfl

/-! ## Taking sizes out of a record -/

/-- The fields of a record that hold sizes of features. -/
inductive SizeField where
  /-- The diameter of a hole or a round pocket. -/
  | diameter
  /-- The extent of a rectangular pocket along X. -/
  | width
  /-- The extent of a rectangular pocket along Y. -/
  | length
  /-- The segments of a contour. -/
  | segments
  deriving DecidableEq

namespace SizeField

/-- The name of a field in records. -/
def name : SizeField → String
  | diameter => "diameter"
  | width => "width"
  | length => "length"
  | segments => "path_segments"

/-- The fields that a kind of operation needs. -/
def ofKind : OperationKind → List SizeField
  | .drill | .circularPocket => [diameter]
  | .rectangularPocket => [width, length]
  | .contour => [segments]
  | .faceMill | .unknown => []

/-- What is done to a field of a record. -/
inductive Edit where
  /-- It stays. -/
  | keep
  /-- It is taken out. -/
  | remove
  /-- It is set to the empty value. -/
  | clear
  deriving DecidableEq

/-- Does something to one field. -/
def edit (field : SizeField) : Edit → Entries → Entries
  | .keep, entries => entries
  | .remove, entries => Entries.erase (.text field.name) entries
  | .clear, entries => Entries.put (.text field.name) .null entries

/-- Does something to each of the fields. -/
def apply (edits : SizeField → Edit) (entries : Entries) : Entries :=
  diameter.edit (edits diameter) (width.edit (edits width) (length.edit (edits length)
    (segments.edit (edits segments) entries)))

theorem agrees_text (a b : String) : (Key.text a).agrees (.text b) = decide (a = b) := by
  simp [Key.agrees, Key.meaning]

theorem get?_edit_of_ne {field : SizeField} {name : String} (h : field.name ≠ name) (how : Edit)
    (entries : Entries) :
    Entries.get? (.text name) (field.edit how entries) = Entries.get? (.text name) entries := by
  have hkey : (Key.text field.name).agrees (.text name) = false := by simp [agrees_text, h]
  cases how with
  | keep => rfl
  | remove => exact Entries.get?_erase_of_not_agrees entries hkey
  | clear => exact Entries.get?_put_of_not_agrees .null entries hkey

/-- The value of a field after something was done to it. -/
def Edit.value? (old : Option Value) : Edit → Option Value
  | keep => old
  | remove => none
  | clear => some .null

theorem get?_edit_self (field : SizeField) (how : Edit) (entries : Entries) :
    Entries.get? (.text field.name) (field.edit how entries) =
      how.value? (Entries.get? (.text field.name) entries) := by
  cases how with
  | keep => rfl
  | remove => exact Entries.get?_erase_self _ entries
  | clear => exact Entries.get?_put_self _ _ entries

/-- No other field is touched. -/
theorem get?_apply_of_ne {name : String} (h : ∀ field : SizeField, field.name ≠ name)
    (edits : SizeField → Edit) (entries : Entries) :
    Entries.get? (.text name) (apply edits entries) = Entries.get? (.text name) entries := by
  rw [apply, get?_edit_of_ne (h _), get?_edit_of_ne (h _), get?_edit_of_ne (h _),
    get?_edit_of_ne (h _)]

/-- And each of the fields only by what is done to it. -/
theorem get?_apply (field : SizeField) (edits : SizeField → Edit) (entries : Entries) :
    Entries.get? (.text field.name) (apply edits entries) =
      (edits field).value? (Entries.get? (.text field.name) entries) := by
  have hne : ∀ {a b : SizeField}, a ≠ b → a.name ≠ b.name := by
    intro a b
    cases a <;> cases b <;> simp [name]
  rw [apply]
  -- of the four edits one is of this field, and the others pass it by
  cases field with
  | diameter =>
    rw [get?_edit_self, get?_edit_of_ne (hne (by decide)), get?_edit_of_ne (hne (by decide)),
      get?_edit_of_ne (hne (by decide))]
  | width =>
    rw [get?_edit_of_ne (hne (by decide)), get?_edit_self, get?_edit_of_ne (hne (by decide)),
      get?_edit_of_ne (hne (by decide))]
  | length =>
    rw [get?_edit_of_ne (hne (by decide)), get?_edit_of_ne (hne (by decide)), get?_edit_self,
      get?_edit_of_ne (hne (by decide))]
  | segments =>
    rw [get?_edit_of_ne (hne (by decide)), get?_edit_of_ne (hne (by decide)),
      get?_edit_of_ne (hne (by decide)), get?_edit_self]

/-- What is left of a part after something was done to its field. -/
def Edit.left {α : Type} (empty part : α) : Edit → α
  | keep => part
  | remove | clear => empty

end SizeField

/-- The sizes that are left. -/
def Sizes.without (sizes : Sizes) (edits : SizeField → SizeField.Edit) : Sizes :=
  ⟨(edits .diameter).left none sizes.diameter, (edits .width).left none sizes.width,
    (edits .length).left none sizes.length, (edits .segments).left [] sizes.segments⟩

end Machining.Schema

namespace Machining.Job

open Machining.Numeric Machining.Schema

/-- What is left of a feature: a size that was taken out or cleared is zero, and a contour without
its segments is empty. -/
def Feature.without (edits : SizeField → SizeField.Edit) : Feature Float → Feature Float
  | .drill diameter => .drill ((edits .diameter).left Scalar.zero diameter)
  | .circularPocket diameter => .circularPocket ((edits .diameter).left Scalar.zero diameter)
  | .rectangularPocket width length =>
    .rectangularPocket ((edits .width).left Scalar.zero width)
      ((edits .length).left Scalar.zero length)
  | .contour segments => .contour ((edits .segments).left [] segments)
  | .faceMill => .faceMill
  | .unknown => .unknown

/-- The kind is left. -/
theorem Feature.kind_without (edits : SizeField → SizeField.Edit) (feature : Feature Float) :
    (feature.without edits).kind = feature.kind := by
  cases feature <;> rfl

/-- A feature that does not need what was taken out is left as it is. -/
theorem Feature.without_eq_self {edits : SizeField → SizeField.Edit} {feature : Feature Float}
    (h : ∀ field ∈ SizeField.ofKind feature.kind, edits field = .keep) :
    feature.without edits = feature := by
  cases feature <;> simp_all [Feature.kind, SizeField.ofKind, Feature.without, SizeField.Edit.left]

end Machining.Job

namespace Machining.Schema

open Machining.Document Machining.Job Machining.Numeric

theorem Sizes.feature_without (sizes : Sizes) (edits : SizeField → SizeField.Edit)
    (kind : OperationKind) :
    (sizes.without edits).feature kind = (sizes.feature kind).without edits := by
  have hsize : ∀ (how : SizeField.Edit) (size : Option Float),
      Sizes.feature.size (how.left none size) = how.left Scalar.zero (Sizes.feature.size size) := by
    intro how size
    cases how <;> rfl
  cases kind <;> simp [Sizes.feature, Feature.without, Sizes.without, hsize]

/-! ## Reading what is left -/

section Edits

variable {entries : Entries} {op : Operation Float}

theorem required_congr {α : Type} {others : Entries} {name : String}
    (h : Entries.get? (.text name) entries = Entries.get? (.text name) others) (read : Reader α) :
    required entries name read = required others name read := by
  rw [required, required, h]

theorem defaulted_congr {α : Type} {others : Entries} {name : String}
    (h : Entries.get? (.text name) entries = Entries.get? (.text name) others) (default : α)
    (read : Reader α) :
    defaulted entries name default read = defaulted others name default read := by
  rw [defaulted, defaulted, h]

/-- The fields of a record that say neither what is cut nor how large it is. -/
def commonNames : List String :=
  ["x", "y", "z_start", "z_depth", "feed_rate", "spindle_speed", "tool_diameter", "tool_type",
    "step_down"]

/-- A record with the same common fields is read as the same operation but for its feature. -/
theorem ReadsAs.congr {others : Entries} {kind kind' : OperationKind} {sizes sizes' : Sizes}
    (h : ReadsAs entries kind sizes op)
    (hcommon : ∀ name ∈ commonNames,
      Entries.get? (.text name) others = Entries.get? (.text name) entries)
    (htype : defaulted others "type" .unknown operationKind = .valid kind')
    (hdiameter : defaulted others "diameter" none (nullable number) = .valid sizes'.diameter)
    (hwidth : defaulted others "width" none (nullable number) = .valid sizes'.width)
    (hlength : defaulted others "length" none (nullable number) = .valid sizes'.length)
    (hsegments : defaulted others "path_segments" [] (list segment) = .valid sizes'.segments) :
    ReadsAs others kind' sizes' { op with feature := sizes'.feature kind' } where
  type := htype
  x := (defaulted_congr (hcommon _ (by simp [commonNames])) _ _).trans h.x
  y := (defaulted_congr (hcommon _ (by simp [commonNames])) _ _).trans h.y
  zStart := (defaulted_congr (hcommon _ (by simp [commonNames])) _ _).trans h.zStart
  zDepth := (required_congr (hcommon _ (by simp [commonNames])) _).trans h.zDepth
  diameter := hdiameter
  width := hwidth
  length := hlength
  segments := hsegments
  feedRate := (required_congr (hcommon _ (by simp [commonNames])) _).trans h.feedRate
  spindleSpeed := (required_congr (hcommon _ (by simp [commonNames])) _).trans h.spindleSpeed
  toolDiameter := (required_congr (hcommon _ (by simp [commonNames])) _).trans h.toolDiameter
  tool := (required_congr (hcommon _ (by simp [commonNames])) _).trans h.tool
  stepDown := (defaulted_congr (hcommon _ (by simp [commonNames])) _ _).trans h.stepDown
  feature := rfl

variable {edits : SizeField → SizeField.Edit}

/-- A size that may be empty is read as before, or as none. -/
private theorem size_of_edits (field : SizeField) {size : Option Float}
    (h : defaulted entries field.name none (nullable number) = .valid size) :
    defaulted (SizeField.apply edits entries) field.name none (nullable number) =
      .valid ((edits field).left none size) := by
  have hvalue := SizeField.get?_apply field edits entries
  unfold defaulted at h ⊢
  rw [hvalue]
  cases edits field with
  | keep => exact h
  | remove | clear => rfl

/-- Segments are read as before, or as an empty list. -/
private theorem segments_of_edits {segments : List (Segment Float)}
    (hedits : edits .segments ≠ .clear)
    (h : defaulted entries "path_segments" [] (list segment) = .valid segments) :
    defaulted (SizeField.apply edits entries) "path_segments" [] (list segment) =
      .valid ((edits .segments).left [] segments) := by
  have hvalue := SizeField.get?_apply .segments edits entries
  rw [SizeField.name] at hvalue
  unfold defaulted at h ⊢
  rw [hvalue]
  cases how : edits .segments with
  | keep => exact h
  | remove => rfl
  | clear => exact absurd how hedits

theorem ReadsAs.without {kind : OperationKind} {sizes : Sizes} (h : ReadsAs entries kind sizes op)
    (hedits : edits .segments ≠ .clear) :
    ReadsAs (SizeField.apply edits entries) kind (sizes.without edits)
      { op with feature := op.feature.without edits } := by
  -- the edits touch the sizes only
  have hother : ∀ name ∈ "type" :: commonNames,
      Entries.get? (.text name) (SizeField.apply edits entries) =
        Entries.get? (.text name) entries := by
    intro name hname
    refine SizeField.get?_apply_of_ne (fun field hfield => ?_) edits entries
    rw [← hfield] at hname
    cases field <;> simp [SizeField.name, commonNames] at hname
  rw [h.feature, ← sizes.feature_without]
  exact h.congr (fun name hname => hother name (List.mem_cons_of_mem _ hname))
    ((defaulted_congr (hother _ List.mem_cons_self) _ _).trans h.type)
    (size_of_edits .diameter h.diameter) (size_of_edits .width h.width)
    (size_of_edits .length h.length) (segments_of_edits hedits h.segments)

/-- **Sizes may be missing.**  A record from which sizes are taken out, or in which they are
cleared, is read as the same operation but for these sizes. -/
theorem operation_of_edits (h : operation (.mapping entries) = .valid op)
    (hedits : edits .segments ≠ .clear) :
    operation (.mapping (SizeField.apply edits entries)) =
      .valid { op with feature := op.feature.without edits } := by
  obtain ⟨kind, sizes, hreads⟩ := operation_eq_valid_iff.mp h
  exact operation_eq_valid_iff.mpr ⟨kind, sizes.without edits, hreads.without hedits⟩

end Edits

/-! ## Kinds that are not known -/

/-- A name that is none is no kind. -/
theorem operationKind_of_unknownName {s : String}
    (h : ∀ kind : OperationKind, choiceName s ≠ kind.name) :
    operationKind (.text s) = .valid .unknown := by
  have hnone : OperationKind.ofName? (choiceName s) = none :=
    List.find?_eq_none.mpr fun kind _ hname => h kind (beq_iff_eq.mp hname).symm
  rw [operationKind, hnone]
  rfl

/-- **The kind may be unknown.**  A record whose kind is replaced by a name that is none is read as
the same operation but for its feature, of which nothing is known. -/
theorem operation_of_unknownName {entries : Entries} {op : Operation Float} {s : String}
    (h : operation (.mapping entries) = .valid op)
    (hname : ∀ kind : OperationKind, choiceName s ≠ kind.name) :
    operation (.mapping (Entries.put (.text "type") (.text s) entries)) =
      .valid { op with feature := .unknown } := by
  obtain ⟨kind, sizes, hreads⟩ := operation_eq_valid_iff.mp h
  -- the other entries stay as they are
  have hother : ∀ name ≠ "type", Entries.get? (.text name)
      (Entries.put (.text "type") (.text s) entries) = Entries.get? (.text name) entries := by
    intro name hne
    exact Entries.get?_put_of_not_agrees _ entries (by simp [SizeField.agrees_text, hne.symm])
  -- and the type is read as unknown
  have htype : defaulted (Entries.put (.text "type") (.text s) entries) "type" .unknown
      operationKind = .valid .unknown := by
    rw [defaulted, Entries.get?_put_self]
    show Checked.under (.field "type") (operationKind (.text s)) = _
    rw [operationKind_of_unknownName hname]
    rfl
  refine operation_eq_valid_iff.mpr ⟨.unknown, sizes, hreads.congr (fun name hmem => ?_) htype
    ((defaulted_congr (hother _ (by decide)) _ _).trans hreads.diameter)
    ((defaulted_congr (hother _ (by decide)) _ _).trans hreads.width)
    ((defaulted_congr (hother _ (by decide)) _ _).trans hreads.length)
    ((defaulted_congr (hother _ (by decide)) _ _).trans hreads.segments)⟩
  refine hother name fun hwrong => ?_
  rw [hwrong] at hmem
  simp [commonNames] at hmem

end Machining.Schema
