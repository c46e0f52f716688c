import Machining.Proofs.Config.Accepted
import Machining.Proofs.Files.PlainFile
import Machining.Proofs.Numeric.FloatRange

/-!
# The ranges of settings

What the checks of settings leave, in exact numbers.  The two fractions are checked by asking
whether they lie in their ranges, so no other value passes.  The two lengths are checked by asking
whether they lie below, which is not so of an infinity, and of something that is no number either.

* `passes_le_zero_iff` and `passes_lt_zero_iff` say exactly what passes a check of the second sort.
* `loaded_settings_are_in_range` says what is known of all settings that are loaded.
* `lengths_that_are_no_numbers_are_loaded` is the case that the checks miss.
-/

namespace Machining.Config

open Machining.Document Machining.Files Machining.Numeric

/-! ## Comparisons with zero -/

/-- A number in an allowed range, or one that a comparison with zero does not refuse either. -/
inductive Passes (allowed : ℚ → Prop) (x : Float) : Prop where
  /-- No number. -/
  | nan (h : Binary64.ofFloat x = .nan)
  /-- The infinity above. -/
  | infinite (h : Binary64.ofFloat x = .infinite false)
  /-- A finite number that is allowed. -/
  | finite (q : ℚ) (hvalue : HasValue x q) (hallowed : allowed q)

/-- What passes and is finite is allowed. -/
theorem Passes.of_finite {allowed : ℚ → Prop} {x : Float} (h : Passes allowed x)
    (hfinite : Scalar.isFinite x = true) : ∃ q, HasValue x q ∧ allowed q := by
  cases h with
  | nan hnan =>
    rw [isFinite_of_nan hnan] at hfinite
    contradiction
  | infinite hinfinite =>
    rw [isFinite_of_infinite hinfinite] at hfinite
    contradiction
  | finite q hvalue hallowed => exact ⟨q, hvalue, hallowed⟩

variable {x : Float}

/-- What is refused is refused for its value: the infinity below, or a number that is not
allowed. -/
private theorem passes_iff {refused : Extended → Prop} {allowed : ℚ → Prop} (htop : ¬ refused ⊤)
    (hbot : refused ⊥) (hvalue : ∀ q, ¬ refused (.ofRat q) ↔ allowed q) :
    (¬ ∃ u, (Binary64.ofFloat x).value? = some u ∧ refused u) ↔ Passes allowed x := by
  constructor
  · -- what was not refused is told by what sort of number it is
    intro hpassed
    cases hx : Binary64.ofFloat x with
    | nan => exact .nan hx
    | infinite negative =>
      cases negative with
      | false => exact .infinite hx
      | true => exact absurd ⟨⊥, congrArg Binary64.value? hx, hbot⟩ hpassed
    | finite negative mantissa exponent =>
      have hq : HasValue x _ := congrArg Binary64.value? hx
      apply Passes.finite _ hq
      apply (hvalue _).mp
      intro hrefused
      exact hpassed ⟨_, hq, hrefused⟩
  · rintro hpasses ⟨u, hu, hrefused⟩
    cases hpasses with
    | nan h =>
      rw [h] at hu
      cases hu
    | infinite h =>
      rw [h] at hu
      cases hu
      exact htop hrefused
    | finite q hq hallowed =>
      obtain rfl := Option.some.inj (hq.symm.trans hu)
      exact (hvalue q).mpr hallowed hrefused

/-- What is not said to be at most zero: a number above zero, an infinity, or no number. -/
theorem passes_le_zero_iff :
    Scalar.le x Scalar.zero = false ↔ Passes (fun q => 0 < q) x := by
  have hle : Scalar.le x Scalar.zero = true ↔
      ∃ u, (Binary64.ofFloat x).value? = some u ∧ u ≤ .ofRat 0 := by
    apply (le_iff_value_le x Scalar.zero).trans
    rw [hasValue_zero]
    simp
  rw [← Bool.not_eq_true, hle]
  apply passes_iff
  · exact not_le.mpr (Extended.ofRat_lt_top 0)
  · exact bot_le
  · intro q
    rw [Extended.ofRat_le_ofRat, not_le]

/-- What is not said to be below zero: a number that is not, an infinity, or no number. -/
theorem passes_lt_zero_iff :
    Scalar.lt x Scalar.zero = false ↔ Passes (fun q => 0 ≤ q) x := by
  have hlt : Scalar.lt x Scalar.zero = true ↔
      ∃ u, (Binary64.ofFloat x).value? = some u ∧ u < .ofRat 0 := by
    apply (lt_iff_value_lt x Scalar.zero).trans
    rw [hasValue_zero]
    simp
  rw [← Bool.not_eq_true, hlt]
  apply passes_iff
  · exact not_top_lt
  · exact Extended.bot_lt_ofRat 0
  · intro q
    rw [Extended.ofRat_lt_ofRat, not_lt]

/-! ## Settings that are loaded -/

/-- What is known of the numbers of settings, and what has to be there. -/
structure InRange (config : Assistant) : Prop where
  /-- Positions have up to six decimal places. -/
  coordinatePlaces : config.compiler.coordinatePlaces ≤ 6
  /-- Feeds have up to three decimal places. -/
  feedPlaces : config.compiler.feedPlaces ≤ 3
  /-- The clearance is above zero, unless it is infinite or no number. -/
  safeClearance : Passes (fun q => 0 < q) config.compiler.safeClearance
  /-- The retract between pecks is not below zero, unless it is no number; it may be infinite. -/
  peckRetract : Passes (fun q => 0 ≤ q) config.compiler.peckRetract
  /-- A ring takes some of the cutter's width and no more than all of it. -/
  pocketStepover : ∃ q, HasValue config.compiler.pocketStepover q ∧ 0 < q ∧ q ≤ 1
  /-- Lines over a face share some of the cutter's width, or none, but not all of it. -/
  faceOverlap : ∃ q, HasValue config.compiler.faceOverlap q ∧ 0 ≤ q ∧ q < 1
  /-- There is a prompt for everything else. -/
  fallback : ∃ prompt, config.session.defaultPrompts.lookup fallbackKey = some prompt
  /-- The stock of new sessions makes sense. -/
  defaultStock : config.session.defaultStock.isWellFormed = true

/-- Settings that pass the comparisons are in their ranges. -/
theorem Accepted.inRange {config : Assistant} (h : Accepted config) : InRange config where
  coordinatePlaces := h.coordinatePlaces
  feedPlaces := h.feedPlaces
  safeClearance := passes_le_zero_iff.mp h.safeClearance
  peckRetract := passes_lt_zero_iff.mp h.peckRetract
  pocketStepover := by
    -- what lies between two finite numbers is finite; the strict side is then read once more
    obtain ⟨q, hq, -, hle⟩ := hasValue_zero.between hasValue_one
      (le_of_lt_eq_true h.stepover_pos) h.stepover_le
    obtain ⟨u, v, hu, hv, huv⟩ := (lt_iff_value_lt _ _).mp h.stepover_pos
    obtain rfl := Option.some.inj (hasValue_zero.symm.trans hu)
    obtain rfl := Option.some.inj (hq.symm.trans hv)
    exact ⟨q, hq, Extended.ofRat_lt_ofRat.mp huv, hle⟩
  faceOverlap := by
    obtain ⟨q, hq, hnonneg, -⟩ := hasValue_zero.between hasValue_one
      h.overlap_nonneg (le_of_lt_eq_true h.overlap_lt)
    obtain ⟨u, v, hu, hv, huv⟩ := (lt_iff_value_lt _ _).mp h.overlap_lt
    obtain rfl := Option.some.inj (hq.symm.trans hu)
    obtain rfl := Option.some.inj (hasValue_one.symm.trans hv)
    exact ⟨q, hq, hnonneg, Extended.ofRat_lt_ofRat.mp huv⟩
  fallback := Option.isSome_iff_exists.mp h.fallback
  defaultStock := h.defaultStock

/-- **Settings that are loaded are in their ranges**, from whatever file or from none: the decimal
places are the whole numbers that stand in the compiler's section of the document, the fractions are
what they should be, and so are the lengths as soon as they are finite. -/
theorem loaded_settings_are_in_range {tree : Tree} {path : Option Path}
    {config : Assistant} (h : load tree path = .ok config) :
    InRange config ∧
      (∃ name document data places, Source tree path name document ∧
        need document "compiler" = .ok data ∧
        readCompiler data = .ok (config.compiler, places) ∧
        (need data "coordinate_decimals" >>= readInt) = .ok places.coordinate ∧
        (need data "feed_decimals" >>= readInt) = .ok places.feed ∧
        (config.compiler.coordinatePlaces : Int) = places.coordinate ∧
        (config.compiler.feedPlaces : Int) = places.feed) ∧
      (Scalar.isFinite config.compiler.safeClearance = true →
        ∃ q, HasValue config.compiler.safeClearance q ∧ 0 < q) ∧
      (Scalar.isFinite config.compiler.peckRetract = true →
        ∃ q, HasValue config.compiler.peckRetract q ∧ 0 ≤ q) := by
  have hrange := (accepted_of_load h).inRange
  refine ⟨hrange, ?_, hrange.safeClearance.of_finite, hrange.peckRetract.of_finite⟩
  obtain ⟨name, document, hsource, hread⟩ := exists_read_of_load h
  obtain ⟨data, places, hplaces⟩ := exists_places_of_read hread
  exact ⟨name, document, data, places, hsource, hplaces⟩

theorem loaded_settings_are_in_range_of_shipped :
    ∃ config, load .empty none = .ok config ∧ InRange config := by
  have hshipped : (load .empty none).isOk = true := by decide +kernel
  cases hload : load .empty none with
  | ok config => exact ⟨config, rfl, (loaded_settings_are_in_range hload).1⟩
  | error error =>
    rw [hload] at hshipped
    contradiction

/-! ## Lengths that are no numbers -/

/-- Settings are loaded from the document that a file spells. -/
theorem load_plainTree {chars : List Char} (hplain : chars.all isPlain = true) {value : Value}
    (hvalue : Yaml.readChars (unifyBreaks chars) = .ok value) {config : Assistant}
    (hread : read plainPath.text value = .ok config) :
    load (plainTree chars) (some plainPath) = .ok config := by
  rw [load_of_readText (readText_plainTree hplain), readDocument_plainTree hplain hvalue]
  show (read plainPath.text value).mapError LoadError.settings = _
  rw [hread]
  rfl

/-- A file of settings with something as the decimal places of positions and something as the upload
label.  It is spelt in short pieces, which evaluate faster than one long text. -/
def settingsText (places label : List String) : List Char :=
  (["\x7b'compiler':\x7b", "'coordinate_", "decimals':"] ++ places ++ [",'feed_", "decimals':1,",
    "'safe_", "clearance_mm':", "5,", "'peck_", "retract_mm':", "1,", "'pocket_", "stepover':0.5,",
    "'face_", "overlap':0.3\x7d,", "'session':\x7b", "'messages':\x7b", "'stopped':'a',",
    "'quota':'b',", "'parse':'c',", "'generic':'d'\x7d,", "'default_", "prompts':\x7b",
    "'fallback':'e'\x7d,", "'default_", "model':'f',", "'default_", "stock':\x7b",
    "'height':20,", "'width':100,", "'length':100\x7d,", "'upload_", "label':'"] ++ label ++
    ["'\x7d\x7d"]).flatMap String.toList

/-- A file of settings in which both lengths are said to be no numbers.  It is spelt in short
pieces, which evaluate faster than one long text. -/
def settingsWithoutLengths : List Char :=
  ["\x7b'compiler':\x7b", "'coordinate_", "decimals':3,", "'feed_", "decimals':1,", "'safe_",
    "clearance_mm':", ".nan,", "'peck_", "retract_mm':", ".nan,", "'pocket_", "stepover':0.5,",
    "'face_", "overlap':0.3\x7d,", "'session':\x7b", "'messages':\x7b", "'stopped':'a',",
    "'quota':'b',", "'parse':'c',", "'generic':'d'\x7d,", "'default_", "prompts':\x7b",
    "'fallback':'e'\x7d,", "'default_", "model':'f',", "'default_", "stock':\x7b",
    "'height':20,", "'width':100,", "'length':100\x7d,", "'upload_", "label':",
    "'\x7bfile_name\x7d'\x7d\x7d"].flatMap String.toList

/-- A clearance and a retract that are no numbers are loaded like any others. -/
theorem lengths_that_are_no_numbers_are_loaded :
    ∃ config, load (plainTree settingsWithoutLengths) (some plainPath) = .ok config ∧
      Binary64.ofFloat config.compiler.safeClearance = .nan ∧
      Binary64.ofFloat config.compiler.peckRetract = .nan := by
  have hplain : settingsWithoutLengths.all isPlain = true := by decide +kernel
  -- the text is read, the document is checked, and both lengths are looked at in one evaluation
  have hread : (Yaml.readChars (unifyBreaks settingsWithoutLengths)).toOption.any (fun value =>
      (read plainPath.text value).toOption.any fun config =>
        Binary64.ofFloat config.compiler.safeClearance = .nan ∧
          Binary64.ofFloat config.compiler.peckRetract = .nan) = true := by
    decide +kernel
  obtain ⟨value, hvalue, htest⟩ := exists_of_any_eq_true hread
  obtain ⟨config, hconfig, htest⟩ := exists_of_any_eq_true htest
  exact ⟨config, load_plainTree hplain hvalue hconfig, of_decide_eq_true htest⟩

end Machining.Config
