import Machining.Config.Filed
import Machining.Proofs.Result

/-!
# Settings that are accepted

Settings reach the program only through `load`, which checks their ranges.  `accepted_of_load` says
once what is known about all of them, so that no other proof has to follow the reader.  The ranges
are those of comparisons: of a clearance that is no number, none says that it is not positive.

`load_of_readText` says that what is read from a file with a text is what its document holds.
-/

namespace Machining.Config

open Machining.Document Machining.Job Machining.Numeric Machining.Program Machining.Text

/-- What holds of settings that were loaded. -/
structure Accepted (config : Assistant) : Prop where
  /-- Positions have few decimal places. -/
  coordinatePlaces : config.compiler.coordinatePlaces ≤ 6
  /-- Feeds have few decimal places. -/
  feedPlaces : config.compiler.feedPlaces ≤ 3
  /-- The clearance is not zero or less. -/
  safeClearance : Scalar.le config.compiler.safeClearance Scalar.zero = false
  /-- The retract between pecks is not less than zero. -/
  peckRetract : Scalar.lt config.compiler.peckRetract Scalar.zero = false
  /-- A ring takes part of the tool's width. -/
  stepover_pos : Scalar.lt Scalar.zero config.compiler.pocketStepover = true
  /-- A ring takes no more than the tool's width. -/
  stepover_le : Scalar.le config.compiler.pocketStepover (Float.ofNat 1) = true
  /-- Lines over a face do not lie apart. -/
  overlap_nonneg : Scalar.le Scalar.zero config.compiler.faceOverlap = true
  /-- Lines over a face do not lie on one another. -/
  overlap_lt : Scalar.lt config.compiler.faceOverlap (Float.ofNat 1) = true
  /-- There is a prompt for everything else. -/
  fallback : (config.session.defaultPrompts.lookup fallbackKey).isSome = true
  /-- The upload label has a place for the name of the file. -/
  uploadKey : holds config.session.uploadLabel ("\x7b" ++ uploadKey ++ "\x7d") = true
  /-- The stock of new sessions makes sense. -/
  defaultStock : config.session.defaultStock.isWellFormed = true

private theorem holds_of_check {b : Bool} {error : ConfigError} {u : Unit}
    (h : check b error = .ok u) : b = true := by
  cases b with
  | true => rfl
  | false => cases h

private theorem places_of_check {name : String} {greatest places : Int} {u : Unit}
    (h : checkPlaces name greatest places = .ok u) : 0 ≤ places ∧ places ≤ greatest := by
  unfold checkPlaces at h
  split at h
  · rename_i hrange
    simpa using hrange
  · split at h <;> cases h

/-- The compiler's section keeps the decimal places that stand in it, as far as they are natural
numbers. -/
private theorem places_of_readCompiler {data : Value} {settings : Settings Float} {places : Places}
    (h : readCompiler data = .ok (settings, places)) :
    (need data "coordinate_decimals" >>= readInt) = .ok places.coordinate ∧
      (need data "feed_decimals" >>= readInt) = .ok places.feed ∧
      settings.coordinatePlaces = places.coordinate.toNat ∧
      settings.feedPlaces = places.feed.toNat := by
  unfold readCompiler at h
  -- behind the entries and two texts stand both decimal places, and eight more things follow
  iterate 3 obtain ⟨_, _, h⟩ := exists_of_bind_eq_ok h
  obtain ⟨coordinate, hcoordinate, h⟩ := exists_of_bind_eq_ok h
  obtain ⟨_, hreadCoordinate, h⟩ := exists_of_bind_eq_ok h
  obtain ⟨feed, hfeed, h⟩ := exists_of_bind_eq_ok h
  obtain ⟨_, hreadFeed, h⟩ := exists_of_bind_eq_ok h
  iterate 8 obtain ⟨_, _, h⟩ := exists_of_bind_eq_ok h
  cases h
  rw [hcoordinate, hfeed]
  exact ⟨hreadCoordinate, hreadFeed, rfl, rfl⟩

/-- The decimal places of settings that are read are those that stand in the document: nothing below
zero was cut off. -/
theorem exists_places_of_read {path : String} {document : Value} {config : Assistant}
    (h : read path document = .ok config) :
    ∃ data places, need document "compiler" = .ok data ∧
      readCompiler data = .ok (config.compiler, places) ∧
      (need data "coordinate_decimals" >>= readInt) = .ok places.coordinate ∧
      (need data "feed_decimals" >>= readInt) = .ok places.feed ∧
      (config.compiler.coordinatePlaces : Int) = places.coordinate ∧
      (config.compiler.feedPlaces : Int) = places.feed := by
  unfold read at h
  split at h
  · cases h
  -- the compiler is read first, then the session, and then both are checked
  obtain ⟨data, hdata, h⟩ := exists_of_bind_eq_ok h
  obtain ⟨⟨settings, places⟩, hcompiler, h⟩ := exists_of_bind_eq_ok h
  obtain ⟨_, _, h⟩ := exists_of_bind_eq_ok h
  obtain ⟨session, _, h⟩ := exists_of_bind_eq_ok h
  obtain ⟨_, hvalid, h⟩ := exists_of_bind_eq_ok h
  obtain rfl : (⟨settings, session⟩ : Assistant) = config := Except.ok.inj h
  obtain ⟨hreadCoordinate, hreadFeed, hcoordinate, hfeed⟩ := places_of_readCompiler hcompiler
  unfold validate at hvalid
  obtain ⟨_, hcoordinates, hvalid⟩ := exists_of_bind_eq_ok hvalid
  obtain ⟨_, hfeeds, _⟩ := exists_of_bind_eq_ok hvalid
  refine ⟨data, places, hdata, hcompiler, hreadCoordinate, hreadFeed, ?_, ?_⟩
  · rw [hcoordinate]
    exact Int.toNat_of_nonneg (places_of_check hcoordinates).1
  · rw [hfeed]
    exact Int.toNat_of_nonneg (places_of_check hfeeds).1

/-- Settings that are read have passed all checks. -/
theorem accepted_of_read {path : String} {document : Value} {config : Assistant}
    (h : read path document = .ok config) : Accepted config := by
  unfold read at h
  split at h
  · cases h
  -- the parts are read one after the other, and a part that fails ends the reading
  obtain ⟨_, _, h⟩ := exists_of_bind_eq_ok h
  obtain ⟨⟨settings, places⟩, hcompiler, h⟩ := exists_of_bind_eq_ok h
  obtain ⟨_, _, h⟩ := exists_of_bind_eq_ok h
  obtain ⟨session, _, h⟩ := exists_of_bind_eq_ok h
  obtain ⟨_, hvalid, h⟩ := exists_of_bind_eq_ok h
  obtain rfl : (⟨settings, session⟩ : Assistant) = config := Except.ok.inj h
  obtain ⟨-, -, hcoordinate, hfeed⟩ := places_of_readCompiler hcompiler
  -- the ranges are checked in this order, and each check leaves the next ones to do
  unfold validate at hvalid
  obtain ⟨_, hcoordinates, hvalid⟩ := exists_of_bind_eq_ok hvalid
  obtain ⟨_, hfeeds, hvalid⟩ := exists_of_bind_eq_ok hvalid
  obtain ⟨_, hclearance, hvalid⟩ := exists_of_bind_eq_ok hvalid
  obtain ⟨_, hretract, hvalid⟩ := exists_of_bind_eq_ok hvalid
  obtain ⟨_, hstepover, hvalid⟩ := exists_of_bind_eq_ok hvalid
  obtain ⟨_, hoverlap, hvalid⟩ := exists_of_bind_eq_ok hvalid
  obtain ⟨_, hfallback, hvalid⟩ := exists_of_bind_eq_ok hvalid
  obtain ⟨_, hupload, hstock⟩ := exists_of_bind_eq_ok hvalid
  -- two of the checks are about both ends of a range
  obtain ⟨hstepover_pos, hstepover_le⟩ := Bool.and_eq_true_iff.mp (holds_of_check hstepover)
  obtain ⟨hoverlap_nonneg, hoverlap_lt⟩ := Bool.and_eq_true_iff.mp (holds_of_check hoverlap)
  exact {
    coordinatePlaces := by
      have hplaces := places_of_check hcoordinates
      show settings.coordinatePlaces ≤ 6
      omega
    feedPlaces := by
      have hplaces := places_of_check hfeeds
      show settings.feedPlaces ≤ 3
      omega
    safeClearance := by simpa using holds_of_check hclearance
    peckRetract := by simpa using holds_of_check hretract
    stepover_pos := hstepover_pos
    stepover_le := hstepover_le
    overlap_nonneg := hoverlap_nonneg
    overlap_lt := hoverlap_lt
    fallback := holds_of_check hfallback
    uploadKey := holds_of_check hupload
    defaultStock := holds_of_check hstock }

section Files

variable {tree : Files.Tree} {path : Files.Path} {text : String}

/-- A file with a text can be reached. -/
private theorem exists_look_of_readText (h : Files.readText tree path = .ok text) :
    path.fault?.isSome = false ∧ ∃ entry, tree.look path = .ok (some entry) := by
  unfold Files.readText at h
  split at h
  · cases h
  rename_i hfault
  refine ⟨Bool.eq_false_iff.mpr hfault, ?_⟩
  obtain ⟨found, hfound, h⟩ := exists_of_bind_eq_ok h
  have hlook := eq_ok_of_mapError_eq_ok hfound
  split at h
  · exact ⟨_, hlook⟩
  · cases h

/-- The settings of a file are those of its document, if there is one. -/
theorem load_of_readText (h : Files.readText tree path = .ok text) :
    load tree (some path) = ((Files.readDocument tree path).mapError .document >>= fun document =>
      (read path.text document).mapError .settings) := by
  obtain ⟨hfault, entry, hlook⟩ := exists_look_of_readText h
  simp [load, hfault, hlook]

end Files

/-- The document that settings are loaded from, with its name: the shipped one, or that of a
file. -/
inductive Source (tree : Files.Tree) : Option Files.Path → String → Value → Prop where
  /-- The shipped document. -/
  | shipped : Source tree none shippedPath shipped
  /-- The document that a file spells. -/
  | file {path : Files.Path} {document : Value}
      (hdocument : Files.readDocument tree path = .ok document) :
    Source tree (some path) path.text document

/-- Settings that are loaded are read from a document. -/
theorem exists_read_of_load {tree : Files.Tree} {path : Option Files.Path} {config : Assistant}
    (h : load tree path = .ok config) :
    ∃ name document, Source tree path name document ∧ read name document = .ok config := by
  unfold load at h
  split at h
  · exact ⟨_, _, .shipped, eq_ok_of_mapError_eq_ok h⟩
  · split at h
    · cases h
    split at h
    · cases h
    · cases h
    · obtain ⟨document, hdocument, h⟩ := exists_of_bind_eq_ok h
      exact ⟨_, document, .file (eq_ok_of_mapError_eq_ok hdocument), eq_ok_of_mapError_eq_ok h⟩

/-- **Settings that are loaded are in their ranges**, whether they come from a file or are the
shipped ones. -/
theorem accepted_of_load {tree : Files.Tree} {path : Option Files.Path} {config : Assistant}
    (h : load tree path = .ok config) : Accepted config := by
  obtain ⟨_, _, -, hread⟩ := exists_read_of_load h
  exact accepted_of_read hread

/-- A turn without words is asked one of the prompts of the settings. -/
theorem Accepted.exists_defaultPrompt {config : Assistant} (h : Accepted config)
    (mediaType : Option String) :
    ∃ kind, config.session.defaultPrompts.lookup kind =
      some (config.session.defaultPrompt mediaType) := by
  obtain ⟨fallback, hfallback⟩ := Option.isSome_iff_exists.mp h.fallback
  unfold SessionSettings.defaultPrompt
  rw [hfallback]
  cases hown : mediaType.bind fun media =>
    if media.isEmpty then none else config.session.defaultPrompts.lookup media with
  | none => exact ⟨fallbackKey, by simpa [hown] using hfallback⟩
  | some prompt =>
    obtain ⟨media, _, hmedia⟩ := Option.bind_eq_some_iff.mp hown
    split at hmedia
    · cases hmedia
    · exact ⟨media, by simpa [hown] using hmedia⟩

end Machining.Config
