import Machining.Proofs.Config.Ranges
import Machining.Proofs.Document.Sizes
import Machining.Proofs.Numeric.Characters

/-!
# How settings are refused

A document may hold any value under any key.  Reading settings from it ends in settings or in a
complaint, with few exceptions: some numbers are too large to be turned into the numbers that are
asked for, or to be shown in the complaint about them, some values are nested too deep to be turned
into a text, and no complaint is made of that.

* `TooLarge` lists the exceptions: which number or value, and under which keys.
* `RefusesUnless` says of a step that it fails by a complaint only, except on some grounds; it is
  kept by `RefusesUnless.bind`, so that every reader is followed once, step by step.
-/

namespace Machining.Config

open Machining.Document Machining.Files Machining.Job Machining.Numeric Machining.Program
  Machining.Text

/-! ## Values that are too large -/

/-- The value under a key. -/
def child? (key : String) (value : Value) : Option Value :=
  value.entries?.bind (Entries.get? (.text key))

/-- The value that lies under some keys, one inside the other. -/
def valueAt? : List String → Value → Option Value
  | [], value => some value
  | key :: keys, value => (child? key value).bind (valueAt? keys)

/-- Where floating-point numbers are asked for. -/
def floatKeys : List (List String) :=
  [["compiler", "safe_clearance_mm"], ["compiler", "peck_retract_mm"],
    ["compiler", "pocket_stepover"], ["compiler", "face_overlap"],
    ["session", "default_stock", "width"], ["session", "default_stock", "length"],
    ["session", "default_stock", "height"], ["session", "default_stock", "diameter"]]

/-- Where whole numbers are asked for. -/
def wholeKeys : List (List String) :=
  [["compiler", "coordinate_decimals"], ["compiler", "feed_decimals"]]

/-- Where texts are asked for, for which any value serves. -/
def textKeys : List (List String) :=
  [["compiler", "program_name"], ["compiler", "work_offset"],
    ["session", "messages", "stopped"], ["session", "messages", "quota"],
    ["session", "messages", "parse"], ["session", "messages", "generic"],
    ["session", "default_model"], ["session", "upload_label"],
    ["session", "default_stock", "shape"], ["session", "default_stock", "material"]]

/-- The prompts for kinds of files, for which any value serves as well. -/
def promptsOf (document : Value) : List Value :=
  (((valueAt? ["session", "default_prompts"] document).bind Value.entries?).getD []).map (·.2)

/-- The values of a document that texts are made of. -/
def textsOf (document : Value) : List Value :=
  textKeys.filterMap (fun keys => valueAt? keys document) ++ promptsOf document

/-- A document with a value that is too large for what is made of it, and how reading it ends. -/
inductive TooLarge (document : Value) : ReadError → Prop where
  /-- A whole number beyond the range of the floating-point numbers. -/
  | huge {keys : List String} (hkeys : keys ∈ floatKeys) {n : Int}
      (hvalue : valueAt? keys document = some (.int n)) (hn : (Float.ofInt n).isFinite = false) :
      TooLarge document .hugeInteger
  /-- An infinity in the place of a whole number. -/
  | infinite {keys : List String} (hkeys : keys ∈ wholeKeys) {x : Float} {negative : Bool}
      (hvalue : valueAt? keys document = some (.float x))
      (hx : Binary64.ofFloat x = .infinite negative) : TooLarge document .infiniteInteger
  /-- A whole number outside its range that has too many digits to be shown. -/
  | long {keys : List String} (hkeys : keys ∈ wholeKeys) {n : Int}
      (hvalue : valueAt? keys document = some (.int n)) (hn : isLongInteger n = true) :
      TooLarge document (.longInteger ⟨none⟩)
  /-- A value in the place of a text that is nested deeper than there is room on the stack. -/
  | deep {value : Value} (hvalue : value ∈ textsOf document)
      (hdeep : stackRoom < value.levels 1) : TooLarge document .tooDeep

/-- Whether what lies in the place of a floating-point number is within their range. -/
def fitsFloat : Option Value → Bool
  | some (.int n) => (Float.ofInt n).isFinite
  | _ => true

/-- Whether what lies in the place of a whole number is neither infinite nor too long. -/
def fitsWhole : Option Value → Bool
  | some (.int n) => !isLongInteger n
  | some (.float x) =>
    match Binary64.ofFloat x with
    | .infinite _ => false
    | _ => true
  | _ => true

/-- Whether no value of a document is too large for what is made of it. -/
def isModerate (document : Value) : Bool :=
  (floatKeys.all fun keys => fitsFloat (valueAt? keys document)) &&
    (wholeKeys.all fun keys => fitsWhole (valueAt? keys document)) &&
      (textsOf document).all fun value => value.levels 1 ≤ stackRoom

theorem not_tooLarge_of_isModerate {document : Value} (h : isModerate document = true)
    (error : ReadError) : ¬ TooLarge document error := by
  simp only [isModerate, Bool.and_eq_true, List.all_eq_true, decide_eq_true_eq] at h
  obtain ⟨⟨hfloats, hwholes⟩, htexts⟩ := h
  rintro (⟨hkeys, hvalue, hn⟩ | ⟨hkeys, hvalue, hx⟩ | ⟨hkeys, hvalue, hn⟩ | ⟨hvalue, hdeep⟩)
  · have hfits := hfloats _ hkeys
    simp [hvalue, fitsFloat, hn] at hfits
  · have hfits := hwholes _ hkeys
    simp [hvalue, fitsWhole, hx] at hfits
  · have hfits := hwholes _ hkeys
    simp [hvalue, fitsWhole, hn] at hfits
  · exact absurd (htexts _ hvalue) (Nat.not_le.mpr hdeep)

/-! ## Steps -/

/-- A step that fails by a complaint only, except on some grounds. -/
def RefusesUnless {α : Type} (grounds : ReadError → Prop) (result : Outcome α) : Prop :=
  ∀ error, result = .error error → (∃ complaint, error = .refused complaint) ∨ grounds error

section Steps

variable {α β : Type} {grounds : ReadError → Prop}

namespace RefusesUnless

theorem ok (a : α) : RefusesUnless grounds (.ok a) := by
  intro error h
  cases h

theorem refuse (complaint : ConfigError) :
    RefusesUnless grounds (Config.refuse complaint : Outcome α) := by
  intro error h
  cases h
  exact .inl ⟨complaint, rfl⟩

/-- One step after another. -/
theorem bind {result : Outcome α} {f : α → Outcome β} (hresult : RefusesUnless grounds result)
    (hf : ∀ a, result = .ok a → RefusesUnless grounds (f a)) :
    RefusesUnless grounds (result >>= f) := by
  intro error h
  cases result with
  | error first =>
    cases h
    exact hresult error rfl
  | ok a => exact hf a rfl error h

/-- One step for each member of a list. -/
theorem foldlM {f : β → α → Outcome β} {items : List α}
    (hf : ∀ a ∈ items, ∀ all, RefusesUnless grounds (f all a)) (start : β) :
    RefusesUnless grounds (items.foldlM f start) := by
  induction items generalizing start with
  | nil => exact ok start
  | cons item rest ih =>
    obtain ⟨hitem, hrest⟩ := List.forall_mem_cons.mp hf
    rw [List.foldlM_cons]
    exact bind (hitem start) fun next _ => ih hrest next

/-- A complaint about a text is one about the settings. -/
theorem mapError_longInteger (result : Except LongInteger α) :
    RefusesUnless grounds
      (result.mapError fun complaint => ReadError.refused (.longInteger complaint)) := by
  cases result with
  | error complaint => exact refuse (.longInteger complaint)
  | ok a => exact ok a

theorem need (data : Value) (key : String) : RefusesUnless grounds (Config.need data key) := by
  unfold Config.need
  split
  · split
    · exact ok _
    · exact refuse _
  all_goals exact refuse _

theorem entriesOf (data : Value) (access : String) :
    RefusesUnless grounds (Config.entriesOf data access) := by
  unfold Config.entriesOf
  split
  · exact ok _
  · exact refuse _

theorem readText {value : Value} (h : stackRoom < value.levels 1 → grounds .tooDeep) :
    RefusesUnless grounds (Config.readText value) := by
  unfold Config.readText
  cases hplain : value.plain? stackRoom with
  | ok text => exact ok text
  | error error =>
    cases Value.refusal_of_plain? hplain with
    | long _ => exact refuse (.longInteger ⟨none⟩)
    | deep hdeep =>
      rintro _ ⟨⟩
      exact .inr (h hdeep)

theorem readFloat {value : Value}
    (h : ∀ n, value = .int n → (Float.ofInt n).isFinite = false → grounds .hugeInteger) :
    RefusesUnless grounds (Config.readFloat value) := by
  cases value with
  | int n =>
    unfold Config.readFloat
    dsimp only
    split
    · exact ok _
    · -- the one way to fail that is no refusal
      rename_i hfinite
      intro error herror
      cases herror
      exact .inr (h n rfl (Bool.eq_false_iff.mpr hfinite))
  | float | bool => exact ok _
  | text | bytes =>
    -- a text that is no number is refused
    unfold Config.readFloat
    dsimp only
    split
    · exact ok _
    · exact refuse _
  | _ => exact refuse _

theorem wholeNumber (shown : String) (result : Except IntFault Int) :
    RefusesUnless grounds (Config.wholeNumber shown result) := by
  unfold Config.wholeNumber
  split
  · exact ok _
  · exact refuse _
  · exact refuse _

theorem readInt {value : Value} (h : ∀ x negative, value = .float x →
      Binary64.ofFloat x = .infinite negative → grounds .infiniteInteger) :
    RefusesUnless grounds (Config.readInt value) := by
  cases value with
  | float x =>
    show RefusesUnless grounds (truncate x)
    unfold truncate
    split
    · exact refuse _
    · -- an infinity has no whole number, and is no refusal either
      rename_i negative hx
      intro error herror
      cases herror
      exact .inr (h x negative rfl hx)
    · exact ok _
  | int | bool => exact ok _
  | text | bytes => exact wholeNumber _ _
  | _ => exact refuse _

theorem check (holds : Bool) (complaint : ConfigError) :
    RefusesUnless grounds (Config.check holds complaint) := by
  cases holds
  · exact refuse complaint
  · exact ok ()

theorem checkPlaces {name : String} {greatest places : Int}
    (h : isLongInteger places = true → grounds (.longInteger ⟨none⟩)) :
    RefusesUnless grounds (Config.checkPlaces name greatest places) := by
  unfold Config.checkPlaces
  split
  · exact ok ()
  split
  · rename_i hlong
    intro error herror
    cases herror
    exact .inr (h hlong)
  · exact refuse _

end RefusesUnless

end Steps

/-! ## Whole numbers that are too long -/

private theorem isDigit_of_takeDigits? {parted : Bool} {s digits rest : List Char}
    (h : takeDigits? Char.isDigit parted s = some (digits, rest)) :
    ∀ c ∈ digits, c.isDigit = true := by
  induction s generalizing parted digits with
  | nil =>
    rw [takeDigits?] at h
    split at h
    · cases h
    · cases h
      simp
  | cons c s ih =>
    rw [takeDigits?] at h
    split at h
    -- an underline is passed over, and counts for nothing
    · split at h
      · cases h
      · exact ih h
    split at h
    · -- a digit is taken, and the others follow it
      rename_i hdigit
      obtain ⟨⟨more, after⟩, hmore, heq⟩ := Option.map_eq_some_iff.mp h
      cases heq
      exact List.forall_mem_cons.mpr ⟨hdigit, ih hmore⟩
    split at h
    · cases h
    · cases h
      simp

/-- A numeral that is read is short enough to be shown. -/
private theorem isLongInteger_of_intNumeral {s : List Char} {n : Int} (h : intNumeral s = .ok n) :
    isLongInteger n = false := by
  unfold intNumeral at h
  dsimp only at h
  split at h
  · cases h
  rename_i digits rest htaken
  split at h
  · cases h
  rename_i hshort
  split at h
  · cases h
  cases h
  -- the numeral was read, so it has no more digits than a number may have
  exact isLongInteger_ofDigits (isDigit_of_takeDigits? htaken) (Nat.not_lt.mp hshort) _

private theorem bounds_of_ofFloat {x : Float} {negative : Bool} {mantissa : Nat} {exponent : Int}
    (h : Binary64.ofFloat x = .finite negative mantissa exponent) :
    mantissa < 2 ^ 53 ∧ exponent ≤ 971 := by
  unfold Binary64.ofFloat at h
  dsimp only at h
  -- 52 bits of the fraction, one more of a normal number, and 11 of the exponent
  have hfraction : x.toBits.toNat % 2 ^ 52 < 2 ^ 52 := Nat.mod_lt _ (by decide)
  have hfield : x.toBits.toNat / 2 ^ 52 % 2 ^ 11 < 2 ^ 11 := Nat.mod_lt _ (by decide)
  split at h
  · split at h <;> cases h
  split at h
  · cases h
    exact ⟨by omega, by decide⟩
  · cases h
    refine ⟨?_, by omega⟩
    show 2 ^ 52 + x.toBits.toNat % 2 ^ 52 < 2 ^ 53
    omega

private theorem quotient_lt {m a b digits : Nat} {e : Int} (hm : m < 2 ^ a) (he : e ≤ b)
    (hdigits : a + b ≤ digits) (down : Nat) : m * 2 ^ e.toNat / down < 10 ^ digits := by
  calc m * 2 ^ e.toNat / down
      ≤ m * 2 ^ e.toNat := Nat.div_le_self _ _
    _ ≤ m * 2 ^ b := Nat.mul_le_mul_left _ (Nat.pow_le_pow_right (by decide) (by omega))
    _ < 2 ^ a * 2 ^ b := Nat.mul_lt_mul_of_pos_right hm (Nat.two_pow_pos b)
    _ = 2 ^ (a + b) := (Nat.pow_add 2 a b).symm
    _ ≤ 10 ^ (a + b) := Nat.pow_le_pow_left (by decide) _
    _ ≤ 10 ^ digits := Nat.pow_le_pow_right (by decide) hdigits

private theorem natAbs_quotient (negative : Bool) (m up down : Nat) :
    (if negative then -((m : Int) * up / down) else (m : Int) * up / down).natAbs =
      m * up / down := by
  have hcast : (m : Int) * up / down = (m * up / down : Nat) := by norm_cast
  rw [hcast]
  cases negative
  · exact Int.natAbs_natCast _
  · exact (Int.natAbs_neg _).trans (Int.natAbs_natCast _)

/-- The whole part of a floating-point number is short enough to be shown. -/
private theorem isLongInteger_of_truncate {x : Float} {n : Int} (h : truncate x = .ok n) :
    isLongInteger n = false := by
  unfold truncate at h
  split at h
  · cases h
  · cases h
  rename_i negative mantissa exponent hx
  obtain ⟨hmantissa, hexponent⟩ := bounds_of_ofFloat hx
  have habs : n.natAbs = mantissa * 2 ^ exponent.toNat / 2 ^ (-exponent).toNat := by
    cases h
    exact natAbs_quotient negative mantissa _ _
  -- the largest number has 309 digits
  have hlt : mantissa * 2 ^ exponent.toNat / 2 ^ (-exponent).toNat < 10 ^ longestInteger :=
    quotient_lt hmantissa hexponent (by decide) _
  rw [isLongInteger, habs]
  exact decide_eq_false (Nat.not_le.mpr hlt)

private theorem isLongInteger_of_wholeNumber {shown : String} {s : List Char} {n : Int}
    (h : wholeNumber shown (intNumeral s) = .ok n) : isLongInteger n = false := by
  unfold wholeNumber at h
  split at h
  · rename_i m hm
    cases h
    exact isLongInteger_of_intNumeral hm
  · cases h
  · cases h

/-- Only a whole number of the document is too long to be shown. -/
private theorem eq_int_of_isLongInteger {value : Value} {n : Int} (h : readInt value = .ok n)
    (hlong : isLongInteger n = true) : value = .int n := by
  have hshort : isLongInteger n ≠ false := by simp [hlong]
  -- nothing else is read as so large a number
  cases value with
  | int m =>
    cases h
    rfl
  | float x => exact absurd (isLongInteger_of_truncate h) hshort
  | bool b =>
    cases h
    cases b <;> exact absurd (by decide +kernel) hshort
  | text s => exact absurd (isLongInteger_of_wholeNumber h) hshort
  | bytes data => exact absurd (isLongInteger_of_wholeNumber h) hshort
  | _ => cases h

/-! ## Sections -/

section Sections

variable {document data : Value}

private theorem child?_of_need {key : String} {value : Value} (h : need data key = .ok value) :
    child? key data = some value := by
  unfold need at h
  split at h
  · rename_i entries hentries
    split at h
    · rename_i found hfound
      cases h
      simp [child?, hentries, hfound]
    · cases h
  all_goals cases h

private theorem find_eq {key access : String} {entries : Entries} {default : Value}
    (h : entriesOf data access = .ok entries) :
    find entries key default = (child? key data).getD default := by
  unfold entriesOf at h
  split at h
  · rename_i found hentries
    cases h
    simp [find, child?, hentries]
  · cases h

private theorem entries?_of_entriesOf {access : String} {entries : Entries}
    (h : entriesOf data access = .ok entries) : data.entries? = some entries := by
  unfold entriesOf at h
  split at h
  · rename_i found hentries
    cases h
    exact hentries
  · cases h

private theorem valueAt?_of_need {outer key : String} {value : Value}
    (hdata : child? outer document = some data) (hneed : need data key = .ok value) :
    valueAt? [outer, key] document = some value := by
  simp [valueAt?, hdata, child?_of_need hneed]

private theorem valueAt?_of_need_need {outer middle key : String} {session value : Value}
    (hsession : child? outer document = some session) (hdata : need session middle = .ok data)
    (hneed : need data key = .ok value) : valueAt? [outer, middle, key] document = some value := by
  simp [valueAt?, hsession, child?_of_need hdata, child?_of_need hneed]

/-- Making a text of what lies in its place. -/
private theorem refuses_readText {keys : List String} (hkeys : keys ∈ textKeys) {value : Value}
    (hvalue : valueAt? keys document = some value) :
    RefusesUnless (TooLarge document) (readText value) := by
  refine .readText fun hdeep => .deep ?_ hdeep
  exact List.mem_append_left _ (List.mem_filterMap.mpr ⟨keys, hkeys, hvalue⟩)

/-- Making a text of what lies in its place, or of another text. -/
private theorem refuses_readText_find {keys : List String} (hkeys : keys ∈ textKeys)
    {key access : String} (hlies : valueAt? keys document = child? key data) {entries : Entries}
    (hentries : entriesOf data access = .ok entries) (default : String) :
    RefusesUnless (TooLarge document) (readText (find entries key (.text default))) := by
  rw [find_eq hentries]
  cases hchild : child? key data with
  | none => exact .ok default
  | some value => exact refuses_readText hkeys (hlies.trans hchild)

/-- Reading the compiler's section. -/
private theorem refuses_readCompiler (hdata : child? "compiler" document = some data) :
    RefusesUnless (TooLarge document) (readCompiler data) := by
  -- what each number is too large for, by the key that it stands under
  have hfloat {key : String} (hkeys : ["compiler", key] ∈ floatKeys) {value : Value}
      (hvalue : need data key = .ok value) :
      RefusesUnless (TooLarge document) (readFloat value) := by
    apply RefusesUnless.readFloat
    rintro n rfl hn
    exact .huge hkeys (valueAt?_of_need hdata hvalue) hn
  have hwhole {key : String} (hkeys : ["compiler", key] ∈ wholeKeys) {value : Value}
      (hvalue : need data key = .ok value) :
      RefusesUnless (TooLarge document) (readInt value) := by
    apply RefusesUnless.readInt
    rintro x negative rfl hx
    exact .infinite hkeys (valueAt?_of_need hdata hvalue) hx
  have hlies (key : String) : valueAt? ["compiler", key] document = child? key data := by
    simp [valueAt?, hdata]
  -- then the section is read field by field
  unfold readCompiler
  refine .bind (.entriesOf _ _) fun entries hentries => ?_
  refine .bind (refuses_readText_find (by decide) (hlies _) hentries _) fun programName _ => ?_
  refine .bind (refuses_readText_find (by decide) (hlies _) hentries _) fun workOffset _ => ?_
  refine .bind (.need _ _) fun _ h => .bind (hwhole (by decide) h) fun coordinate _ => ?_
  refine .bind (.need _ _) fun _ h => .bind (hwhole (by decide) h) fun feed _ => ?_
  refine .bind (.need _ _) fun _ h => .bind (hfloat (by decide) h) fun safeClearance _ => ?_
  refine .bind (.need _ _) fun _ h => .bind (hfloat (by decide) h) fun peckRetract _ => ?_
  refine .bind (.need _ _) fun _ h => .bind (hfloat (by decide) h) fun pocketStepover _ => ?_
  refine .bind (.need _ _) fun _ h => .bind (hfloat (by decide) h) fun faceOverlap _ => ?_
  exact .ok _

private theorem refuses_readMessages {session : Value}
    (hsession : child? "session" document = some session)
    (hdata : need session "messages" = .ok data) :
    RefusesUnless (TooLarge document) (readMessages data) := by
  have htext {key : String} (hkeys : ["session", "messages", key] ∈ textKeys) {value : Value}
      (hvalue : need data key = .ok value) :
      RefusesUnless (TooLarge document) (readText value) :=
    refuses_readText hkeys (valueAt?_of_need_need hsession hdata hvalue)
  unfold readMessages
  refine .bind (.need _ _) fun _ h => .bind (htext (by decide) h) fun stopped _ => ?_
  refine .bind (.need _ _) fun _ h => .bind (htext (by decide) h) fun quota _ => ?_
  refine .bind (.need _ _) fun _ h => .bind (htext (by decide) h) fun parse _ => ?_
  refine .bind (.need _ _) fun _ h => .bind (htext (by decide) h) fun generic _ => ?_
  exact .ok _

private theorem refuses_readPrompts {session : Value}
    (hsession : child? "session" document = some session)
    (hdata : need session "default_prompts" = .ok data) {entries : Entries}
    (hentries : data.entries? = some entries) :
    RefusesUnless (TooLarge document) (readPrompts entries) := by
  have hprompts : promptsOf document = entries.map (·.2) := by
    simp [promptsOf, valueAt?, hsession, child?_of_need hdata, hentries]
  unfold readPrompts
  refine .foldlM (fun entry hmem all => ?_) []
  refine .bind (.mapError_longInteger _) fun name _ => ?_
  refine .bind (.readText fun hdeep => ?_) fun _ _ => ?_
  · refine .deep (List.mem_append_right _ ?_) hdeep
    rw [hprompts]
    exact List.mem_map_of_mem hmem
  · exact .ok _

/-- Reading the stock of new sessions. -/
private theorem refuses_readStock {session : Value}
    (hsession : child? "session" document = some session)
    (hdata : need session "default_stock" = .ok data) :
    RefusesUnless (TooLarge document) (readStock data) := by
  -- each entry is found in the document where its path leads
  have hlies (key : String) :
      valueAt? ["session", "default_stock", key] document = child? key data := by
    simp [valueAt?, hsession, child?_of_need hdata]
  unfold readStock
  -- then the entries in the order in which they are read
  refine .bind (.entriesOf _ _) fun entries hentries => ?_
  -- a number that is not there is zero, which is not too large
  have hfound {key : String} (hkeys : ["session", "default_stock", key] ∈ floatKeys) :
      RefusesUnless (TooLarge document)
        (readFloat (find entries key (.float Scalar.zero))) := by
    apply RefusesUnless.readFloat
    intro n hn hhuge
    rw [find_eq hentries] at hn
    cases hchild : child? key data with
    | none =>
      rw [hchild] at hn
      cases hn
    | some value =>
      obtain rfl : value = .int n := by simpa [hchild] using hn
      exact .huge hkeys ((hlies key).trans hchild) hhuge
  refine .bind (refuses_readText_find (by decide) (hlies _) hentries _) fun shape _ => ?_
  dsimp only
  split
  · exact .refuse _
  refine .bind (hfound (by decide)) fun width _ => .bind (hfound (by decide)) fun length _ => ?_
  refine .bind (.need _ _) fun _ hheight => .bind ?_ fun height _ => ?_
  · apply RefusesUnless.readFloat
    rintro n rfl hn
    exact .huge (by decide) ((hlies _).trans (child?_of_need hheight)) hn
  refine .bind (hfound (by decide)) fun diameter _ => ?_
  refine .bind (refuses_readText_find (by decide) (hlies _) hentries _) fun material _ => ?_
  exact .ok _

private theorem refuses_readSession (hdata : child? "session" document = some data) :
    RefusesUnless (TooLarge document) (readSession data) := by
  unfold readSession
  refine .bind (.need _ _) fun _ h => .bind (refuses_readMessages hdata h) fun messages _ => ?_
  refine .bind (.need _ _) fun _ hneed => .bind (.entriesOf _ _) fun entries hentries => ?_
  have hprompts := refuses_readPrompts hdata hneed (entries?_of_entriesOf hentries)
  refine .bind hprompts fun prompts _ => ?_
  refine .bind (.need _ _) fun _ hmodel => ?_
  refine .bind (refuses_readText (by decide) (valueAt?_of_need hdata hmodel)) fun model _ => ?_
  refine .bind (.need _ _) fun _ h => .bind (refuses_readStock hdata h) fun stock _ => ?_
  refine .bind (.need _ _) fun _ hlabel => ?_
  refine .bind (refuses_readText (by decide) (valueAt?_of_need hdata hlabel)) fun label _ => ?_
  exact .ok _

end Sections

/-! ## Documents -/

/-- The places that are checked are those that the compiler's section asks for. -/
private theorem exists_of_readCompiler {data : Value} {settings : Settings Float} {places : Places}
    (h : readCompiler data = .ok (settings, places)) :
    (∃ value, need data "coordinate_decimals" = .ok value ∧
        readInt value = .ok places.coordinate) ∧
      ∃ value, need data "feed_decimals" = .ok value ∧ readInt value = .ok places.feed := by
  unfold readCompiler at h
  iterate 3 obtain ⟨_, _, h⟩ := exists_of_bind_eq_ok h
  obtain ⟨coordinateValue, hcoordinateValue, h⟩ := exists_of_bind_eq_ok h
  obtain ⟨coordinate, hcoordinate, h⟩ := exists_of_bind_eq_ok h
  obtain ⟨feedValue, hfeedValue, h⟩ := exists_of_bind_eq_ok h
  obtain ⟨feed, hfeed, h⟩ := exists_of_bind_eq_ok h
  iterate 8 obtain ⟨_, _, h⟩ := exists_of_bind_eq_ok h
  cases h
  exact ⟨⟨_, hcoordinateValue, hcoordinate⟩, _, hfeedValue, hfeed⟩

private theorem refuses_validate {document data : Value} {config : Assistant} {places : Places}
    (hdata : child? "compiler" document = some data)
    (hread : readCompiler data = .ok (config.compiler, places)) :
    RefusesUnless (TooLarge document) (validate config places) := by
  obtain ⟨⟨coordinate, hcoordinate, hreadCoordinate⟩, feed, hfeed, hreadFeed⟩ :=
    exists_of_readCompiler hread
  unfold validate
  -- the numbers of decimals are told in their complaints, where a long one cannot be written
  refine .bind (.checkPlaces fun hlong => ?_) fun _ _ => ?_
  · rw [eq_int_of_isLongInteger hreadCoordinate hlong] at hcoordinate
    exact .long (by decide) (valueAt?_of_need hdata hcoordinate) hlong
  refine .bind (.checkPlaces fun hlong => ?_) fun _ _ => ?_
  · rw [eq_int_of_isLongInteger hreadFeed hlong] at hfeed
    exact .long (by decide) (valueAt?_of_need hdata hfeed) hlong
  -- the other complaints tell a float or a text, which can always be written
  refine .bind (.check _ _) fun _ _ => .bind (.check _ _) fun _ _ => ?_
  refine .bind (.check _ _) fun _ _ => .bind (.check _ _) fun _ _ => ?_
  exact .bind (.check _ _) fun _ _ => .bind (.check _ _) fun _ _ => .check _ _

private theorem refuses_read (path : String) (document : Value) :
    RefusesUnless (TooLarge document) (read path document) := by
  unfold read
  split
  · exact .refuse _
  refine .bind (.need _ _) fun data hneed => ?_
  have hdata := child?_of_need hneed
  refine .bind (refuses_readCompiler hdata) fun (settings, places) hcompiler => ?_
  refine .bind (.need _ _) fun session hsession => ?_
  refine .bind (refuses_readSession (child?_of_need hsession)) fun sessionSettings _ => ?_
  exact .bind (refuses_validate hdata hcompiler) fun _ _ => .ok _

/-! ## Files -/

section Files

variable {tree : Tree} {path : Path} {document : Value}

private theorem load_of_read_ok {text : String} (htext : Files.readText tree path = .ok text)
    (hdocument : Yaml.read text = .ok document) :
    load tree (some path) = (read path.text document).mapError .settings := by
  have hread : readDocument tree path = .ok document := by
    simp [readDocument, htext, hdocument, bind, Except.bind, pure, Except.pure]
  rw [load_of_readText htext, hread]
  rfl

private theorem load_of_read_error {text : String} (htext : Files.readText tree path = .ok text)
    {fault : Yaml.ReadError} (hfault : Yaml.read text = .error fault)
    (hvalid : ∀ broken, fault ≠ .malformed broken) :
    load tree (some path) = .error (.document (.unreadable fault)) := by
  have hread : readDocument tree path = .error (.unreadable fault) := by
    cases fault with
    | malformed broken => exact absurd rfl (hvalid broken)
    | _ =>
      simp [readDocument, htext, hfault, bind, Except.bind, throw, throwThe, MonadExceptOf.throw]
  rw [load_of_readText htext, hread]
  rfl

/-- The settings of a file that breaks no rule of the format are loaded or refused with a complaint,
unless a value of its text cannot be built, or something in it is too large for what is made of it.
A document without such a value is loaded or refused with a complaint, whatever its values are. -/
theorem loading_ends_in_settings_or_a_complaint {text : String}
    (htext : Files.readText tree path = .ok text)
    (hvalid : ∀ broken, Yaml.read text ≠ .error (.malformed broken)) :
    ((∃ config, load tree (some path) = .ok config) ∨
      (∃ complaint, load tree (some path) = .error (.settings (.refused complaint))) ∨
      (∃ fault, Yaml.read text = .error fault ∧
        load tree (some path) = .error (.document (.unreadable fault))) ∨
      ∃ document error, Yaml.read text = .ok document ∧ TooLarge document error ∧
        load tree (some path) = .error (.settings error)) ∧
    ∀ document, Yaml.read text = .ok document → isModerate document = true →
      (∃ config, load tree (some path) = .ok config) ∨
        ∃ complaint, load tree (some path) = .error (.settings (.refused complaint)) := by
  -- the text spells no document, or one that holds settings or not
  cases hresult : Yaml.read text with
  | error fault =>
    have hload := load_of_read_error htext hresult fun broken hbroken =>
      hvalid broken (hresult.trans (congrArg Except.error hbroken))
    refine ⟨.inr (.inr (.inl ⟨fault, rfl, hload⟩)), fun document hdocument => ?_⟩
    cases hdocument
  | ok document =>
    have hload := load_of_read_ok htext hresult
    have hread := refuses_read path.text document
    cases hsettings : read path.text document with
    | ok config =>
      rw [hsettings] at hload
      exact ⟨.inl ⟨config, hload⟩, fun _ _ _ => .inl ⟨config, hload⟩⟩
    | error error =>
      rw [hsettings] at hload
      -- what is no complaint comes of something that is too large
      rcases hread error hsettings with ⟨complaint, rfl⟩ | hlarge
      · exact ⟨.inr (.inl ⟨complaint, hload⟩), fun _ _ _ => .inr ⟨complaint, hload⟩⟩
      · refine ⟨.inr (.inr (.inr ⟨document, error, rfl, hlarge, hload⟩)), ?_⟩
        rintro _ ⟨⟩ hmoderate
        exact absurd hlarge (not_tooLarge_of_isModerate hmoderate error)

end Files

/-- A file of settings in which a list stands in the place of a whole number. -/
def settingsWithListedPlaces : List Char := settingsText ["[3]"] ["\x7b", "file_name", "\x7d"]

theorem loading_ends_in_settings_or_a_complaint_of_list :
    (∃ config, load (plainTree settingsWithListedPlaces) (some plainPath) = .ok config) ∨
      ∃ complaint, load (plainTree settingsWithListedPlaces) (some plainPath) =
        .error (.settings (.refused complaint)) := by
  have hplain : settingsWithListedPlaces.all isPlain = true := by decide +kernel
  have hspelt : (Yaml.readChars (unifyBreaks settingsWithListedPlaces)).toOption.any isModerate =
      true := by
    decide +kernel
  obtain ⟨document, hread, hmoderate⟩ := exists_document_of_spelt hspelt
  have hvalid (broken : Yaml.Fault) :
      Yaml.read (String.ofList (unifyBreaks settingsWithListedPlaces)) ≠
        .error (.malformed broken) := by
    rw [hread]
    intro hbroken
    cases hbroken
  exact (loading_ends_in_settings_or_a_complaint (readText_plainTree hplain) hvalid).2 document
    hread hmoderate

/-- Whether reading ended at an infinity. -/
def endsAtInfinity : Outcome Assistant → Bool
  | .error .infiniteInteger => true
  | _ => false

/-- A file of settings in which an infinity stands in the place of a whole number. -/
def settingsWithInfinitePlaces : List Char :=
  settingsText [".inf"] ["\x7b", "file_name", "\x7d"]

/-- Such settings are neither loaded nor refused with a complaint. -/
theorem infinite_places_are_no_complaint :
    load (plainTree settingsWithInfinitePlaces) (some plainPath) =
      .error (.settings .infiniteInteger) := by
  have hplain : settingsWithInfinitePlaces.all isPlain = true := by decide +kernel
  have hspelt : (Yaml.readChars (unifyBreaks settingsWithInfinitePlaces)).toOption.any
      (fun document => endsAtInfinity (read plainPath.text document)) = true := by
    decide +kernel
  obtain ⟨document, hread, htest⟩ := exists_document_of_spelt hspelt
  rw [load_of_read_ok (readText_plainTree hplain) hread]
  unfold endsAtInfinity at htest
  split at htest
  · rename_i herror
    rw [herror]
    rfl
  · cases htest

end Machining.Config
