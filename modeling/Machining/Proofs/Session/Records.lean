import Machining.Proofs.Document.Sizes
import Machining.Proofs.Result
import Machining.Proofs.Session.Untold
import Machining.Session.Replay

/-!
# What records stand for

A record is an answer, or it says under `"error"` that its turn failed.  There it may name the kind
of the failure, in any case of the letters, and give a message.  `States` says this of the data of a
record alone, without the functions that read it.

* `recordedReply_cases`: a record stands for a result, or for a failure of the kind that it states.
* `not_untold_recordedReply`: the kind of that failure can always be told.
-/

namespace Machining.Session

open Machining.Document Machining.Text

/-- What is said about an error: the entries of a mapping, and nothing where the error is empty. -/
def errorEntries? (error : Value) : Option Entries :=
  if error.isEmpty then some []
  else
    match error with
    | .mapping entries => some entries
    | _ => none

/-- What entries say is the kind of a failure. -/
def saidKind (entries : Entries) : Value :=
  (Entries.get? (.text "kind") entries).getD (.text "other")

/-- What entries say is the message of a failure. -/
def saidMessage (entries : Entries) : Value :=
  (Entries.get? (.text "message") entries).getD (.text "")

/-- Entries that name a kind of failure: their text for the kind, in lower case, is its name, and
all that they say can be written. -/
structure NamesKind (entries : Entries) (kind : FailureKind) : Prop where
  name : lower (saidKind entries).plain = kind.name
  kind_fits : (saidKind entries).Fits stackRoom
  message_fits : (saidMessage entries).Fits stackRoom

/-- A record that says that its turn failed, and in which kind of failure. -/
def States (record : RawAnswer) (kind : FailureKind) : Prop :=
  ∃ value error entries, record = .value value ∧ value.field? "error" = some error ∧
    errorEntries? error = some entries ∧ NamesKind entries kind

private theorem ofName_name (kind : FailureKind) : FailureKind.ofName kind.name = .ok kind := by
  cases kind <;> decide +kernel

private theorem name_of_ofName {text : String} {kind : FailureKind}
    (h : FailureKind.ofName text = .ok kind) : text = kind.name := by
  unfold FailureKind.ofName at h
  split at h
  · rename_i found hfound
    cases h
    exact (beq_iff_eq.mp
      (List.find?_some (p := fun kind : FailureKind => kind.name == text) hfound)).symm
  · cases h

private theorem name_injective {a b : FailureKind} (h : a.name = b.name) : a = b :=
  Except.ok.inj (by rw [← ofName_name a, h, ofName_name])

/-- Whatever the text of an incident is, it speaks of no withdrawal. -/
private theorem kindOfText_ne_cancelled (text : String) : kindOfText text ≠ .cancelled := by
  unfold kindOfText
  split
  · simp
  · split <;> simp

/-- A failure of the kind that entries name, and of no withdrawal unless they name it. -/
private def FailsAs (entries : Entries) (failure : Failure) : Prop :=
  ∃ kind, failure.kind = .ok kind ∧ (∀ named, NamesKind entries named → named = kind) ∧
    (kind = .cancelled → NamesKind entries .cancelled)

private theorem failsAs_incident {entries : Entries} (name words : String)
    (h : ∀ named, ¬ NamesKind entries named) :
    FailsAs entries (.incident (.ofText name words)) :=
  ⟨_, rfl, fun named hnamed => absurd hnamed (h named),
    fun hkind => absurd hkind (kindOfText_ne_cancelled _)⟩

private theorem failsAs_saidFailure (entries : Entries) :
    FailsAs entries (saidFailure entries) := by
  have hroom : 0 < stackRoom := by decide
  have htext {value : Value} (h : value.Fits stackRoom) :
      value.plain? stackRoom = .ok value.plain := (Value.plain?_eq_ok_iff hroom).mpr ⟨h, rfl⟩
  unfold saidFailure statedFailure
  rw [← saidKind, ← saidMessage]
  -- the kind is read first, then its name is looked up, and then the message is read
  cases hkind : (saidKind entries).plain? stackRoom with
  | error error =>
    refine failsAs_incident _ _ fun named hnamed => ?_
    cases hkind.symm.trans (htext hnamed.kind_fits)
  | ok kindText =>
    obtain ⟨hkindFits, rfl⟩ := (Value.plain?_eq_ok_iff hroom).mp hkind
    dsimp only [bind, Except.bind]
    cases hname : FailureKind.ofName (lower (saidKind entries).plain) with
    | error complaint =>
      refine failsAs_incident _ _ fun named hnamed => ?_
      rw [hnamed.name, ofName_name] at hname
      cases hname
    | ok kind =>
      cases hmessage : (saidMessage entries).plain? stackRoom with
      | error error =>
        refine failsAs_incident _ _ fun named hnamed => ?_
        cases hmessage.symm.trans (htext hnamed.message_fits)
      | ok message =>
        have hmessageFits := ((Value.plain?_eq_ok_iff hroom).mp hmessage).1
        refine ⟨kind, rfl, fun named hnamed => ?_, ?_⟩
        · exact name_injective (hnamed.name.symm.trans (name_of_ofName hname))
        · rintro rfl
          exact ⟨name_of_ofName hname, hkindFits, hmessageFits⟩

/-- What a record says about an error is what it fails with. -/
private theorem recordedFailure_of_entries {error : Value} {entries : Entries}
    (h : errorEntries? error = some entries) : recordedFailure error = saidFailure entries := by
  unfold errorEntries? at h
  unfold recordedFailure
  split at h
  · -- what counts as false is an error without entries
    rename_i hempty
    cases h
    rw [if_pos hempty]
    rfl
  · rename_i hfull
    rw [if_neg hfull]
    split at h
    · cases h
      rfl
    · cases h

/-- Where nothing is said about an error, it is no withdrawal. -/
private theorem recordedFailure_of_none {error : Value} (h : errorEntries? error = none) :
    ∃ kind, (recordedFailure error).kind = .ok kind ∧ kind ≠ .cancelled := by
  unfold errorEntries? at h
  unfold recordedFailure
  split at h
  · cases h
  · rename_i hfull
    rw [if_neg hfull]
    cases error with
    | mapping entries => cases h
    | again isMapping =>
      cases isMapping with
      | true =>
        -- the record itself stands there once more
        obtain ⟨kind, hkind, hnamed, -⟩ := failsAs_saidFailure []
        have hother : NamesKind [] .other := by
          refine ⟨?_, Value.fits_text (by decide) _, Value.fits_text (by decide) _⟩
          decide +kernel
        exact ⟨kind, hkind, by rw [← hnamed .other hother]; simp⟩
      | false => exact ⟨_, rfl, kindOfText_ne_cancelled _⟩
    | _ => exact ⟨_, rfl, kindOfText_ne_cancelled _⟩

private theorem kind_rejection (rejection : Rejection) :
    ∃ kind, rejection.failure.kind = .ok kind ∧ kind ≠ .cancelled := by
  unfold Rejection.failure
  split
  · exact ⟨_, rfl, kindOfText_ne_cancelled _⟩
  · exact ⟨_, rfl, kindOfText_ne_cancelled _⟩
  · exact ⟨_, rfl, by simp⟩

private theorem exists_value_of_recordedError? {record : RawAnswer} {error : Value}
    (h : recordedError? record = some error) : ∃ value, record = .value value := by
  cases record with
  | value value => exact ⟨value, rfl⟩
  | text | bytes => cases h

/-- A record stands for a result, or for a failure whose kind can be told: the one that it states,
and no withdrawal unless it states one. -/
theorem recordedReply_cases (record : RawAnswer) :
    (∃ analysis, recordedReply record = .result analysis ∧ ∀ kind, ¬ States record kind) ∨
      ∃ failure kind, recordedReply record = .failure failure ∧ failure.kind = .ok kind ∧
        (∀ stated, States record stated → stated = kind) ∧
        (kind = .cancelled → States record .cancelled) := by
  unfold recordedReply
  cases herror : recordedError? record with
  | some error =>
    obtain ⟨value, rfl⟩ := exists_value_of_recordedError? herror
    dsimp only
    -- the record speaks of an error: in entries, or in something that has none
    cases hentries : errorEntries? error with
    | some entries =>
      obtain ⟨kind, hkind, hnamed, hcancelled⟩ := failsAs_saidFailure entries
      rw [recordedFailure_of_entries hentries]
      refine Or.inr ⟨_, kind, rfl, hkind, ?_, fun h => ?_⟩
      · rintro stated ⟨_, _, _, ⟨⟩, hfield, hsaid, hnames⟩
        cases hfield.symm.trans herror
        cases hsaid.symm.trans hentries
        exact hnamed stated hnames
      · exact ⟨value, error, entries, rfl, herror, hentries, hcancelled h⟩
    | none =>
      obtain ⟨kind, hkind, hne⟩ := recordedFailure_of_none hentries
      refine Or.inr ⟨_, kind, rfl, hkind, ?_, fun h => absurd h hne⟩
      rintro stated ⟨_, _, _, ⟨⟩, hfield, hsaid, -⟩
      cases hfield.symm.trans herror
      cases hsaid.symm.trans hentries
  | none =>
    -- the record is an answer, usable or not; either way it states nothing
    have hsilent (kind : FailureKind) : ¬ States record kind := by
      rintro ⟨value, error, _, rfl, hfield, -⟩
      cases hfield.symm.trans herror
    dsimp only
    cases Analysis.read record with
    | ok analysis => exact Or.inl ⟨analysis, rfl, hsilent⟩
    | error rejection =>
      obtain ⟨kind, hkind, hne⟩ := kind_rejection rejection
      exact Or.inr ⟨_, kind, rfl, hkind, fun stated h => absurd h (hsilent stated),
        fun h => absurd h hne⟩

/-- The kind of what a record stands for can always be told. -/
theorem not_untold_recordedReply (record : RawAnswer) : ¬ (recordedReply record).Untold := by
  rcases recordedReply_cases record with ⟨_, hreply, -⟩ | ⟨failure, kind, hreply, hkind, -⟩
  · rw [hreply]
    exact id
  · rw [hreply]
    rintro ⟨error, herror⟩
    cases hkind.symm.trans herror

end Machining.Session
