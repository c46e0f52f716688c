import Machining.Proofs.Json.Writable
import Machining.Session.Controller

/-!
# Failures without a kind

The kind of a failure that does not state it is looked for in its text.  There need not be such a
text: what an incident says may be too large to be written, and so may the data that it carries.
Then no kind can be told.

* `Reply.untold_iff`: among the replies these are the incidents without a text.
* `Incident.untold_iff`: among incidents that carry JSON values, they are those whose own words
  cannot be written, and those with details that are nested too deep or have a number of too many
  digits.
-/

namespace Machining.Session

open Machining.Document Machining.Json

/-- A failure whose kind cannot be told. -/
def Reply.Untold : Reply → Prop
  | .failure cause => ∃ error, cause.kind = .error error
  | _ => False

/-- The reply of a call that ends in an incident. -/
def Incident.reply (incident : Incident) : Reply := .failure (.incident incident)

/-- An incident that cannot be put into words: its own words are too large to be written, or its
details are nested too deep or have a number of too many digits. -/
def Incident.Unspeakable (incident : Incident) : Prop :=
  (∃ error, incident.words = .error error) ∨
    stackRoom < (Value.ofFields incident.searched).levels 0 ∨
      (Value.ofFields incident.searched).isLong = true

/-- Only incidents are without a kind, and only those that have no text. -/
theorem Reply.untold_iff {reply : Reply} :
    reply.Untold ↔ ∃ incident : Incident, reply = incident.reply ∧
      ∃ error, incident.text = .error error := by
  constructor
  · intro h
    match reply, h with
    | .failure (.incident incident), ⟨error, herror⟩ =>
      exact ⟨incident, rfl, error, eq_error_of_map_eq_error herror⟩
  · rintro ⟨incident, rfl, error, herror⟩
    exact ⟨error, by rw [Failure.kind, herror]; rfl⟩

private theorem isJson_searched {incident : Incident}
    (h : ∀ detail ∈ incident.details, IsJson detail.2) :
    IsJson (Value.ofFields incident.searched) := by
  refine .mapping _ ?_ ?_
  · refine List.forall_mem_map.mpr fun detail _ => ⟨detail.1, rfl⟩
  · refine List.forall_mem_map.mpr fun detail hmem => ?_
    exact h detail (List.mem_filter.mp hmem |>.1)

private theorem exists_text_iff {incident : Incident}
    (h : ∀ detail ∈ incident.details, IsJson detail.2) :
    (∃ text, incident.text = .ok text) ↔ (∃ words, incident.words = .ok words) ∧
      (Value.ofFields incident.searched).levels 0 ≤ stackRoom ∧
        (Value.ofFields incident.searched).isLong = false := by
  rw [← exists_writeStrict_iff (isJson_searched h), Incident.text]
  cases hwords : incident.words with
  | error error => simp [Except.mapError, bind, Except.bind]
  | ok words =>
    cases hsearched : incident.searched with
    | nil =>
      -- there is nothing to be written
      have hwritten : writeStrict (Value.ofFields []) stackRoom = .ok "\x7b\x7d" := by
        decide
      simp [Except.mapError, bind, Except.bind, pure, Except.pure, hwritten]
    | cons detail rest =>
      cases hwritten : writeStrict (Value.ofFields (detail :: rest)) stackRoom <;>
        simp [Except.mapError, bind, Except.bind, pure, Except.pure]

/-- An incident that carries JSON values is without a kind exactly if it cannot be put into
words. -/
theorem Incident.untold_iff {incident : Incident}
    (h : ∀ detail ∈ incident.details, IsJson detail.2) :
    incident.reply.Untold ↔ incident.Unspeakable := by
  have huntold : incident.reply.Untold ↔ ¬ ∃ text, incident.text = .ok text := by
    rw [Reply.untold_iff]
    cases htext : incident.text with
    | error error => exact iff_of_true ⟨incident, rfl, error, htext⟩ (by simp)
    | ok text =>
      refine iff_of_false ?_ (by simp)
      rintro ⟨_, ⟨⟩, error, herror⟩
      cases htext.symm.trans herror
  rw [huntold, exists_text_iff h, not_and_or, not_and_or, Nat.not_le, Bool.not_eq_false,
    Incident.Unspeakable]
  cases incident.words <;> simp

end Machining.Session
