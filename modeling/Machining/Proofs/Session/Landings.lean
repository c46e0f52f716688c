import Machining.Proofs.Session.Generations

/-!
# Calls that wait and calls that have resolved

Several calls may wait at once, but only one of them belongs to the turn in flight.  The token of a
call that waits tells which: it is cancelled for all the others (`cancelled_eq_false_iff`).  A call
that has resolved keeps its reply and its outcome whatever comes afterwards (`Sound.landing_step`),
and its turn is committed only when it resolves with a result (`Sound.committed_step`).
-/

namespace Machining.Session

open Machining.Config Machining.Job

/-- What stands in a list that one more is added to was there, or is what was added. -/
private theorem getElem?_concat_cases {α : Type} {items : List α} {last found : α} {i : Nat}
    (h : (items ++ [last])[i]? = some found) :
    items[i]? = some found ∨ i = items.length ∧ last = found := by
  rcases Nat.lt_or_ge i items.length with hlt | hge
  · rw [List.getElem?_append_left hlt] at h
    exact Or.inl h
  · rw [List.getElem?_append_right hge] at h
    obtain ⟨hzero, hfound⟩ := List.getElem?_eq_some_iff.mp h
    have hi : i - items.length = 0 := Nat.lt_one_iff.mp hzero
    refine Or.inr ⟨Nat.le_antisymm (Nat.sub_eq_zero_iff_le.mp hi) hge, ?_⟩
    simpa [hi] using hfound

/-! ## Tokens of calls that wait -/

namespace Timeline

variable {config : Assistant} {t : Timeline}

/-- The tokens of calls that wait, but not for the current generation, are cancelled. -/
def Warned (t : Timeline) : Prop :=
  ∀ flight ∈ t.flights, flight.landing = none →
    flight.call.generation ≠ t.controller.generation → flight.call.cancelled = true

theorem Warned.move {deed : Deed} {next : Timeline} (hsound : t.Sound) (h : t.Warned)
    (hmove : Move config t deed next) : next.Warned := by
  cases hmove with
  | stay => exact h
  | start turn label mode hrest =>
    intro flight hmem hlanding hother
    rcases List.mem_append.mp hmem with hold | hnew
    · -- nothing was in flight, so a call that waits is of an older generation
      exact h flight hold hlanding (Nat.ne_of_lt ((hrest.behind flight hold).lt hlanding))
    · rw [List.mem_singleton.mp hnew] at hother
      exact absurd rfl hother
  | drop call reply flight hflight =>
    intro other hmem hlanding hother
    rcases List.mem_or_eq_of_mem_set hmem with hold | rfl
    · exact h other hold hlanding hother
    · cases hlanding
  | finish earlier current reply hbusy =>
    obtain ⟨session, last, hconclude⟩ :=
      t.controller.conclude_rests config current.call.request.mode reply
    intro flight hmem hlanding hother
    rw [hconclude] at hother
    rcases List.mem_append.mp hmem with hold | hlast
    · apply h flight _ hlanding hother
      rw [hbusy.flights_eq]
      exact List.mem_append_left _ hold
    · rw [List.mem_singleton.mp hlast] at hlanding
      cases hlanding
  | withdraw earlier current last hbusy =>
    refine List.forall_mem_map.mpr ?_
    intro flight hmem hlanding _
    rw [Flight.withdraw_landing] at hlanding
    apply (Flight.withdraw_cancelled _ flight).mpr
    -- the turn in flight loses its token now, the others have lost theirs
    by_cases hcurrent : flight.call.generation = t.controller.generation
    · exact Or.inr (congrArg some hcurrent.symm)
    · exact Or.inl (h flight hmem hlanding hcurrent)
  | reset stock =>
    refine List.forall_mem_map.mpr ?_
    intro flight hmem hlanding hother
    rw [Flight.wipe_landing, Flight.withdraw_landing] at hlanding
    apply (Flight.withdraw_cancelled _ flight).mpr
    by_cases hcurrent : flight.call.generation = t.controller.generation
    · rcases hsound with hrest | ⟨earlier, current, hbusy⟩
      · exact absurd hcurrent (Nat.ne_of_lt ((hrest.behind flight hmem).lt hlanding))
      · exact Or.inr (hbusy.token.trans (congrArg some hcurrent.symm))
    · exact Or.inl (h flight hmem hlanding hcurrent)

theorem after_warned (config : Assistant) (session : Conversation) (deeds : List Deed) :
    (after config session deeds).Warned := by
  have hstart : (start session).Warned := fun flight hmem => by cases hmem
  exact after_induction config session hstart (fun hsound h hmove => h.move hsound hmove) deeds

/-- The token of a call that waits tells whether the call is of the current generation. -/
theorem cancelled_eq_false_iff (hsound : t.Sound) (hordered : t.Ordered) (hwarned : t.Warned)
    {call : Nat} {flight : Flight} (hflight : t.flights[call]? = some flight)
    (hlanding : flight.landing = none) :
    flight.call.cancelled = false ↔ t.Current call := by
  have hmem := List.mem_of_getElem? hflight
  constructor
  · intro hcancelled
    refine ⟨flight, hflight, hlanding, ?_⟩
    -- every other call that is open has been warned
    by_contra hother
    rw [hwarned flight hmem hlanding hother] at hcancelled
    cases hcancelled
  · intro hcurrent
    apply (hordered.justified flight hmem).cancelled_eq_false
    rcases hsound with hrest | ⟨earlier, current, hbusy⟩
    -- the current call is the last one, which nobody has overtaken
    · exact absurd hcurrent (hrest.not_current call)
    · rw [(hbusy.current_iff call).mp hcurrent, hbusy.flights_eq,
        List.getElem?_concat_length] at hflight
      rw [← Option.some.inj hflight]
      exact hbusy.superseded

/-! ## Calls that have resolved -/

/-- A call that has resolved stays so, with the same reply and outcome. -/
theorem Sound.landing_step (config : Assistant) (hsound : t.Sound) (deed : Deed) {call : Nat}
    {flight : Flight} {landing : Reply × Outcome} (hflight : t.flights[call]? = some flight)
    (hlanding : flight.landing = some landing) :
    ∃ later, (t.step config deed).flights[call]? = some later ∧
      later.landing = some landing ∧ later.superseded = flight.superseded := by
  have hmove := hsound.step_move config deed
  generalize t.step config deed = next at hmove
  have hlt : call < t.flights.length := (List.getElem?_eq_some_iff.mp hflight).1
  cases hmove with
  | stay => exact ⟨flight, hflight, hlanding, rfl⟩
  | start =>
    refine ⟨flight, ?_, hlanding, rfl⟩
    rw [List.getElem?_append_left hlt]
    exact hflight
  | drop other reply waiting hwaiting hopen =>
    refine ⟨flight, ?_, hlanding, rfl⟩
    rw [List.getElem?_set_ne]
    · exact hflight
    -- the call that is dropped was open, and this one has landed
    · rintro rfl
      rw [Option.some.inj (hwaiting.symm.trans hflight), hlanding] at hopen
      cases hopen
  | finish earlier current reply hbusy =>
    -- the call that resolves now is the last one, and it has not resolved before
    refine ⟨flight, ?_, hlanding, rfl⟩
    rw [hbusy.flights_eq] at hflight
    rcases getElem?_concat_cases hflight with hold | ⟨_, rfl⟩
    · rw [List.getElem?_append_left (List.getElem?_eq_some_iff.mp hold).1]
      exact hold
    · rw [hbusy.landing] at hlanding
      cases hlanding
  | withdraw =>
    -- a withdrawal overtakes only what is still open
    refine ⟨flight.withdraw (some t.controller.generation), ?_, hlanding, ?_⟩
    · rw [List.getElem?_map, hflight]
      rfl
    · simp [hlanding]
  | reset stock =>
    refine ⟨(flight.withdraw t.controller.token).wipe, ?_, hlanding, ?_⟩
    · rw [List.getElem?_map, hflight]
      rfl
    · simp [hlanding]

/-- A turn that is committed was committed before, or its call resolves now with a result. -/
theorem Sound.committed_step (hsound : t.Sound) (deed : Deed) {call : Nat} {later : Flight}
    {reply : Reply} {outcome : Outcome} (hlater : (t.step config deed).flights[call]? = some later)
    (hlanding : later.landing = some (reply, outcome)) (hcommitted : outcome.committed = true) :
    (∃ flight, t.flights[call]? = some flight ∧ flight.landing = some (reply, outcome)) ∨
      ∃ analysis, deed = .resolve call (.result analysis) := by
  have hmove := hsound.step_move config deed
  generalize t.step config deed = next at hlater hmove
  cases hmove with
  | stay => exact Or.inl ⟨later, hlater, hlanding⟩
  | start =>
    rcases getElem?_concat_cases hlater with hold | ⟨_, rfl⟩
    · exact Or.inl ⟨later, hold, hlanding⟩
    · cases hlanding
  | drop other reply' waiting hwaiting =>
    by_cases hsame : other = call
    · -- what is dropped is not committed
      rw [hsame] at hwaiting hlater
      rw [List.getElem?_set_self (List.getElem?_eq_some_iff.mp hwaiting).1] at hlater
      rw [← Option.some.inj hlater] at hlanding
      cases hlanding
      cases hcommitted
    · rw [List.getElem?_set_ne hsame] at hlater
      exact Or.inl ⟨later, hlater, hlanding⟩
  | finish earlier current reply' hbusy =>
    rcases getElem?_concat_cases hlater with hold | ⟨rfl, rfl⟩
    · refine Or.inl ⟨later, ?_, hlanding⟩
      rw [hbusy.flights_eq, List.getElem?_append_left (List.getElem?_eq_some_iff.mp hold).1]
      exact hold
    · obtain ⟨rfl, rfl⟩ := Prod.mk.inj (Option.some.inj hlanding)
      -- of the three ways to end, only one is committed, and it has a result
      rcases t.controller.conclude_cases config current.call.request.mode reply' with
        ⟨analysis, _, rfl, _, _⟩ | ⟨kind, hfail⟩ | ⟨_, hdrop⟩
      · exact Or.inr ⟨analysis, rfl⟩
      · rw [hfail] at hcommitted
        cases hcommitted
      · rw [hdrop] at hcommitted
        cases hcommitted
  | withdraw =>
    rw [List.getElem?_map] at hlater
    obtain ⟨flight, hflight, rfl⟩ := Option.map_eq_some_iff.mp hlater
    exact Or.inl ⟨flight, hflight, hlanding⟩
  | reset stock =>
    rw [List.getElem?_map] at hlater
    obtain ⟨flight, hflight, rfl⟩ := Option.map_eq_some_iff.mp hlater
    exact Or.inl ⟨flight, hflight, hlanding⟩

end Timeline

end Machining.Session
