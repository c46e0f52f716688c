import Machining.Proofs.Session.Moves
import Mathlib.Data.List.Induction

/-!
# Generations and tokens

A controller keeps four things apart: its phase, the token of the turn in flight, the current
generation, and the counter that generations are drawn from.  This module shows that they never
disagree, and that a token is cancelled exactly for the turn that was withdrawn.

## How it is shown

* `Ordered` says that the generations of the calls increase in the order of the submissions, and
  that a token is cancelled only of a call that was overtaken and leaves nothing behind when it
  lands.  Every move keeps it.
* With it, the call that the token belongs to is the one call in flight in the current generation
  (`token_eq_iff_current`).
* `signalled_step` says which tokens one deed cancels, and `signalled_after` which tokens are
  cancelled after many.
-/

namespace Machining.Session

open Machining.Config Machining.Job

/-- A deed that withdraws the turn in flight, if there is one. -/
def Deed.Withdraws : Deed → Prop
  | .cancel => True
  | .reset _ => True
  | _ => False

/-- A token that is cancelled is that of a call which was overtaken, and whose turn left nothing
behind if the call has resolved. -/
def Flight.Justified (flight : Flight) : Prop :=
  flight.call.cancelled = true → flight.superseded = true ∧
    ∀ reply outcome, flight.landing = some (reply, outcome) →
      outcome = Controller.stale flight.call.generation

namespace Timeline

/-- A call in flight in the current generation. -/
def Current (t : Timeline) (call : Nat) : Prop :=
  ∃ flight, t.flights[call]? = some flight ∧ flight.landing = none ∧
    flight.call.generation = t.controller.generation

/-- A call whose token is cancelled. -/
def Signalled (t : Timeline) (call : Nat) : Prop :=
  ∃ flight, t.flights[call]? = some flight ∧ flight.call.cancelled = true

/-- The generations of the turns in the order of their submission. -/
def generations (t : Timeline) : List Nat := t.flights.map fun flight => flight.call.generation

/-- The generations increase, and no token is cancelled without a reason. -/
structure Ordered (t : Timeline) : Prop where
  increasing : t.generations.Pairwise (· < ·)
  justified : ∀ flight ∈ t.flights, flight.Justified

end Timeline

/-! ## What becomes of a token -/

namespace Flight

private theorem Justified.launch (generation : Nat) (request : Request) :
    (Flight.launch generation request).Justified := by
  intro hcancelled
  cases hcancelled

private theorem Justified.wipe {flight : Flight} (h : flight.Justified) : flight.wipe.Justified := h

/-- The token of a call that was not overtaken is not cancelled. -/
theorem Justified.cancelled_eq_false {flight : Flight} (h : flight.Justified)
    (hsuperseded : flight.superseded = false) : flight.call.cancelled = false := by
  rw [← Bool.not_eq_true]
  intro hcancelled
  rw [(h hcancelled).1] at hsuperseded
  cases hsuperseded

private theorem Justified.land_stale {flight : Flight} (h : flight.Justified) (reply : Reply) :
    (flight.land reply (Controller.stale flight.call.generation)).Justified := by
  intro hcancelled
  refine ⟨(h hcancelled).1, ?_⟩
  intro reply' outcome hlanding
  cases hlanding
  rfl

/-- A call in flight that is overtaken may lose its token; one that has landed may not. -/
private theorem Justified.withdraw {flight : Flight} (h : flight.Justified) {token : Option Nat}
    (hopen : token = some flight.call.generation → flight.landing = none) :
    (flight.withdraw token).Justified := by
  intro hcancelled
  by_cases htoken : token = some flight.call.generation
  · refine ⟨?_, ?_⟩
    · rw [withdraw_superseded, hopen htoken]
      exact Bool.or_true _
    · intro reply outcome hlanding
      rw [withdraw_landing, hopen htoken] at hlanding
      cases hlanding
  · -- another token is cancelled, so this one was before
    have hsame : (flight.withdraw token).call = flight.call := if_neg htoken
    rw [hsame] at hcancelled
    refine ⟨?_, ?_⟩
    · rw [withdraw_superseded, (h hcancelled).1]
      exact Bool.true_or _
    · rw [withdraw_landing, hsame]
      exact (h hcancelled).2

theorem withdraw_cancelled (token : Option Nat) (flight : Flight) :
    (flight.withdraw token).call.cancelled = true ↔
      flight.call.cancelled = true ∨ token = some flight.call.generation := by
  by_cases htoken : token = some flight.call.generation
  · simp [withdraw, htoken]
  · simp [withdraw, htoken]

end Flight

namespace Timeline

variable {t : Timeline}

/-! ## The order of the generations -/

/-- Before the call in flight of a busy timeline there are only older ones. -/
theorem Ordered.lt_of_mem_earlier {earlier : List Flight} {current : Flight} (h : t.Ordered)
    (hbusy : t.Busy earlier current) {flight : Flight} (hmem : flight ∈ earlier) :
    flight.call.generation < t.controller.generation := by
  have hincreasing := h.increasing
  rw [generations, hbusy.flights_eq, List.map_append] at hincreasing
  have hlt := (List.pairwise_append.mp hincreasing).2.2
  rw [← hbusy.generation_eq]
  exact hlt _ (List.mem_map_of_mem hmem) _ (List.mem_singleton_self _)

/-- The token belongs to the call that is in flight in the current generation. -/
theorem token_eq_iff_current (hsound : t.Sound) (h : t.Ordered) {call : Nat} {flight : Flight}
    (hflight : t.flights[call]? = some flight) :
    t.controller.token = some flight.call.generation ↔ t.Current call := by
  constructor
  · intro htoken
    rcases hsound with hrest | ⟨earlier, current, hbusy⟩
    · rw [hrest.token] at htoken
      cases htoken
    · have hgeneration : flight.call.generation = t.controller.generation :=
        (Option.some.inj (hbusy.token.symm.trans htoken)).symm
      have hmem := List.mem_of_getElem? hflight
      rw [hbusy.flights_eq] at hmem
      -- the generations increase, so only the last call can have the one of the token
      rcases List.mem_append.mp hmem with hearlier | hcurrent
      · exact absurd hgeneration (Nat.ne_of_lt (h.lt_of_mem_earlier hbusy hearlier))
      · refine ⟨flight, hflight, ?_, hgeneration⟩
        rw [List.mem_singleton.mp hcurrent]
        exact hbusy.landing
  · rintro ⟨flight', hflight', hlanding, hgeneration⟩
    obtain rfl : flight = flight' := Option.some.inj (hflight.symm.trans hflight')
    rcases hsound.behind_or_last hflight with hbehind | ⟨earlier, current, hbusy, _⟩
    · exact absurd hgeneration (Nat.ne_of_lt (hbehind.lt hlanding))
    · rw [hbusy.token, hgeneration]

/-- While the timeline rests, no call in flight is of the current generation. -/
theorem Resting.not_current (h : t.Resting) (call : Nat) : ¬ t.Current call := by
  rintro ⟨flight, hflight, hlanding, hgeneration⟩
  have hlt := (h.behind flight (List.mem_of_getElem? hflight)).lt hlanding
  exact Nat.ne_of_lt hlt hgeneration

/-- While the timeline is busy, the last call alone is in flight in the current generation. -/
theorem Busy.current_iff {earlier : List Flight} {current : Flight} (h : t.Busy earlier current)
    (call : Nat) : t.Current call ↔ call = earlier.length := by
  have hlast : t.flights[earlier.length]? = some current := by
    rw [h.flights_eq]
    exact List.getElem?_concat_length
  constructor
  · rintro ⟨flight, hflight, hlanding, hgeneration⟩
    -- an earlier call that is open has an older generation, and a later one is not there
    rcases Nat.lt_trichotomy call earlier.length with hlt | heq | hgt
    · rw [h.flights_eq, List.getElem?_append_left hlt] at hflight
      have hbehind := h.behind flight (List.mem_of_getElem? hflight)
      exact absurd hgeneration (Nat.ne_of_lt (hbehind.lt hlanding))
    · exact heq
    · have hlength : t.flights.length ≤ call := by
        rw [h.flights_eq, List.length_append]
        exact hgt
      rw [List.getElem?_eq_none hlength] at hflight
      cases hflight
  · rintro rfl
    exact ⟨current, hlast, h.landing, h.generation_eq⟩

/-! ## Every move keeps the order -/

private theorem generations_withdraw (t : Timeline) (token : Option Nat) (c : Controller) :
    generations ⟨c, t.flights.map (Flight.withdraw token)⟩ = t.generations := by
  simp [generations, Function.comp_def]

/-- The token of a sound timeline belongs to no call that has landed. -/
private theorem landing_of_token (hsound : t.Sound) (h : t.Ordered) {flight : Flight}
    (hmem : flight ∈ t.flights) (htoken : t.controller.token = some flight.call.generation) :
    flight.landing = none := by
  obtain ⟨call, hflight⟩ := List.mem_iff_getElem?.mp hmem
  obtain ⟨flight', hflight', hlanding, _⟩ := (token_eq_iff_current hsound h hflight).mp htoken
  rw [Option.some.inj (hflight.symm.trans hflight')]
  exact hlanding

theorem Ordered.move {config : Assistant} {deed : Deed} {next : Timeline} (hsound : t.Sound)
    (h : t.Ordered) (hmove : Move config t deed next) : next.Ordered := by
  cases hmove with
  | stay => exact h
  | start turn label mode hrest =>
    refine ⟨?_, ?_⟩
    · -- the new generation lies above all that were given
      rw [generations, List.map_append]
      refine List.pairwise_append.mpr ⟨h.increasing, List.pairwise_singleton _ _, ?_⟩
      intro generation hmem last hlast
      obtain ⟨flight, hflight, rfl⟩ := List.mem_map.mp hmem
      rw [List.mem_singleton.mp hlast]
      exact Nat.lt_succ_of_le (hsound.generation_le hflight)
    · intro flight hmem
      rcases List.mem_append.mp hmem with hold | hnew
      · exact h.justified flight hold
      · rw [List.mem_singleton.mp hnew]
        exact Flight.Justified.launch _ _
  | drop call reply flight hflight hlanding hbehind =>
    -- landing changes neither the generation of a call nor its place
    have hsame : generations ⟨t.controller, t.flights.set call
        (flight.land reply (Controller.stale flight.call.generation))⟩ = t.generations :=
      map_set_of_eq hflight rfl
    refine ⟨?_, ?_⟩
    · rw [hsame]
      exact h.increasing
    · intro other hmem
      rcases List.mem_or_eq_of_mem_set hmem with hold | rfl
      · exact h.justified other hold
      · exact (h.justified flight (List.mem_of_getElem? hflight)).land_stale reply
  | finish earlier current reply hbusy =>
    have hmem : current ∈ t.flights := by
      rw [hbusy.flights_eq]
      exact List.mem_append_right _ (List.mem_singleton_self _)
    refine ⟨?_, ?_⟩
    · have hincreasing := h.increasing
      rw [generations, hbusy.flights_eq, List.map_append] at hincreasing
      rw [generations, List.map_append]
      exact hincreasing
    · intro flight hmem'
      rcases List.mem_append.mp hmem' with hearlier | hlast
      · refine h.justified flight ?_
        rw [hbusy.flights_eq]
        exact List.mem_append_left _ hearlier
      · rw [List.mem_singleton.mp hlast]
        -- the turn in flight was not overtaken, so there is nothing to excuse
        intro hcancelled
        have hfalse := (h.justified current hmem).cancelled_eq_false hbusy.superseded
        exact absurd hcancelled (Bool.not_eq_true _ ▸ hfalse)
  | withdraw earlier current last hbusy =>
    refine ⟨?_, List.forall_mem_map.mpr ?_⟩
    · rw [generations_withdraw]
      exact h.increasing
    · intro flight hmem
      -- only the turn in flight is overtaken, and that one has not landed
      refine (h.justified flight hmem).withdraw ?_
      rw [← hbusy.token]
      exact landing_of_token hsound h hmem
  | reset stock =>
    refine ⟨?_, List.forall_mem_map.mpr ?_⟩
    · have hincreasing := h.increasing
      simpa [generations, Function.comp_def] using hincreasing
    · intro flight hmem
      exact ((h.justified flight hmem).withdraw (landing_of_token hsound h hmem)).wipe

variable (config : Assistant)

theorem after_ordered (session : Conversation) (deeds : List Deed) :
    (after config session deeds).Ordered := by
  have hstart : (start session).Ordered := by
    refine ⟨List.Pairwise.nil, ?_⟩
    intro flight hmem
    cases hmem
  exact after_induction config session hstart (fun hsound h hmove => h.move hsound hmove) deeds

/-! ## Cancelled tokens -/

theorem signalled_iff (t : Timeline) (call : Nat) :
    t.Signalled call ↔
      ∃ c : Call, (t.flights.map Flight.call)[call]? = some c ∧ c.cancelled = true := by
  simp [Signalled, Option.map_eq_some_iff]

/-- Withdrawing by a token cancels the token of the call that it belongs to. -/
private theorem signalled_withdraw (t : Timeline) (token : Option Nat) (c : Controller)
    (call : Nat) :
    Signalled ⟨c, t.flights.map (Flight.withdraw token)⟩ call ↔
      t.Signalled call ∨
        ∃ flight, t.flights[call]? = some flight ∧ token = some flight.call.generation := by
  simp only [Signalled, List.getElem?_map]
  cases t.flights[call]? with
  | none => simp
  | some flight => simp [Flight.withdraw_cancelled]

private theorem signalled_withdraw_token (hsound : t.Sound) (h : t.Ordered) (c : Controller)
    (call : Nat) :
    Signalled ⟨c, t.flights.map (Flight.withdraw t.controller.token)⟩ call ↔
      t.Signalled call ∨ t.Current call := by
  rw [signalled_withdraw]
  refine or_congr_right ?_
  constructor
  · rintro ⟨flight, hflight, htoken⟩
    exact (token_eq_iff_current hsound h hflight).mp htoken
  · intro hcurrent
    obtain ⟨flight, hflight, _⟩ := id hcurrent
    exact ⟨flight, hflight, (token_eq_iff_current hsound h hflight).mpr hcurrent⟩

/-- A deed cancels the token of the turn in flight if it withdraws that turn, and no other. -/
theorem signalled_step (hsound : t.Sound) (h : t.Ordered) (deed : Deed) (call : Nat) :
    (t.step config deed).Signalled call ↔
      t.Signalled call ∨ deed.Withdraws ∧ t.Current call := by
  cases deed with
  | submit turn =>
    simp only [Deed.Withdraws, false_and, or_false, step]
    cases t.controller.submit config turn with
    | error error => rfl
    | ok answer =>
      -- the call that is added carries a token that nobody has cancelled
      simp only [signalled_iff, List.map_append]
      rcases Nat.lt_or_ge call (t.flights.map Flight.call).length with hlt | hge
      · rw [List.getElem?_append_left hlt]
      · rw [List.getElem?_append_right hge, List.getElem?_eq_none hge]
        refine iff_of_false ?_ (by simp)
        rintro ⟨c, hc, hcancelled⟩
        have hmem := List.mem_of_getElem? hc
        rw [List.map_singleton, List.mem_singleton] at hmem
        rw [hmem] at hcancelled
        cases hcancelled
  | resolve call' reply =>
    simp only [Deed.Withdraws, false_and, or_false]
    -- resolving changes no call
    rw [signalled_iff, signalled_iff, calls_step_resolve]
  | cancel =>
    simp only [Deed.Withdraws, true_and]
    rcases hsound with hrest | ⟨earlier, current, hbusy⟩
    -- with no turn in flight there is nobody to signal
    · rw [hrest.step_cancel_eq config]
      exact (or_iff_left (hrest.not_current call)).symm
    · obtain ⟨last, hstep⟩ := hbusy.step_cancel config
      rw [hstep, ← hbusy.token]
      exact signalled_withdraw_token (Or.inr ⟨earlier, current, hbusy⟩) h _ call
  | reset stock =>
    simp only [Deed.Withdraws, true_and]
    -- a reset signals like a cancellation, and then empties the transcript
    rw [← signalled_withdraw_token hsound h (t.controller.reset stock) call]
    simp only [step, signalled_iff, List.map_map, Function.comp_def, Flight.wipe_call]

/-- The tokens that are cancelled are those of the turns that were withdrawn while they were in
flight. -/
theorem signalled_after (session : Conversation) (deeds : List Deed) (call : Nat) :
    (after config session deeds).Signalled call ↔
      ∃ before deed, before ++ [deed] <+: deeds ∧ deed.Withdraws ∧
        (after config session before).Current call := by
  -- the last deed is the one that adds to what is cancelled already
  induction deeds using List.reverseRecOn with
  | nil => simp [Signalled, after, start]
  | append_singleton deeds deed ih =>
    have hstep : after config session (deeds ++ [deed]) =
        (after config session deeds).step config deed := after_append config session deeds [deed]
    rw [hstep, signalled_step config (after_sound config session deeds)
      (after_ordered config session deeds), ih]
    constructor
    · rintro (⟨before, earlier, hstart, hbefore⟩ | hlast)
      · exact ⟨before, earlier, hstart.trans (List.prefix_append _ _), hbefore⟩
      · exact ⟨deeds, deed, List.prefix_rfl, hlast⟩
    · rintro ⟨before, earlier, hstart, hbefore⟩
      rcases List.prefix_concat_iff.mp hstart with heq | hstart
      · obtain ⟨rfl, hdeed⟩ := List.append_inj' heq rfl
        obtain rfl := List.singleton_inj.mp hdeed
        exact Or.inr hbefore
      · exact Or.inl ⟨before, earlier, hstart, hbefore⟩

/-! ## The turn in flight -/

/-- What is given once stays given. -/
private theorem generations_step_kept (t : Timeline) (deed : Deed) :
    t.generations <+: (t.step config deed).generations := by
  cases deed with
  | submit turn =>
    simp only [step]
    cases t.controller.submit config turn with
    | error error => exact List.prefix_rfl
    | ok answer =>
      simp only [generations, List.map_append]
      exact List.prefix_append _ _
  | resolve call reply =>
    -- the calls stay as they are but for the tokens that are cancelled
    have hcalls := congrArg (List.map Call.generation) (calls_step_resolve config t call reply)
    rw [List.map_map, List.map_map] at hcalls
    have hsame : (t.step config (.resolve call reply)).generations = t.generations := hcalls
    exact ⟨[], (List.append_nil _).trans hsame.symm⟩
  | cancel =>
    have hsame : (t.step config .cancel).generations = t.generations :=
      generations_withdraw t _ _
    exact ⟨[], (List.append_nil _).trans hsame.symm⟩
  | reset stock => simp [generations, step, Function.comp_def]

theorem generations_run_kept (t : Timeline) (deeds : List Deed) :
    t.generations <+: (t.run config deeds).generations := by
  induction deeds generalizing t with
  | nil => exact List.prefix_rfl
  | cons deed deeds ih => exact (generations_step_kept config t deed).trans (ih _)

/-- **The token singles out the turn in flight.**  At every moment the controller is idle or
requesting.  It is requesting exactly when it holds a token, which then carries the current
generation, and exactly when one call in flight is of the current generation; all other calls in
flight are of older ones.  The generations of the turns increase in the order of their submission,
whatever is cancelled or reset in between, and stay what they are.  The tokens that are cancelled
are those of the turns that a cancel or a reset found in flight; so no turn that was committed or
that failed has a cancelled token. -/
theorem token_singles_out_turn_in_flight (session : Conversation) (deeds : List Deed) :
    let t := after config session deeds
    (t.controller.phase = .idle ∨ t.controller.phase = .requesting) ∧
      (t.controller.phase = .requesting ↔ t.controller.token.isSome) ∧
      (t.controller.phase = .requesting ↔ ∃! call, t.Current call) ∧
      (∀ generation, t.controller.token = some generation →
        generation = t.controller.generation) ∧
      (∀ (call : Nat) (flight : Flight), t.flights[call]? = some flight → flight.landing = none →
        ¬ t.Current call → flight.call.generation < t.controller.generation) ∧
      t.generations.Pairwise (· < ·) ∧
      (∀ more, t.generations <+: (after config session (deeds ++ more)).generations) ∧
      (∀ call, t.Signalled call ↔ ∃ before deed, before ++ [deed] <+: deeds ∧ deed.Withdraws ∧
        (after config session before).Current call) ∧
      ∀ flight ∈ t.flights, ∀ reply outcome, flight.landing = some (reply, outcome) →
        outcome.committed = true ∨ outcome.failure.isSome → flight.call.cancelled = false := by
  intro t
  have hsound : t.Sound := after_sound config session deeds
  have hordered : t.Ordered := after_ordered config session deeds
  -- an open call that is not the current one has an older generation
  have holder (call : Nat) (flight : Flight) (hflight : t.flights[call]? = some flight)
      (hne : ¬ (flight.landing = none ∧ flight.call.generation = t.controller.generation))
      (hlanding : flight.landing = none) : flight.call.generation < t.controller.generation :=
    Nat.lt_of_le_of_ne (hsound.generation_le (List.mem_of_getElem? hflight))
      fun hgeneration => hne ⟨hlanding, hgeneration⟩
  refine ⟨?_, ?_, ?_, ?_, ?_, hordered.increasing, ?_, signalled_after config session deeds, ?_⟩
  · rcases hsound with hrest | ⟨_, _, hbusy⟩
    · exact Or.inl hrest.phase
    · exact Or.inr hbusy.phase
  · rcases hsound with hrest | ⟨_, _, hbusy⟩
    · simp [hrest.phase, hrest.token]
    · simp [hbusy.phase, hbusy.token]
  · rcases hsound with hrest | ⟨earlier, current, hbusy⟩
    -- at rest no call is current, and else exactly the last one is
    · refine iff_of_false (by simp [hrest.phase]) ?_
      rintro ⟨call, hcurrent, _⟩
      exact hrest.not_current call hcurrent
    · refine iff_of_true hbusy.phase ⟨earlier.length, (hbusy.current_iff _).mpr rfl, ?_⟩
      exact fun call hcurrent => (hbusy.current_iff call).mp hcurrent
  · intro generation htoken
    rcases hsound with hrest | ⟨_, _, hbusy⟩
    · rw [hrest.token] at htoken
      cases htoken
    · exact Option.some.inj (htoken.symm.trans hbusy.token)
  · intro call flight hflight hlanding hother
    refine holder call flight hflight ?_ hlanding
    exact fun hcurrent => hother ⟨flight, hflight, hcurrent.1, hcurrent.2⟩
  · intro more
    rw [after_append]
    exact generations_run_kept config t more
  · intro flight hmem reply outcome hlanding hended
    rw [← Bool.not_eq_true]
    intro hcancelled
    -- a turn whose token is cancelled ends without a commit and without a failure
    rw [((hordered.justified flight hmem) hcancelled).2 reply outcome hlanding] at hended
    rcases hended with hcommitted | hfailed
    · cases hcommitted
    · cases hfailed

/-- A turn that is withdrawn uses its generation up, and the withdrawal another one. -/
example :
    let t := after sampleAssistant (.new sampleStock)
      [.submit (sampleTurn .accumulate), .cancel, .submit (sampleTurn .replace)]
    t.generations = [1, 3] ∧ t.flights.map (·.call.cancelled) = [true, false] := by
  decide +kernel

end Timeline

end Machining.Session
