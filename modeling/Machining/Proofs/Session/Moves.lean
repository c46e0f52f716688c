import Machining.Proofs.Session.Timeline
import Machining.Proofs.Session.Untold

/-!
# What a deed does to a timeline

A deed that comes over a sound timeline makes one of six moves: it changes nothing, it begins a
turn, it drops the reply to a call that was overtaken, it ends the turn in flight, it withdraws that
turn, or it resets the session.  `Sound.step_move` says so once, with all that is known about the
timeline in each case, so that an invariant of timelines is a case analysis over `Move`.

How a turn ends is said by `Controller.conclude_cases`: with an output that is put down, with a kind
of failure that is told, or, when not even the kind can be told, in silence.
-/

namespace Machining.Session

open Machining.Config Machining.Job Machining.Program

/-! ## The end of a turn -/

namespace Controller

/-- A turn that fails without a kind is dropped. -/
theorem conclude_of_untold (config : Assistant) (c : Controller) (mode : Mode) {reply : Reply}
    (h : reply.Untold) : c.conclude config mode reply = c.drop := by
  match reply, h with
  | .failure cause, ⟨error, herror⟩ => simp only [conclude, herror]

/-- A turn of the current generation ends in one of three ways. -/
theorem conclude_cases (config : Assistant) (c : Controller) (mode : Mode) (reply : Reply) :
    (∃ analysis output, reply = .result analysis ∧
        outputOf config c.session.ledger mode analysis = .ok output ∧
        c.conclude config mode reply = c.commit output) ∨
      (∃ kind, c.conclude config mode reply = c.fail config kind) ∨
      (reply.Untold ∧ c.conclude config mode reply = c.drop) := by
  cases reply with
  | aborted => exact Or.inr (Or.inl ⟨_, rfl⟩)
  | failure failure =>
    cases hkind : failure.kind with
    | error error =>
      exact Or.inr (Or.inr ⟨⟨error, hkind⟩, conclude_of_untold config c mode ⟨error, hkind⟩⟩)
    | ok kind =>
      refine Or.inr (Or.inl ⟨kind, ?_⟩)
      simp only [conclude, hkind]
  | result analysis =>
    cases hout : outputOf config c.session.ledger mode analysis with
    | error error =>
      -- a job that does not compile fails like any other turn
      refine Or.inr (Or.inl ⟨.other, ?_⟩)
      simp only [conclude, hout]
    | ok output =>
      refine Or.inl ⟨analysis, output, rfl, hout, ?_⟩
      simp only [conclude, hout]

/-- An answer is put down unless the turn failed without a kind. -/
theorem message_conclude_eq_none_iff (config : Assistant) (c : Controller) (mode : Mode)
    (reply : Reply) : (c.conclude config mode reply).2.message = none ↔ reply.Untold := by
  -- of all replies only a failure without a kind is not answered
  cases reply with
  | aborted => exact iff_of_false (by simp [conclude, fail]) id
  | failure failure =>
    cases hkind : failure.kind with
    | error error => exact iff_of_true (by simp [conclude, hkind, drop, stale]) ⟨error, hkind⟩
    | ok kind =>
      refine iff_of_false (by simp [conclude, hkind, fail]) ?_
      rintro ⟨error, herror⟩
      cases hkind.symm.trans herror
  | result analysis =>
    refine iff_of_false ?_ id
    cases hout : outputOf config c.session.ledger mode analysis with
    | error error => simp [conclude, hout, fail]
    | ok output => simp [conclude, hout, commit]

end Controller

/-! ## The moves -/

/-- The withdrawal of a later turn, or of none, passes a call by that is behind. -/
theorem Flight.Behind.withdraw_eq {generation : Nat} {flight : Flight}
    (h : flight.Behind generation) {token : Option Nat}
    (htoken : ∀ later, token = some later → generation < later) :
    flight.withdraw token = flight := by
  have hne : token ≠ some flight.call.generation := by
    intro heq
    exact absurd h.le (Nat.not_le_of_lt (htoken _ heq))
  have hsuperseded : (flight.superseded || flight.landing.isNone) = flight.superseded := by
    cases hlanding : flight.landing with
    | some landing => simp
    | none => simp [h.superseded hlanding]
  unfold Flight.withdraw
  rw [hsuperseded, if_neg hne]

theorem map_withdraw_eq {generation : Nat} {flights : List Flight}
    (h : ∀ flight ∈ flights, flight.Behind generation) {token : Option Nat}
    (htoken : ∀ later, token = some later → generation < later) :
    flights.map (Flight.withdraw token) = flights :=
  (List.map_congr_left fun flight hmem => (h flight hmem).withdraw_eq htoken).trans (List.map_id _)

namespace Timeline

/-- What one deed can make of a sound timeline. -/
inductive Move (config : Assistant) (t : Timeline) : Deed → Timeline → Prop where
  /-- Nothing changes: a turn is refused, a call is not there or has resolved already, or there is
  no turn to withdraw. -/
  | stay (deed : Deed) (h : ∀ stock, deed ≠ .reset stock) : Move config t deed t
  /-- A turn begins. -/
  | start (turn : Turn) (label : String) (mode : Mode) (h : t.Resting) :
    Move config t (.submit turn) ⟨t.controller.begin label turn,
      t.flights ++ [Flight.launch (t.controller.generation + 1)
        (turn.request config.session mode)]⟩
  /-- The reply to a call that was overtaken is dropped. -/
  | drop (call : Nat) (reply : Reply) (flight : Flight) (hflight : t.flights[call]? = some flight)
      (hlanding : flight.landing = none) (hbehind : flight.Behind t.controller.generation) :
    Move config t (.resolve call reply) ⟨t.controller,
      t.flights.set call (flight.land reply (Controller.stale flight.call.generation))⟩
  /-- The turn in flight ends. -/
  | finish (earlier : List Flight) (current : Flight) (reply : Reply)
      (h : t.Busy earlier current) :
    Move config t (.resolve earlier.length reply)
      ⟨(t.controller.conclude config current.call.request.mode reply).1,
        earlier ++ [current.land reply
          (t.controller.conclude config current.call.request.mode reply).2]⟩
  /-- The turn in flight is withdrawn. -/
  | withdraw (earlier : List Flight) (current : Flight) (last : Option Outcome)
      (h : t.Busy earlier current) :
    Move config t .cancel
      ⟨{ t.controller.withdraw with
          session :=
            (t.controller.session.postFailure .cancelled config.session.messages.stopped).1
          last },
        t.flights.map (Flight.withdraw (some t.controller.generation))⟩
  /-- The session is reset. -/
  | reset (stock : Option (Stock Float)) :
    Move config t (.reset stock) ⟨t.controller.reset stock,
      t.flights.map fun flight => (flight.withdraw t.controller.token).wipe⟩

variable (config : Assistant) {t : Timeline}

/-- Without a turn in flight there is nothing to withdraw, and no call is overtaken anew. -/
theorem Resting.step_cancel_eq (h : t.Resting) : t.step config .cancel = t := by
  rw [h.step_cancel config, map_withdraw_eq h.behind (by simp)]

/-- **Every deed over a sound timeline is a move.** -/
theorem Sound.step_move (h : t.Sound) (deed : Deed) : Move config t deed (t.step config deed) := by
  -- what a deed does depends on whether a turn is in flight
  cases deed with
  | submit turn =>
    rcases h with hrest | ⟨earlier, current, hbusy⟩
    · rcases hrest.step_submit config turn with hrefused | ⟨label, mode, hbegun⟩
      · rw [hrefused]
        exact .stay _ (by simp)
      · rw [hbegun]
        exact .start turn label mode hrest
    · rw [hbusy.step_submit config turn]
      exact .stay _ (by simp)
  | resolve call reply =>
    rcases h.resolve_cases config call reply with
      hsame | ⟨flight, hflight, hlanding, hdropped⟩ | ⟨earlier, current, hbusy, rfl⟩
    · rw [hsame]
      exact .stay _ (by simp)
    · -- a call that is dropped is not the one in flight
      rcases h.behind_or_last hflight with hbehind | ⟨earlier, current, hbusy, rfl⟩
      · rw [hdropped]
        exact .drop call reply flight hflight hlanding hbehind
      · rw [hbusy.step_resolve config reply]
        exact .finish earlier current reply hbusy
    · rw [hbusy.step_resolve config reply]
      exact .finish earlier current reply hbusy
  | cancel =>
    rcases h with hrest | ⟨earlier, current, hbusy⟩
    · rw [hrest.step_cancel_eq config]
      exact .stay _ (by simp)
    · obtain ⟨last, hstep⟩ := hbusy.step_cancel config
      rw [hstep]
      exact .withdraw earlier current last hbusy
  | reset stock => exact .reset stock

/-- What holds before any deed and is kept by every move over a sound timeline holds at every
moment. -/
theorem after_induction {P : Timeline → Prop} (session : Conversation)
    (hstart : P (Timeline.start session))
    (hmove : ∀ {t deed next}, t.Sound → P t → Move config t deed next → P next)
    (deeds : List Deed) : P (after config session deeds) := by
  -- along the deeds the timeline is not a new one
  suffices hall : ∀ {t : Timeline}, t.Sound → P t → P (t.run config deeds) from
    hall (Or.inl (start_resting session)) hstart
  induction deeds with
  | nil => exact fun _ h => h
  | cons deed deeds ih =>
    intro t hsound h
    exact ih (hsound.step config deed) (hmove hsound h (hsound.step_move config deed))

end Timeline

end Machining.Session
