import Machining.Proofs.Session.Renewal

/-!
# What lies behind a timeline

A controller never looks back: not at its messages, not at how the last turn ended, and a call that
nobody waits for resolves without effect.  So a timeline goes on beside any past as it goes on
without one.

* `remember` gives a controller a past: messages in front of its own, and how the last turn ended.
  Every operation commutes with it, but for a reset, which forgets the past.
* `beside` puts a timeline next to a past, with the calls of that past in front of its own.
  `step_beside` and `step_beside_old` are the steps: a deed is either about the timeline, which goes
  on as without a past, or about an old call, and then the timeline stays as it is.
-/

namespace Machining.Session

open Machining.Config Machining.Document Machining.Job Machining.Program

/-! ## A controller with a past -/

/-- What has been before and nobody looks at again. -/
structure Past where
  /-- The messages so far. -/
  messages : List Message
  /-- How the last turn ended. -/
  last : Option Outcome
  /-- The calls so far. -/
  flights : List Flight

/-- The conversation behind earlier messages. -/
def Conversation.remember (messages : List Message) (talk : Conversation) : Conversation :=
  { talk with messages := messages ++ talk.messages }

namespace Controller

/-- The controller with a past. -/
def remember (past : Past) (c : Controller) : Controller :=
  { c with session := c.session.remember past.messages, last := c.last.or past.last }

variable (config : Assistant) (past : Past) (c : Controller)

@[simp] theorem remember_nothing (flights : List Flight) : c.remember ⟨[], none, flights⟩ = c := by
  simp [remember, Conversation.remember]

/-- A turn is refused or begun alike. -/
theorem submit_remember (turn : Turn) :
    (c.remember past).submit config turn =
      match c.submit config turn with
      | .error error => .error error
      | .ok (next, request) => .ok (next.remember past, request) := by
  have hphase : (c.remember past).phase = c.phase := rfl
  unfold submit
  rw [hphase]
  -- a past changes neither whether a turn is refused nor for what reason
  by_cases hbusy : c.phase = .requesting
  · rw [if_pos hbusy, if_pos hbusy]
    rfl
  · rw [if_neg hbusy, if_neg hbusy]
    cases Mode.ofName? turn.mode.plain with
    | none => rfl
    | some mode =>
      cases turn.label config.session with
      | error fault => rfl
      | ok label =>
        simp [begin, remember, Conversation.remember, Conversation.postUser, Conversation.post,
          Conversation.nextMessage]

/-- A turn of the current generation ends alike. -/
theorem conclude_remember (mode : Mode) (reply : Reply) :
    (c.remember past).conclude config mode reply =
      ((c.conclude config mode reply).1.remember past, (c.conclude config mode reply).2) := by
  -- every message is put behind the past, and every outcome takes the place of the last one
  have hfail (kind : FailureKind) : (c.remember past).fail config kind =
      ((c.fail config kind).1.remember past, (c.fail config kind).2) := by
    simp [fail, remember, Conversation.remember, Conversation.postFailure, Conversation.post,
      Conversation.nextMessage]
  cases reply with
  | aborted => exact hfail .cancelled
  | failure failure =>
    simp only [conclude]
    cases failure.kind with
    | ok kind => exact hfail kind
    | error error => rfl
  | result analysis =>
    have hledger : (c.remember past).session.ledger = c.session.ledger := rfl
    simp only [conclude, hledger]
    cases outputOf config c.session.ledger mode analysis with
    | error error => exact hfail .other
    | ok output =>
      simp [commit, remember, Conversation.remember, Conversation.postResult, Conversation.post,
        Conversation.nextMessage]

/-- A reply is taken or dropped alike. -/
theorem finish_remember (generation : Nat) (mode : Mode) (reply : Reply) :
    (c.remember past).finish config generation mode reply =
      ((c.finish config generation mode reply).1.remember past,
        (c.finish config generation mode reply).2) := by
  by_cases hgeneration : generation = c.generation
  · rw [finish_of_eq config c mode reply hgeneration,
      finish_of_eq config (c.remember past) mode reply hgeneration, conclude_remember]
  · rw [finish_of_ne config c mode reply hgeneration,
      finish_of_ne config (c.remember past) mode reply hgeneration]

theorem cancel_remember :
    (c.remember past).cancel config = ((c.cancel config).1.remember past, (c.cancel config).2) := by
  obtain ⟨session, generation, token, phase, last⟩ := c
  -- only a turn in flight can be withdrawn
  cases phase with
  | requesting =>
    cases token with
    | none => rfl
    | some token =>
      simp [cancel, remember, withdraw, Conversation.remember, Conversation.postFailure,
        Conversation.post, Conversation.nextMessage]
  | idle => rfl
  | success => rfl
  | failed => rfl
  | cancelled => rfl

/-- A reset forgets the past. -/
theorem reset_remember (stock : Option (Stock Float)) :
    (c.remember past).reset stock = c.reset stock := by
  have htoken : (c.remember past).token = c.token := rfl
  unfold reset
  rw [htoken]
  cases c.token <;> rfl

end Controller

/-! ## Flights that nobody waits for -/

namespace Flight

/-- The flight of a call that is behind, when its call resolves: a reply that still comes is
dropped. -/
def lapse (reply : Reply) (flight : Flight) : Flight :=
  if flight.landing.isSome then flight
  else flight.land reply (Controller.stale flight.call.generation)

/-- What comes of the resolution of a call that is behind. -/
def lapseAnswer (flight : Flight) : Answer :=
  if flight.landing.isSome then .nothing
  else .ended (Controller.stale flight.call.generation)

/-- A call resolves alike beside a past. -/
theorem resolve_remember (config : Assistant) (past : Past) (c : Controller) (flight : Flight)
    (reply : Reply) :
    flight.resolve config (c.remember past) reply =
      ((flight.resolve config c reply).1.remember past, (flight.resolve config c reply).2) := by
  unfold Flight.resolve
  split
  · rfl
  · rw [Controller.finish_remember]

namespace Behind

variable {generation : Nat} {flight : Flight}

theorem resolve_lapse (config : Assistant) {c : Controller} (h : flight.Behind c.generation)
    (reply : Reply) : flight.resolve config c reply = (c, flight.lapse reply) := by
  unfold Flight.resolve lapse
  cases hlanding : flight.landing with
  | some landing => rfl
  | none =>
    rw [Controller.finish_of_ne config c _ reply (Nat.ne_of_lt (h.lt hlanding))]
    rfl

theorem lapse (h : flight.Behind generation) (reply : Reply) :
    (flight.lapse reply).Behind generation := by
  unfold Flight.lapse
  split
  · exact h
  · exact Flight.Behind.land reply _ h.le

end Behind

end Flight

/-! ## A timeline beside a past -/

/-- Whether a deed clears the session. -/
def Deed.clears : Deed → Bool
  | .reset _ => true
  | _ => false

/-- What is left of a past after a deed that is not about one of its calls. -/
def Past.after (past : Past) (deed : Deed) : Past :=
  if deed.clears then ⟨[], none, past.flights.map Flight.wipe⟩ else past

/-- No turn of a past is waited for in the generation `base` or later. -/
def Past.Settled (base : Nat) (past : Past) : Prop :=
  ∀ flight ∈ past.flights, flight.Behind base

theorem Past.Settled.after {base : Nat} {past : Past} (h : past.Settled base) (deed : Deed) :
    (past.after deed).Settled base := by
  unfold Past.after
  split
  · exact List.forall_mem_map.mpr fun flight hmem => (h flight hmem).wipe
  · exact h

/-- A controller that began in the generation `base`: the turn in flight, if there is one, is of a
later one. -/
structure Controller.Beyond (base : Nat) (c : Controller) : Prop where
  le : base ≤ c.generation
  token : ∀ generation, c.token = some generation → base < generation

theorem Controller.Beyond.shift {base : Nat} {c : Controller} (h : c.Beyond base) (s : Shift) :
    (c.shift s).Beyond (base + s.generations) := by
  refine ⟨Nat.add_le_add_right h.le _, ?_⟩
  intro generation hsome
  obtain ⟨token, htoken, rfl⟩ := Option.map_eq_some_iff.mp hsome
  exact Nat.add_lt_add_right (h.token token htoken) _

namespace Timeline

/-- The timeline next to a past. -/
def beside (past : Past) (t : Timeline) : Timeline :=
  ⟨t.controller.remember past, past.flights ++ t.flights⟩

/-- The timeline in a history with more turns and more messages. -/
def shift (s : Shift) (t : Timeline) : Timeline :=
  ⟨t.controller.shift s, t.flights.map (Flight.shift s)⟩

variable (config : Assistant) {base : Nat} {past : Past} {t : Timeline}

/-- No deed leads back behind the beginning. -/
theorem Sound.step_beyond (hsound : t.Sound) (h : t.controller.Beyond base) (deed : Deed) :
    (t.step config deed).controller.Beyond base := by
  -- generations only grow, and only a turn that begins sets the token
  generalize hnext : t.step config deed = next
  have hmove := hsound.step_move config deed
  rw [hnext] at hmove
  cases hmove with
  | stay => exact h
  | drop => exact h
  | start =>
    refine ⟨Nat.le_succ_of_le h.le, ?_⟩
    rintro generation ⟨⟩
    exact Nat.lt_succ_of_le h.le
  | finish earlier current reply hbusy =>
    obtain ⟨session, last, hconclude⟩ :=
      t.controller.conclude_rests config current.call.request.mode reply
    rw [hconclude]
    exact ⟨h.le, by rintro generation ⟨⟩⟩
  | withdraw => exact ⟨Nat.le_succ_of_le h.le, by rintro generation ⟨⟩⟩
  | reset stock =>
    cases htoken : t.controller.token with
    | none =>
      rw [Controller.reset_of_idle stock htoken]
      exact ⟨h.le, fun generation hsome => h.token generation hsome⟩
    | some token =>
      rw [Controller.reset_of_requesting stock htoken]
      exact ⟨Nat.le_succ_of_le h.le, by rintro generation ⟨⟩⟩

/-- A deed that is not about an old call goes on as without a past. -/
theorem step_beside (h : past.Settled base) (hbeyond : t.controller.Beyond base) {deed deed' : Deed}
    (hsince : deed.since past.flights.length = some deed') :
    (t.beside past).step config deed = (t.step config deed').beside (past.after deed) ∧
      (t.beside past).answer config deed = t.answer config deed' := by
  cases deed with
  | submit turn =>
    cases hsince
    have hsubmit := t.controller.submit_remember config past turn
    simp only [Timeline.step, answer, beside, hsubmit]
    cases t.controller.submit config turn with
    | error error => exact ⟨rfl, rfl⟩
    | ok begun => exact ⟨congrArg (Timeline.mk _) (List.append_assoc ..), rfl⟩
  | resolve call reply =>
    -- calls are numbered through, those of the past first
    rw [Deed.since] at hsince
    split at hsince
    · cases hsince
    · rename_i hnot
      have hge : past.flights.length ≤ call := Nat.le_of_not_lt hnot
      cases hsince
      have hcall : (t.beside past).flights[call]? = t.flights[call - past.flights.length]? :=
        List.getElem?_append_right hge
      cases hflight : t.flights[call - past.flights.length]? with
      | none =>
        rw [hflight] at hcall
        refine ⟨?_, ?_⟩
        · rw [step_resolve_missing config reply hcall,
            step_resolve_missing config reply hflight]
          rfl
        · simp only [answer, hcall, hflight]
      | some flight =>
        rw [hflight] at hcall
        refine ⟨?_, ?_⟩
        · rw [step_resolve config reply hcall, step_resolve config reply hflight]
          have hresolve := flight.resolve_remember config past t.controller reply
          simp only [beside, hresolve, List.set_append_right _ _ hge]
          rfl
        · have hfinish := t.controller.finish_remember config past flight.call.generation
            flight.call.request.mode reply
          simp only [answer, hcall, hflight]
          rw [show (t.beside past).controller = t.controller.remember past from rfl, hfinish]
  | cancel =>
    cases hsince
    have hcancel := t.controller.cancel_remember config past
    -- the turn that is withdrawn is later than all calls of the past
    have hwithdraw : past.flights.map (Flight.withdraw
        (if (t.controller.cancel config).2 then t.controller.token else none)) =
          past.flights := by
      split
      · exact map_withdraw_eq h hbeyond.token
      · exact map_withdraw_eq h (by simp)
    refine ⟨?_, ?_⟩
    · simp only [Timeline.step, beside, hcancel, List.map_append]
      exact congrArg (fun old => Timeline.mk _ (old ++ _)) hwithdraw
    · simp only [answer, beside, hcancel]
  | reset stock =>
    cases hsince
    have hwipe : past.flights.map (Flight.wipe ∘ Flight.withdraw t.controller.token) =
        past.flights.map Flight.wipe := by
      rw [← List.map_map, map_withdraw_eq h hbeyond.token]
    refine ⟨?_, rfl⟩
    -- nothing but the old calls is left of the past
    simp only [Timeline.step, beside, Controller.reset_remember, List.map_append]
    rw [show past.after (.reset stock) = ⟨[], none, past.flights.map Flight.wipe⟩ from rfl,
      Controller.remember_nothing]
    exact congrArg (fun old => Timeline.mk _ (old ++ _)) hwipe

/-- The resolution of an old call is a matter of the past. -/
theorem step_beside_old (h : past.Settled base) (hbeyond : t.controller.Beyond base) {call : Nat}
    {flight : Flight} (hflight : past.flights[call]? = some flight) (reply : Reply) :
    (t.beside past).step config (.resolve call reply) =
        t.beside { past with flights := past.flights.set call (flight.lapse reply) } ∧
      (t.beside past).answer config (.resolve call reply) = flight.lapseAnswer := by
  have hlt : call < past.flights.length := (List.getElem?_eq_some_iff.mp hflight).1
  have hcall : (t.beside past).flights[call]? = some flight := by
    rw [← hflight]
    exact List.getElem?_append_left hlt
  -- the call is of a generation that is over, so the controller takes no notice of it
  have hbehind : flight.Behind (t.beside past).controller.generation :=
    (h flight (List.mem_of_getElem? hflight)).mono hbeyond.le
  refine ⟨?_, ?_⟩
  · rw [step_resolve config reply hcall, hbehind.resolve_lapse config reply]
    simp only [beside, List.set_append_left _ _ hlt]
    rfl
  · simp only [answer, hcall, Flight.lapseAnswer]
    split
    · rfl
    · rename_i hopen
      have hnone : flight.landing = none := by simpa using hopen
      rw [Controller.finish_of_ne config _ _ _ (Nat.ne_of_lt (hbehind.lt hnone))]

end Timeline

end Machining.Session
