import Machining.Session.Run

/-!
# Timelines of a controller

A timeline is a controller together with all calls that its turns have made, and what has become of
each of them.  Four things can happen to it, in any order: a turn is submitted, a call resolves, the
turn in flight is withdrawn, the session is reset.  Any number of calls of withdrawn turns may still
be in flight, and each of them resolves at some time with a reply of its own, or never.

## What holds at every moment

A timeline is either `Resting` or `Busy`.  While it rests, every call in flight was overtaken by a
cancel or a reset and is of an older generation.  While it is busy, the last call alone is of the
current generation.  `after_sound` says so of every timeline that begins with a new controller.
-/

namespace Machining.Session

open Machining.Config Machining.Document Machining.Job

/-! ## What can happen -/

/-- What can happen to a controller and the calls of its turns. -/
inductive Deed where
  /-- A turn is submitted. -/
  | submit (turn : Turn)
  /-- A call resolves with a reply. -/
  | resolve (call : Nat) (reply : Reply)
  /-- The turn in flight is withdrawn. -/
  | cancel
  /-- The session is reset. -/
  | reset (stock : Option (Stock Float))

/-- A call with what has become of it. -/
structure Flight where
  /-- The call. -/
  call : Call
  /-- Whether a cancel or a reset came while the call was in flight. -/
  superseded : Bool
  /-- The reply that the call resolved with and the outcome of its turn; none while it is in
  flight. -/
  landing : Option (Reply × Outcome)
  /-- Whether a reset came after the call had resolved. -/
  wiped : Bool

namespace Flight

/-- The flight of a call that is just made. -/
def launch (generation : Nat) (request : Request) : Flight :=
  ⟨⟨generation, request, false⟩, false, none, false⟩

/-- A call in flight is overtaken; the token of the withdrawn turn is cancelled. -/
def withdraw (token : Option Nat) (flight : Flight) : Flight :=
  { flight with
    call :=
      if token = some flight.call.generation then { flight.call with cancelled := true }
      else flight.call
    superseded := flight.superseded || flight.landing.isNone }

/-- A call that has resolved lies before a reset. -/
def wipe (flight : Flight) : Flight :=
  { flight with wiped := flight.wiped || flight.landing.isSome }

/-- The call resolves. -/
def land (flight : Flight) (reply : Reply) (outcome : Outcome) : Flight :=
  { flight with landing := some (reply, outcome) }

/-- What becomes of a controller and of a call when the call resolves.  One that has resolved does
not resolve again. -/
def resolve (config : Assistant) (c : Controller) (flight : Flight) (reply : Reply) :
    Controller × Flight :=
  if flight.landing.isSome then (c, flight)
  else
    let (next, outcome) := c.finish config flight.call.generation flight.call.request.mode reply
    (next, flight.land reply outcome)

/-- Whether the call is in flight although a cancel or a reset has overtaken it. -/
def isLate (flight : Flight) : Bool := flight.landing.isNone && flight.superseded

@[simp] theorem withdraw_landing (token : Option Nat) (flight : Flight) :
    (flight.withdraw token).landing = flight.landing := rfl

@[simp] theorem withdraw_wiped (token : Option Nat) (flight : Flight) :
    (flight.withdraw token).wiped = flight.wiped := rfl

@[simp] theorem withdraw_superseded (token : Option Nat) (flight : Flight) :
    (flight.withdraw token).superseded = (flight.superseded || flight.landing.isNone) := rfl

@[simp] theorem withdraw_generation (token : Option Nat) (flight : Flight) :
    (flight.withdraw token).call.generation = flight.call.generation := by
  unfold withdraw
  split <;> rfl

@[simp] theorem withdraw_request (token : Option Nat) (flight : Flight) :
    (flight.withdraw token).call.request = flight.call.request := by
  unfold withdraw
  split <;> rfl

@[simp] theorem wipe_landing (flight : Flight) : flight.wipe.landing = flight.landing := rfl

@[simp] theorem wipe_superseded (flight : Flight) :
    flight.wipe.superseded = flight.superseded := rfl

@[simp] theorem wipe_call (flight : Flight) : flight.wipe.call = flight.call := rfl

@[simp] theorem resolve_call (config : Assistant) (c : Controller) (flight : Flight)
    (reply : Reply) : (flight.resolve config c reply).2.call = flight.call := by
  unfold resolve
  split <;> rfl

@[simp] theorem resolve_superseded (config : Assistant) (c : Controller) (flight : Flight)
    (reply : Reply) : (flight.resolve config c reply).2.superseded = flight.superseded := by
  unfold resolve
  split <;> rfl

theorem isLate_eq_true {flight : Flight} :
    flight.isLate = true ↔ flight.landing = none ∧ flight.superseded = true := by
  simp [isLate]

end Flight

/-- A controller with all calls that its turns have made. -/
structure Timeline where
  /-- The controller. -/
  controller : Controller
  /-- The calls in the order in which their turns were submitted. -/
  flights : List Flight

namespace Timeline

/-- A timeline before anything has happened. -/
def start (session : Conversation) : Timeline := ⟨Controller.new session, []⟩

/-- What one deed makes of a timeline. -/
def step (config : Assistant) (t : Timeline) : Deed → Timeline
  | .submit turn =>
    match t.controller.submit config turn with
    | .error _ => t
    | .ok (controller, request) =>
      ⟨controller, t.flights ++ [Flight.launch controller.generation request]⟩
  | .resolve call reply =>
    match t.flights[call]? with
    | none => t
    | some flight =>
      let (controller, resolved) := flight.resolve config t.controller reply
      ⟨controller, t.flights.set call resolved⟩
  | .cancel =>
    let (controller, happened) := t.controller.cancel config
    let token := if happened then t.controller.token else none
    ⟨controller, t.flights.map (Flight.withdraw token)⟩
  | .reset stock =>
    ⟨t.controller.reset stock,
      t.flights.map fun flight => (flight.withdraw t.controller.token).wipe⟩

/-- What deeds make of a timeline, one after another. -/
def run (config : Assistant) (t : Timeline) (deeds : List Deed) : Timeline :=
  deeds.foldl (step config) t

/-- The timeline of a new controller after some deeds. -/
def after (config : Assistant) (session : Conversation) (deeds : List Deed) : Timeline :=
  run config (start session) deeds

/-- A call that is in flight although a cancel or a reset has come since it was made. -/
def Superseded (t : Timeline) (call : Nat) : Prop :=
  ∃ flight, t.flights[call]? = some flight ∧ flight.isLate = true

@[simp] theorem run_nil (config : Assistant) (t : Timeline) : t.run config [] = t := rfl

@[simp] theorem run_cons (config : Assistant) (t : Timeline) (deed : Deed) (deeds : List Deed) :
    t.run config (deed :: deeds) = (t.step config deed).run config deeds := rfl

theorem run_append (config : Assistant) (t : Timeline) (first second : List Deed) :
    t.run config (first ++ second) = (t.run config first).run config second :=
  List.foldl_append

theorem after_append (config : Assistant) (session : Conversation) (first second : List Deed) :
    after config session (first ++ second) = (after config session first).run config second :=
  run_append config _ first second

end Timeline

/-! ## What the controller's operations do to its generation -/

namespace Controller

/-- A turn begins only while none is in flight, and then it is in flight in a new generation. -/
theorem submit_eq_ok {config : Assistant} {c next : Controller} {turn : Turn} {request : Request}
    (h : c.submit config turn = .ok (next, request)) :
    c.phase ≠ .requesting ∧
      ∃ label mode, next = c.begin label turn ∧ request = turn.request config.session mode := by
  unfold submit at h
  split at h
  · cases h
  · rename_i hphase
    split at h
    · cases h
    · rename_i mode _
      split at h
      · cases h
      · rename_i label _
        cases h
        exact ⟨hphase, label, mode, rfl, rfl⟩

/-- However a turn of the current generation ends, the controller rests in the same generation. -/
theorem conclude_rests (config : Assistant) (c : Controller) (mode : Mode) (reply : Reply) :
    ∃ session last, (c.conclude config mode reply).1 =
      { c with session, token := none, phase := .idle, last } := by
  -- each way to end puts the token down and goes back to idle
  cases reply with
  | aborted => exact ⟨_, _, rfl⟩
  | failure failure =>
    cases hkind : failure.kind with
    | error error =>
      simp only [conclude, hkind]
      exact ⟨_, _, rfl⟩
    | ok kind =>
      simp only [conclude, hkind]
      exact ⟨_, _, rfl⟩
  | result analysis =>
    cases hout : outputOf config c.session.ledger mode analysis with
    | error error =>
      simp only [conclude, hout]
      exact ⟨_, _, rfl⟩
    | ok output =>
      simp only [conclude, hout]
      exact ⟨_, _, rfl⟩

theorem finish_of_eq (config : Assistant) (c : Controller) {generation : Nat} (mode : Mode)
    (reply : Reply) (h : generation = c.generation) :
    c.finish config generation mode reply = c.conclude config mode reply := by
  simp [finish, h]

/-- Without a turn in flight there is nothing to withdraw. -/
theorem cancel_of_idle (config : Assistant) {c : Controller} (h : c.phase = .idle) :
    c.cancel config = (c, false) := by
  simp [cancel, h]

/-- The turn in flight is withdrawn with one message, and the generation moves on. -/
theorem cancel_of_requesting (config : Assistant) {c : Controller} {generation : Nat}
    (hphase : c.phase = .requesting) (htoken : c.token = some generation) :
    ∃ last, c.cancel config =
      ({ c.withdraw with
          session := (c.session.postFailure .cancelled config.session.messages.stopped).1
          last }, true) := by
  unfold cancel
  rw [hphase, htoken]
  exact ⟨_, rfl⟩

theorem reset_of_idle {c : Controller} (stock : Option (Stock Float)) (h : c.token = none) :
    c.reset stock =
      { c with session := c.session.reset stock, phase := .idle, last := none } := by
  simp [reset, h]

theorem reset_of_requesting {c : Controller} {generation : Nat} (stock : Option (Stock Float))
    (h : c.token = some generation) :
    c.reset stock = { c.withdraw with session := c.session.reset stock, last := none } := by
  simp [reset, h, withdraw]

end Controller

/-! ## Resting and busy timelines -/

/-- A call that is no business of the current generation: if it is still in flight, it was overtaken
and is of an older generation. -/
structure Flight.Behind (generation : Nat) (flight : Flight) : Prop where
  /-- No call is of a later generation. -/
  le : flight.call.generation ≤ generation
  /-- A call in flight was overtaken. -/
  superseded : flight.landing = none → flight.superseded = true
  /-- A call in flight is of an older generation. -/
  lt : flight.landing = none → flight.call.generation < generation

namespace Timeline

/-- No turn is in flight. -/
structure Resting (t : Timeline) : Prop where
  phase : t.controller.phase = .idle
  token : t.controller.token = none
  behind : ∀ flight ∈ t.flights, flight.Behind t.controller.generation

/-- The turn of the last call is in flight, in the current generation. -/
structure Busy (t : Timeline) (earlier : List Flight) (current : Flight) : Prop where
  phase : t.controller.phase = .requesting
  token : t.controller.token = some t.controller.generation
  flights_eq : t.flights = earlier ++ [current]
  generation_eq : current.call.generation = t.controller.generation
  landing : current.landing = none
  superseded : current.superseded = false
  wiped : current.wiped = false
  behind : ∀ flight ∈ earlier, flight.Behind t.controller.generation

/-- At every moment a timeline rests or is busy. -/
def Sound (t : Timeline) : Prop :=
  t.Resting ∨ ∃ earlier current, t.Busy earlier current

theorem start_resting (session : Conversation) : (start session).Resting :=
  ⟨rfl, rfl, fun _ hmem => by cases hmem⟩

end Timeline

namespace Flight.Behind

variable {generation : Nat} {flight : Flight}

theorem mono (h : flight.Behind generation) {later : Nat} (hle : generation ≤ later) :
    flight.Behind later :=
  ⟨Nat.le_trans h.le hle, h.superseded, fun hopen => Nat.lt_of_lt_of_le (h.lt hopen) hle⟩

/-- A call that is overtaken falls behind the next generation. -/
theorem withdraw (token : Option Nat) (h : flight.call.generation ≤ generation) :
    (flight.withdraw token).Behind (generation + 1) := by
  refine ⟨?_, ?_, ?_⟩
  · rw [Flight.withdraw_generation]
    exact Nat.le_succ_of_le h
  · intro hopen
    rw [Flight.withdraw_landing] at hopen
    simp [hopen]
  · intro _
    rw [Flight.withdraw_generation]
    exact Nat.lt_succ_of_le h

/-- Overtaking a call that is behind leaves it behind. -/
theorem withdraw_self (token : Option Nat) (h : flight.Behind generation) :
    (flight.withdraw token).Behind generation := by
  refine ⟨?_, ?_, ?_⟩
  · rw [Flight.withdraw_generation]
    exact h.le
  · intro hopen
    rw [Flight.withdraw_landing] at hopen
    simp [hopen]
  · intro hopen
    rw [Flight.withdraw_generation]
    exact h.lt hopen

theorem wipe (h : flight.Behind generation) : flight.wipe.Behind generation :=
  ⟨h.le, h.superseded, h.lt⟩

/-- A call that has resolved is behind its own generation and all later ones. -/
theorem land (reply : Reply) (outcome : Outcome) (h : flight.call.generation ≤ generation) :
    (flight.land reply outcome).Behind generation := by
  refine ⟨h, ?_, ?_⟩
  · intro hopen
    cases hopen
  · intro hopen
    cases hopen

/-- A call that is behind has resolved already, or its reply is dropped. -/
theorem resolve_eq (config : Assistant) {c : Controller} (h : flight.Behind c.generation)
    (reply : Reply) :
    flight.resolve config c reply = (c, flight) ∨
      flight.landing = none ∧ flight.resolve config c reply =
        (c, flight.land reply (Controller.stale flight.call.generation)) := by
  unfold Flight.resolve
  cases hlanding : flight.landing with
  | some landing => exact Or.inl rfl
  | none =>
    -- the test of generations fails, so nothing of the reply is looked at
    have hne : flight.call.generation ≠ c.generation := Nat.ne_of_lt (h.lt hlanding)
    rw [Controller.finish_of_ne config c _ reply hne]
    exact Or.inr ⟨rfl, rfl⟩

/-- A call that is behind resolves without a trace on the controller. -/
theorem resolve (config : Assistant) {c : Controller} (h : flight.Behind c.generation)
    (reply : Reply) :
    (flight.resolve config c reply).1 = c ∧
      (flight.resolve config c reply).2.Behind c.generation := by
  rcases h.resolve_eq config reply with hsame | ⟨_, hdropped⟩
  · rw [hsame]
    exact ⟨rfl, h⟩
  · rw [hdropped]
    exact ⟨rfl, Flight.Behind.land reply _ h.le⟩

end Flight.Behind

/-! ## What a step does -/

/-- Replacing an entry by one with the same view leaves all views as they are. -/
theorem map_set_of_eq {β γ : Type} {f : β → γ} {entries : List β} {i : Nat} {old new : β}
    (hold : entries[i]? = some old) (hview : f new = f old) :
    (entries.set i new).map f = entries.map f := by
  obtain ⟨hlt, rfl⟩ := List.getElem?_eq_some_iff.mp hold
  have hlt' : i < (entries.map f).length := by
    rw [List.length_map]
    exact hlt
  have hget : f entries[i] = (entries.map f)[i] := by
    rw [List.getElem_map]
  rw [List.map_set, hview, hget]
  exact List.set_getElem_self hlt'

/-- What a part of the views holds does not change either. -/
theorem filterMap_set_of_eq {β γ : Type} {f : β → Option γ} {entries : List β} {i : Nat}
    {old new : β} (hold : entries[i]? = some old) (hview : f new = f old) :
    (entries.set i new).filterMap f = entries.filterMap f := by
  have hid (l : List β) : l.filterMap f = (l.map f).filterMap id := by
    rw [List.filterMap_map]
    rfl
  rw [hid, hid, map_set_of_eq hold hview]

namespace Timeline

variable (config : Assistant) {t : Timeline}

theorem step_resolve {call : Nat} {flight : Flight} (reply : Reply)
    (hflight : t.flights[call]? = some flight) :
    t.step config (.resolve call reply) =
      ⟨(flight.resolve config t.controller reply).1,
        t.flights.set call (flight.resolve config t.controller reply).2⟩ := by
  simp only [step, hflight]

theorem step_resolve_missing {call : Nat} (reply : Reply) (hflight : t.flights[call]? = none) :
    t.step config (.resolve call reply) = t := by
  simp only [step, hflight]

/-- The calls as the analyzer has them, with their tokens, are not touched by a resolution. -/
theorem calls_step_resolve (t : Timeline) (call : Nat) (reply : Reply) :
    (t.step config (.resolve call reply)).flights.map Flight.call =
      t.flights.map Flight.call := by
  cases hflight : t.flights[call]? with
  | none => rw [step_resolve_missing config reply hflight]
  | some flight =>
    rw [step_resolve config reply hflight]
    exact map_set_of_eq hflight (Flight.resolve_call ..)

/-- The call of the current generation ends its turn. -/
theorem Busy.step_resolve {earlier : List Flight} {current : Flight} (h : t.Busy earlier current)
    (reply : Reply) :
    t.step config (.resolve earlier.length reply) =
      ⟨(t.controller.conclude config current.call.request.mode reply).1,
        earlier ++ [current.land reply
          (t.controller.conclude config current.call.request.mode reply).2]⟩ := by
  have hflight : t.flights[earlier.length]? = some current := by
    rw [h.flights_eq]
    simp
  have hresolve : current.resolve config t.controller reply =
      ((t.controller.conclude config current.call.request.mode reply).1,
        current.land reply
          (t.controller.conclude config current.call.request.mode reply).2) := by
    simp only [Flight.resolve, h.landing]
    rw [Controller.finish_of_eq config t.controller _ reply h.generation_eq]
    rfl
  rw [Timeline.step_resolve config reply hflight, hresolve, h.flights_eq]
  simp

theorem Busy.step_submit {earlier : List Flight} {current : Flight} (h : t.Busy earlier current)
    (turn : Turn) : t.step config (.submit turn) = t := by
  simp [step, Controller.submit, h.phase]

theorem Busy.step_cancel {earlier : List Flight} {current : Flight} (h : t.Busy earlier current) :
    ∃ last, t.step config .cancel =
      ⟨{ t.controller.withdraw with
          session :=
            (t.controller.session.postFailure .cancelled config.session.messages.stopped).1
          last },
        t.flights.map (Flight.withdraw (some t.controller.generation))⟩ := by
  obtain ⟨last, hcancel⟩ := Controller.cancel_of_requesting config h.phase h.token
  refine ⟨last, ?_⟩
  simp only [step, hcancel]
  rw [if_pos trivial, h.token]

/-- A turn that is submitted while none is in flight is refused, or it begins. -/
theorem Resting.step_submit (h : t.Resting) (turn : Turn) :
    t.step config (.submit turn) = t ∨
      ∃ label mode, t.step config (.submit turn) =
        ⟨t.controller.begin label turn,
          t.flights ++ [Flight.launch (t.controller.generation + 1)
            (turn.request config.session mode)]⟩ := by
  have hphase := h.phase
  simp only [step]
  cases hsubmit : t.controller.submit config turn with
  | error error => exact Or.inl rfl
  | ok answer =>
    obtain ⟨next, request⟩ := answer
    obtain ⟨_, label, mode, rfl, rfl⟩ := Controller.submit_eq_ok hsubmit
    exact Or.inr ⟨label, mode, rfl⟩

theorem Resting.step_cancel (h : t.Resting) :
    t.step config .cancel = ⟨t.controller, t.flights.map (Flight.withdraw none)⟩ := by
  simp [step, Controller.cancel_of_idle config h.phase]

/-! ## Soundness is kept -/

/-- Every call of a sound timeline is of the current generation or an older one. -/
theorem Sound.generation_le (h : t.Sound) {flight : Flight} (hmem : flight ∈ t.flights) :
    flight.call.generation ≤ t.controller.generation := by
  rcases h with hrest | ⟨earlier, current, hbusy⟩
  · exact (hrest.behind flight hmem).le
  · rw [hbusy.flights_eq] at hmem
    rcases List.mem_append.mp hmem with hearlier | hcurrent
    · exact (hbusy.behind flight hearlier).le
    · rw [List.mem_singleton.mp hcurrent]
      exact Nat.le_of_eq hbusy.generation_eq

/-- Calls that are behind stay so when one of them is seen anew. -/
theorem behind_set {flights : List Flight} {generation call : Nat} {resolved : Flight}
    (h : ∀ flight ∈ flights, flight.Behind generation) (hresolved : resolved.Behind generation) :
    ∀ flight ∈ flights.set call resolved, flight.Behind generation := by
  intro flight hmem
  rcases List.mem_or_eq_of_mem_set hmem with hold | rfl
  · exact h flight hold
  · exact hresolved

theorem Resting.step_resolve (h : t.Resting) (call : Nat) (reply : Reply) :
    (t.step config (.resolve call reply)).Resting := by
  cases hflight : t.flights[call]? with
  | none =>
    rw [step_resolve_missing config reply hflight]
    exact h
  | some flight =>
    obtain ⟨hsame, hbehind⟩ :=
      (h.behind flight (List.mem_of_getElem? hflight)).resolve config reply
    rw [Timeline.step_resolve config reply hflight, hsame]
    exact ⟨h.phase, h.token, behind_set h.behind hbehind⟩

/-- While the last call is in flight, an earlier one resolves without a trace on the controller. -/
theorem Busy.step_resolve_earlier {earlier : List Flight} {current : Flight}
    (h : t.Busy earlier current) {call : Nat} (hlt : call < earlier.length) (reply : Reply) :
    (t.step config (.resolve call reply)).controller = t.controller ∧
      ∃ earlier', (t.step config (.resolve call reply)).Busy earlier' current := by
  have hflight : t.flights[call]? = some earlier[call] := by
    rw [h.flights_eq, List.getElem?_append_left hlt, List.getElem?_eq_getElem hlt]
  obtain ⟨hsame, hbehind⟩ := (h.behind _ (List.getElem_mem hlt)).resolve config reply
  rw [Timeline.step_resolve config reply hflight, hsame]
  refine ⟨rfl, earlier.set call (earlier[call].resolve config t.controller reply).2, h.phase,
    h.token, ?_, h.generation_eq, h.landing, h.superseded, h.wiped, behind_set h.behind hbehind⟩
  rw [h.flights_eq, List.set_append_left _ _ hlt]

/-- When its call resolves, a busy timeline comes to rest. -/
theorem Busy.step_resolve_resting {earlier : List Flight} {current : Flight}
    (h : t.Busy earlier current) (reply : Reply) :
    (t.step config (.resolve earlier.length reply)).Resting := by
  obtain ⟨session, last, hconclude⟩ :=
    Controller.conclude_rests config t.controller current.call.request.mode reply
  rw [h.step_resolve config reply]
  refine ⟨by rw [hconclude], by rw [hconclude], ?_⟩
  rw [hconclude]
  intro flight hmem
  rcases List.mem_append.mp hmem with hearlier | hcurrent
  · exact h.behind flight hearlier
  · rw [List.mem_singleton.mp hcurrent]
    exact Flight.Behind.land reply _ (Nat.le_of_eq h.generation_eq)

/-- Each deed leaves a sound timeline sound. -/
theorem Sound.step (h : t.Sound) (deed : Deed) : (t.step config deed).Sound := by
  have hle : ∀ flight ∈ t.flights, flight.call.generation ≤ t.controller.generation :=
    fun _ hmem => h.generation_le hmem
  cases deed with
  | submit turn =>
    rcases h with hrest | ⟨earlier, current, hbusy⟩
    · rcases hrest.step_submit config turn with hrefused | ⟨label, mode, hbegun⟩
      · rw [hrefused]
        exact Or.inl hrest
      · rw [hbegun]
        -- the new call is the last one, and the only one of the new generation
        refine Or.inr ⟨t.flights, _, rfl, rfl, rfl, rfl, rfl, rfl, rfl, ?_⟩
        intro flight hmem
        exact (hrest.behind flight hmem).mono (Nat.le_succ _)
    · rw [hbusy.step_submit config turn]
      exact Or.inr ⟨earlier, current, hbusy⟩
  | resolve call reply =>
    rcases h with hrest | ⟨earlier, current, hbusy⟩
    · exact Or.inl (hrest.step_resolve config call reply)
    -- an earlier call is dropped, the last one ends its turn, and a later one does not exist
    · rcases Nat.lt_trichotomy call earlier.length with hlt | rfl | hgt
      · obtain ⟨_, earlier', hbusy'⟩ := hbusy.step_resolve_earlier config hlt reply
        exact Or.inr ⟨earlier', current, hbusy'⟩
      · exact Or.inl (hbusy.step_resolve_resting config reply)
      · have hmissing : t.flights[call]? = none := by
          rw [hbusy.flights_eq, List.getElem?_eq_none_iff, List.length_append]
          exact hgt
        rw [step_resolve_missing config reply hmissing]
        exact Or.inr ⟨earlier, current, hbusy⟩
  | cancel =>
    refine Or.inl ?_
    rcases h with hrest | ⟨earlier, current, hbusy⟩
    · rw [hrest.step_cancel config]
      refine ⟨hrest.phase, hrest.token, List.forall_mem_map.mpr ?_⟩
      intro old hold
      exact (hrest.behind old hold).withdraw_self none
    · obtain ⟨last, hstep⟩ := hbusy.step_cancel config
      rw [hstep]
      -- the generation moves on, and leaves the call in flight behind
      refine ⟨rfl, rfl, List.forall_mem_map.mpr ?_⟩
      intro old hold
      exact Flight.Behind.withdraw _ (hle old hold)
  | reset stock =>
    refine Or.inl ?_
    simp only [Timeline.step]
    rcases h with hrest | ⟨earlier, current, hbusy⟩
    · rw [Controller.reset_of_idle stock hrest.token]
      refine ⟨rfl, hrest.token, List.forall_mem_map.mpr ?_⟩
      intro old hold
      exact ((hrest.behind old hold).withdraw_self _).wipe
    · rw [Controller.reset_of_requesting stock hbusy.token]
      refine ⟨rfl, rfl, List.forall_mem_map.mpr ?_⟩
      intro old hold
      exact (Flight.Behind.withdraw _ (hle old hold)).wipe

theorem Sound.run (h : t.Sound) (deeds : List Deed) : (t.run config deeds).Sound := by
  induction deeds generalizing t with
  | nil => exact h
  | cons deed deeds ih => exact ih (h.step config deed)

/-- A call that was overtaken is behind. -/
theorem Sound.behind (h : t.Sound) {flight : Flight} (hmem : flight ∈ t.flights)
    (hsuperseded : flight.superseded = true) : flight.Behind t.controller.generation := by
  rcases h with hrest | ⟨earlier, current, hbusy⟩
  · exact hrest.behind flight hmem
  · rw [hbusy.flights_eq] at hmem
    rcases List.mem_append.mp hmem with hearlier | hcurrent
    · exact hbusy.behind flight hearlier
    · rw [List.mem_singleton.mp hcurrent, hbusy.superseded] at hsuperseded
      cases hsuperseded

private theorem step_resolve_behind {call : Nat} {flight : Flight}
    (hflight : t.flights[call]? = some flight) (h : flight.Behind t.controller.generation)
    (reply : Reply) :
    t.step config (.resolve call reply) = t ∨
      flight.landing = none ∧ t.step config (.resolve call reply) =
        ⟨t.controller,
          t.flights.set call (flight.land reply (Controller.stale flight.call.generation))⟩ := by
  rw [Timeline.step_resolve config reply hflight]
  rcases h.resolve_eq config reply with hsame | ⟨hlanding, hdropped⟩
  · rw [hsame]
    obtain ⟨hlt, rfl⟩ := List.getElem?_eq_some_iff.mp hflight
    exact Or.inl (by rw [List.set_getElem_self hlt])
  · rw [hdropped]
    exact Or.inr ⟨hlanding, rfl⟩

/-- Every call is behind, but for the last one of a busy timeline. -/
theorem Sound.behind_or_last (h : t.Sound) {call : Nat} {flight : Flight}
    (hflight : t.flights[call]? = some flight) :
    flight.Behind t.controller.generation ∨
      ∃ earlier current, t.Busy earlier current ∧ call = earlier.length := by
  rcases h with hrest | ⟨earlier, current, hbusy⟩
  · exact Or.inl (hrest.behind flight (List.mem_of_getElem? hflight))
  · have hlt := (List.getElem?_eq_some_iff.mp hflight).1
    rw [hbusy.flights_eq, List.length_append, List.length_singleton] at hlt
    rcases Nat.lt_succ_iff_lt_or_eq.mp hlt with hlt' | heq
    · rw [hbusy.flights_eq, List.getElem?_append_left hlt'] at hflight
      exact Or.inl (hbusy.behind flight (List.mem_of_getElem? hflight))
    · exact Or.inr ⟨earlier, current, hbusy, heq⟩

/-- What a resolution can do: nothing, or a reply is dropped, or the turn in flight ends. -/
theorem Sound.resolve_cases (h : t.Sound) (call : Nat) (reply : Reply) :
    t.step config (.resolve call reply) = t ∨
      (∃ flight, t.flights[call]? = some flight ∧ flight.landing = none ∧
        t.step config (.resolve call reply) =
          ⟨t.controller,
            t.flights.set call (flight.land reply (Controller.stale flight.call.generation))⟩) ∨
      ∃ earlier current, t.Busy earlier current ∧ call = earlier.length := by
  cases hflight : t.flights[call]? with
  | none => exact Or.inl (step_resolve_missing config reply hflight)
  | some flight =>
    rcases h.behind_or_last hflight with hbehind | hcurrent
    · rcases step_resolve_behind config hflight hbehind reply with hsame | ⟨hlanding, hdropped⟩
      · exact Or.inl hsame
      · exact Or.inr (Or.inl ⟨flight, rfl, hlanding, hdropped⟩)
    · exact Or.inr (Or.inr hcurrent)

/-- At every moment the timeline of a new controller rests or is busy. -/
theorem after_sound (session : Conversation) (deeds : List Deed) :
    (after config session deeds).Sound :=
  Sound.run config (Or.inl (start_resting session)) deeds

end Timeline

/-! ## A sample conversation -/

/-- A box of aluminum. -/
def sampleStock : Stock Float := ⟨.rectangular, 100, 60, 20, 0, "Aluminum"⟩

/-- An assistant with short answers. -/
def sampleAssistant : Assistant where
  compiler := ⟨"SAMPLE", "G54", 3, 1, 5, 1, 0.5, 0.3, true⟩
  session :=
    ⟨"plain", sampleStock, [(fallbackKey, "Look at this.")], "File \x7bfile_name\x7d",
      ⟨"Stopped.", "Used up.", "Unusable.", "Failed."⟩⟩

/-- A turn in a mode. -/
def sampleTurn (mode : Mode) : Turn := ⟨some "a hole", none, none, .text mode.name⟩

/-- A hole that is drilled in one pass. -/
def sampleHole (x : Float) : Operation Float := ⟨x, 30, 20, 10, 200, 1500, 8, .drill, 0, .drill 8⟩

/-- An answer with a hole. -/
def sampleAnalysis (x : Float) : Analysis := ⟨sampleHole x, sampleStock, "A hole.", none⟩

end Machining.Session
