import Machining.Proofs.Program.Reuse
import Machining.Proofs.Session.Moves

/-!
# A session that is reset is as good as new

After a reset a controller still knows how many generations and how many messages there have been,
the calls of withdrawn turns may still resolve, and its compiler has been used.  None of this can be
told from outside: whatever is done to the controller from then on, a new one over a new session
with the same stock does the same, but for the numbers of the generations and of the messages, which
lie apart by what was counted before the reset.

## How it is shown

* `Shift` is how far two histories lie apart, and `shift` moves the numbers of a message, an
  outcome, a controller or a call by it.  Every operation of a controller commutes with it.
* `Mirrors` relates a timeline with calls from before the reset to one without; `Mirrors.step` and
  `Mirrors.step_old` say that a deed keeps the relation, whether it is about new turns or old calls.
-/

namespace Machining.Session

open Machining.Config Machining.Job Machining.Program

/-- How far two histories of a session lie apart in what they count. -/
structure Shift where
  /-- In generations. -/
  generations : Nat
  /-- In messages. -/
  messages : Nat

/-! ## What a deed is told -/

/-- What comes of a deed at once. -/
inductive Answer where
  /-- A turn is refused. -/
  | refused (error : SubmitError)
  /-- A turn begins, and this is asked. -/
  | begun (generation : Nat) (request : Request)
  /-- The turn of a call ends. -/
  | ended (outcome : Outcome)
  /-- There was a turn to withdraw, or none. -/
  | withdrawn (happened : Bool)
  /-- The session is cleared. -/
  | cleared
  /-- There is no such call in flight. -/
  | nothing

/-- What comes of a deed at a moment. -/
def Timeline.answer (config : Assistant) (t : Timeline) : Deed → Answer
  | .submit turn =>
    match t.controller.submit config turn with
    | .error error => .refused error
    | .ok (controller, request) => .begun controller.generation request
  | .resolve call reply =>
    match t.flights[call]? with
    | none => .nothing
    | some flight =>
      if flight.landing.isSome then .nothing
      else .ended (t.controller.finish config flight.call.generation flight.call.request.mode
        reply).2
  | .cancel => .withdrawn (t.controller.cancel config).2
  | .reset _ => .cleared

/-- A deed as it looks to someone who does not know of the first calls; none if it is about one of
them. -/
def Deed.since (calls : Nat) : Deed → Option Deed
  | .resolve call reply => if call < calls then none else some (.resolve (call - calls) reply)
  | deed => some deed

/-! ## Numbers that lie apart -/

/-- The message in a history with more messages. -/
def Message.shift (s : Shift) (message : Message) : Message :=
  { message with number := message.number + s.messages }

/-- The conversation in a history with more messages. -/
def Conversation.shift (s : Shift) (talk : Conversation) : Conversation :=
  { talk with messages := talk.messages.map (Message.shift s), posted := talk.posted + s.messages }

/-- The outcome in a history with more turns. -/
def Outcome.shift (s : Shift) (outcome : Outcome) : Outcome :=
  { outcome with
    generation := outcome.generation + s.generations
    message := outcome.message.map (Message.shift s) }

/-- The controller in a history with more turns. -/
def Controller.shift (s : Shift) (c : Controller) : Controller :=
  { c with
    session := c.session.shift s
    generation := c.generation + s.generations
    token := c.token.map (· + s.generations)
    last := c.last.map (Outcome.shift s) }

/-- The call in a history with more turns. -/
def Flight.shift (s : Shift) (flight : Flight) : Flight :=
  { flight with
    call := { flight.call with generation := flight.call.generation + s.generations }
    landing := flight.landing.map fun (reply, outcome) => (reply, outcome.shift s) }

/-- The refusal in a history with more turns. -/
def SubmitError.shift (s : Shift) : SubmitError → SubmitError
  | inFlight generation => inFlight (generation + s.generations)
  | error => error

/-- The answer in a history with more turns. -/
def Answer.shift (s : Shift) : Answer → Answer
  | refused error => refused (error.shift s)
  | begun generation request => begun (generation + s.generations) request
  | ended outcome => ended (outcome.shift s)
  | answer => answer

variable (s : Shift)

namespace Conversation

theorem nextMessage_shift (talk : Conversation) (role : Role) (text : String) :
    (talk.shift s).nextMessage role text = (talk.nextMessage role text).shift s := by
  simp [nextMessage, shift, Message.shift, Nat.add_right_comm]

theorem post_shift (talk : Conversation) (message : Message) :
    (talk.shift s).post (message.shift s) = (talk.post message).shift s := by
  simp [post, shift, Nat.add_right_comm]

theorem postUser_shift (talk : Conversation) (text : String) (attachment : Option String) :
    (talk.shift s).postUser text attachment =
      ((talk.postUser text attachment).1.shift s, (talk.postUser text attachment).2.shift s) := by
  simp only [postUser, nextMessage_shift]
  rw [← post_shift]
  rfl

theorem postResult_shift (talk : Conversation) (output : Output Float) :
    (talk.shift s).postResult output =
      ((talk.postResult output).1.shift s, (talk.postResult output).2.shift s) := by
  simp only [postResult, nextMessage_shift]
  rw [← post_shift]
  rfl

theorem postFailure_shift (talk : Conversation) (kind : FailureKind) (text : String) :
    (talk.shift s).postFailure kind text =
      ((talk.postFailure kind text).1.shift s, (talk.postFailure kind text).2.shift s) := by
  simp only [postFailure, nextMessage_shift]
  rw [← post_shift]
  rfl

theorem reset_shift (talk : Conversation) (stock : Option (Stock Float)) :
    (talk.shift s).reset stock = (talk.reset stock).shift s := rfl

end Conversation

namespace Controller

variable (config : Assistant) (c : Controller)

theorem begin_shift (label : String) (turn : Turn) :
    (c.shift s).begin label turn = (c.begin label turn).shift s := by
  simp only [begin, shift, Conversation.postUser_shift, Option.map_some, Nat.add_right_comm]

/-- A turn is refused or begun alike. -/
theorem submit_shift (turn : Turn) :
    (c.shift s).submit config turn =
      match c.submit config turn with
      | .error error => .error (error.shift s)
      | .ok (next, request) => .ok (next.shift s, request) := by
  have hphase : (c.shift s).phase = c.phase := rfl
  simp only [submit, hphase]
  split
  · rfl
  · cases Mode.ofName? turn.mode.plain with
    | none => rfl
    | some mode =>
      cases turn.label config.session with
      | error fault => rfl
      | ok label =>
        dsimp only
        rw [begin_shift]

private theorem fail_shift (kind : FailureKind) :
    (c.shift s).fail config kind =
      ((c.fail config kind).1.shift s, (c.fail config kind).2.shift s) := by
  simp only [fail, shift, Conversation.postFailure_shift]
  rfl

private theorem commit_shift (output : Output Float) :
    (c.shift s).commit output = ((c.commit output).1.shift s, (c.commit output).2.shift s) := by
  have hposted := Conversation.postResult_shift s
    { c.session with
      ledger := c.session.ledger.commit output.operations output.stock, output := some output }
    output
  -- the job and the output are put down before the message, and carry no numbers
  have hput : Conversation.shift s { c.session with
        ledger := c.session.ledger.commit output.operations output.stock, output := some output } =
      { (c.shift s).session with
        ledger := (c.shift s).session.ledger.commit output.operations output.stock
        output := some output } := rfl
  rw [hput] at hposted
  simp only [commit, hposted]
  rfl

theorem conclude_shift (mode : Mode) (reply : Reply) :
    (c.shift s).conclude config mode reply =
      ((c.conclude config mode reply).1.shift s, (c.conclude config mode reply).2.shift s) := by
  cases reply with
  | aborted => exact fail_shift s config c .cancelled
  | failure failure =>
    simp only [conclude]
    cases failure.kind with
    | ok kind => exact fail_shift s config c kind
    | error error => rfl
  | result analysis =>
    -- the ledger has no numbers that could be shifted
    have hledger : (c.shift s).session.ledger = c.session.ledger := rfl
    simp only [conclude, hledger]
    cases outputOf config c.session.ledger mode analysis with
    | error error => exact fail_shift s config c .other
    | ok output => exact commit_shift s c output

/-- A reply is taken or dropped alike. -/
theorem finish_shift (generation : Nat) (mode : Mode) (reply : Reply) :
    (c.shift s).finish config (generation + s.generations) mode reply =
      ((c.finish config generation mode reply).1.shift s,
        (c.finish config generation mode reply).2.shift s) := by
  by_cases hgeneration : generation = c.generation
  · rw [finish_of_eq config c mode reply hgeneration, ← conclude_shift]
    exact finish_of_eq config _ mode reply (congrArg (· + s.generations) hgeneration)
  · rw [finish_of_ne config c mode reply hgeneration]
    refine finish_of_ne config _ mode reply ?_
    exact fun heq => hgeneration (Nat.add_right_cancel heq)

theorem withdraw_shift : (c.shift s).withdraw = c.withdraw.shift s := by
  simp [withdraw, shift, Nat.add_right_comm]

theorem cancel_shift :
    (c.shift s).cancel config = ((c.cancel config).1.shift s, (c.cancel config).2) := by
  obtain ⟨session, generation, token, phase, last⟩ := c
  cases phase with
  | requesting =>
    cases token with
    | none => rfl
    | some token =>
      simp only [cancel, shift, Option.map_some, Conversation.postFailure_shift, withdraw,
        Nat.add_right_comm]
      rfl
  | idle => rfl
  | success => rfl
  | failed => rfl
  | cancelled => rfl

theorem reset_shift (stock : Option (Stock Float)) :
    (c.shift s).reset stock = (c.reset stock).shift s := by
  obtain ⟨session, generation, token, phase, last⟩ := c
  cases token with
  | none => rfl
  | some token =>
    simp only [reset, shift, Option.map_some, Option.isSome_some, if_true, withdraw,
      Nat.add_right_comm, Conversation.reset_shift]
    rfl

end Controller

namespace Flight

theorem withdraw_shift (token : Option Nat) (flight : Flight) :
    (flight.shift s).withdraw (token.map (· + s.generations)) =
      (flight.withdraw token).shift s := by
  have htoken : token.map (· + s.generations) = some (flight.call.generation + s.generations) ↔
      token = some flight.call.generation := by
    cases token with
    | none => simp
    | some generation => simp
  by_cases h : token = some flight.call.generation
  · simp [withdraw, shift, h]
  · simp [withdraw, shift, h, htoken]

theorem wipe_shift (flight : Flight) : (flight.shift s).wipe = flight.wipe.shift s := by
  simp [wipe, shift]

theorem resolve_shift (config : Assistant) (c : Controller) (flight : Flight) (reply : Reply) :
    (flight.shift s).resolve config (c.shift s) reply =
      ((flight.resolve config c reply).1.shift s, (flight.resolve config c reply).2.shift s) := by
  obtain ⟨call, superseded, landing, wiped⟩ := flight
  cases landing with
  | some landing => rfl
  | none =>
    have hfinish :=
      Controller.finish_shift s config c call.generation call.request.mode reply
    simp only [resolve, shift, Option.map_none, Option.isSome_none, Bool.false_eq_true, if_false,
      hfinish]
    rfl

end Flight

/-! ## Two timelines that mirror each other -/

namespace Timeline

/-- A timeline with old calls and one without: their controllers and their other calls are the same
but for the numbers, and the old calls are no business of any generation that is still to come. -/
structure Mirrors (old : List Flight) (used fresh : Timeline) : Prop where
  controller : used.controller = fresh.controller.shift s
  flights : used.flights = old ++ fresh.flights.map (Flight.shift s)
  behind : ∀ flight ∈ old, flight.Behind s.generations

variable (config : Assistant) {s} {old : List Flight} {used fresh : Timeline}

/-- An old call is behind whatever generation there is now. -/
private theorem Mirrors.behind_now (h : Mirrors s old used fresh) {flight : Flight}
    (hmem : flight ∈ old) : flight.Behind used.controller.generation := by
  refine (h.behind flight hmem).mono ?_
  rw [h.controller]
  exact Nat.le_add_left _ _

private theorem Mirrors.getElem? (h : Mirrors s old used fresh) {call : Nat}
    (hge : old.length ≤ call) :
    used.flights[call]? = (fresh.flights[call - old.length]?).map (Flight.shift s) := by
  rw [h.flights, List.getElem?_append_right hge, List.getElem?_map]

private theorem Mirrors.map (h : Mirrors s old used fresh) {f g : Flight → Flight}
    (hold : ∀ flight ∈ old, (f flight).Behind s.generations)
    (hnew : ∀ flight, f (flight.shift s) = (g flight).shift s) (c : Controller) :
    Mirrors s (old.map f) ⟨c.shift s, used.flights.map f⟩ ⟨c, fresh.flights.map g⟩ := by
  refine ⟨rfl, ?_, List.forall_mem_map.mpr hold⟩
  rw [h.flights]
  simp [Function.comp_def, hnew]

/-- A deed about new turns keeps the mirror. -/
theorem Mirrors.step (h : Mirrors s old used fresh) {deed deed' : Deed}
    (hsince : deed.since old.length = some deed') :
    (∃ old', old'.length = old.length ∧
        Mirrors s old' (used.step config deed) (fresh.step config deed')) ∧
      used.answer config deed = (fresh.answer config deed').shift s := by
  cases deed with
  | submit turn =>
    cases hsince
    -- a shifted controller answers as the other one does, with its numbers shifted
    have hsubmit := Controller.submit_shift s config fresh.controller turn
    rw [← h.controller] at hsubmit
    simp only [Timeline.step, answer, hsubmit]
    cases fresh.controller.submit config turn with
    | error error => exact ⟨⟨old, rfl, h⟩, rfl⟩
    | ok begun =>
      refine ⟨⟨old, rfl, rfl, ?_, h.behind⟩, rfl⟩
      simp only [h.flights, List.map_append, List.append_assoc]
      rfl
  | resolve call reply =>
    rw [Deed.since] at hsince
    split at hsince
    -- a call from before the reset is no deed of the fresh session
    · cases hsince
    · rename_i hnot
      have hge : old.length ≤ call := Nat.le_of_not_lt hnot
      cases hsince
      -- calls are numbered through, so the same call has a smaller number where there are fewer
      have hcall := h.getElem? hge
      cases hflight : fresh.flights[call - old.length]? with
      | none =>
        rw [hflight] at hcall
        rw [step_resolve_missing config reply hcall, step_resolve_missing config reply hflight]
        refine ⟨⟨old, rfl, h⟩, ?_⟩
        simp only [answer, hcall, hflight]
        rfl
      | some flight =>
        rw [hflight, Option.map_some] at hcall
        have hresolve := Flight.resolve_shift s config fresh.controller flight reply
        rw [step_resolve config reply hcall, step_resolve config reply hflight, h.controller,
          hresolve]
        refine ⟨⟨old, rfl, rfl, ?_, h.behind⟩, ?_⟩
        · rw [h.flights, List.set_append_right _ _ hge, List.map_set]
        · simp only [answer, hcall, hflight, h.controller]
          have hopen : (flight.shift s).landing.isSome = flight.landing.isSome := by
            simp [Flight.shift]
          have hfinish := Controller.finish_shift s config fresh.controller
            flight.call.generation flight.call.request.mode reply
          rw [hopen]
          split
          · rfl
          · change Answer.ended ((fresh.controller.shift s).finish config
              (flight.call.generation + s.generations) flight.call.request.mode reply).2 = _
            rw [hfinish]
            rfl
  | cancel =>
    cases hsince
    have hcancel := Controller.cancel_shift s config fresh.controller
    rw [← h.controller] at hcancel
    refine ⟨?_, ?_⟩
    · simp only [Timeline.step, hcancel]
      -- withdrawing passes over the old calls, which have all been overtaken
      refine ⟨old.map (Flight.withdraw
        (if (fresh.controller.cancel config).2 then used.controller.token else none)),
        List.length_map _, h.map ?_ ?_ _⟩
      · exact fun flight hmem => (h.behind flight hmem).withdraw_self _
      · intro flight
        rw [← Flight.withdraw_shift, h.controller]
        cases (fresh.controller.cancel config).2 with
        | false => rfl
        | true => rfl
    · simp only [answer, hcancel]
      rfl
  | reset stock =>
    cases hsince
    refine ⟨?_, rfl⟩
    simp only [Timeline.step, h.controller, Controller.reset_shift]
    refine ⟨old.map fun flight =>
        (flight.withdraw (fresh.controller.shift s).token).wipe, List.length_map _, h.map ?_ ?_ _⟩
    · exact fun flight hmem => ((h.behind flight hmem).withdraw_self _).wipe
    · intro flight
      rw [← Flight.wipe_shift, ← Flight.withdraw_shift]
      rfl

/-- The resolution of an old call keeps the mirror, and leaves no trace on the controller. -/
theorem Mirrors.step_old (h : Mirrors s old used fresh) {deed : Deed}
    (hsince : deed.since old.length = none) :
    (∃ old', old'.length = old.length ∧ Mirrors s old' (used.step config deed) fresh) ∧
      (used.step config deed).controller = used.controller := by
  -- only a resolution can be about an old call
  cases deed with
  | submit turn => cases hsince
  | cancel => cases hsince
  | reset stock => cases hsince
  | resolve call reply =>
    rw [Deed.since] at hsince
    split at hsince
    · rename_i hlt
      have hcall : used.flights[call]? = some old[call] := by
        rw [h.flights, List.getElem?_append_left hlt, List.getElem?_eq_getElem hlt]
      have hmem : old[call] ∈ old := List.getElem_mem hlt
      rw [step_resolve config reply hcall]
      rcases (h.behind_now hmem).resolve_eq config reply with hsame | ⟨_, hdropped⟩
      · rw [hsame]
        refine ⟨⟨old, rfl, h.controller, ?_, h.behind⟩, rfl⟩
        rw [h.flights, List.set_append_left _ _ hlt, List.set_getElem_self]
      · rw [hdropped]
        refine ⟨⟨old.set call
          (old[call].land reply (Controller.stale old[call].call.generation)),
          List.length_set, h.controller, ?_,
          behind_set h.behind (Flight.Behind.land reply _ (h.behind _ hmem).le)⟩, rfl⟩
        rw [h.flights, List.set_append_left _ _ hlt]
    · cases hsince

/-- All deeds keep the mirror, where those that are about old calls happen on one side only. -/
theorem Mirrors.run (h : Mirrors s old used fresh) (deeds : List Deed) :
    ∃ old', old'.length = old.length ∧
      Mirrors s old' (used.run config deeds)
        (fresh.run config (deeds.filterMap (Deed.since old.length))) := by
  induction deeds generalizing old used fresh with
  | nil => exact ⟨old, rfl, h⟩
  | cons deed deeds ih =>
    -- a deed on a call from before the reset has no counterpart
    cases hsince : deed.since old.length with
    | none =>
      obtain ⟨⟨old', hlength, hmirrors⟩, _⟩ := h.step_old config hsince
      obtain ⟨old'', hlength', hrun⟩ := ih hmirrors
      rw [List.filterMap_cons_none hsince, ← hlength]
      exact ⟨old'', hlength', hrun⟩
    | some deed' =>
      obtain ⟨⟨old', hlength, hmirrors⟩, _⟩ := h.step config hsince
      obtain ⟨old'', hlength', hrun⟩ := ih hmirrors
      rw [List.filterMap_cons_some hsince, ← hlength]
      exact ⟨old'', hlength', hrun⟩

/-! ## A reset -/

/-- The stock that a session begins with is never replaced. -/
theorem defaultStock_after (session : Conversation) (deeds : List Deed) :
    (after config session deeds).controller.session.defaultStock = session.defaultStock := by
  refine after_induction (P := fun t => t.controller.session.defaultStock = session.defaultStock)
    config session rfl ?_ deeds
  intro t deed next _ h hmove
  -- no move touches the default stock, however a turn ends
  cases hmove with
  | stay => exact h
  | start => exact h
  | drop => exact h
  | finish earlier current reply hbusy =>
    rcases t.controller.conclude_cases config current.call.request.mode reply with
      ⟨_, _, _, _, hcommit⟩ | ⟨kind, hfail⟩ | ⟨_, hdrop⟩
    · rw [hcommit]
      exact h
    · rw [hfail]
      exact h
    · rw [hdrop]
      exact h
  | withdraw => exact h
  | reset stock =>
    rw [← h]
    unfold Controller.reset
    split <;> rfl

/-- A reset brings the timeline to rest. -/
private theorem Sound.reset_resting {t : Timeline} (h : t.Sound) (stock : Option (Stock Float)) :
    (t.step config (.reset stock)).Resting := by
  rcases h.step config (.reset stock) with hrest | ⟨earlier, current, hbusy⟩
  · exact hrest
  · -- the controller of a busy timeline would be requesting
    have hphase := hbusy.phase
    cases hphase

/-- A timeline that is reset mirrors a new one; all its calls are old. -/
private theorem Sound.mirrors_reset {t : Timeline} (h : t.Sound) (stock : Option (Stock Float)) :
    let used := t.step config (.reset stock)
    Mirrors ⟨used.controller.generation, used.controller.session.posted⟩ used.flights used
      (start { Conversation.new t.controller.session.defaultStock with
        ledger := .empty (stock.getD t.controller.session.defaultStock) }) := by
  have hrest := h.reset_resting config stock
  refine ⟨?_, (List.append_nil _).symm, hrest.behind⟩
  have htoken := hrest.token
  simp only [Timeline.step] at htoken ⊢
  generalize hnext : t.controller.reset stock = next at htoken ⊢
  -- behind a reset the controller is that of a new session but for its two counters
  have hsession : next.session = t.controller.session.reset stock := by
    rw [← hnext]
    rfl
  have hphase : next.phase = .idle := by
    rw [← hnext]
    rfl
  have hlast : next.last = none := by
    rw [← hnext]
    rfl
  obtain ⟨session, generation, token, phase, last⟩ := next
  cases hsession
  cases hphase
  cases hlast
  cases htoken
  simp [start, Controller.new, Controller.shift, Conversation.shift, Conversation.new]

/-- **A session that is reset is as good as new.**  After any history, with calls still in flight or
not, a controller that is reset and a new controller over a new session with the stock of the reset
do the same from then on, but for the numbers of the generations and of the messages, which lie
apart by what was counted before.  This holds of the state of the controller, its job, its output
and its messages, of the calls of the new turns, and of what comes of every further deed.  Calls
from before the reset may resolve at any time; the new controller knows nothing of them, and the one
that was reset stays as it is.  Nor does it matter that its compiler has been used. -/
theorem reset_is_as_good_as_new (config : Assistant) (session : Conversation)
    (history : List Deed) (stock : Option (Stock Float)) (deeds : List Deed) :
    let cleared := (after config session history).step config (.reset stock)
    let s : Shift := ⟨cleared.controller.generation, cleared.controller.session.posted⟩
    let calls := cleared.flights.length
    let blank := { Conversation.new session.defaultStock with
      ledger := .empty (stock.getD session.defaultStock) }
    let used := cleared.run config deeds
    let fresh := after config blank (deeds.filterMap (Deed.since calls))
    used.controller = fresh.controller.shift s ∧
      used.flights.drop calls = fresh.flights.map (Flight.shift s) ∧
      (∀ deed deed', deed.since calls = some deed' →
        used.answer config deed = (fresh.answer config deed').shift s) ∧
      (∀ deed, deed.since calls = none →
        (used.step config deed).controller = used.controller) ∧
      ∀ (c : Compiler Float) (given : Assignment Float), c.settings = config.compiler →
        (c.next given).1 = ((Compiler.fresh config.compiler).next given).1 := by
  intro cleared s calls blank used fresh
  -- right behind the reset the two controllers mirror each other
  have hmirrors : Mirrors s cleared.flights cleared (start blank) := by
    have hreset := (after_sound config session history).mirrors_reset config stock
    rw [defaultStock_after] at hreset
    exact hreset
  -- every deed keeps them so; the old calls stay in front of the others
  obtain ⟨old, (hlength : old.length = calls), hrun⟩ := hmirrors.run config deeds
  refine ⟨hrun.controller, ?_, ?_, ?_, ?_⟩
  · have hflights : used.flights = old ++ fresh.flights.map (Flight.shift s) := hrun.flights
    rw [hflights]
    exact List.drop_left' hlength
  · intro deed deed' hsince
    rw [← hlength] at hsince
    exact (hrun.step config hsince).2
  · intro deed hsince
    rw [← hlength] at hsince
    exact (hrun.step_old config hsince).2
  · intro c given hsettings
    rw [Compiler.next_fst, Compiler.next_fst, hsettings]
    rfl

end Timeline

end Machining.Session
