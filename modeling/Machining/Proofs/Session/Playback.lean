import Machining.Proofs.Session.Alternation
import Machining.Proofs.Session.Landings
import Machining.Proofs.Session.Records

/-!
# Records and the turns that take them

Turns that are answered from records share one queue of them.  The call of a turn waits once; when
it goes on it looks whether its turn was withdrawn, and if not it takes the record in front.  Until
then anything may happen: the turn is withdrawn or the session reset, others are submitted, the task
of the call is stopped.  So several calls may wait at once, one of which belongs to the turn in
flight.

* `Playback` is a timeline with the queue, and `Playback.step` says what each happening does to
  both.
* `Effect` says what one happening can do, and `Accounted` what is known of the records by then.
* `records_are_taken_once` puts it together.
-/

namespace Machining.Session

open Machining.Config Machining.Document Machining.Job Machining.Text

/-! ## How a turn ends that takes a record -/

/-- What is told at the end of a turn that takes a record: one success or one failure. -/
inductive Told (record : RawAnswer) (outcome : Outcome) (message : Message) : Prop where
  /-- The result is committed; the record states no failure. -/
  | success (output : Program.Output Float) (hmessage : outcome.message = some message)
      (hresult : message.result = some output) (hfailure : message.failure = none)
      (hphase : outcome.phase = .success) (hcommitted : outcome.committed = true)
      (hsilent : ∀ kind, ¬ States record kind) : Told record outcome message
  /-- The turn fails, in the kind that the record states if it states one; it is told to be stopped
  only if the record says so. -/
  | failure (kind : FailureKind) (hmessage : outcome.message = some message)
      (hresult : message.result = none) (hfailure : message.failure = some kind)
      (hphase : outcome.phase = Controller.failurePhase kind)
      (hcommitted : outcome.committed = false)
      (hstated : ∀ stated, States record stated → stated = kind)
      (hcancelled : kind = .cancelled → States record .cancelled) : Told record outcome message

/-- A turn that ends with a record says so in one message. -/
theorem conclude_recordedReply (config : Assistant) (c : Controller) (mode : Mode)
    (record : RawAnswer) :
    ∃ message, Told record (c.conclude config mode (recordedReply record)).2 message ∧
      (c.conclude config mode (recordedReply record)).1.session.messages =
        c.session.messages ++ [message] := by
  have hfail (kind : FailureKind) (hstated : ∀ stated, States record stated → stated = kind)
      (hcancelled : kind = .cancelled → States record .cancelled) :
      ∃ message, Told record (c.fail config kind).2 message ∧
        (c.fail config kind).1.session.messages = c.session.messages ++ [message] :=
    ⟨_, .failure kind rfl rfl rfl rfl rfl hstated hcancelled, rfl⟩
  rcases recordedReply_cases record with
    ⟨analysis, hreply, hsilent⟩ | ⟨failure, kind, hreply, hkind, hstated, hcancelled⟩
  · rw [hreply, Controller.conclude]
    cases Controller.outputOf config c.session.ledger mode analysis with
    | error error =>
      -- a job that does not compile is no withdrawal either
      exact hfail .other (fun stated h => absurd h (hsilent stated)) (by simp)
    | ok output => exact ⟨_, .success output rfl rfl rfl rfl rfl hsilent, rfl⟩
  · rw [hreply, Controller.conclude]
    simp only [hkind]
    exact hfail kind hstated hcancelled

/-! ## Playing records back -/

/-- What may happen while turns are answered from records. -/
inductive Happening where
  /-- A turn is submitted; if it is not refused, its call waits. -/
  | submit (turn : Turn)
  /-- The task of a call is stopped; the call finds out when it goes on. -/
  | stop (call : Nat)
  /-- A call that waits goes on. -/
  | resume (call : Nat)
  /-- The turn in flight is withdrawn. -/
  | cancel
  /-- The session is reset. -/
  | reset (stock : Option (Stock Float))

/-- A timeline whose calls are answered from records. -/
structure Playback where
  /-- The controller and the calls. -/
  timeline : Timeline
  /-- The records that are left. -/
  records : List RawAnswer
  /-- The calls whose tasks were stopped while they waited. -/
  stopped : List Nat
  /-- The records that were taken, each with the call that took it. -/
  taken : List (Nat × RawAnswer)

namespace Playback

/-- A new controller with its records. -/
def start (session : Conversation) (records : List RawAnswer) : Playback :=
  ⟨Timeline.start session, records, [], []⟩

/-- A deed, which leaves the records alone. -/
def deed (config : Assistant) (p : Playback) (deed : Deed) : Playback :=
  { p with timeline := p.timeline.step config deed }

/-- A call that waits. -/
def waiting? (p : Playback) (call : Nat) : Option Flight :=
  p.timeline.flights[call]?.filter fun flight => flight.landing.isNone

/-- A call goes on.  Unless its task was stopped or its token is cancelled, it asks for the next
record. -/
def resume (config : Assistant) (p : Playback) (call : Nat) (flight : Flight) : Playback :=
  if call ∈ p.stopped then p.deed config (.resolve call .aborted)
  else if flight.call.cancelled then p.deed config (.resolve call (.failure .withdrawn))
  else
    let (reply, rest) := nextReply p.records
    { p.deed config (.resolve call reply) with
      records := rest
      taken := p.taken ++ (p.records.take 1).map fun record => (call, record) }

/-- What one happening does. -/
def step (config : Assistant) (p : Playback) : Happening → Playback
  | .submit turn => p.deed config (.submit turn)
  | .stop call =>
    match p.waiting? call with
    | some _ => { p with stopped := call :: p.stopped }
    | none => p
  | .resume call =>
    match p.waiting? call with
    | some flight => p.resume config call flight
    | none => p
  | .cancel => p.deed config .cancel
  | .reset stock => p.deed config (.reset stock)

/-- A new controller with its records after some happenings. -/
def after (config : Assistant) (session : Conversation) (records : List RawAnswer)
    (happenings : List Happening) : Playback :=
  happenings.foldl (step config) (start session records)

/-- A call takes a record with a happening: it goes on, its turn is the one in flight, its task was
not stopped, and the record is in front. -/
def Takes (p : Playback) (happening : Happening) (call : Nat) (record : RawAnswer) : Prop :=
  happening = .resume call ∧ p.timeline.Current call ∧ call ∉ p.stopped ∧
    p.records.head? = some record

variable {config : Assistant} {p : Playback}

theorem waiting?_eq_some {call : Nat} {flight : Flight} :
    p.waiting? call = some flight ↔
      p.timeline.flights[call]? = some flight ∧ flight.landing = none := by
  simp [waiting?, Option.filter_eq_some_iff]

/-! ## What one happening can do -/

/-- A deed that brings no result. -/
def Fruitless (deed : Deed) : Prop :=
  ∀ call analysis, deed ≠ .resolve call (.result analysis)

/-- A deed that brings no failure without a kind. -/
def Telling (deed : Deed) : Prop :=
  ∀ call reply, deed = .resolve call reply → ¬ reply.Untold

theorem telling_resolve {call : Nat} {reply : Reply} (h : ¬ reply.Untold) :
    Telling (.resolve call reply) := by
  rintro _ _ ⟨⟩
  exact h

theorem telling_failure {call : Nat} {failure : Failure} {kind : FailureKind}
    (h : failure.kind = .ok kind) : Telling (.resolve call (.failure failure)) := by
  apply telling_resolve
  rintro ⟨error, herror⟩
  cases h.symm.trans herror

/-- What one happening can do. -/
inductive Effect (config : Assistant) (p : Playback) : Happening → Playback → Prop where
  /-- Nothing changes. -/
  | stay (happening : Happening) : Effect config p happening p
  /-- A call that waits is stopped. -/
  | stop (call : Nat) (flight : Flight) (hflight : p.timeline.flights[call]? = some flight)
      (hlanding : flight.landing = none) :
    Effect config p (.stop call) { p with stopped := call :: p.stopped }
  /-- The controller does something, without any record. -/
  | plain (happening : Happening) (deed : Deed) (htelling : Telling deed)
      (hfruitless : Fruitless deed) : Effect config p happening (p.deed config deed)
  /-- A call takes the record in front. -/
  | take (call : Nat) (record : RawAnswer) (rest : List RawAnswer)
      (hcurrent : p.timeline.Current call) (hstopped : call ∉ p.stopped)
      (hrecords : p.records = record :: rest) :
    Effect config p (.resume call)
      { p.deed config (.resolve call (recordedReply record)) with
        records := rest, taken := p.taken ++ [(call, record)] }

/-- What a call does that goes on, where its token tells whether its turn counts. -/
theorem effect_resume {call : Nat} {flight : Flight}
    (htoken : flight.call.cancelled = false ↔ p.timeline.Current call) :
    Effect config p (.resume call) (p.resume config call flight) := by
  unfold resume
  split
  -- a task that was stopped ends without a reply of its own
  · exact .plain _ _ (telling_resolve id) (by simp [Fruitless])
  · rename_i hstopped
    split
    · exact .plain _ _ (telling_failure rfl) (by simp [Fruitless])
    · rename_i hcancelled
      -- the token is live: the next record is taken, if there is one
      cases hrecords : p.records with
      | nil =>
        have hnone : Effect config p (.resume call) (p.deed config (.resolve call noRecord)) :=
          .plain _ _ (telling_failure rfl) (by simp [Fruitless, noRecord])
        simpa [nextReply, deed, hrecords] using hnone
      | cons record rest =>
        have hcurrent := htoken.mp (Bool.eq_false_iff.mpr hcancelled)
        simpa [nextReply] using .take call record rest hcurrent hstopped hrecords

theorem effect_step (config : Assistant) (hsound : p.timeline.Sound) (hordered : p.timeline.Ordered)
    (hwarned : p.timeline.Warned) (happening : Happening) :
    Effect config p happening (p.step config happening) := by
  cases happening with
  | submit turn => exact .plain _ _ (by simp [Telling]) (by simp [Fruitless])
  | cancel => exact .plain _ _ (by simp [Telling]) (by simp [Fruitless])
  | reset stock => exact .plain _ _ (by simp [Telling]) (by simp [Fruitless])
  | stop call =>
    rw [step]
    cases hwaiting : p.waiting? call with
    | none => exact .stay _
    | some flight =>
      obtain ⟨hflight, hlanding⟩ := waiting?_eq_some.mp hwaiting
      exact .stop call flight hflight hlanding
  | resume call =>
    rw [step]
    -- a call that waits no more is not woken again
    cases hwaiting : p.waiting? call with
    | none => exact .stay _
    | some flight =>
      obtain ⟨hflight, hlanding⟩ := waiting?_eq_some.mp hwaiting
      apply effect_resume
      exact Timeline.cancelled_eq_false_iff hsound hordered hwarned hflight hlanding

/-- The call that takes a record ends its turn with it, in one message. -/
theorem take_step (config : Assistant) (hsound : p.timeline.Sound) {call : Nat}
    (hcurrent : p.timeline.Current call) (record : RawAnswer) :
    ∃ flight outcome message,
      (p.timeline.step config (.resolve call (recordedReply record))).flights[call]? =
        some flight ∧
      flight.landing = some (recordedReply record, outcome) ∧ flight.superseded = false ∧
      Told record outcome message ∧
      (p.timeline.step config (.resolve call (recordedReply record))).controller.session.messages =
        p.timeline.controller.session.messages ++ [message] ∧
      ∀ other, (p.timeline.flights[other]?).isSome → other ≤ call := by
  rcases hsound with hrest | ⟨earlier, current, hbusy⟩
  · exact absurd hcurrent (hrest.not_current call)
  · -- the turn in flight is the last that was submitted
    obtain rfl := (hbusy.current_iff call).mp hcurrent
    obtain ⟨message, htold, hmessages⟩ := conclude_recordedReply config p.timeline.controller
      current.call.request.mode record
    rw [hbusy.step_resolve config (recordedReply record)]
    refine ⟨_, _, message, List.getElem?_concat_length, rfl, hbusy.superseded, htold, hmessages, ?_⟩
    intro other hother
    obtain ⟨found, hfound⟩ := Option.isSome_iff_exists.mp hother
    have hlt := (List.getElem?_eq_some_iff.mp hfound).1
    rw [hbusy.flights_eq, List.length_append, List.length_singleton] at hlt
    exact Nat.le_of_lt_succ hlt

/-! ## The account of the records -/

/-- What is known of the records that there were. -/
structure Accounted (records : List RawAnswer) (p : Playback) : Prop where
  /-- They were taken from the front, and the others are left. -/
  queue : p.taken.map Prod.snd ++ p.records = records
  /-- Every call took at most one, in the order of the submissions. -/
  increasing : (p.taken.map Prod.fst).Pairwise (· < ·)
  /-- A call that took one was neither overtaken nor stopped, and its turn ended with it. -/
  landed : ∀ call record, (call, record) ∈ p.taken → call ∉ p.stopped ∧
    ∃ flight outcome message, p.timeline.flights[call]? = some flight ∧
      flight.landing = some (recordedReply record, outcome) ∧ flight.superseded = false ∧
      Told record outcome message
  /-- A turn that was committed took one. -/
  committed : ∀ (call : Nat) (flight : Flight) (reply : Reply) (outcome : Outcome),
    p.timeline.flights[call]? = some flight → flight.landing = some (reply, outcome) →
      outcome.committed = true → ∃ record, (call, record) ∈ p.taken

variable {records : List RawAnswer} {happening : Happening} {next : Playback}

theorem accounted_start (session : Conversation) (records : List RawAnswer) :
    Accounted records (start session records) where
  queue := rfl
  increasing := List.Pairwise.nil
  landed := fun _ _ hmem => by cases hmem
  committed := fun _ _ _ _ hflight => by cases hflight

/-- What has landed stays as it is. -/
theorem Accounted.landed_step (h : Accounted records p) (hsound : p.timeline.Sound) (deed : Deed)
    {call : Nat} {record : RawAnswer} (hmem : (call, record) ∈ p.taken) :
    ∃ flight outcome message, (p.timeline.step config deed).flights[call]? = some flight ∧
      flight.landing = some (recordedReply record, outcome) ∧ flight.superseded = false ∧
      Told record outcome message := by
  obtain ⟨_, flight, outcome, message, hflight, hlanding, hsuperseded, htold⟩ :=
    h.landed call record hmem
  obtain ⟨later, hlater, hsame, hkept⟩ := hsound.landing_step config deed hflight hlanding
  exact ⟨later, outcome, message, hlater, hsame, hkept.trans hsuperseded, htold⟩

/-- Every effect keeps the account. -/
theorem Accounted.effect (h : Accounted records p) (hsound : p.timeline.Sound)
    (heffect : Effect config p happening next) : Accounted records next := by
  cases heffect with
  | stay => exact h
  | stop call flight hflight hlanding =>
    refine ⟨h.queue, h.increasing, ?_, h.committed⟩
    intro other record hmem
    obtain ⟨hother, landed, outcome, message, hlanded, hreply, hrest⟩ := h.landed other record hmem
    refine ⟨?_, landed, outcome, message, hlanded, hreply, hrest⟩
    -- the call that is stopped waits, so it has taken nothing
    intro hstopped
    rcases List.mem_cons.mp hstopped with rfl | hold
    · rw [Option.some.inj (hflight.symm.trans hlanded), hreply] at hlanding
      cases hlanding
    · exact hother hold
  | plain _ deed _ hfruitless =>
    refine ⟨h.queue, h.increasing, ?_, ?_⟩
    · intro call record hmem
      exact ⟨(h.landed call record hmem).1, h.landed_step hsound deed hmem⟩
    · -- without a result no turn is committed that was not before
      intro call flight reply outcome hflight hlanding hcommitted
      rcases hsound.committed_step deed hflight hlanding hcommitted with
        ⟨old, hold, holdLanding⟩ | ⟨analysis, hdeed⟩
      · exact h.committed call old reply outcome hold holdLanding hcommitted
      · exact absurd hdeed (hfruitless call analysis)
  | take call record rest hcurrent hstopped hrecords =>
    obtain ⟨flight, outcome, message, hflight, hlanding, hsuperseded, htold, _, hlast⟩ :=
      take_step config hsound hcurrent record
    refine ⟨?_, ?_, ?_, ?_⟩
    · rw [← h.queue, hrecords, List.map_append, List.append_assoc]
      rfl
    · -- those that took one before have landed, and lie before the one in flight
      rw [List.map_append]
      refine List.pairwise_append.mpr ⟨h.increasing, List.pairwise_singleton _ _, ?_⟩
      intro earlier hearlier last hlastMem
      rw [List.mem_singleton.mp hlastMem]
      obtain ⟨⟨_, old⟩, hmem, rfl⟩ := List.mem_map.mp hearlier
      obtain ⟨_, landed, _, _, hlanded, hreply, _⟩ := h.landed _ old hmem
      refine Nat.lt_of_le_of_ne (hlast _ (by rw [hlanded]; rfl)) ?_
      rintro rfl
      obtain ⟨waiting, hwaiting, hopen, _⟩ := hcurrent
      rw [Option.some.inj (hwaiting.symm.trans hlanded), hreply] at hopen
      cases hopen
    · intro other old hmem
      rcases List.mem_append.mp hmem with hold | hnew
      · exact ⟨(h.landed other old hold).1, h.landed_step hsound _ hold⟩
      · cases List.mem_singleton.mp hnew
        exact ⟨hstopped, flight, outcome, message, hflight, hlanding, hsuperseded, htold⟩
    · intro other later reply outcome' hlater hlanding' hcommitted
      rcases hsound.committed_step _ hlater hlanding' hcommitted with
        ⟨old, hold, holdLanding⟩ | ⟨analysis, hdeed⟩
      · obtain ⟨found, hfound⟩ := h.committed other old reply outcome' hold holdLanding hcommitted
        exact ⟨found, List.mem_append_left _ hfound⟩
      · obtain rfl := (Deed.resolve.inj hdeed).1
        exact ⟨record, List.mem_append_right _ (List.mem_singleton_self _)⟩

/-! ## A whole playback -/

theorem after_concat (config : Assistant) (session : Conversation) (records : List RawAnswer)
    (happenings : List Happening) (happening : Happening) :
    after config session records (happenings ++ [happening]) =
      (after config session records happenings).step config happening := by
  simp [after]

/-- What an effect does to the timeline is at most one deed, which brings no failure without a
kind. -/
theorem Effect.timeline_cases (heffect : Effect config p happening next) :
    next.timeline = p.timeline ∨
      ∃ deed : Deed, Telling deed ∧ next.timeline = p.timeline.step config deed := by
  cases heffect with
  | stay => exact Or.inl rfl
  | stop => exact Or.inl rfl
  | plain _ deed htelling => exact Or.inr ⟨deed, htelling, rfl⟩
  | take call record =>
    exact Or.inr ⟨.resolve call (recordedReply record),
      telling_resolve (not_untold_recordedReply record), rfl⟩

/-- A playback goes through a timeline, its records are accounted for, and no turn has ended in a
failure without a kind. -/
theorem after_kept (config : Assistant) (session : Conversation) (records : List RawAnswer)
    (happenings : List Happening) :
    let p := after config session records happenings
    (∃ deeds : List Deed, p.timeline = Timeline.after config session deeds) ∧
      Accounted records p ∧ p.timeline.Landed fun reply _ => ¬ reply.Untold := by
  -- on the last happening; what is known of timelines holds before it
  induction happenings using List.reverseRecOn with
  | nil => exact ⟨⟨[], rfl⟩, accounted_start session records, Timeline.start_landed session _⟩
  | append_singleton happenings happening ih =>
    obtain ⟨⟨deeds, htimeline⟩, haccounted, hlanded⟩ := ih
    dsimp only
    rw [after_concat]
    generalize after config session records happenings = p at htimeline haccounted hlanded
    have hsound : p.timeline.Sound := htimeline ▸ Timeline.after_sound config session deeds
    have heffect := effect_step config hsound
      (htimeline ▸ Timeline.after_ordered config session deeds)
      (htimeline ▸ Timeline.after_warned config session deeds) happening
    rcases heffect.timeline_cases with hsame | ⟨deed, htelling, hdeed⟩
    · refine ⟨⟨deeds, hsame.trans htimeline⟩, haccounted.effect hsound heffect, ?_⟩
      rw [hsame]
      exact hlanded
    · refine ⟨⟨deeds ++ [deed], ?_⟩, haccounted.effect hsound heffect, ?_⟩
      · rw [hdeed, htimeline, Timeline.after_append]
        rfl
      · rw [hdeed]
        exact hlanded.move (hsound.step_move config deed) fun call reply _ => htelling call reply

/-- A call that can take a record does so. -/
theorem step_of_takes (config : Assistant) (hsound : p.timeline.Sound)
    (hordered : p.timeline.Ordered) (hwarned : p.timeline.Warned) {call : Nat}
    {record : RawAnswer} (h : p.Takes happening call record) :
    ∃ rest, p.records = record :: rest ∧ p.step config happening =
      { p.deed config (.resolve call (recordedReply record)) with
        records := rest, taken := p.taken ++ [(call, record)] } := by
  obtain ⟨rfl, hcurrent, hstopped, hhead⟩ := h
  obtain ⟨rest, hrecords⟩ : ∃ rest, p.records = record :: rest := by
    cases hrecords : p.records with
    | nil =>
      rw [hrecords] at hhead
      cases hhead
    | cons first rest =>
      rw [hrecords] at hhead
      cases hhead
      exact ⟨rest, rfl⟩
  obtain ⟨flight, hflight, hlanding, _⟩ := id hcurrent
  -- the current call has a live token, and nobody has stopped its task
  have htoken := (Timeline.cancelled_eq_false_iff hsound hordered hwarned hflight hlanding).mpr
    hcurrent
  refine ⟨rest, hrecords, ?_⟩
  rw [step, waiting?_eq_some.mpr ⟨hflight, hlanding⟩]
  dsimp only
  rw [resume, if_neg hstopped, htoken, if_neg Bool.false_ne_true, hrecords]
  rfl

/-- A happening with which no call takes a record leaves the records alone. -/
theorem Effect.records_kept (heffect : Effect config p happening next)
    (hnone : ¬ ∃ call record, p.Takes happening call record) :
    next.taken = p.taken ∧ next.records = p.records := by
  cases heffect with
  | stay => exact ⟨rfl, rfl⟩
  | stop => exact ⟨rfl, rfl⟩
  | plain => exact ⟨rfl, rfl⟩
  | take call record rest hcurrent hstopped hrecords =>
    refine absurd ⟨call, record, rfl, hcurrent, hstopped, ?_⟩ hnone
    rw [hrecords]
    rfl

/-- **Records are taken once.**  However turns are submitted, withdrawn, reset and stopped while
their calls wait, at every moment the records that were taken are the first ones, each was taken by
a call of its own, and the turn of that call ended with it in one success or one failure.  The next
happening takes a record exactly if it lets the call of the turn in flight go on, whose task was not
stopped; then that turn ends, and one message is added.  The transcript stays orderly: a turn has
one answer. -/
theorem records_are_taken_once (config : Assistant) (session : Conversation)
    (records : List RawAnswer) (happenings : List Happening) :
    let p := after config session records happenings
    Accounted records p ∧
      (∀ happening, (¬ ∃ call record, p.Takes happening call record) →
        (p.step config happening).taken = p.taken ∧
          (p.step config happening).records = p.records) ∧
      (∀ happening call record, p.Takes happening call record →
        (p.step config happening).taken = p.taken ++ [(call, record)] ∧
        p.records = record :: (p.step config happening).records ∧
        ∃ flight outcome message,
          (p.step config happening).timeline.flights[call]? = some flight ∧
          flight.landing = some (recordedReply record, outcome) ∧ Told record outcome message ∧
          (p.step config happening).timeline.controller.session.messages =
            p.timeline.controller.session.messages ++ [message]) ∧
      ∀ stock, session = .new stock →
        ∃ chronicle : Chronicle, chronicle.timeline = p.timeline ∧ chronicle.Orderly := by
  intro p
  obtain ⟨⟨deeds, htimeline⟩, haccounted, hlanded⟩ := after_kept config session records happenings
  have hsound : p.timeline.Sound := htimeline ▸ Timeline.after_sound config session deeds
  have hordered : p.timeline.Ordered := htimeline ▸ Timeline.after_ordered config session deeds
  have hwarned : p.timeline.Warned := htimeline ▸ Timeline.after_warned config session deeds
  refine ⟨haccounted, ?_, ?_, ?_⟩
  · intro happening hnone
    exact (effect_step config hsound hordered hwarned happening).records_kept hnone
  · intro happening call record htakes
    obtain ⟨rest, hrecords, hstep⟩ :=
      step_of_takes config hsound hordered hwarned htakes
    obtain ⟨flight, outcome, message, hflight, hlanding, _, htold, hmessages, _⟩ :=
      take_step config hsound htakes.2.1 record
    rw [hstep]
    exact ⟨rfl, hrecords, flight, outcome, message, hflight, hlanding, htold, hmessages⟩
  · rintro stock rfl
    have hchronicle : (Chronicle.after config (.new stock) deeds).timeline =
        (after config (.new stock) records happenings).timeline :=
      (Chronicle.timeline_after config _ deeds).trans htimeline.symm
    refine ⟨_, hchronicle, (Chronicle.orderly_after_iff config stock deeds).mpr ?_⟩
    -- the reply of a turn that nothing has overtaken was always told
    rintro flight hmem ⟨hsuperseded, reply, outcome, hlanding, huntold⟩
    have hflight := List.mem_of_mem_drop hmem
    rw [hchronicle] at hflight
    exact hlanded flight hflight hsuperseded reply outcome hlanding huntold

/-! ## One turn after another -/

/-- A turn is submitted, and its call goes on at once. -/
def playOn (config : Assistant) (p : Playback) (turn : Turn) : Playback :=
  (p.step config (.submit turn)).step config (.resume p.timeline.flights.length)

/-- This is what playing a turn back does. -/
theorem playOn_eq (config : Assistant) (hphase : p.timeline.controller.phase ≠ .requesting)
    (hstopped : p.stopped = []) (turn : Turn) :
    let played := playTurn config p.timeline.controller p.records turn
    (p.playOn config turn).timeline.controller = played.controller ∧
      (p.playOn config turn).records = played.records ∧
      (p.playOn config turn).timeline.controller.phase ≠ .requesting ∧
      (p.playOn config turn).stopped = [] := by
  unfold playOn playTurn
  cases hsubmit : p.timeline.controller.submit config turn with
  | error error =>
    -- a refused turn makes no call, so that there is none to resume
    have hstep : p.step config (.submit turn) = p := by
      simp only [step, deed, Timeline.step, hsubmit]
    have hwaiting : p.waiting? p.timeline.flights.length = none := by
      rw [waiting?, List.getElem?_eq_none (Nat.le_refl _)]
      rfl
    rw [hstep, step, hwaiting]
    exact ⟨rfl, rfl, hphase, hstopped⟩
  | ok answer =>
    obtain ⟨begun, request⟩ := answer
    -- else the new call is the last one
    let launched := Flight.launch begun.generation request
    let waits : Playback := { p with timeline := ⟨begun, p.timeline.flights ++ [launched]⟩ }
    have hstep : p.step config (.submit turn) = waits := by
      simp only [step, deed, Timeline.step, hsubmit, waits, launched]
    have hlast : waits.timeline.flights[p.timeline.flights.length]? = some launched :=
      List.getElem?_concat_length
    rw [hstep, step, waiting?_eq_some.mpr ⟨hlast, rfl⟩]
    have hnotStopped : p.timeline.flights.length ∉ waits.stopped := by
      change p.timeline.flights.length ∉ p.stopped
      rw [hstopped]
      exact List.not_mem_nil
    -- the call goes on at once, so nothing has cancelled its token
    have hfresh : ¬ launched.call.cancelled = true := Bool.false_ne_true
    dsimp only
    rw [resume, if_neg hnotStopped, if_neg hfresh]
    dsimp only [deed]
    rw [Timeline.step_resolve config _ hlast]
    -- however the turn ends, the controller is idle again
    obtain ⟨talk, last, hrest⟩ :=
      begun.conclude_rests config request.mode (nextReply p.records).1
    have hfinish := begun.finish_of_eq config request.mode (nextReply p.records).1 rfl
    refine ⟨rfl, rfl, ?_, hstopped⟩
    change (begun.finish config begun.generation request.mode (nextReply p.records).1).1.phase ≠ _
    rw [hfinish, hrest]
    exact Phase.noConfusion

/-- **Turns that are played back one after another are a playback**: they end with the same
controller, and the same records are left. -/
theorem foldl_playOn_eq (hphase : p.timeline.controller.phase ≠ .requesting)
    (hstopped : p.stopped = []) (turns : List Turn) {last : Played}
    (hlast : (play config p.timeline.controller p.records turns).getLast? = some last) :
    (turns.foldl (playOn config) p).timeline.controller = last.controller ∧
      (turns.foldl (playOn config) p).records = last.records := by
  induction turns generalizing p with
  | nil => cases hlast
  | cons turn turns ih =>
    obtain ⟨hcontroller, hrecords, hrests, hnone⟩ := playOn_eq config hphase hstopped turn
    rw [play] at hlast
    rw [← hcontroller, ← hrecords, List.getLast?_cons] at hlast
    rw [List.foldl_cons]
    cases hmore : (play config (p.playOn config turn).timeline.controller
        (p.playOn config turn).records turns).getLast? with
    | some found =>
      rw [hmore] at hlast
      cases hlast
      exact ih hrests hnone hmore
    | none =>
      rw [hmore] at hlast
      cases hlast
      -- nothing more is played, so there are no more turns
      cases turns with
      | nil => exact ⟨hcontroller, hrecords⟩
      | cons next turns =>
        rw [List.getLast?_eq_none_iff, play] at hmore
        cases hmore

end Playback

end Machining.Session
