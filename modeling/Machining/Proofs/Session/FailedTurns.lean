import Machining.Proofs.Program.Overflow
import Machining.Proofs.Session.Pasts

/-!
# A turn that fails leaves no trace

A turn can fail in many ways: it is refused before it begins, the analyzer stops, fails or answers
with something that does not compile, its task is stopped, or it is withdrawn.  None of them touches
the job.  A turn that is refused changes nothing at all, and a turn that ends without a commit
leaves its messages behind and nothing else: whatever is done from then on comes out as if the turn
had not been there, but for those messages and for the numbers of later generations and messages.

## How it is shown

* `Spares` relates the run with the turn to the run without it: both are the same timeline beside a
  past, and the pasts differ by the turn.  `Spares.step` is the step and `Spares.run` the run.
* `run_waiting` follows the two runs while the turn is in flight, and `exists_spares` says that any
  end without a commit brings them into that relation.
* `Spared` spells out what the relation says about the two runs.
-/

namespace Machining.Session

open Machining.Config Machining.Document Machining.Job Machining.Program

/-! ## With a turn and without it -/

/-- A deed as it looks to someone who does not know of a call; none if it is about that call. -/
def Deed.without (gone : Nat) : Deed → Option Deed
  | .resolve call reply =>
    if call = gone then none
    else some (.resolve (if gone < call then call - 1 else call) reply)
  | deed => some deed

/-- What comes of a deed in a history with one more turn, whose call is `gone`.  What is said of
earlier turns is the same. -/
def Deed.told (gone : Nat) (s : Shift) (answer : Answer) : Deed → Answer
  | .resolve call _ => if call < gone then answer else answer.shift s
  | _ => answer.shift s

/-- What a turn leaves behind that has ended without a commit. -/
structure Trace where
  /-- The messages before the turn. -/
  kept : List Message
  /-- The messages of the turn. -/
  own : List Message
  /-- How the last turn ended, with the turn. -/
  last : Option Outcome
  /-- How the last turn ended, without the turn. -/
  before : Option Outcome

namespace Trace

/-- No trace. -/
def nothing : Trace := ⟨[], [], none, none⟩

/-- What is left of a trace after a deed. -/
def after (trace : Trace) (deed : Deed) : Trace := if deed.clears then nothing else trace

/-- What is left of a trace after some deeds. -/
theorem foldl_after (trace : Trace) (deeds : List Deed) :
    deeds.foldl after trace = if deeds.any Deed.clears then nothing else trace := by
  induction deeds generalizing trace with
  | nil => rfl
  | cons deed deeds ih =>
    rw [List.foldl_cons, ih, List.any_cons, after]
    cases deed.clears <;> simp

/-- The past with the turn. -/
def used (trace : Trace) (flights : List Flight) : Past :=
  ⟨trace.kept ++ trace.own, trace.last, flights⟩

/-- The past without the turn. -/
def fresh (trace : Trace) (flights : List Flight) : Past :=
  ⟨trace.kept, trace.before, flights⟩

end Trace

/-- A deed is about an earlier call, or it is the same deed for all that come later. -/
theorem Deed.without_cases {gone : Nat} {deed deed' : Deed} (h : deed.without gone = some deed') :
    (∃ call reply, call < gone ∧ deed = .resolve call reply ∧ deed' = .resolve call reply) ∨
      ∃ later, deed.since (gone + 1) = some later ∧ deed'.since gone = some later ∧
        deed'.clears = deed.clears ∧ ∀ s answer, deed.told gone s answer = answer.shift s := by
  cases deed with
  | submit turn =>
    cases h
    exact Or.inr ⟨_, rfl, rfl, rfl, fun _ _ => rfl⟩
  | cancel =>
    cases h
    exact Or.inr ⟨_, rfl, rfl, rfl, fun _ _ => rfl⟩
  | reset stock =>
    cases h
    exact Or.inr ⟨_, rfl, rfl, rfl, fun _ _ => rfl⟩
  | resolve call reply =>
    rw [Deed.without] at h
    -- a call from before, the call of the turn, or a later one, which moves up
    rcases Nat.lt_trichotomy call gone with hlt | rfl | hgt
    · rw [if_neg (Nat.ne_of_lt hlt), if_neg (Nat.lt_asymm hlt)] at h
      cases h
      exact Or.inl ⟨call, reply, hlt, rfl, rfl⟩
    · rw [if_pos rfl] at h
      cases h
    · rw [if_neg (Nat.ne_of_gt hgt), if_pos hgt] at h
      cases h
      refine Or.inr ⟨.resolve (call - (gone + 1)) reply, ?_, ?_, rfl, fun _ _ => ?_⟩
      · rw [Deed.since, if_neg (Nat.not_lt_of_le hgt)]
      · rw [Deed.since, if_neg (by omega), Nat.sub_sub, Nat.add_comm 1]
      · rw [Deed.told, if_neg (Nat.lt_asymm hgt)]

namespace Timeline

variable (config : Assistant) {base : Nat} {s : Shift} {trace : Trace} {old : List Flight}
  {gone : Flight} {t used fresh : Timeline}

/-- A deed comes out alike in a history with more turns and more messages. -/
theorem step_shift (s : Shift) (t : Timeline) (deed : Deed) :
    (t.shift s).step config deed = (t.step config deed).shift s ∧
      (t.shift s).answer config deed = (t.answer config deed).shift s := by
  have hsince : deed.since ([] : List Flight).length = some deed := by
    cases deed <;> simp [Deed.since]
  have hmirrors : Mirrors s [] (t.shift s) t := ⟨rfl, rfl, by simp⟩
  obtain ⟨⟨old, hlength, hstep⟩, hanswer⟩ := hmirrors.step config hsince
  obtain rfl := List.length_eq_zero_iff.mp hlength
  exact ⟨congr (congrArg Timeline.mk hstep.controller) hstep.flights, hanswer⟩

/-- Two runs of which one has a turn more that has ended without a commit: both are the same
timeline beside a past, and the pasts differ by the turn. -/
structure Spares (base : Nat) (s : Shift) (trace : Trace) (old : List Flight) (gone : Flight)
    (t used fresh : Timeline) : Prop where
  used_eq : used = (t.shift s).beside (trace.used (old ++ [gone]))
  fresh_eq : fresh = t.beside (trace.fresh old)
  sound : t.Sound
  beyond : t.controller.Beyond base
  old_settled : (trace.fresh old).Settled base
  gone_settled : gone.Behind (base + s.generations)

private theorem Spares.settled (h : Spares base s trace old gone t used fresh) :
    (trace.used (old ++ [gone])).Settled (base + s.generations) := by
  intro flight hmem
  rcases List.mem_append.mp hmem with hold | hgone
  · exact (h.old_settled flight hold).mono (Nat.le_add_right _ _)
  · rw [List.mem_singleton.mp hgone]
    exact h.gone_settled

/-- The resolution of an earlier call comes to nothing in both runs. -/
private theorem Spares.step_earlier (h : Spares base s trace old gone t used fresh) {call : Nat}
    (hlt : call < old.length) (reply : Reply) :
    Spares base s trace (old.set call (old[call].lapse reply)) gone t
        (used.step config (.resolve call reply)) (fresh.step config (.resolve call reply)) ∧
      used.answer config (.resolve call reply) = fresh.answer config (.resolve call reply) := by
  have hflight : old[call]? = some old[call] := List.getElem?_eq_getElem hlt
  have hflight' : (old ++ [gone])[call]? = some old[call] := by
    rw [List.getElem?_append_left hlt, hflight]
  -- a call from before the broken turn lapses in both
  obtain ⟨hused, hanswer⟩ :=
    step_beside_old config (t := t.shift s) h.settled (h.beyond.shift s) hflight' reply
  obtain ⟨hfresh, hanswer'⟩ := step_beside_old config h.old_settled h.beyond hflight reply
  rw [← h.used_eq] at hused hanswer
  rw [← h.fresh_eq] at hfresh hanswer'
  refine ⟨⟨?_, hfresh, h.sound, h.beyond, ?_, h.gone_settled⟩, hanswer.trans hanswer'.symm⟩
  · rw [hused, Trace.used, List.set_append_left _ _ hlt]
    rfl
  · exact behind_set h.old_settled ((h.old_settled _ (List.getElem_mem hlt)).lapse reply)

/-- A deed that is about what comes later happens in both runs. -/
private theorem Spares.step_later (h : Spares base s trace old gone t used fresh)
    {deed deed' later : Deed} (hsince : deed.since (old.length + 1) = some later)
    (hsince' : deed'.since old.length = some later) (hclears : deed'.clears = deed.clears) :
    (∃ old' gone' t', old'.length = old.length ∧ Spares base s (trace.after deed) old' gone' t'
        (used.step config deed) (fresh.step config deed')) ∧
      used.answer config deed = (fresh.answer config deed').shift s := by
  have hlength : (trace.used (old ++ [gone])).flights.length = old.length + 1 := by
    simp [Trace.used]
  rw [← hlength] at hsince
  -- on either side the deed goes past the calls that stand in front
  obtain ⟨hused, hanswer⟩ :=
    step_beside config (t := t.shift s) h.settled (h.beyond.shift s) hsince
  obtain ⟨hfresh, hanswer'⟩ := step_beside config h.old_settled h.beyond hsince'
  obtain ⟨hshift, htold⟩ := step_shift config s t later
  rw [← h.used_eq] at hused hanswer
  rw [← h.fresh_eq] at hfresh hanswer'
  -- a reset clears what is kept of the turn, on both sides
  refine ⟨⟨(trace.fresh old).after deed' |>.flights, if deed.clears then gone.wipe else gone,
    t.step config later, ?_, ?_, ?_, h.sound.step config later,
    h.sound.step_beyond config h.beyond later, ?_, ?_⟩, ?_⟩
  · unfold Past.after
    split
    · exact List.length_map _
    · rfl
  · rw [hused, hshift]
    unfold Past.after Trace.after
    rw [hclears]
    cases deed.clears <;> simp [Trace.used, Trace.fresh, Trace.nothing]
  · rw [hfresh]
    unfold Past.after Trace.after
    rw [hclears]
    cases deed.clears <;> rfl
  · exact h.old_settled.after deed'
  · split
    · exact h.gone_settled.wipe
    · exact h.gone_settled
  · rw [hanswer, htold, hanswer']

/-- A deed that is not about the turn keeps the two runs together. -/
theorem Spares.step (h : Spares base s trace old gone t used fresh) {deed deed' : Deed}
    (hwithout : deed.without old.length = some deed') :
    (∃ old' gone' t', old'.length = old.length ∧ Spares base s (trace.after deed) old' gone' t'
        (used.step config deed) (fresh.step config deed')) ∧
      used.answer config deed = deed.told old.length s (fresh.answer config deed') := by
  rcases Deed.without_cases hwithout with
    ⟨call, reply, hlt, rfl, rfl⟩ | ⟨later, hsince, hsince', hclears, htold⟩
  · obtain ⟨hstep, hanswer⟩ := h.step_earlier config hlt reply
    refine ⟨⟨_, gone, t, List.length_set, hstep⟩, ?_⟩
    rw [hanswer, Deed.told, if_pos hlt]
  · rw [htold]
    exact h.step_later config hsince hsince' hclears

/-- The resolution of the turn's own call comes to nothing. -/
theorem Spares.step_gone (h : Spares base s trace old gone t used fresh) {deed : Deed}
    (hwithout : deed.without old.length = none) :
    ((∃ gone', Spares base s trace old gone' t (used.step config deed) fresh) ∧
      deed.clears = false) ∧ (used.step config deed).controller = used.controller := by
  cases deed with
  | submit turn => cases hwithout
  | cancel => cases hwithout
  | reset stock => cases hwithout
  | resolve call reply =>
    rw [Deed.without] at hwithout
    split at hwithout
    -- the only deed without a counterpart: the call of the broken turn resolves too late
    · rename_i heq
      subst heq
      have hflight : (trace.used (old ++ [gone])).flights[old.length]? = some gone := by
        simp [Trace.used]
      obtain ⟨hused, -⟩ :=
        step_beside_old config (t := t.shift s) h.settled (h.beyond.shift s) hflight reply
      rw [← h.used_eq] at hused
      refine ⟨⟨⟨gone.lapse reply, ?_, h.fresh_eq, h.sound, h.beyond, h.old_settled,
        h.gone_settled.lapse reply⟩, rfl⟩, ?_⟩
      · rw [hused]
        simp [Trace.used]
      · rw [hused, h.used_eq]
        rfl
    · cases hwithout

/-- All deeds keep the two runs together, where those about the turn happen in one of them only. -/
theorem Spares.run (h : Spares base s trace old gone t used fresh) (deeds : List Deed) :
    ∃ old' gone' t', old'.length = old.length ∧
      Spares base s (deeds.foldl Trace.after trace) old' gone' t' (used.run config deeds)
        (fresh.run config (deeds.filterMap (Deed.without old.length))) := by
  -- the call of the turn keeps its number, since the calls before it stay as many
  induction deeds generalizing trace old gone t used fresh with
  | nil => exact ⟨old, gone, t, rfl, h⟩
  | cons deed deeds ih =>
    cases hwithout : deed.without old.length with
    | none =>
      obtain ⟨⟨⟨gone', hstep⟩, hclears⟩, _⟩ := h.step_gone config hwithout
      have htrace : trace.after deed = trace := by simp [Trace.after, hclears]
      rw [List.filterMap_cons_none hwithout, List.foldl_cons, htrace]
      exact ih hstep
    | some deed' =>
      obtain ⟨⟨old', gone', t', hlength, hstep⟩, _⟩ := h.step config hwithout
      obtain ⟨old'', gone'', t'', hlength', hrun⟩ := ih hstep
      rw [List.filterMap_cons_some hwithout, ← hlength]
      exact ⟨old'', gone'', t'', hlength', hrun⟩

end Timeline

/-! ## Ends without a commit -/

/-- Why a turn is refused. -/
def SubmitError.Holds (config : Assistant) (c : Controller) (turn : Turn) : SubmitError → Prop
  | inFlight generation => c.phase = .requesting ∧ c.generation = generation
  | badMode value => turn.mode = value ∧ Mode.ofName? value.plain = none
  | badLabel fault => turn.label config.session = .error fault

/-- A reply does not lead to a commit: it is no result, or its job has no output. -/
def Reply.Fails (config : Assistant) (ledger : Ledger) (mode : Mode) : Reply → Prop
  | result analysis => ∃ error, Controller.outputOf config ledger mode analysis = .error error
  | _ => True

/-- What can happen while the call of a turn is in flight and stays so: another turn is submitted,
or another call resolves. -/
inductive Deed.Waits (call : Nat) : Deed → Prop where
  /-- Another turn is submitted. -/
  | submit (turn : Turn) : Waits call (.submit turn)
  /-- Another call resolves. -/
  | resolve {other : Nat} (reply : Reply) (h : other ≠ call) : Waits call (.resolve other reply)

/-- How a turn can end without a commit. -/
inductive Deed.Breaks (config : Assistant) (ledger : Ledger) (mode : Mode) (call : Nat) :
    Deed → Prop where
  /-- Its call resolves with a reply that does not lead to one. -/
  | resolve {reply : Reply} (h : reply.Fails config ledger mode) :
      Breaks config ledger mode call (.resolve call reply)
  /-- It is withdrawn. -/
  | cancel : Breaks config ledger mode call .cancel
  /-- The session is reset. -/
  | reset (stock : Option (Stock Float)) : Breaks config ledger mode call (.reset stock)

/-- Whether a deed is the resolution of a call. -/
def Deed.isResolution : Deed → Bool
  | .resolve .. => true
  | _ => false

/-- The messages of a turn that ends without a commit, behind as many as were posted before. -/
inductive Exchange (posted : Nat) : List Message → Prop where
  /-- Nobody answers the user. -/
  | unanswered (text : String) (attachment : Option String) :
      Exchange posted [⟨posted + 1, .user, text, attachment, none, none⟩]
  /-- The answer tells of a failure. -/
  | answered (text : String) (attachment : Option String) (answer : String) (kind : FailureKind) :
      Exchange posted [⟨posted + 1, .user, text, attachment, none, none⟩,
        ⟨posted + 2, .assistant, answer, none, none, some kind⟩]

namespace Timeline

variable (config : Assistant) {c : Controller} {flights old : List Flight}

/-- While a turn is in flight, nothing but the calls of earlier turns changes, and these as they
would without it. -/
private theorem run_waiting (label : String) (turn : Turn) (launched : Flight)
    (hbehind : ∀ flight ∈ flights, flight.Behind c.generation) (between : List Deed)
    (hbetween : ∀ deed ∈ between, deed.Waits flights.length) :
    ∃ old, old.length = flights.length ∧ (∀ flight ∈ old, flight.Behind c.generation) ∧
      run config ⟨c.begin label turn, flights ++ [launched]⟩ between =
        ⟨c.begin label turn, old ++ [launched]⟩ ∧
      run config ⟨c, flights⟩ (between.filter Deed.isResolution) = ⟨c, old⟩ := by
  induction between generalizing flights with
  | nil => exact ⟨flights, rfl, hbehind, rfl, rfl⟩
  | cons deed between ih =>
    obtain ⟨hdeed, hothers⟩ := List.forall_mem_cons.mp hbetween
    cases hdeed with
    | submit other =>
      -- a second turn is refused as long as the first one is in flight
      have hrefused : step config ⟨c.begin label turn, flights ++ [launched]⟩ (.submit other) =
          ⟨c.begin label turn, flights ++ [launched]⟩ := by
        simp [step, Controller.submit, Controller.begin]
      rw [run_cons, hrefused]
      exact ih hbehind hothers
    | resolve reply hne =>
      rename_i call
      rw [run_cons, List.filter_cons_of_pos rfl, run_cons]
      by_cases hlt : call < flights.length
      · -- an earlier call comes to nothing, with the turn and without it
        have hflight : flights[call]? = some flights[call] := List.getElem?_eq_getElem hlt
        have hflight' : (flights ++ [launched])[call]? = some flights[call] := by
          rw [List.getElem?_append_left hlt, hflight]
        have hcall := hbehind _ (List.getElem_mem hlt)
        have hlater : flights[call].Behind (c.begin label turn).generation :=
          hcall.mono (Nat.le_succ _)
        rw [step_resolve config reply hflight', step_resolve config reply hflight,
          hlater.resolve_lapse config reply, hcall.resolve_lapse config reply,
          List.set_append_left _ _ hlt]
        have hlength : (flights.set call (flights[call].lapse reply)).length = flights.length :=
          List.length_set
        rw [← hlength] at hothers
        obtain ⟨old, hold, hrest⟩ := ih (behind_set hbehind (hcall.lapse reply)) hothers
        exact ⟨old, hold.trans hlength, hrest⟩
      · -- there is no later call
        have hgt : flights.length < call := by omega
        rw [step_resolve_missing config reply, step_resolve_missing config reply]
        · exact ih hbehind hothers
        · exact List.getElem?_eq_none (Nat.le_of_lt hgt)
        · rw [List.getElem?_eq_none]
          rw [List.length_append, List.length_singleton]
          exact hgt

/-- A controller at rest, as a new one over the same job that has not said anything. -/
private def silent (c : Controller) : Timeline :=
  ⟨{ c with session := { c.session with messages := [] }, last := none }, []⟩

/-- A controller at rest, as one more turn leaves it that only puts down messages. -/
private def spoken (c : Controller) (s : Shift) (own : List Message) (last : Option Outcome) :
    Controller :=
  { c with
    session := { c.session with
      messages := c.session.messages ++ own, posted := c.session.posted + s.messages }
    generation := c.generation + s.generations
    last }

/-- A turn that only puts down messages is spared. -/
private theorem spares_spoken (hphase : c.phase = .idle) (htoken : c.token = none)
    (hbehind : ∀ flight ∈ old, flight.Behind c.generation) {s : Shift} {gone : Flight}
    (hgone : gone.Behind (c.generation + s.generations)) {own : List Message} {next : Controller}
    (hnext : next = spoken c s own next.last) :
    Spares c.generation s ⟨c.session.messages, own, next.last, c.last⟩ old gone (silent c)
      ⟨next, old ++ [gone]⟩ ⟨c, old⟩ where
  -- the used controller is the fresh one with the exchange in its past
  used_eq := by
    obtain ⟨session, generation, token, phase, before⟩ := c
    cases htoken
    rw [hnext]
    simp [beside, shift, silent, spoken, Trace.used, Controller.remember, Controller.shift,
      Conversation.remember, Conversation.shift]
  fresh_eq := by
    simp [beside, silent, Trace.fresh, Controller.remember, Conversation.remember]
  sound := Or.inl ⟨hphase, htoken, fun _ hmem => by cases hmem⟩
  beyond := by
    refine ⟨Nat.le_refl _, ?_⟩
    intro generation hsome
    rw [silent, htoken] at hsome
    cases hsome
  old_settled := hbehind
  gone_settled := hgone

/-- A reply that fails ends a turn with a message, or in silence. -/
private theorem conclude_of_fails {mode : Mode} {reply : Reply}
    (h : reply.Fails config c.session.ledger mode) :
    (∃ kind, c.conclude config mode reply = c.fail config kind) ∨
      c.conclude config mode reply = c.drop := by
  rcases c.conclude_cases config mode reply with
    ⟨analysis, output, rfl, hout, -⟩ | hfail | ⟨-, hdrop⟩
  · obtain ⟨error, herror⟩ := h
    rw [hout] at herror
    cases herror
  · exact Or.inl hfail
  · exact Or.inr hdrop

/-- What a turn says. -/
private def question (c : Controller) (label : String) (turn : Turn) : Message :=
  ⟨c.session.posted + 1, .user, label, turn.attachment.map Attachment.fileName, none, none⟩

/-- The answer that tells of a failure. -/
private def failureAnswer (c : Controller) (text : String) (kind : FailureKind) : Message :=
  ⟨c.session.posted + 2, .assistant, text, none, none, some kind⟩

/-- A turn that ends with a failure only puts down its two messages. -/
private theorem fail_begin (hphase : c.phase = .idle) (htoken : c.token = none) (label : String)
    (turn : Turn) (kind : FailureKind) :
    let next := ((c.begin label turn).fail config kind).1
    next = spoken c ⟨1, 2⟩
      [question c label turn,
        failureAnswer c (Controller.failureText config.session.messages kind) kind] next.last := by
  obtain ⟨session, generation, token, phase, before⟩ := c
  cases hphase
  cases htoken
  simp [Controller.fail, Controller.begin, spoken, question, failureAnswer,
    Conversation.postUser, Conversation.postFailure, Conversation.post, Conversation.nextMessage]

private theorem drop_begin (hphase : c.phase = .idle) (htoken : c.token = none) (label : String)
    (turn : Turn) :
    let next := (c.begin label turn).drop.1
    next = spoken c ⟨1, 1⟩ [question c label turn] next.last := by
  obtain ⟨session, generation, token, phase, before⟩ := c
  cases hphase
  cases htoken
  rfl

private theorem withdraw_begin (hphase : c.phase = .idle) (htoken : c.token = none) (label : String)
    (turn : Turn) (last : Option Outcome) :
    let next := { (c.begin label turn).withdraw with
      session := ((c.begin label turn).session.postFailure .cancelled
        config.session.messages.stopped).1
      last }
    next = spoken c ⟨2, 2⟩
      [question c label turn, failureAnswer c config.session.messages.stopped .cancelled]
      next.last := by
  obtain ⟨session, generation, token, phase, before⟩ := c
  cases hphase
  cases htoken
  simp [Controller.withdraw, Controller.begin, spoken, question, failureAnswer,
    Conversation.postUser, Conversation.postFailure, Conversation.post, Conversation.nextMessage]

/-- A turn that is cleared away with its session is spared. -/
private theorem spares_reset (hphase : c.phase = .idle) (htoken : c.token = none)
    (hbehind : ∀ flight ∈ old, flight.Behind c.generation) (label : String) (turn : Turn)
    (stock : Option (Stock Float)) {gone : Flight} (hgone : gone.Behind (c.generation + 2)) :
    Spares c.generation ⟨2, 1⟩ .nothing old gone ⟨c.reset stock, []⟩
      ⟨(c.begin label turn).reset stock, old ++ [gone]⟩ ⟨c.reset stock, old⟩ := by
  obtain ⟨session, generation, token, phase, before⟩ := c
  cases hphase
  cases htoken
  refine ⟨?_, ?_, ?_, ?_, hbehind, hgone⟩
  · simp [beside, shift, Trace.used, Trace.nothing, Controller.reset, Controller.begin,
      Controller.withdraw, Controller.remember, Controller.shift, Conversation.remember,
      Conversation.shift, Conversation.reset, Conversation.postUser, Conversation.post]
  · simp [beside, Trace.fresh, Trace.nothing]
  · exact Or.inl ⟨rfl, rfl, fun _ hmem => by cases hmem⟩
  · exact ⟨Nat.le_refl _, fun _ hsome => by cases hsome⟩

/-- Without the turn, nothing happens when it ends, unless the session is reset. -/
private theorem run_without_breaks (hrest : Resting ⟨c, old⟩) (mode : Mode) {ending : Deed}
    (h : ending.Breaks config c.session.ledger mode old.length)
    (hne : ∀ stock, ending ≠ .reset stock) :
    run config ⟨c, old⟩ ([ending].filterMap (Deed.without old.length)) = ⟨c, old⟩ := by
  cases h with
  | resolve hfails =>
    rename_i reply
    have hgone : Deed.without old.length (.resolve old.length reply) = none := if_pos rfl
    rw [List.filterMap_cons_none hgone]
    rfl
  | cancel => exact hrest.step_cancel_eq config
  | reset stock => exact absurd rfl (hne stock)

/-- However a turn ends without a commit, it is spared. -/
private theorem exists_spares (hphase : c.phase = .idle) (htoken : c.token = none)
    (hbehind : ∀ flight ∈ old, flight.Behind c.generation) (label : String) (turn : Turn)
    (request : Request) {ending : Deed}
    (h : ending.Breaks config c.session.ledger request.mode old.length) :
    let used := step config
      ⟨c.begin label turn, old ++ [Flight.launch (c.generation + 1) request]⟩ ending
    let fresh := run config ⟨c, old⟩ ([ending].filterMap (Deed.without old.length))
    ∃ s own old' gone t, Exchange c.session.posted own ∧ s.messages = own.length ∧
      old'.length = old.length ∧
      Spares c.generation s
        (Trace.after ⟨c.session.messages, own, used.controller.last, c.last⟩ ending) old' gone t
        used fresh := by
  intro used fresh
  have hrest : Resting ⟨c, old⟩ := ⟨hphase, htoken, hbehind⟩
  have hbusy : Busy ⟨c.begin label turn, old ++ [Flight.launch (c.generation + 1) request]⟩ old
      (Flight.launch (c.generation + 1) request) :=
    ⟨rfl, rfl, rfl, rfl, rfl, rfl, rfl,
      fun flight hmem => (hbehind flight hmem).mono (Nat.le_succ _)⟩
  -- the calls of earlier turns are past being withdrawn
  have hpassed : old.map (Flight.withdraw (some (c.generation + 1))) = old :=
    map_withdraw_eq hbehind (by rintro later ⟨⟩; exact Nat.lt_succ_self _)
  have hwithdrawn : ((Flight.launch (c.generation + 1) request).withdraw
      (some (c.generation + 1))).Behind (c.generation + 2) :=
    Flight.Behind.withdraw _ (Nat.le_refl (c.generation + 1))
  cases h with
  | resolve hfails =>
    rename_i reply
    have hfresh : fresh = ⟨c, old⟩ :=
      run_without_breaks config hrest request.mode (.resolve hfails) (by simp)
    have hlanded (outcome : Outcome) :
        ((Flight.launch (c.generation + 1) request).land reply outcome).Behind
          (c.generation + 1) := Flight.Behind.land reply _ (Nat.le_refl _)
    have hused : used = _ := hbusy.step_resolve config reply
    rw [hfresh, hused]
    -- a question and its answer, or the question alone where the failure has no kind
    rcases conclude_of_fails config (c := c.begin label turn) hfails with ⟨kind, hfail⟩ | hdrop
    · have hspoken := fail_begin config hphase htoken label turn kind
      rw [← hfail] at hspoken
      exact ⟨⟨1, 2⟩, _, old, _, silent c, .answered .., rfl, rfl,
        spares_spoken hphase htoken hbehind (hlanded _) hspoken⟩
    · have hspoken := drop_begin hphase htoken label turn
      rw [← hdrop] at hspoken
      exact ⟨⟨1, 1⟩, _, old, _, silent c, .unanswered .., rfl, rfl,
        spares_spoken hphase htoken hbehind (hlanded _) hspoken⟩
  | cancel =>
    have hfresh : fresh = ⟨c, old⟩ :=
      run_without_breaks config hrest request.mode .cancel (by simp)
    -- a withdrawn turn is answered, and its number is used up as well
    obtain ⟨last, hused⟩ := hbusy.step_cancel config
    replace hused : used = ⟨_, (old ++ [_]).map (Flight.withdraw (some (c.generation + 1)))⟩ :=
      hused
    rw [List.map_append, hpassed] at hused
    rw [hfresh, hused]
    exact ⟨⟨2, 2⟩, _, old, _, silent c, .answered .., rfl, rfl,
      spares_spoken hphase htoken hbehind hwithdrawn
        (withdraw_begin config hphase htoken label turn last)⟩
  | reset stock =>
    -- both are reset, and the reset wipes the question
    have hused : used = ⟨(c.begin label turn).reset stock,
        (old ++ [_]).map (Flight.wipe ∘ Flight.withdraw (some (c.generation + 1)))⟩ := rfl
    have hfresh : fresh = ⟨c.reset stock, old.map (Flight.wipe ∘ Flight.withdraw c.token)⟩ := rfl
    rw [← List.map_map, List.map_append, hpassed, List.map_append] at hused
    rw [← List.map_map, htoken, map_withdraw_eq hbehind (by simp)] at hfresh
    rw [hfresh, hused]
    refine ⟨⟨2, 1⟩, [question c label turn], old.map Flight.wipe, _, _, .unanswered .., rfl,
      List.length_map _, spares_reset hphase htoken ?_ label turn stock hwithdrawn.wipe⟩
    exact List.forall_mem_map.mpr fun flight hmem => (hbehind flight hmem).wipe

/-! ## The whole run -/

/-- What is the same in a run with a turn that has ended without a commit and in the run without
it, and what is not: `trace` is left of the turn, `calls` is its call, and later turns and messages
are counted with a distance. -/
structure Spared (config : Assistant) (s : Shift) (calls : Nat) (trace : Trace)
    (used fresh : Timeline) : Prop where
  /-- The job is the same. -/
  ledger : used.controller.session.ledger = fresh.controller.session.ledger
  /-- The output is the same. -/
  output : used.controller.session.output = fresh.controller.session.output
  /-- So is the stock that the session begins with. -/
  defaultStock : used.controller.session.defaultStock = fresh.controller.session.defaultStock
  /-- The transcript has the messages of the turn more, and those behind them are counted from
  there. -/
  messages : ∃ rest, fresh.controller.session.messages = trace.kept ++ rest ∧
    used.controller.session.messages = trace.kept ++ trace.own ++ rest.map (Message.shift s)
  /-- There are more messages. -/
  posted : used.controller.session.posted = fresh.controller.session.posted + s.messages
  /-- There are more generations. -/
  generation : used.controller.generation = fresh.controller.generation + s.generations
  /-- The same turn is in flight. -/
  token : used.controller.token = fresh.controller.token.map (· + s.generations)
  /-- The controller is at the same. -/
  phase : used.controller.phase = fresh.controller.phase
  /-- The last turn is the same, unless it is the one that the runs differ by. -/
  last : used.controller.last = fresh.controller.last.map (Outcome.shift s) ∨
    used.controller.last = trace.last ∧ fresh.controller.last = trace.before
  /-- The same has become of all earlier calls. -/
  earlier : used.flights.take calls = fresh.flights.take calls
  /-- The same has become of all later calls. -/
  later : used.flights.drop (calls + 1) = (fresh.flights.drop calls).map (Flight.shift s)
  /-- What is done next comes out alike. -/
  answer : ∀ deed deed', deed.without calls = some deed' →
    used.answer config deed = deed.told calls s (fresh.answer config deed')
  /-- The call of the turn has no effect any more. -/
  gone : ∀ deed, deed.without calls = none →
    (used.step config deed).controller = used.controller

/-- What two runs have in common that are the same timeline beside a past. -/
private theorem Spares.spared {base : Nat} {s : Shift} {trace : Trace} {gone : Flight}
    {t used fresh : Timeline} (h : Spares base s trace old gone t used fresh) :
    Spared config s old.length trace used fresh where
  ledger := by rw [h.used_eq, h.fresh_eq]; rfl
  output := by rw [h.used_eq, h.fresh_eq]; rfl
  defaultStock := by rw [h.used_eq, h.fresh_eq]; rfl
  messages := by
    rw [h.used_eq, h.fresh_eq]
    exact ⟨t.controller.session.messages, rfl, rfl⟩
  posted := by rw [h.used_eq, h.fresh_eq]; rfl
  generation := by rw [h.used_eq, h.fresh_eq]; rfl
  token := by rw [h.used_eq, h.fresh_eq]; rfl
  phase := by rw [h.used_eq, h.fresh_eq]; rfl
  last := by
    rw [h.used_eq, h.fresh_eq]
    simp only [beside, shift, Controller.remember, Controller.shift, Trace.used, Trace.fresh]
    -- a turn since then has told its own outcome on both sides
    cases t.controller.last with
    | none => exact Or.inr ⟨rfl, rfl⟩
    | some outcome => exact Or.inl rfl
  earlier := by
    rw [h.used_eq, h.fresh_eq]
    simp [beside, Trace.used, Trace.fresh]
  later := by
    rw [h.used_eq, h.fresh_eq]
    simp [beside, shift, Trace.used, Trace.fresh]
  answer := fun _ _ hwithout => (h.step config hwithout).2
  gone := fun _ hwithout => (h.step_gone config hwithout).2

/-- A turn that is submitted is refused for a reason, and then nothing has changed, or it begins. -/
private theorem attempt_cases (c : Controller) (turn : Turn) :
    (∃ error, (c.attempt config turn) = (.error error, c) ∧ error.Holds config c turn) ∨
      c.phase ≠ .requesting ∧ ∃ label mode, c.attempt config turn =
        (.ok (turn.request config.session mode), c.begin label turn) := by
  unfold Controller.attempt
  by_cases hphase : c.phase = .requesting
  · rw [if_pos hphase]
    exact Or.inl ⟨_, rfl, hphase, rfl⟩
  · rw [if_neg hphase]
    cases hmode : Mode.ofName? turn.mode.plain with
    | none => exact Or.inl ⟨_, rfl, rfl, hmode⟩
    | some mode =>
      cases hlabel : turn.label config.session with
      | error fault => exact Or.inl ⟨_, rfl, hlabel⟩
      | ok label => exact Or.inr ⟨hphase, label, mode, rfl⟩

/-- A submission seen through its effects. -/
private theorem step_submit_eq (t : Timeline) (turn : Turn) :
    t.step config (.submit turn) =
      match t.controller.attempt config turn with
      | (.error _, _) => t
      | (.ok request, next) => ⟨next, t.flights ++ [Flight.launch next.generation request]⟩ := by
  rw [Controller.attempt_eq]
  simp only [step]
  cases t.controller.submit config turn <;> rfl

/-- A request asks the words of its turn or one of the prompts of the settings. -/
private theorem request_prompt {config : Assistant} (h : Accepted config) (turn : Turn)
    (mode : Mode) :
    (turn.request config.session mode).prompt = turn.words ∨
      ∃ kind, config.session.defaultPrompts.lookup kind =
        some (turn.request config.session mode).prompt := by
  unfold Turn.request
  dsimp only
  split
  · exact Or.inr (h.exists_defaultPrompt _)
  · exact Or.inl rfl

/-- A turn that is refused is so for a reason, and changes nothing. -/
private theorem unchanged_of_refused (t : Timeline) (turn : Turn) {error : SubmitError}
    (herror : (t.controller.attempt config turn).1 = .error error) :
    error.Holds config t.controller turn ∧ (t.controller.attempt config turn).2 = t.controller ∧
      t.step config (.submit turn) = t := by
  have hsubmit := step_submit_eq config t turn
  rcases attempt_cases config t.controller turn with ⟨found, heq, hholds⟩ | ⟨-, _, _, heq⟩
  · rw [heq] at herror hsubmit ⊢
    obtain rfl : found = error := Except.error.inj herror
    exact ⟨hholds, rfl, hsubmit⟩
  · rw [heq] at herror
    cases herror

/-- A turn that begins is spared when it ends without a commit, whatever happened meanwhile. -/
private theorem exists_spares_of_begun {t : Timeline} (hsound : t.Sound) {turn : Turn}
    {label : String} {request : Request}
    (hbegun : t.controller.attempt config turn = (.ok request, t.controller.begin label turn))
    (hphase : t.controller.phase ≠ .requesting) {between : List Deed} {ending : Deed}
    (hbetween : ∀ deed ∈ between, deed.Waits t.flights.length)
    (hbreaks : ending.Breaks config t.controller.session.ledger request.mode t.flights.length) :
    let ended := ((t.step config (.submit turn)).run config between).step config ending
    let fresh := (t.run config (between.filter Deed.isResolution)).run config
      ([ending].filterMap (Deed.without t.flights.length))
    ((∀ stock, ending ≠ .reset stock) → fresh.controller = t.controller) ∧
      ∃ s own old gone rest, Exchange t.controller.session.posted own ∧
        s.messages = own.length ∧ old.length = t.flights.length ∧
        Spares t.controller.generation s
          (Trace.after ⟨t.controller.session.messages, own, ended.controller.last,
            t.controller.last⟩ ending) old gone rest ended fresh := by
  intro ended fresh
  have hsubmit := step_submit_eq config t turn
  rw [hbegun] at hsubmit
  -- no turn is in flight when one begins
  have hrest : t.Resting := by
    rcases hsound with hrest | ⟨earlier, current, hbusy⟩
    · exact hrest
    · exact absurd hbusy.phase hphase
  -- while it is in flight, the earlier calls go on as they would without it
  obtain ⟨old, hlength, hbehind, hwaited, hwaited'⟩ := run_waiting config label turn
    (Flight.launch (t.controller.generation + 1) request) hrest.behind between hbetween
  have hended : ended = step config ⟨t.controller.begin label turn, old ++
      [Flight.launch (t.controller.generation + 1) request]⟩ ending := by
    rw [← hwaited]
    exact congrArg (fun begun => step config (run config begun between) ending) hsubmit
  have hfresh : fresh = run config ⟨t.controller, old⟩
      ([ending].filterMap (Deed.without old.length)) := by
    rw [hlength, ← hwaited']
  rw [← hlength] at hbreaks
  rw [hfresh, hended]
  refine ⟨?_, ?_⟩
  · intro hne
    have hresting : Resting ⟨t.controller, old⟩ := ⟨hrest.phase, hrest.token, hbehind⟩
    rw [run_without_breaks config hresting _ hbreaks hne]
  · rw [← hlength]
    exact exists_spares config hrest.phase hrest.token hbehind label turn request hbreaks

/-- **A turn that fails leaves no trace.**  With accepted settings, at every moment: a turn that is
refused is so for a reason, and changes nothing.  A turn that begins asks its own words or a prompt
of the settings.  When it ends without a commit, by a reply that does not lead to one, by a
withdrawal or by a reset, whatever happened meanwhile, the job and the output are what they were
when it began, unless the session is reset; and from then on everything comes out as in the run
without the turn, but for its messages, of which there are two at most, and for the numbers of later
turns and messages. -/
theorem failed_turns_leave_no_trace {tree : Files.Tree} {path : Option Files.Path}
    {config : Assistant} (h : Config.load tree path = .ok config) (session : Conversation)
    (history : List Deed) (turn : Turn) :
    let t := after config session history
    let calls := t.flights.length
    (∀ error, (t.controller.attempt config turn).1 = .error error →
      error.Holds config t.controller turn ∧
        (t.controller.attempt config turn).2 = t.controller ∧
        t.step config (.submit turn) = t) ∧
    ∀ request, (t.controller.attempt config turn).1 = .ok request →
      (request.prompt = turn.words ∨
        ∃ kind, config.session.defaultPrompts.lookup kind = some request.prompt) ∧
      ∀ between ending, (∀ deed ∈ between, deed.Waits calls) →
        ending.Breaks config t.controller.session.ledger request.mode calls →
          let ended := ((t.step config (.submit turn)).run config between).step config ending
          ((∀ stock, ending ≠ .reset stock) →
            ended.controller.session.ledger = t.controller.session.ledger ∧
              ended.controller.session.output = t.controller.session.output) ∧
          ∃ s own, Exchange t.controller.session.posted own ∧ s.messages = own.length ∧
            ∀ later,
              let trace : Trace :=
                ⟨t.controller.session.messages, own, ended.controller.last, t.controller.last⟩
              let cleared := (ending :: later).any Deed.clears
              Spared config s calls (if cleared then .nothing else trace) (ended.run config later)
                ((t.run config (between.filter Deed.isResolution)).run config
                  ((ending :: later).filterMap (Deed.without calls))) := by
  intro t calls
  refine ⟨fun error herror => unchanged_of_refused config t turn herror, ?_⟩
  intro request hrequest
  -- the turn is not refused, so the controller begins it, under a label of its own
  rcases attempt_cases config t.controller turn with ⟨_, heq, -⟩ | ⟨hphase, label, mode, heq⟩
  · rw [heq] at hrequest
    cases hrequest
  obtain rfl : turn.request config.session mode = request := by
    rw [heq] at hrequest
    exact Except.ok.inj hrequest
  refine ⟨request_prompt (accepted_of_load h) turn mode, ?_⟩
  intro between ending hbetween hbreaks ended
  -- when it has ended, both runs are alike but for the calls and messages of the turn
  obtain ⟨hstays, s, own, old, gone, rest, hexchange, hmessages, hlength, hspares⟩ :=
    exists_spares_of_begun config (after_sound config session history) heq hphase hbetween hbreaks
  refine ⟨?_, s, own, hexchange, hmessages, ?_⟩
  · intro hne
    have hspared := hspares.spared config
    rw [← hstays hne]
    exact ⟨hspared.ledger, hspared.output⟩
  · intro later trace cleared
    -- from then on every deed keeps them alike
    obtain ⟨old', gone', rest', hlength', hrun⟩ := hspares.run config later
    have hspared := hrun.spared config
    have htrace : later.foldl Trace.after (trace.after ending) =
        if cleared then .nothing else trace := trace.foldl_after (ending :: later)
    rw [htrace, hlength', hlength] at hspared
    rw [show ending :: later = [ending] ++ later from rfl, List.filterMap_append, run_append]
    exact hspared

/-- A session in which a hole has replaced the job, with a program of its own. -/
def suppliedJob : List Deed :=
  [.submit (sampleTurn .replace),
    .resolve 0 (.result ⟨sampleHole 10, sampleStock, "A hole.", some "M30"⟩)]

/-- A replacement that does not compile leaves the job and the output of the session alone. -/
theorem failed_turns_leave_no_trace_of_fineHole :
    ∃ config, Config.load .empty none = .ok config ∧
      let t := after config (.new sampleStock) suppliedJob
      let ended := t.run config [.submit (sampleTurn .replace),
        .resolve 1 (.result ⟨fineHole, sampleStock, "A finer hole.", none⟩)]
      t.controller.session.ledger.operations = [sampleHole 10] ∧
        ended.controller.session.ledger = t.controller.session.ledger ∧
          ended.controller.session.output = t.controller.session.output := by
  obtain ⟨config, hload, hfails⟩ := exists_load_fineHole
  refine ⟨config, hload, rfl, ?_⟩
  obtain ⟨-, hbegun⟩ :=
    failed_turns_leave_no_trace hload (.new sampleStock) suppliedJob (sampleTurn .replace)
  obtain ⟨-, hbroken⟩ := hbegun _ rfl
  -- the replacement does not compile
  have hout : Reply.Fails config ⟨[sampleHole 10], sampleStock⟩ .replace
      (.result ⟨fineHole, sampleStock, "A finer hole.", none⟩) := by
    refine ⟨.infinityToInteger, ?_⟩
    show Program.output config.compiler sampleStock [fineHole] "A finer hole." = _
    rw [Program.output]
    exact congrArg (Except.map _) hfails
  exact (hbroken [] _ (by simp) (.resolve hout)).1 (by simp)

end Timeline

end Machining.Session
