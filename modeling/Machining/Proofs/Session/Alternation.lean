import Machining.Proofs.Session.Dialogues

/-!
# Questions and answers take turns

The transcript of a session begins with a question of the user, and each question is followed by one
answer of the assistant before the next question comes.  The answer to a turn may come from a
result, from any kind of failure, from a job that does not compile, or from a cancel, but it comes
exactly once: what arrives afterwards adds nothing.  Only while a turn is in flight does the
transcript end in a question.  Messages are numbered over the whole life of a session, also across
resets.

## Silent endings

There is one way for a turn to end without an answer: an incident whose kind cannot be told
(`Flight.Unanswered`).  `Incident.untold_iff` says when this happens to an incident that carries
JSON values: its own words cannot be written, or its details are nested too deep or have a number of
too many digits.  Such a turn leaves its question behind, and the transcript is no longer orderly
until the next reset.

## How it is shown

A `Chronicle` is a timeline with two things that it forgets: how many turns lie before the last
reset, and all messages that there have ever been.  It keeps two invariants, and `Paired.record` and
`Numbered.record` show that every move keeps them: the messages since the last reset are those of
the turns since then (`Paired`), and messages are numbered as they are created (`Numbered`).  The
transcript is orderly if no turn among these is unanswered (`Paired.orderly`), and only then,
because each one that is takes a message away from the count (`Dialogue.length_add`).
-/

namespace Machining.Session

open Machining.Config Machining.Document Machining.Job

/-! ## What a move says -/

/-- What a move does to the transcript: nothing, or it adds one message with the next number, or it
clears it. -/
theorem Timeline.Move.talk_cases {config : Assistant} {t next : Timeline} {deed : Deed}
    (hmove : Timeline.Move config t deed next) :
    (next.controller.session.messages = t.controller.session.messages ∧
        next.controller.session.posted = t.controller.session.posted) ∨
      (∃ message,
        next.controller.session.messages = t.controller.session.messages ++ [message] ∧
          message.number = t.controller.session.posted + 1 ∧
          next.controller.session.posted = t.controller.session.posted + 1) ∨
      (next.controller.session.messages = [] ∧
        next.controller.session.posted = t.controller.session.posted) := by
  cases hmove with
  | stay => exact Or.inl ⟨rfl, rfl⟩
  | start => exact Or.inr (Or.inl ⟨_, rfl, rfl, rfl⟩)
  | drop => exact Or.inl ⟨rfl, rfl⟩
  | finish earlier current reply hbusy =>
    -- a finished turn posts its answer, but for a failure without a kind
    rcases t.controller.conclude_cases config current.call.request.mode reply with
      ⟨_, _, _, _, hcommit⟩ | ⟨_, hfail⟩ | ⟨_, hdrop⟩
    · rw [hcommit]
      exact Or.inr (Or.inl ⟨_, rfl, rfl, rfl⟩)
    · rw [hfail]
      exact Or.inr (Or.inl ⟨_, rfl, rfl, rfl⟩)
    · rw [hdrop]
      exact Or.inl ⟨rfl, rfl⟩
  | withdraw => exact Or.inr (Or.inl ⟨_, rfl, rfl, rfl⟩)
  | reset stock => exact Or.inr (Or.inr ⟨rfl, rfl⟩)

/-! ## Chronicles -/

/-- A timeline with what it forgets. -/
structure Chronicle where
  /-- The timeline. -/
  timeline : Timeline
  /-- How many turns had begun when the session was last reset. -/
  opening : Nat
  /-- All messages that there have ever been, in the order of their creation. -/
  created : List Message

namespace Chronicle

/-- The conversation as it stands. -/
def talk (c : Chronicle) : Conversation := c.timeline.controller.session

/-- What has become of the turns since the last reset. -/
def fates (c : Chronicle) : List Fate := (c.timeline.flights.drop c.opening).map Flight.fate

/-- A chronicle goes on with the timeline that a deed makes.  The messages that the deed creates are
those behind the ones that were there. -/
def record (c : Chronicle) (deed : Deed) (next : Timeline) : Chronicle where
  timeline := next
  opening :=
    match deed with
    | .reset _ => c.timeline.flights.length
    | _ => c.opening
  created := c.created ++ next.controller.session.messages.drop c.talk.messages.length

/-- What one deed makes of a chronicle. -/
def step (config : Assistant) (c : Chronicle) (deed : Deed) : Chronicle :=
  c.record deed (c.timeline.step config deed)

/-- A chronicle before anything has happened. -/
def start (session : Conversation) : Chronicle := ⟨Timeline.start session, 0, []⟩

/-- The chronicle of a new controller after some deeds. -/
def after (config : Assistant) (session : Conversation) (deeds : List Deed) : Chronicle :=
  deeds.foldl (step config) (start session)

/-- A chronicle is one of the timeline that its deeds make. -/
theorem timeline_after (config : Assistant) (session : Conversation) (deeds : List Deed) :
    (after config session deeds).timeline = Timeline.after config session deeds := by
  -- along the deeds the chronicle is not a new one
  suffices hall : ∀ c : Chronicle,
      (deeds.foldl (step config) c).timeline = c.timeline.run config deeds from hall _
  induction deeds with
  | nil => exact fun _ => rfl
  | cons deed deeds ih => exact fun c => ih (c.step config deed)

/-! ## Turns and messages -/

/-- The messages since the last reset are those of the turns since then; the last one may still be
without an answer. -/
structure Paired (c : Chronicle) : Prop where
  /-- The last reset came after turns that had begun. -/
  opening_le : c.opening ≤ c.timeline.flights.length
  /-- All turns have ended, or all but the last one. -/
  dialogue : c.timeline.controller.phase ≠ .requesting ∧ Dialogue c.talk.messages c.fates ∨
    c.timeline.controller.phase = .requesting ∧
      ∃ earlier question fates, c.talk.messages = earlier ++ [question] ∧
        question.IsQuestion ∧ c.fates = fates ++ [.inFlight] ∧ Dialogue earlier fates

variable {config : Assistant} {c : Chronicle} {deed : Deed} {next : Timeline}

theorem start_paired (stock : Stock Float) : (start (.new stock)).Paired :=
  ⟨Nat.le_refl 0, Or.inl ⟨by simp [start, Timeline.start, Controller.new], .nil⟩⟩

/-- While no turn is in flight, all have ended. -/
private theorem Paired.resting (h : c.Paired) (hrest : c.timeline.Resting) :
    Dialogue c.talk.messages c.fates := by
  rcases h.dialogue with ⟨_, hall⟩ | ⟨hphase, _⟩
  · exact hall
  · rw [hrest.phase] at hphase
    cases hphase

/-- While a turn is in flight, it is the last one and the others have ended. -/
private theorem Paired.busy (h : c.Paired) {earlier : List Flight} {current : Flight}
    (hbusy : c.timeline.Busy earlier current) :
    c.opening ≤ earlier.length ∧ ∃ others question, c.talk.messages = others ++ [question] ∧
      question.IsQuestion ∧ Dialogue others ((earlier.drop c.opening).map Flight.fate) := by
  rcases h.dialogue with ⟨hphase, _⟩ | ⟨_, others, question, fates, hmessages, hquestion,
    hfates, hothers⟩
  · exact absurd hbusy.phase hphase
  · -- the turn in flight began behind the last reset
    have hle : c.opening ≤ earlier.length := by
      have hlength := congrArg List.length hfates
      simp only [Chronicle.fates, hbusy.flights_eq, List.length_map, List.length_drop,
        List.length_append, List.length_singleton] at hlength
      omega
    refine ⟨hle, others, question, hmessages, hquestion, ?_⟩
    rw [Chronicle.fates, hbusy.flights_eq, List.drop_append_of_le_length hle,
      List.map_append] at hfates
    rw [(List.append_inj' hfates rfl).1]
    exact hothers

/-- The turn in flight comes to rest, with what is said at its end. -/
private theorem Paired.settle (h : c.Paired) {earlier others : List Flight} {current ended : Flight}
    (hbusy : c.timeline.Busy earlier current) (hdeed : (c.record deed next).opening = c.opening)
    {said : List Message} (hmessages : next.controller.session.messages = c.talk.messages ++ said)
    (hphase : next.controller.phase ≠ .requesting) (hflights : next.flights = others ++ [ended])
    (hothers : others.map Flight.fate = earlier.map Flight.fate)
    (hsaid : ∀ question : Message, question.IsQuestion → Dialogue (question :: said) [ended.fate]) :
    (c.record deed next).Paired := by
  obtain ⟨hle, asked, question, hasked, hquestion, hdialogue⟩ := h.busy hbusy
  have hlength : others.length = earlier.length := by
    simpa using congrArg List.length hothers
  have hopening : (c.record deed next).opening ≤ others.length := by
    rw [hdeed, hlength]
    exact hle
  -- only what became of the last turn is new
  have hfates : (c.record deed next).fates =
      (earlier.drop c.opening).map Flight.fate ++ [ended.fate] := by
    have hmap : (others.drop c.opening).map Flight.fate =
        (earlier.drop c.opening).map Flight.fate := by
      rw [List.map_drop, List.map_drop, hothers]
    change (next.flights.drop (c.record deed next).opening).map Flight.fate = _
    rw [hflights, List.drop_append_of_le_length hopening, List.map_append, hdeed, hmap]
    rfl
  refine ⟨?_, Or.inl ⟨hphase, ?_⟩⟩
  · change (c.record deed next).opening ≤ next.flights.length
    rw [hflights, List.length_append]
    omega
  · change Dialogue next.controller.session.messages _
    rw [hfates, hmessages, hasked, List.append_assoc]
    exact hdialogue.append (hsaid question hquestion)

/-- A deed that keeps the messages and what has become of the turns leaves the pairs as they are. -/
private theorem Paired.of_eq (h : c.Paired) (hdeed : (c.record deed next).opening = c.opening)
    (hphase : next.controller.phase = c.timeline.controller.phase)
    (hmessages : next.controller.session.messages = c.talk.messages)
    (hflights : next.flights.map Flight.fate = c.timeline.flights.map Flight.fate) :
    (c.record deed next).Paired := by
  have hlength : next.flights.length = c.timeline.flights.length := by
    simpa using congrArg List.length hflights
  -- neither the fates nor the messages change, and so they still belong together
  have hfates : (c.record deed next).fates = c.fates := by
    change (next.flights.drop (c.record deed next).opening).map Flight.fate = _
    rw [hdeed, Chronicle.fates, List.map_drop, List.map_drop, hflights]
  refine ⟨?_, ?_⟩
  · change (c.record deed next).opening ≤ next.flights.length
    rw [hdeed, hlength]
    exact h.opening_le
  · rw [hfates]
    change next.controller.phase ≠ .requesting ∧ Dialogue next.controller.session.messages _ ∨
      next.controller.phase = .requesting ∧ ∃ earlier question fates,
        next.controller.session.messages = earlier ++ [question] ∧ _
    rw [hphase, hmessages]
    exact h.dialogue

private theorem record_opening (c : Chronicle) (next : Timeline)
    (h : ∀ stock, deed ≠ .reset stock) : (c.record deed next).opening = c.opening := by
  cases deed with
  | reset stock => exact absurd rfl (h stock)
  | _ => rfl

/-- A question is asked. -/
private theorem Paired.start (h : c.Paired) (hrest : c.timeline.Resting) (label : String)
    (turn : Turn) (request : Request) :
    (c.record (.submit turn) ⟨c.timeline.controller.begin label turn,
      c.timeline.flights ++
        [Flight.launch (c.timeline.controller.generation + 1) request]⟩).Paired := by
  refine ⟨?_, Or.inr ⟨rfl, c.talk.messages, _, c.fates, rfl, ⟨rfl, rfl, rfl⟩, ?_,
    h.resting hrest⟩⟩
  · change c.opening ≤ (c.timeline.flights ++ _).length
    rw [List.length_append]
    exact Nat.le_add_right_of_le h.opening_le
  · change ((c.timeline.flights ++ _).drop c.opening).map Flight.fate = _
    rw [List.drop_append_of_le_length h.opening_le, List.map_append]
    rfl

/-- The turn in flight ends, and its outcome is told if it can be. -/
private theorem Paired.finish (h : c.Paired) {earlier : List Flight} {current : Flight}
    (hbusy : c.timeline.Busy earlier current) (reply : Reply) :
    (c.record (.resolve earlier.length reply)
      ⟨(c.timeline.controller.conclude config current.call.request.mode reply).1,
        earlier ++ [current.land reply
          (c.timeline.controller.conclude config current.call.request.mode reply).2]⟩).Paired := by
  have hfate (outcome : Outcome) :
      (current.land reply outcome).fate = .ended outcome.message := by
    simp [Flight.fate, Flight.land, hbusy.superseded]
  rcases c.timeline.controller.conclude_cases config current.call.request.mode reply with
    ⟨_, out, _, _, hcommit⟩ | ⟨kind, hfail⟩ | ⟨_, hdrop⟩
  · rw [hcommit]
    refine h.settle hbusy rfl rfl (by simp [Controller.commit]) rfl rfl fun question hquestion => ?_
    rw [hfate]
    exact .answered hquestion ⟨rfl, rfl⟩ rfl .nil
  · rw [hfail]
    refine h.settle hbusy rfl rfl (by simp [Controller.fail]) rfl rfl fun question hquestion => ?_
    rw [hfate]
    exact .answered hquestion ⟨rfl, rfl⟩ rfl .nil
  · -- this is the silent ending
    rw [hdrop]
    refine h.settle hbusy rfl (List.append_nil _).symm (by simp [Controller.drop]) rfl rfl
      fun question hquestion => ?_
    rw [hfate]
    exact .silent hquestion .nil

/-- The turn in flight is withdrawn, and the user is told so. -/
private theorem Paired.withdraw (h : c.Paired) {earlier : List Flight} {current : Flight}
    (hbusy : c.timeline.Busy earlier current) (last : Option Outcome) :
    (c.record .cancel
      ⟨{ c.timeline.controller.withdraw with
          session := (c.timeline.controller.session.postFailure .cancelled
            config.session.messages.stopped).1
          last },
        c.timeline.flights.map
          (Flight.withdraw (some c.timeline.controller.generation))⟩).Paired := by
  refine h.settle hbusy rfl rfl (by simp [Controller.withdraw])
    (by rw [hbusy.flights_eq, List.map_append]; rfl) ?_ fun question hquestion => ?_
  · -- the earlier turns are not in flight, so a cancel does not touch them
    rw [List.map_map]
    refine List.map_congr_left fun flight hmem => ?_
    exact (hbusy.behind flight hmem).fate_withdraw _
  · have hovertaken : (current.withdraw (some c.timeline.controller.generation)).fate =
        .overtaken := by
      simp [Flight.fate, hbusy.landing]
    rw [hovertaken]
    exact .answered hquestion ⟨rfl, rfl⟩ rfl .nil

/-- Every move keeps the pairs. -/
theorem Paired.record (h : c.Paired) (hmove : Timeline.Move config c.timeline deed next) :
    (c.record deed next).Paired := by
  cases hmove with
  | stay deed hnot => exact h.of_eq (record_opening c _ hnot) rfl rfl rfl
  | start turn label mode hrest => exact h.start hrest label turn _
  | drop call reply flight hflight hlanding hbehind =>
    refine h.of_eq rfl rfl rfl ?_
    exact map_set_of_eq hflight (hbehind.fate_land hlanding reply _)
  | finish earlier current reply hbusy => exact h.finish hbusy reply
  | withdraw earlier current last hbusy => exact h.withdraw hbusy last
  | reset stock =>
    -- behind a reset the talk begins anew, with no question asked yet
    have hphase : (c.timeline.controller.reset stock).phase = .idle := rfl
    have hfates : (c.record (.reset stock) ⟨c.timeline.controller.reset stock,
        c.timeline.flights.map fun flight =>
          (flight.withdraw c.timeline.controller.token).wipe⟩).fates = [] := by
      simp [Chronicle.fates, Chronicle.record]
    refine ⟨?_, Or.inl ⟨?_, ?_⟩⟩
    · simp [Chronicle.record]
    · change (c.timeline.controller.reset stock).phase ≠ .requesting
      simp [hphase]
    · rw [hfates]
      exact .nil

/-! ## Numbers -/

/-- Messages are numbered as they are created, and the transcript shows the last of them. -/
structure Numbered (c : Chronicle) : Prop where
  numbers : c.created.map (·.number) = List.range' 1 c.created.length
  posted : c.talk.posted = c.created.length
  suffix : c.talk.messages <:+ c.created

theorem start_numbered (stock : Stock Float) : (start (.new stock)).Numbered :=
  ⟨rfl, rfl, List.suffix_refl _⟩

/-- Every move keeps the numbers. -/
theorem Numbered.record (h : c.Numbered) (hmove : Timeline.Move config c.timeline deed next) :
    (c.record deed next).Numbered := by
  -- a move says nothing, adds a message, or clears the transcript
  rcases hmove.talk_cases with ⟨hmessages, hposted⟩ | ⟨message, hmessages, hnumber, hposted⟩ |
    ⟨hmessages, hposted⟩
  · -- nothing is said
    have hcreated : (c.record deed next).created = c.created := by
      change c.created ++ next.controller.session.messages.drop c.talk.messages.length = _
      rw [hmessages, Chronicle.talk, List.drop_length, List.append_nil]
    refine ⟨?_, ?_, ?_⟩
    · rw [hcreated]
      exact h.numbers
    · rw [hcreated]
      exact hposted.trans h.posted
    · rw [hcreated]
      change next.controller.session.messages <:+ c.created
      rw [hmessages]
      exact h.suffix
  · -- one message is added, with the next number
    have hcreated : (c.record deed next).created = c.created ++ [message] := by
      change c.created ++ next.controller.session.messages.drop c.talk.messages.length = _
      rw [hmessages, Chronicle.talk, List.drop_left]
    refine ⟨?_, ?_, ?_⟩
    · rw [hcreated, List.map_append, h.numbers, List.length_append, List.length_singleton,
        List.range'_1_concat, List.map_singleton, hnumber, ← Chronicle.talk, h.posted,
        Nat.add_comm 1]
    · rw [hcreated, List.length_append, ← h.posted]
      exact hposted
    · rw [hcreated]
      change next.controller.session.messages <:+ c.created ++ [message]
      rw [hmessages]
      obtain ⟨front, hfront⟩ := h.suffix
      exact ⟨front, by rw [← List.append_assoc, ← Chronicle.talk, hfront]⟩
  · -- the transcript is cleared, but what was created stays created
    have hcreated : (c.record deed next).created = c.created := by
      change c.created ++ next.controller.session.messages.drop c.talk.messages.length = _
      rw [hmessages, List.drop_nil, List.append_nil]
    refine ⟨?_, ?_, ?_⟩
    · rw [hcreated]
      exact h.numbers
    · rw [hcreated]
      exact hposted.trans h.posted
    · change next.controller.session.messages <:+ _
      rw [hmessages]
      exact List.nil_suffix

/-! ## The transcript of a session -/

/-- How the messages of a session are labelled. -/
structure Labelled (c : Chronicle) : Prop where
  /-- The messages are labelled in the order of their creation, across resets. -/
  labels : c.created.map Message.label =
    (List.range c.created.length).map fun i => s!"msg-{i + 1}"
  /-- No label comes twice. -/
  nodup : (c.created.map Message.label).Nodup
  /-- The transcript shows the messages that were created last. -/
  suffix : c.talk.messages <:+ c.created

/-- What the transcript of a session looks like in which every turn is answered. -/
structure Orderly (c : Chronicle) : Prop extends c.Labelled where
  /-- The user asks at even places and the assistant answers at odd ones; only an answer carries a
  result or a failure, and it carries one of them. -/
  fits : ∀ (place : Nat) (message : Message),
    c.talk.messages[place]? = some message → message.Fits place
  /-- The last message is a question exactly while a turn is in flight. -/
  waits : (∃ message, c.talk.messages.getLast? = some message ∧ message.role = .user) ↔
    c.timeline.controller.phase = .requesting
  /-- Each turn since the last reset has two messages, but one in flight has only its question. -/
  length_eq : c.talk.messages.length +
    (if c.timeline.controller.phase = .requesting then 1 else 0) = 2 * c.fates.length
  /-- Behind the question of a turn stands its answer, or the turn is in flight and its question is
  the last message. -/
  answered : ∀ (turn : Nat) (fate : Fate), c.fates[turn]? = some fate →
    (∃ answer, c.talk.messages[2 * turn + 1]? = some answer ∧ fate.AnsweredBy answer) ∨
      fate = .inFlight ∧ c.timeline.controller.phase = .requesting ∧
        c.talk.messages.length = 2 * turn + 1

/-- Different numbers make different labels. -/
private theorem label_injective : Function.Injective fun number : Nat => s!"msg-{number}" := by
  intro a b h
  -- the number is read back from its digits
  have hdigits : a.repr.toList = b.repr.toList := by
    simpa [toString] using congrArg String.toList h
  have hvalue := congrArg (fun digits => Nat.ofDigitChars 10 digits 0) hdigits
  simpa using hvalue

private theorem Numbered.labels (h : c.Numbered) :
    c.created.map Message.label =
      (List.range c.created.length).map fun i => s!"msg-{i + 1}" := by
  have hlabels : c.created.map Message.label =
      (c.created.map (·.number)).map fun number => s!"msg-{number}" := by
    rw [List.map_map]
    rfl
  rw [hlabels, h.numbers, List.range'_eq_map_range, List.map_map]
  refine List.map_congr_left fun i _ => ?_
  simp [Nat.add_comm 1]

theorem Numbered.labelled (h : c.Numbered) : c.Labelled := by
  refine ⟨h.labels, ?_, h.suffix⟩
  rw [h.labels]
  refine List.Pairwise.map _ ?_ List.nodup_range
  exact fun a b hne hlabel => hne (Nat.succ.inj (label_injective hlabel))

/-- Pairs and numbers make the transcript what it is, where no turn ended in silence. -/
private theorem Paired.orderly (h : c.Paired) (hlabelled : c.Labelled)
    (hspoken : ∀ fate ∈ c.fates, fate.isSilent = false) : c.Orderly := by
  -- without a turn in flight each question has its answer; else the last one is open
  rcases h.dialogue with ⟨hphase, hdialogue⟩ | ⟨hphase, earlier, question, fates, hmessages,
    hquestion, hfates, hdialogue⟩
  · have hall := hdialogue.exchanges hspoken
    refine ⟨hlabelled, fun _ _ hmessage => hall.fits hmessage, iff_of_false ?_ hphase, ?_, ?_⟩
    · rintro ⟨message, hlast, hrole⟩
      rw [hall.role_of_getLast? hlast] at hrole
      cases hrole
    · rw [if_neg hphase]
      exact hall.length_eq
    · exact fun _ _ hfate => Or.inl (hall.exists_answer hfate)
  · -- a place, or a turn, lies before the open question, is the one of it, or lies behind
    have hearlier := hdialogue.exchanges fun fate hmem =>
      hspoken fate (hfates ▸ List.mem_append_left _ hmem)
    have hlength := hearlier.length_eq
    refine ⟨hlabelled, ?_, iff_of_true ⟨question, ?_, hquestion.role⟩ hphase, ?_, ?_⟩
    · -- the place of a message: among the exchanges, that of the open question, or beyond
      intro place message hmessage
      rw [hmessages] at hmessage
      rcases Nat.lt_trichotomy place earlier.length with hlt | rfl | hgt
      · rw [List.getElem?_append_left hlt] at hmessage
        exact hearlier.fits hmessage
      · rw [List.getElem?_concat_length] at hmessage
        cases hmessage
        rw [Message.Fits, if_pos (by omega)]
        exact hquestion
      · rw [List.getElem?_eq_none (by simpa using Nat.succ_le_of_lt hgt)] at hmessage
        cases hmessage
    · rw [hmessages, List.getLast?_concat]
    · rw [hmessages, hfates, if_pos hphase, List.length_append, List.length_append]
      simp only [List.length_singleton]
      omega
    · -- a turn in the same way
      intro turn fate hfate
      rw [hfates] at hfate
      rcases Nat.lt_trichotomy turn fates.length with hlt | rfl | hgt
      · rw [List.getElem?_append_left hlt] at hfate
        obtain ⟨answer, hanswer, hanswered⟩ := hearlier.exists_answer hfate
        refine Or.inl ⟨answer, ?_, hanswered⟩
        rw [hmessages, List.getElem?_append_left (List.getElem?_eq_some_iff.mp hanswer).1]
        exact hanswer
      · rw [List.getElem?_concat_length] at hfate
        cases hfate
        exact Or.inr ⟨rfl, hphase, by rw [hmessages, List.length_append, hlength]; rfl⟩
      · rw [List.getElem?_eq_none (by simpa using Nat.succ_le_of_lt hgt)] at hfate
        cases hfate

/-- A turn that ended in silence is missed in the count of the messages. -/
private theorem Paired.spoken (h : c.Paired) (horderly : c.Orderly) :
    ∀ fate ∈ c.fates, fate.isSilent = false := by
  -- two messages for each turn leave no room for one that ended in silence
  have hcount : c.fates.countP Fate.isSilent = 0 := by
    have hlength := horderly.length_eq
    rcases h.dialogue with ⟨hphase, hdialogue⟩ | ⟨hphase, earlier, question, fates, hmessages, -,
      hfates, hdialogue⟩
    · have hadd := hdialogue.length_add
      rw [if_neg hphase] at hlength
      omega
    · have hadd := hdialogue.length_add
      have hflight : Fate.inFlight.isSilent = false := rfl
      rw [if_pos hphase, hmessages, hfates] at hlength
      simp only [List.length_append, List.length_singleton] at hlength
      simp only [hfates, List.countP_append, List.countP_singleton, hflight, Bool.false_eq_true,
        if_false]
      omega
  intro fate hmem
  exact Bool.eq_false_iff.mpr (List.countP_eq_zero.mp hcount fate hmem)

/-- The transcript is orderly exactly if every turn since the last reset is answered. -/
private theorem Paired.orderly_iff (h : c.Paired) (hlabelled : c.Labelled)
    (htruthful : c.timeline.Truthful) :
    c.Orderly ↔ ∀ flight ∈ c.timeline.flights.drop c.opening, ¬ flight.Unanswered := by
  have hfates : (∀ fate ∈ c.fates, fate.isSilent = false) ↔
      ∀ flight ∈ c.timeline.flights.drop c.opening, ¬ flight.Unanswered := by
    rw [fates, List.forall_mem_map]
    refine forall₂_congr fun flight hmem => ?_
    rw [← htruthful.isSilent_iff (List.mem_of_mem_drop hmem), Bool.not_eq_true]
  rw [← hfates]
  exact ⟨h.spoken, h.orderly hlabelled⟩

/-- Both invariants hold at every moment. -/
private theorem after_kept (config : Assistant) (stock : Stock Float) (deeds : List Deed) :
    (after config (.new stock) deeds).Paired ∧ (after config (.new stock) deeds).Labelled := by
  -- soundness goes along, since it is what makes every deed a move
  suffices hall : ∀ c : Chronicle, c.timeline.Sound → c.Paired → c.Numbered →
      (deeds.foldl (step config) c).Paired ∧ (deeds.foldl (step config) c).Numbered from
    (hall _ (Or.inl (Timeline.start_resting _)) (start_paired stock)
      (start_numbered stock)).imp_right Numbered.labelled
  induction deeds with
  | nil => exact fun _ _ hpaired hnumbered => ⟨hpaired, hnumbered⟩
  | cons deed deeds ih =>
    intro c hsound hpaired hnumbered
    have hmove := hsound.step_move config deed
    exact ih (c.step config deed) (hsound.step config deed) (hpaired.record hmove)
      (hnumbered.record hmove)

theorem orderly_after_iff (config : Assistant) (stock : Stock Float) (deeds : List Deed) :
    (after config (.new stock) deeds).Orderly ↔
      ∀ flight ∈ (after config (.new stock) deeds).timeline.flights.drop
        (after config (.new stock) deeds).opening, ¬ flight.Unanswered := by
  obtain ⟨hpaired, hlabelled⟩ := after_kept config stock deeds
  refine hpaired.orderly_iff hlabelled ?_
  rw [timeline_after]
  exact Timeline.after_truthful config _ deeds

/-- **Questions and answers take turns.**  Whatever is done to a controller, the messages since the
last reset are those of the turns since then, a question for each and an answer for each that has
ended otherwise than in silence, and all messages that there have ever been are labelled one after
another.  The transcript is orderly exactly if none of these turns is unanswered: then it alternates
between questions and answers, and every turn has exactly one answer unless it is in flight.  A turn
is unanswered only by an incident; one that carries JSON values does this exactly if its own words
cannot be written, or its details are nested too deep or have a number of too many digits. -/
theorem questions_and_answers_take_turns (config : Assistant) (stock : Stock Float)
    (deeds : List Deed) :
    let c := after config (.new stock) deeds
    c.timeline = Timeline.after config (.new stock) deeds ∧ c.Paired ∧ c.Labelled ∧
      (c.Orderly ↔ ∀ flight ∈ c.timeline.flights.drop c.opening, ¬ flight.Unanswered) ∧
      (∀ reply : Reply, reply.Untold → ∃ incident : Incident, reply = incident.reply) ∧
      ∀ incident : Incident, (∀ detail ∈ incident.details, Json.IsJson detail.2) →
        (incident.reply.Untold ↔ incident.Unspeakable) := by
  obtain ⟨hpaired, hlabelled⟩ := after_kept config stock deeds
  refine ⟨timeline_after config _ deeds, hpaired, hlabelled, orderly_after_iff config stock deeds,
    ?_, fun _ => Incident.untold_iff⟩
  intro reply huntold
  obtain ⟨incident, hreply, -⟩ := Reply.untold_iff.mp huntold
  exact ⟨incident, hreply⟩

/-- An incident with a list inside of so many others that they do not fit on the stack. -/
def deepIncident : Incident := ⟨"RuntimeError", .ok "busy", [("x", (Value.list []).nested 983)]⟩

/-- A turn that ends in such an incident leaves its question without an answer, although the details
are JSON values and no turn is in flight any more. -/
theorem deep_details_leave_a_question_unanswered :
    let c := after sampleAssistant (.new sampleStock)
      [.submit (sampleTurn .accumulate), .resolve 0 deepIncident.reply]
    (∀ detail ∈ deepIncident.details, Json.IsJson detail.2) ∧
      c.timeline.controller.phase = .idle ∧ c.talk.messages.map Message.role = [.user] ∧
      ¬ c.Orderly := by
  intro c
  have hjson : ∀ detail ∈ deepIncident.details, Json.IsJson detail.2 :=
    List.forall_mem_singleton.mpr (Json.isJson_nested (.list [] (by simp)) 983)
  have huntold : deepIncident.reply.Untold := by
    refine (Incident.untold_iff hjson).mpr (Or.inr (Or.inl ?_))
    have hsearched : deepIncident.searched = [("x", (Value.list []).nested 983)] :=
      List.filter_eq_self.mpr (List.forall_mem_singleton.mpr (by decide +kernel))
    simp [hsearched, Value.ofFields, Value.levels, Value.entriesLevels, Value.levels_nested,
      Value.itemsLevels, stackRoom]
  -- the turn begins, and its call is the only one
  let t := Timeline.after sampleAssistant (.new sampleStock) [.submit (sampleTurn .accumulate)]
  have hbegun : t.controller.phase = .requesting ∧
      t.controller.session.messages.map Message.role = [.user] ∧ t.flights.length = 1 := by
    decide +kernel
  obtain ⟨hphase, hroles, hlength⟩ := hbegun
  rcases Timeline.after_sound sampleAssistant (.new sampleStock) [.submit (sampleTurn .accumulate)]
    with hrest | ⟨earlier, current, hbusy⟩
  · cases hrest.phase.symm.trans hphase
  have hfirst : earlier.length = 0 := by
    have hflights : t.flights.length = earlier.length + 1 := by
      simpa [t] using congrArg List.length hbusy.flights_eq
    omega
  -- then it is dropped
  have hstep := hbusy.step_resolve sampleAssistant deepIncident.reply
  rw [hfirst, Controller.conclude_of_untold _ _ _ huntold] at hstep
  have htimeline : c.timeline = _ :=
    (timeline_after sampleAssistant (.new sampleStock) _).trans hstep
  refine ⟨hjson, ?_, ?_, ?_⟩
  · rw [htimeline]
    rfl
  · rw [talk, htimeline]
    exact hroles
  · rw [orderly_after_iff]
    intro hanswered
    have hlast : current.land deepIncident.reply t.controller.drop.2 ∈ c.timeline.flights := by
      rw [htimeline]
      exact List.mem_append_right _ (List.mem_singleton_self _)
    exact hanswered _ hlast ⟨hbusy.superseded, _, _, rfl, huntold⟩

end Chronicle

end Machining.Session
