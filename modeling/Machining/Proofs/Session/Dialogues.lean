import Machining.Proofs.Session.Moves

/-!
# Questions and their answers

A turn of a session begins with a question of the user and ends with an answer of the assistant.
What has become of a turn is its `Fate`: it is in flight, it was overtaken by a cancel or a reset,
or it has ended, with what was told.

* `Exchanges`: messages in which each turn has one question and one answer.
* `Dialogue`: the same, but a turn may have ended in silence; each silent ending takes a message
  away (`Dialogue.length_add`), and without one the messages are exchanges (`Dialogue.exchanges`).
* `Timeline.Truthful.isSilent_iff`: the turns that end in silence are those that fail without a
  kind.
-/

namespace Machining.Session

open Machining.Config

/-! ## Questions and answers -/

namespace Message

/-- A message of the user, which carries neither a result nor a failure. -/
structure IsQuestion (message : Message) : Prop where
  role : message.role = .user
  result : message.result = none
  failure : message.failure = none

/-- A message of the assistant, which carries either a result or a failure. -/
structure IsAnswer (message : Message) : Prop where
  role : message.role = .assistant
  carries : message.result.isSome = !message.failure.isSome

/-- What a message has to be at its place in the transcript. -/
def Fits (place : Nat) (message : Message) : Prop :=
  if place % 2 = 0 then message.IsQuestion else message.IsAnswer

end Message

/-- What has become of a turn. -/
inductive Fate where
  /-- It is in flight. -/
  | inFlight
  /-- A cancel or a reset has overtaken it. -/
  | overtaken
  /-- It has ended, and this is what was told. -/
  | ended (told : Option Message)

/-- What has become of the turn of a call. -/
def Flight.fate (flight : Flight) : Fate :=
  if flight.superseded then .overtaken
  else
    match flight.landing with
    | none => .inFlight
    | some (_, outcome) => .ended outcome.message

/-- Overtaking a call that is behind changes nothing any more. -/
theorem Flight.Behind.fate_withdraw {generation : Nat} {flight : Flight}
    (h : flight.Behind generation) (token : Option Nat) :
    (flight.withdraw token).fate = flight.fate := by
  have hsuperseded : (flight.withdraw token).superseded = flight.superseded := by
    cases hlanding : flight.landing with
    | some landing => simp [hlanding]
    | none => simp [h.superseded hlanding]
  simp only [Flight.fate, hsuperseded, Flight.withdraw_landing]

/-- A turn that ended without an answer: nothing has overtaken it, and it failed without a kind. -/
def Flight.Unanswered (flight : Flight) : Prop :=
  flight.superseded = false ∧
    ∃ reply outcome, flight.landing = some (reply, outcome) ∧ reply.Untold

/-- When a call resolves that is behind, its turn was overtaken before. -/
theorem Flight.Behind.fate_land {generation : Nat} {flight : Flight} (h : flight.Behind generation)
    (hlanding : flight.landing = none) (reply : Reply) (outcome : Outcome) :
    (flight.land reply outcome).fate = flight.fate := by
  simp [Flight.fate, Flight.land, h.superseded hlanding]

/-- Whether a message answers a turn: it is what was told, and where the turn was withdrawn it says
so. -/
def Fate.AnsweredBy (answer : Message) : Fate → Prop
  | .inFlight => False
  | .overtaken => answer.failure = some .cancelled
  | .ended told => told = some answer

/-- Messages in which each of some turns is asked and answered once, in order. -/
inductive Exchanges : List Message → List Fate → Prop where
  /-- No turn and no message. -/
  | nil : Exchanges [] []
  /-- A question and its answer, and then the others. -/
  | cons {question answer : Message} {fate : Fate} {messages : List Message} {fates : List Fate}
      (hquestion : question.IsQuestion) (hanswer : answer.IsAnswer)
      (hfate : fate.AnsweredBy answer) (hrest : Exchanges messages fates) :
    Exchanges (question :: answer :: messages) (fate :: fates)

namespace Exchanges

variable {messages : List Message} {fates : List Fate}

theorem length_eq (h : Exchanges messages fates) : messages.length = 2 * fates.length := by
  induction h with
  | nil => rfl
  | cons _ _ _ _ ih =>
    simp only [List.length_cons, ih]
    omega

/-- Questions stand at even places, answers at odd ones. -/
theorem fits (h : Exchanges messages fates) {place : Nat} {message : Message}
    (hmessage : messages[place]? = some message) : message.Fits place := by
  induction h generalizing place with
  | nil => simp at hmessage
  | cons hquestion hanswer _ _ ih =>
    -- a question, its answer, and then the same two places further on
    match place with
    | 0 =>
      cases hmessage
      exact hquestion
    | 1 =>
      cases hmessage
      exact hanswer
    | place + 2 =>
      have hrest := ih (by simpa using hmessage)
      simpa [Message.Fits] using hrest

/-- The last word has the assistant. -/
theorem role_of_getLast? (h : Exchanges messages fates) {message : Message}
    (hlast : messages.getLast? = some message) : message.role = .assistant := by
  rw [List.getLast?_eq_getElem?] at hlast
  have hpositive : 0 < messages.length :=
    Nat.lt_of_le_of_lt (Nat.zero_le _) (List.getElem?_eq_some_iff.mp hlast).1
  have hodd : ¬(messages.length - 1) % 2 = 0 := by
    have hlength := h.length_eq
    omega
  have hfits := h.fits hlast
  rw [Message.Fits, if_neg hodd] at hfits
  exact hfits.role

/-- The answer to a turn stands behind its question. -/
theorem exists_answer (h : Exchanges messages fates) {turn : Nat} {fate : Fate}
    (hfate : fates[turn]? = some fate) :
    ∃ answer, messages[2 * turn + 1]? = some answer ∧ fate.AnsweredBy answer := by
  induction h generalizing turn with
  | nil => simp at hfate
  | @cons _ answer _ _ _ _ _ hanswered _ ih =>
    match turn with
    | 0 =>
      cases hfate
      exact ⟨answer, rfl, hanswered⟩
    | turn + 1 =>
      obtain ⟨found, hfound, hfate'⟩ := ih (by simpa using hfate)
      exact ⟨found, by simpa [Nat.mul_add] using hfound, hfate'⟩

end Exchanges

/-- A turn that has ended, of which nothing was told. -/
def Fate.isSilent : Fate → Bool
  | .ended none => true
  | _ => false

/-- Messages in which each of some turns is asked once, in order, and is answered once unless it
ended in silence. -/
inductive Dialogue : List Message → List Fate → Prop where
  /-- No turn and no message. -/
  | nil : Dialogue [] []
  /-- A question and its answer, and then the others. -/
  | answered {question answer : Message} {fate : Fate} {messages : List Message}
      {fates : List Fate} (hquestion : question.IsQuestion) (hanswer : answer.IsAnswer)
      (hfate : fate.AnsweredBy answer) (hrest : Dialogue messages fates) :
    Dialogue (question :: answer :: messages) (fate :: fates)
  /-- A question without an answer, and then the others. -/
  | silent {question : Message} {messages : List Message} {fates : List Fate}
      (hquestion : question.IsQuestion) (hrest : Dialogue messages fates) :
    Dialogue (question :: messages) (.ended none :: fates)

namespace Dialogue

variable {messages others : List Message} {fates more : List Fate}

theorem append (h : Dialogue messages fates) (hmore : Dialogue others more) :
    Dialogue (messages ++ others) (fates ++ more) := by
  induction h with
  | nil => exact hmore
  | answered hquestion hanswer hfate _ ih => exact .answered hquestion hanswer hfate ih
  | silent hquestion _ ih => exact .silent hquestion ih

/-- Each silent ending takes a message away. -/
theorem length_add (h : Dialogue messages fates) :
    messages.length + fates.countP Fate.isSilent = 2 * fates.length := by
  -- a turn has two messages, or one if it ends in silence
  induction h with
  | nil => rfl
  | @answered _ _ fate _ _ _ _ hfate _ ih =>
    have hspoken : fate.isSilent = false := by
      match fate, hfate with
      | .overtaken, _ => rfl
      | .ended (some _), _ => rfl
    simp only [List.length_cons, List.countP_cons, hspoken, Bool.false_eq_true, if_false]
    omega
  | silent _ _ ih =>
    simp only [List.length_cons, List.countP_cons, Fate.isSilent, if_true]
    omega

/-- Without a silent ending each turn is answered. -/
theorem exchanges (h : Dialogue messages fates) (hspoken : ∀ fate ∈ fates, fate.isSilent = false) :
    Exchanges messages fates := by
  induction h with
  | nil => exact .nil
  | answered hquestion hanswer hfate _ ih =>
    exact .cons hquestion hanswer hfate (ih (List.forall_mem_cons.mp hspoken).2)
  | silent => cases (List.forall_mem_cons.mp hspoken).1

end Dialogue

/-! ## Silent endings -/

namespace Timeline

/-- Something holds of every reply that came in time, and of the outcome that it led to. -/
def Landed (t : Timeline) (P : Reply → Outcome → Prop) : Prop :=
  ∀ flight ∈ t.flights, flight.superseded = false → ∀ reply outcome,
    flight.landing = some (reply, outcome) → P reply outcome

theorem start_landed (session : Conversation) (P : Reply → Outcome → Prop) :
    (start session).Landed P := fun flight hmem => by cases hmem

/-- A move adds at most what the turn in flight ends with. -/
theorem Landed.move {config : Assistant} {t next : Timeline} {deed : Deed}
    {P : Reply → Outcome → Prop} (h : t.Landed P) (hmove : Move config t deed next)
    (hdeed : ∀ call reply mode, deed = .resolve call reply →
      P reply (t.controller.conclude config mode reply).2) : next.Landed P := by
  -- a call that has landed is not overtaken afterwards
  have hkept (token : Option Nat) (flight : Flight) (hmem : flight ∈ t.flights)
      (hsuperseded : (flight.withdraw token).superseded = false) (reply : Reply)
      (outcome : Outcome) (hlanding : flight.landing = some (reply, outcome)) :
      P reply outcome := by
    rw [Flight.withdraw_superseded, Bool.or_eq_false_iff] at hsuperseded
    exact h flight hmem hsuperseded.1 reply outcome hlanding
  cases hmove with
  | stay => exact h
  | start turn label mode hrest =>
    intro flight hmem hsuperseded reply outcome hlanding
    rcases List.mem_append.mp hmem with hold | hnew
    · exact h flight hold hsuperseded reply outcome hlanding
    · cases List.mem_singleton.mp hnew
      -- the new call has not landed
      cases hlanding
  | drop call reply flight hflight hlanding hbehind =>
    intro other hmem hsuperseded
    rcases List.mem_or_eq_of_mem_set hmem with hold | rfl
    · exact h other hold hsuperseded
    · -- a call that is left behind lands as an overtaken one
      cases (hbehind.superseded hlanding).symm.trans hsuperseded
  | finish earlier current reply hbusy =>
    intro flight hmem hsuperseded reply' outcome hlanding
    rcases List.mem_append.mp hmem with hold | hnew
    · refine h flight ?_ hsuperseded reply' outcome hlanding
      rw [hbusy.flights_eq]
      exact List.mem_append_left _ hold
    · cases List.mem_singleton.mp hnew
      cases hlanding
      -- the call that lands now is what the hypothesis on the deed is for
      exact hdeed earlier.length reply _ rfl
  | withdraw earlier current last hbusy => exact List.forall_mem_map.mpr (hkept _)
  | reset stock => exact List.forall_mem_map.mpr (hkept t.controller.token)

/-- What was told at the end of a turn that nothing has overtaken: an answer, unless the turn failed
without a kind. -/
def Truthful (t : Timeline) : Prop :=
  t.Landed fun reply outcome => outcome.message = none ↔ reply.Untold

theorem after_truthful (config : Assistant) (session : Conversation) (deeds : List Deed) :
    (after config session deeds).Truthful := by
  refine after_induction config session (start_landed session _) ?_ deeds
  intro t deed next _ h hmove
  exact h.move hmove fun _ reply mode _ =>
    t.controller.message_conclude_eq_none_iff config mode reply

/-- The turns that end in silence are those without an answer. -/
theorem Truthful.isSilent_iff {t : Timeline} (h : t.Truthful) {flight : Flight}
    (hmem : flight ∈ t.flights) : flight.fate.isSilent = true ↔ flight.Unanswered := by
  rw [Flight.Unanswered, Flight.fate]
  cases hsuperseded : flight.superseded with
  | true => simp [Fate.isSilent]
  | false =>
    cases hlanding : flight.landing with
    | none => simp [Fate.isSilent]
    | some landing =>
      obtain ⟨reply, outcome⟩ := landing
      have htold := h flight hmem hsuperseded reply outcome hlanding
      cases hmessage : outcome.message <;> simp_all [Fate.isSilent]

end Timeline

end Machining.Session
