import Machining.Proofs.Session.Timeline

/-!
# Superseded calls

A call that was overtaken by a cancel or a reset may still resolve, at any time and with anything.
When it does, the controller and its session stay as they are, whatever turns have begun or have
been committed meanwhile.  So these resolutions can be struck from a timeline or put off without
anyone noticing.

## How it is shown

Two timelines are `Alike` when they have the same controller and differ at most in whether calls
that were overtaken have resolved.  Every deed keeps alike timelines alike (`Alike.step`), and a
late resolution leaves a timeline alike the one before (`alike_step_resolve`).
-/

namespace Machining.Session

open Machining.Config

/-! ## Late resolutions -/

namespace Timeline

/-- Whether a deed is the resolution of a call that is in flight although it was overtaken. -/
def isLate (t : Timeline) : Deed → Bool
  | .resolve call _ => t.flights[call]?.any Flight.isLate
  | _ => false

/-- The deeds without all late resolutions. -/
def timely (config : Assistant) (t : Timeline) : List Deed → List Deed
  | [] => []
  | deed :: deeds =>
    if t.isLate deed then timely config (t.step config deed) deeds
    else deed :: timely config (t.step config deed) deeds

/-- `Deferred config session deeds others`: the run `others` is the run `deeds` with some late
resolutions left out or put off. -/
inductive Deferred (config : Assistant) (session : Conversation) :
    List Deed → List Deed → Prop where
  /-- Nothing is left out. -/
  | refl (deeds : List Deed) : Deferred config session deeds deeds
  /-- A late resolution is left out. -/
  | drop {before rest : List Deed} {call : Nat} {reply : Reply}
      (hlate : (after config session before).Superseded call) :
      Deferred config session (before ++ .resolve call reply :: rest) (before ++ rest)
  /-- A late resolution is put off. -/
  | later {before between rest : List Deed} {call : Nat} {reply : Reply}
      (hlate : (after config session before).Superseded call) :
      Deferred config session (before ++ .resolve call reply :: (between ++ rest))
        (before ++ (between ++ .resolve call reply :: rest))
  /-- More is left out or put off. -/
  | trans {deeds others more : List Deed} (first : Deferred config session deeds others)
      (second : Deferred config session others more) : Deferred config session deeds more

end Timeline

/-! ## Alike timelines -/

/-- Two views of one call that differ at most when the call was overtaken. -/
def Flight.Alike (a b : Flight) : Prop :=
  a = b ∨ a.call = b.call ∧ a.superseded = true ∧ b.superseded = true

namespace Flight.Alike

theorem refl (a : Flight) : a.Alike a := Or.inl rfl

theorem withdraw {a b : Flight} (h : a.Alike b) (token : Option Nat) :
    (a.withdraw token).Alike (b.withdraw token) := by
  rcases h with rfl | ⟨hcall, ha, hb⟩
  · exact refl _
  · refine Or.inr ⟨?_, ?_, ?_⟩
    · simp only [Flight.withdraw, hcall]
    · rw [withdraw_superseded, ha, Bool.true_or]
    · rw [withdraw_superseded, hb, Bool.true_or]

theorem wipe {a b : Flight} (h : a.Alike b) : a.wipe.Alike b.wipe := by
  rcases h with rfl | h
  · exact refl _
  · exact Or.inr h

theorem symm {a b : Flight} (h : a.Alike b) : b.Alike a := by
  rcases h with rfl | ⟨hcall, ha, hb⟩
  · exact refl _
  · exact Or.inr ⟨hcall.symm, hb, ha⟩

theorem trans {a b c : Flight} (h : a.Alike b) (h' : b.Alike c) : a.Alike c := by
  rcases h with rfl | ⟨hab, ha, _⟩
  · exact h'
  · rcases h' with rfl | ⟨hbc, _, hc⟩
    · exact Or.inr ⟨hab, ha, by assumption⟩
    · exact Or.inr ⟨hab.trans hbc, ha, hc⟩

end Flight.Alike

namespace Timeline

/-- Two timelines with the same controller whose calls differ at most where they were overtaken. -/
structure Alike (s t : Timeline) : Prop where
  controller_eq : s.controller = t.controller
  length_eq : s.flights.length = t.flights.length
  flights : ∀ (call : Nat) (a b : Flight), s.flights[call]? = some a →
    t.flights[call]? = some b → a.Alike b

variable {s t : Timeline}

theorem Alike.refl (t : Timeline) : t.Alike t := by
  refine ⟨rfl, rfl, ?_⟩
  intro call a b ha hb
  rw [ha] at hb
  cases hb
  exact Flight.Alike.refl a

theorem Alike.symm (h : s.Alike t) : t.Alike s :=
  ⟨h.controller_eq.symm, h.length_eq.symm,
    fun call a b ha hb => (h.flights call b a hb ha).symm⟩

theorem Alike.trans {u : Timeline} (h : s.Alike t) (h' : t.Alike u) : s.Alike u := by
  refine ⟨h.controller_eq.trans h'.controller_eq, h.length_eq.trans h'.length_eq, ?_⟩
  intro call a c ha hc
  have hlt : call < t.flights.length := by
    rw [← h.length_eq]
    exact (List.getElem?_eq_some_iff.mp ha).1
  have hb := List.getElem?_eq_getElem hlt
  exact (h.flights call a _ ha hb).trans (h'.flights call _ c hb hc)

/-- Changing all calls alike keeps them alike. -/
private theorem alike_map (h : s.Alike t) (c : Controller) (f : Flight → Flight)
    (hf : ∀ a b : Flight, a.Alike b → (f a).Alike (f b)) :
    Alike ⟨c, s.flights.map f⟩ ⟨c, t.flights.map f⟩ := by
  refine ⟨rfl, ?_, ?_⟩
  · simp only [List.length_map]
    exact h.length_eq
  · intro call a b ha hb
    rw [List.getElem?_map] at ha hb
    obtain ⟨a', ha', rfl⟩ := Option.map_eq_some_iff.mp ha
    obtain ⟨b', hb', rfl⟩ := Option.map_eq_some_iff.mp hb
    exact hf a' b' (h.flights call a' b' ha' hb')

/-- A call that was made at the same moment in both is alike. -/
private theorem alike_append (h : s.Alike t) (c : Controller) (flight : Flight) :
    Alike ⟨c, s.flights ++ [flight]⟩ ⟨c, t.flights ++ [flight]⟩ := by
  refine ⟨rfl, ?_, ?_⟩
  · simp only [List.length_append, h.length_eq]
  · intro call a b ha hb
    -- the call is one of the old ones, or the new one on both sides
    rcases Nat.lt_or_ge call s.flights.length with hlt | hge
    · rw [List.getElem?_append_left hlt] at ha
      rw [List.getElem?_append_left (h.length_eq ▸ hlt)] at hb
      exact h.flights call a b ha hb
    · rw [List.getElem?_append_right hge] at ha
      rw [List.getElem?_append_right (h.length_eq ▸ hge), ← h.length_eq] at hb
      rw [ha] at hb
      cases hb
      exact Flight.Alike.refl a

/-- Calls stay alike when one of them is set to alike views in both. -/
private theorem alike_set (h : s.Alike t) (c : Controller) {call : Nat} {a b : Flight}
    (hab : a.Alike b) : Alike ⟨c, s.flights.set call a⟩ ⟨c, t.flights.set call b⟩ := by
  refine ⟨rfl, ?_, ?_⟩
  · simp only [List.length_set]
    exact h.length_eq
  · intro other a' b' ha' hb'
    by_cases heq : call = other
    · subst heq
      rw [List.getElem?_set_self' ] at ha' hb'
      obtain ⟨_, _, rfl⟩ := Option.map_eq_some_iff.mp ha'
      obtain ⟨_, _, rfl⟩ := Option.map_eq_some_iff.mp hb'
      exact hab
    · rw [List.getElem?_set_ne heq] at ha' hb'
      exact h.flights other a' b' ha' hb'

variable (config : Assistant)

theorem Alike.step (hs : s.Sound) (ht : t.Sound) (h : s.Alike t) (deed : Deed) :
    (s.step config deed).Alike (t.step config deed) := by
  have hc := h.controller_eq
  cases deed with
  | submit turn =>
    -- the controllers are equal, so the same is done to both lists of calls
    simp only [Timeline.step, ← hc]
    split
    · exact h
    · exact alike_append h _ _
  | cancel =>
    simp only [Timeline.step, ← hc]
    exact alike_map h _ _ fun a b hab => hab.withdraw _
  | reset stock =>
    simp only [Timeline.step, ← hc]
    exact alike_map h _ _ fun a b hab => (hab.withdraw _).wipe
  | resolve call reply =>
    -- a number that is a call of one is a call of the other
    cases ha : s.flights[call]? with
    | none =>
      have hb : t.flights[call]? = none := by
        rw [List.getElem?_eq_none_iff] at ha ⊢
        exact h.length_eq ▸ ha
      rw [step_resolve_missing config reply ha, step_resolve_missing config reply hb]
      exact h
    | some a =>
      obtain ⟨b, hb⟩ : ∃ b, t.flights[call]? = some b := by
        have hlt : call < t.flights.length := by
          rw [← h.length_eq]
          exact (List.getElem?_eq_some_iff.mp ha).1
        exact ⟨_, List.getElem?_eq_getElem hlt⟩
      rw [step_resolve config reply ha, step_resolve config reply hb, ← hc]
      -- either both resolve in the same way, or neither of them counts
      rcases h.flights call a b ha hb with rfl | ⟨hcall, hsa, hsb⟩
      · exact alike_set h _ (Flight.Alike.refl _)
      · have hra := ((hs.behind (List.mem_of_getElem? ha) hsa).resolve config reply).1
        have hrb := ((ht.behind (List.mem_of_getElem? hb) hsb).resolve config reply).1
        rw [← hc] at hrb
        rw [hra, hrb]
        refine alike_set h _ (Or.inr ⟨?_, ?_, ?_⟩)
        · rw [Flight.resolve_call, Flight.resolve_call, hcall]
        · rw [Flight.resolve_superseded, hsa]
        · rw [Flight.resolve_superseded, hsb]

theorem Alike.run (hs : s.Sound) (ht : t.Sound) (h : s.Alike t) (deeds : List Deed) :
    (s.run config deeds).Alike (t.run config deeds) := by
  induction deeds generalizing s t with
  | nil => exact h
  | cons deed deeds ih =>
    exact ih (hs.step config deed) (ht.step config deed) (h.step config hs ht deed)

/-! ## Late resolutions make no difference -/

/-- A call that a cancel or a reset came after, whether or not it has resolved. -/
def Overtaken (t : Timeline) (call : Nat) : Prop :=
  ∃ flight, t.flights[call]? = some flight ∧ flight.superseded = true

theorem Superseded.overtaken {call : Nat} (h : t.Superseded call) : t.Overtaken call := by
  obtain ⟨flight, hflight, hlate⟩ := h
  exact ⟨flight, hflight, (Flight.isLate_eq_true.mp hlate).2⟩

/-- What was overtaken stays overtaken. -/
theorem Overtaken.step {call : Nat} (h : t.Overtaken call) (deed : Deed) :
    (t.step config deed).Overtaken call := by
  obtain ⟨flight, hflight, hsuperseded⟩ := h
  -- nothing takes the mark off again
  cases deed with
  | submit turn =>
    simp only [Timeline.step]
    split
    · exact ⟨flight, hflight, hsuperseded⟩
    · have hlt := (List.getElem?_eq_some_iff.mp hflight).1
      exact ⟨flight, by rw [List.getElem?_append_left hlt, hflight], hsuperseded⟩
  | cancel =>
    simp only [Timeline.step, Overtaken, List.getElem?_map, hflight, Option.map_some]
    exact ⟨_, rfl, by rw [Flight.withdraw_superseded, hsuperseded, Bool.true_or]⟩
  | reset stock =>
    simp only [Timeline.step, Overtaken, List.getElem?_map, hflight, Option.map_some]
    refine ⟨_, rfl, ?_⟩
    rw [Flight.wipe_superseded, Flight.withdraw_superseded, hsuperseded, Bool.true_or]
  | resolve other reply =>
    cases hother : t.flights[other]? with
    | none =>
      rw [step_resolve_missing config reply hother]
      exact ⟨flight, hflight, hsuperseded⟩
    | some resolving =>
      rw [step_resolve config reply hother]
      by_cases heq : other = call
      · -- it stays overtaken when it resolves itself
        subst heq
        rw [hflight] at hother
        cases hother
        refine ⟨(flight.resolve config t.controller reply).2, ?_, ?_⟩
        · rw [List.getElem?_set_self', hflight]
          rfl
        · rw [Flight.resolve_superseded, hsuperseded]
      · exact ⟨flight, by rw [List.getElem?_set_ne heq, hflight], hsuperseded⟩

theorem Overtaken.run {call : Nat} (h : t.Overtaken call) (deeds : List Deed) :
    (t.run config deeds).Overtaken call := by
  induction deeds generalizing t with
  | nil => exact h
  | cons deed deeds ih => exact ih (h.step config deed)

/-- When a call that was overtaken resolves, the timeline is alike the one before. -/
theorem alike_step_resolve (ht : t.Sound) {call : Nat} (h : t.Overtaken call) (reply : Reply) :
    t.Alike (t.step config (.resolve call reply)) := by
  obtain ⟨flight, hflight, hsuperseded⟩ := h
  have hsame := ((ht.behind (List.mem_of_getElem? hflight) hsuperseded).resolve config reply).1
  have hself : t.flights.set call flight = t.flights := by
    obtain ⟨hlt, rfl⟩ := List.getElem?_eq_some_iff.mp hflight
    exact List.set_getElem_self hlt
  rw [step_resolve config reply hflight, hsame]
  -- only what has become of the call differs, and the call was overtaken
  have halike : flight.Alike (flight.resolve config t.controller reply).2 := by
    refine Or.inr ⟨?_, hsuperseded, ?_⟩
    · rw [Flight.resolve_call]
    · rw [Flight.resolve_superseded, hsuperseded]
  have hset : Alike ⟨t.controller, t.flights.set call flight⟩
      ⟨t.controller, t.flights.set call (flight.resolve config t.controller reply).2⟩ :=
    alike_set (Alike.refl t) t.controller halike
  rw [hself] at hset
  exact hset

/-- A late deed is the resolution of a call that was overtaken. -/
theorem exists_of_isLate {deed : Deed} (h : t.isLate deed = true) :
    ∃ call reply, deed = .resolve call reply ∧ t.Superseded call := by
  cases deed with
  | submit turn => cases h
  | cancel => cases h
  | reset stock => cases h
  | resolve call reply =>
    simp only [isLate, Option.any_eq_true] at h
    exact ⟨call, reply, rfl, h⟩

/-- Without its late resolutions a run comes to an alike timeline. -/
theorem alike_timely (hs : s.Sound) (ht : t.Sound) (h : s.Alike t) (deeds : List Deed) :
    (s.run config (timely config t deeds)).Alike (t.run config deeds) := by
  induction deeds generalizing s t with
  | nil => exact h
  | cons deed deeds ih =>
    by_cases hlate : t.isLate deed = true
    · rw [timely, if_pos hlate]
      -- the shorter run stands still, and the longer one comes to an alike timeline
      obtain ⟨call, reply, rfl, hsuperseded⟩ := exists_of_isLate hlate
      have hstep := alike_step_resolve config ht hsuperseded.overtaken reply
      exact ih hs (ht.step config _) (h.trans hstep)
    · rw [timely, if_neg hlate]
      exact ih (hs.step config deed) (ht.step config deed) (h.step config hs ht deed)

/-- A run with some late resolutions left out or put off comes to an alike timeline. -/
theorem Deferred.alike {session : Conversation} {deeds others : List Deed}
    (h : Deferred config session deeds others) :
    (after config session deeds).Alike (after config session others) := by
  induction h with
  | refl deeds => exact Alike.refl _
  | @drop before rest call reply hlate =>
    have hsound := after_sound config session before
    rw [after_append, after_append, run_cons]
    have hstep := alike_step_resolve config hsound hlate.overtaken reply
    exact (hstep.run config hsound (hsound.step config _) rest).symm
  | @later before between rest call reply hlate =>
    have hsound := after_sound config session before
    have hsound' := hsound.run config between
    rw [after_append, after_append, run_cons, run_append, run_append, run_cons]
    -- resolving now is like not resolving at all, and so is resolving later
    have hnow := alike_step_resolve config hsound hlate.overtaken reply
    have hbetween := (hnow.run config hsound (hsound.step config _) between).symm
    have hlater :=
      alike_step_resolve config hsound' (hlate.overtaken.run config between) reply
    exact (hbetween.trans hlater).run config ((hsound.step config _).run config between)
      (hsound'.step config _) rest
  | trans _ _ ih₁ ih₂ => exact ih₁.trans ih₂

/-- **Late resolutions leave no trace.**  When a call resolves that a cancel or a reset has
overtaken, the controller stays as it is, with its session, its generation, the turn in flight and
the last outcome, and so does every token.  Hence a run comes to the same controller without its
late resolutions, and also when any of them are put off. -/
theorem late_resolution_leaves_no_trace (config : Assistant) (session : Conversation)
    (deeds : List Deed) :
    (∀ call reply, (after config session deeds).Superseded call →
      ((after config session deeds).step config (.resolve call reply)).controller =
          (after config session deeds).controller ∧
        ((after config session deeds).step config (.resolve call reply)).flights.map Flight.call =
          (after config session deeds).flights.map Flight.call) ∧
      (after config session (timely config (start session) deeds)).controller =
        (after config session deeds).controller ∧
      ∀ others, Deferred config session deeds others →
        (after config session others).controller = (after config session deeds).controller := by
  refine ⟨?_, ?_, ?_⟩
  · intro call reply hlate
    have hsound := after_sound config session deeds
    have halike := alike_step_resolve config hsound hlate.overtaken reply
    exact ⟨halike.controller_eq.symm, calls_step_resolve config _ call reply⟩
  · have hsound : (start session).Sound := Or.inl (start_resting session)
    exact (alike_timely config hsound hsound (Alike.refl _) deeds).controller_eq
  · intro others hdeferred
    exact hdeferred.alike.controller_eq.symm

/-- The first turn is withdrawn, and its answer comes while the second one is in flight. -/
theorem late_resolution_leaves_no_trace_beside_new_turn :
    let before : List Deed :=
      [.submit (sampleTurn .accumulate), .cancel, .submit (sampleTurn .replace)]
    let late : Deed := .resolve 0 (.result (sampleAnalysis 10))
    let answer : Deed := .resolve 1 (.result (sampleAnalysis 50))
    (after sampleAssistant (.new sampleStock) before).Superseded 0 ∧
      ((after sampleAssistant (.new sampleStock) before).step sampleAssistant late).controller =
        (after sampleAssistant (.new sampleStock) before).controller ∧
      Deferred sampleAssistant (.new sampleStock) (before ++ [late, answer])
        (before ++ [answer, late]) ∧
      (after sampleAssistant (.new sampleStock) (before ++ [answer, late])).controller =
        (after sampleAssistant (.new sampleStock) (before ++ [late, answer])).controller := by
  intro before late answer
  have hlate : (after sampleAssistant (.new sampleStock) before).Superseded 0 := ⟨_, rfl, rfl⟩
  -- the late resolution moves behind the answer of the second turn
  have hdeferred : Deferred sampleAssistant (.new sampleStock) (before ++ late :: ([answer] ++ []))
      (before ++ ([answer] ++ late :: [])) := .later hlate
  exact ⟨hlate, ((late_resolution_leaves_no_trace _ _ before).1 0 _ hlate).1, hdeferred,
    (late_resolution_leaves_no_trace _ _ _).2.2 _ hdeferred⟩

end Timeline

end Machining.Session
