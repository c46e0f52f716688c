import Machining.Proofs.Session.Timeline

/-!
# Task runs are timelines

In a run the turns go through tasks, which begin, wait, go on and may be stopped in the order that
the events set.  None of this matters to the controller: whatever a run does, its controller and its
calls go through a timeline.  `exists_timeline` says so of every sequence of events, settled at once
or left, so that what holds of all timelines holds of all runs.
-/

namespace Machining.Session

open Machining.Config Machining.Job

/-- The call that a task waits for. -/
def TaskStage.call? : TaskStage → Option Nat
  | .parked call => some call
  | .released call _ => some call
  | _ => none

namespace Run

/-- A run shows the controller and the calls of a timeline.  Every task waits for a call of its own,
which is still in flight. -/
structure Shows (run : Run) (t : Timeline) : Prop where
  controller_eq : run.controller = t.controller
  calls_eq : run.calls = t.flights.map Flight.call
  inFlight : ∀ (i : Nat) (task : Task) (call : Nat), run.tasks[i]? = some task →
    task.stage.call? = some call → ∃ flight, t.flights[call]? = some flight ∧ flight.landing = none
  apart : ∀ (i j : Nat) (task other : Task) (call : Nat), run.tasks[i]? = some task →
    run.tasks[j]? = some other → task.stage.call? = some call → other.stage.call? = some call →
      i = j

variable {run : Run} {t : Timeline}

theorem shows_start (session : Conversation) :
    Shows (Run.new (Controller.new session)) (Timeline.start session) := by
  refine ⟨rfl, rfl, ?_, ?_⟩
  · intro i task call htask _
    cases htask
  · intro i j task other call htask _ _ _
    cases htask

/-! ## Changes that only concern tasks -/

/-- Tasks that wait for the same calls as before show the same timeline. -/
theorem Shows.of_calls (h : run.Shows t) {next : Run}
    (hcontroller : next.controller = run.controller) (hcalls : next.calls = run.calls)
    (htasks : ∀ (i : Nat) (task : Task) (call : Nat), next.tasks[i]? = some task →
      task.stage.call? = some call →
        ∃ old, run.tasks[i]? = some old ∧ old.stage.call? = some call) :
    next.Shows t := by
  refine ⟨hcontroller.trans h.controller_eq, hcalls.trans h.calls_eq, ?_, ?_⟩
  · intro i task call htask hcall
    obtain ⟨old, hold, holdCall⟩ := htasks i task call htask hcall
    exact h.inFlight i old call hold holdCall
  · intro i j task other call htask hother hcall hcall'
    obtain ⟨old, hold, holdCall⟩ := htasks i task call htask hcall
    obtain ⟨old', hold', holdCall'⟩ := htasks j other call hother hcall'
    exact h.apart i j old old' call hold hold' holdCall holdCall'

/-- A task among tasks of which one has another stage. -/
private theorem getElem?_setStage {task i : Nat} {stage : TaskStage} {found : Task}
    (h : (run.setStage task stage).tasks[i]? = some found) :
    (i = task ∧ found.stage = stage) ∨ (i ≠ task ∧ run.tasks[i]? = some found) := by
  unfold setStage at h
  rw [List.getElem?_modify] at h
  obtain ⟨old, hold, hfound⟩ := Option.map_eq_some_iff.mp h
  by_cases heq : task = i
  · rw [if_pos heq] at hfound
    subst hfound
    exact Or.inl ⟨heq.symm, rfl⟩
  · rw [if_neg heq] at hfound
    subst hfound
    exact Or.inr ⟨Ne.symm heq, hold⟩

/-- A task that ends waits for nothing more. -/
theorem Shows.setStage_done (h : run.Shows t) (task : Nat) (ending : Ending) :
    (run.setStage task (.done ending)).Shows t := by
  refine h.of_calls rfl rfl ?_
  intro i found call hfound hcall
  rcases getElem?_setStage hfound with ⟨_, hstage⟩ | ⟨_, hold⟩
  · rw [hstage] at hcall
    cases hcall
  · exact ⟨found, hold, hcall⟩

/-- A call of which a parked task is found is the call that it waits for. -/
private theorem parkedTask?_eq_some {call task : Nat} (h : run.parkedTask? call = some task) :
    ∃ old, run.tasks[task]? = some old ∧ old.stage.call? = some call := by
  unfold parkedTask? at h
  obtain ⟨hlt, hparked, _⟩ := List.findIdx?_eq_some_iff_getElem.mp h
  refine ⟨_, List.getElem?_eq_getElem hlt, ?_⟩
  split at hparked
  · rename_i c hstage
    simp only [Bool.and_eq_true, beq_iff_eq] at hparked
    rw [hstage, hparked.1]
    rfl
  · cases hparked

theorem Shows.resolve (h : run.Shows t) (call : Nat) (release : Release) :
    (run.resolve call release).Shows t := by
  unfold Run.resolve
  cases hparked : run.parkedTask? call with
  -- without a parked task the release is kept for a task that is about to go on
  | none =>
    refine h.of_calls rfl rfl ?_
    intro i found waited hfound hcall
    simp only [List.getElem?_map] at hfound
    obtain ⟨old, hold, rfl⟩ := Option.map_eq_some_iff.mp hfound
    refine ⟨old, hold, ?_⟩
    cases hstage : old.stage <;> rw [hstage] at hcall <;> exact hcall
  | some task =>
    refine h.of_calls rfl rfl ?_
    intro i found waited hfound hcall
    rcases getElem?_setStage hfound with ⟨rfl, hstage⟩ | ⟨_, hold⟩
    · obtain ⟨old, hold, holdCall⟩ := parkedTask?_eq_some hparked
      rw [hstage] at hcall
      exact ⟨old, hold, holdCall.trans hcall⟩
    · exact ⟨found, hold, hcall⟩

theorem Shows.abort (h : run.Shows t) (task : Nat) : (run.abort task).1.Shows t := by
  unfold Run.abort
  split
  · exact h
  · exact h
  · refine h.of_calls rfl rfl ?_
    intro i found call hfound hcall
    simp only [List.getElem?_modify] at hfound
    obtain ⟨old, hold, rfl⟩ := Option.map_eq_some_iff.mp hfound
    refine ⟨old, hold, ?_⟩
    split at hcall <;> exact hcall

theorem Shows.submit (h : run.Shows t) (turn : Turn) (ready : List Nat) :
    Shows { run with tasks := run.tasks ++ [⟨.waiting turn, false⟩], ready } t := by
  refine h.of_calls rfl rfl ?_
  intro i found call hfound hcall
  rcases Nat.lt_or_ge i run.tasks.length with hlt | hge
  · rw [List.getElem?_append_left hlt] at hfound
    exact ⟨found, hfound, hcall⟩
  · rw [List.getElem?_append_right hge] at hfound
    have hmem := List.mem_singleton.mp (List.mem_of_getElem? hfound)
    rw [hmem] at hcall
    cases hcall

/-! ## Changes that are deeds -/

/-- The calls after a withdrawal, in a run and in a timeline. -/
private theorem map_call_withdraw (flights : List Flight) (token : Option Nat) :
    (flights.map (Flight.withdraw token)).map Flight.call =
      (flights.map Flight.call).map fun call =>
        if token = some call.generation then { call with cancelled := true } else call := by
  rw [List.map_map, List.map_map]
  rfl

private theorem calls_cancelCalls (run : Run) :
    run.cancelCalls.calls = run.calls.map fun call =>
      if run.controller.token = some call.generation then { call with cancelled := true }
      else call := by
  unfold cancelCalls
  cases htoken : run.controller.token with
  | none => simp
  | some generation =>
    refine List.map_congr_left ?_
    intro call _
    simp only [Option.some.injEq, eq_comm]

private theorem cancelCalls_tasks (run : Run) : run.cancelCalls.tasks = run.tasks := by
  unfold cancelCalls
  split <;> rfl

variable (config : Assistant)

/-- A withdrawal leaves the tasks and shows in the calls. -/
private theorem Shows.withdraw (h : run.Shows t) {next : Run} {after : Timeline}
    (hcontroller : next.controller = after.controller) (htasks : next.tasks = run.tasks)
    (hcalls : next.calls = after.flights.map Flight.call) {f : Flight → Flight}
    (hflights : after.flights = t.flights.map f)
    (hf : ∀ flight, (f flight).landing = flight.landing) :
    next.Shows after := by
  refine ⟨hcontroller, hcalls, ?_, ?_⟩
  · intro i task call htask hcall
    rw [htasks] at htask
    obtain ⟨flight, hflight, hlanding⟩ := h.inFlight i task call htask hcall
    refine ⟨f flight, ?_, (hf flight).trans hlanding⟩
    rw [hflights, List.getElem?_map, hflight]
    rfl
  · intro i j task other call htask hother
    rw [htasks] at htask hother
    exact h.apart i j task other call htask hother

theorem Shows.cancel (h : run.Shows t) :
    (run.act config .cancel).1.Shows (t.step config .cancel) := by
  simp only [act, Timeline.step, ← h.controller_eq]
  refine h.withdraw rfl ?_ ?_ rfl (fun flight => Flight.withdraw_landing _ flight)
  · cases (run.controller.cancel config).2
    · rfl
    · exact cancelCalls_tasks run
  · rw [map_call_withdraw, ← h.calls_eq]
    cases (run.controller.cancel config).2
    · simp
    · exact calls_cancelCalls run

theorem Shows.reset (h : run.Shows t) (stock : Option (Stock Float)) :
    (run.act config (.reset stock)).1.Shows (t.step config (.reset stock)) := by
  simp only [act, Timeline.step, ← h.controller_eq]
  refine h.withdraw rfl (cancelCalls_tasks run) ?_ rfl (fun _ => rfl)
  calc run.cancelCalls.calls
      = (t.flights.map (Flight.withdraw run.controller.token)).map Flight.call := by
        rw [calls_cancelCalls, map_call_withdraw, ← h.calls_eq]
    _ = _ := by
        rw [List.map_map, List.map_map]
        rfl

/-- When the task of a call goes on, the call resolves. -/
theorem Shows.finishCall (h : run.Shows t) {task call : Nat} {old : Task}
    (htask : run.tasks[task]? = some old) (hcall : old.stage.call? = some call) (reply : Reply) :
    (run.finishCall config task call reply).Shows (t.step config (.resolve call reply)) := by
  -- the call that the task waits for is open
  obtain ⟨flight, hflight, hlanding⟩ := h.inFlight task old call htask hcall
  have hget : run.calls[call]? = some flight.call := by
    rw [h.calls_eq, List.getElem?_map, hflight]
    rfl
  -- so it lands in the timeline as it does here
  have hresolve : flight.resolve config t.controller reply =
      ((t.controller.finish config flight.call.generation flight.call.request.mode reply).1,
        flight.land reply
          (t.controller.finish config flight.call.generation flight.call.request.mode
            reply).2) := by
    simp only [Flight.resolve, hlanding]
    rfl
  rw [Timeline.step_resolve config reply hflight, hresolve]
  simp only [Run.finishCall, hget, h.controller_eq]
  refine ⟨rfl, ?_, ?_, ?_⟩
  · refine h.calls_eq.trans (Eq.symm ?_)
    exact map_set_of_eq hflight rfl
  · intro i found waited hfound hwaited
    rcases getElem?_setStage hfound with ⟨_, hstage⟩ | ⟨hne, hold⟩
    · rw [hstage] at hwaited
      cases hwaited
    · obtain ⟨other, hother, hopen⟩ := h.inFlight i found waited hold hwaited
      -- no other task waits for the call that resolves
      have hapart : call ≠ waited := by
        rintro rfl
        exact hne (h.apart i task found old call hold htask hwaited hcall)
      exact ⟨other, by rw [List.getElem?_set_ne hapart, hother], hopen⟩
  · intro i j found other waited hfound hother hwaited hwaited'
    rcases getElem?_setStage hfound with ⟨_, hstage⟩ | ⟨_, hold⟩
    · rw [hstage] at hwaited
      cases hwaited
    · rcases getElem?_setStage hother with ⟨_, hstage⟩ | ⟨_, hold'⟩
      · rw [hstage] at hwaited'
        cases hwaited'
      · exact h.apart i j found other waited hold hold' hwaited hwaited'

/-- A turn that is begun in a task is submitted. -/
theorem Shows.start (h : run.Shows t) (task : Nat) (turn : Turn) :
    (run.start config task turn).Shows (t.step config (.submit turn)) := by
  simp only [Run.start, Timeline.step, Controller.attempt_eq, ← h.controller_eq]
  cases hsubmit : run.controller.submit config turn with
  | error error => exact h.setStage_done task (.refused error)
  | ok answer =>
    obtain ⟨controller, request⟩ := answer
    -- the new call is numbered behind all calls that tasks wait for
    have hlength : run.calls.length = t.flights.length := by
      rw [h.calls_eq, List.length_map]
    have hold : ∀ {i : Nat} {found : Task} {waited : Nat}, run.tasks[i]? = some found →
        found.stage.call? = some waited → waited < t.flights.length := by
      intro i found waited hfound hwaited
      obtain ⟨flight, hflight, _⟩ := h.inFlight i found waited hfound hwaited
      exact (List.getElem?_eq_some_iff.mp hflight).1
    refine ⟨rfl, ?_, ?_, ?_⟩
    · rw [List.map_append, ← h.calls_eq]
      rfl
    · intro i found waited hfound hwaited
      rcases getElem?_setStage hfound with ⟨_, hstage⟩ | ⟨_, hfound⟩
      · rw [hstage] at hwaited
        cases hwaited
        refine ⟨Flight.launch controller.generation request, ?_, rfl⟩
        rw [hlength]
        simp
      · obtain ⟨flight, hflight, hopen⟩ := h.inFlight i found waited hfound hwaited
        refine ⟨flight, ?_, hopen⟩
        rw [List.getElem?_append_left (hold hfound hwaited), hflight]
    · intro i j found other waited hfound hother hwaited hwaited'
      -- the new call is nobody else's
      rcases getElem?_setStage hfound with ⟨hi, hstage⟩ | ⟨_, hfound⟩ <;>
        rcases getElem?_setStage hother with ⟨hj, hstage'⟩ | ⟨_, hother⟩
      · rw [hi, hj]
      · rw [hstage] at hwaited
        cases hwaited
        exact absurd (hold hother hwaited') (by rw [hlength]; exact Nat.lt_irrefl _)
      · rw [hstage'] at hwaited'
        cases hwaited'
        exact absurd (hold hfound hwaited) (by rw [hlength]; exact Nat.lt_irrefl _)
      · exact h.apart i j found other waited hfound hother hwaited hwaited'

/-! ## Whole runs -/

private theorem Shows.run_append {first others : List Deed}
    (h : run.Shows ((t.run config first).run config others)) :
    run.Shows (t.run config (first ++ others)) := by
  rw [Timeline.run_append]
  exact h

/-- A task that goes on does at most one deed. -/
theorem Shows.advance (h : run.Shows t) (task : Nat) :
    ∃ deeds, (run.advance config task).Shows (t.run config deeds) := by
  unfold Run.advance
  split
  · exact ⟨[], h⟩
  · rename_i turn aborting _
    cases aborting with
    -- a task that is stopped before it begins never submits its turn
    | true => exact ⟨[], h.setStage_done task .aborted⟩
    | false => exact ⟨[.submit turn], h.start config task turn⟩
  · rename_i call aborting htask
    cases aborting with
    | true => exact ⟨[.resolve call .aborted], h.finishCall config htask rfl .aborted⟩
    | false => exact ⟨[], h⟩
  · rename_i call release aborting htask
    split
    · exact ⟨[], h⟩
    · exact ⟨[.resolve call _], h.finishCall config htask rfl _⟩
  · exact ⟨[], h⟩

private theorem Shows.advanceAll (h : run.Shows t) (tasks : List Nat) :
    ∃ deeds, (tasks.foldl (fun run task => run.advance config task) run).Shows
      (t.run config deeds) := by
  induction tasks generalizing run t with
  | nil => exact ⟨[], h⟩
  | cons task tasks ih =>
    obtain ⟨first, hfirst⟩ := h.advance config task
    obtain ⟨others, hothers⟩ := ih hfirst
    exact ⟨first ++ others, hothers.run_append config⟩

theorem Shows.settle (h : run.Shows t) :
    ∃ deeds, (run.settle config).Shows (t.run config deeds) := by
  have hcleared : Shows { run with ready := [] } t :=
    h.of_calls rfl rfl fun i task call htask hcall => ⟨task, htask, hcall⟩
  exact hcleared.advanceAll config run.ready

theorem Shows.act (h : run.Shows t) (event : Event) :
    ∃ deeds, (run.act config event).1.Shows (t.run config deeds) := by
  -- an event is a deed of the controller at once, or waits for the tasks to run
  cases event with
  | submit turn => exact ⟨[], h.submit turn _⟩
  | resolve call release =>
    refine ⟨[], ?_⟩
    simp only [Run.act]
    split
    · exact h.resolve call release
    · exact h
  | cancel => exact ⟨[.cancel], h.cancel config⟩
  | reset stock => exact ⟨[.reset stock], h.reset config stock⟩
  | abort task => exact ⟨[], h.abort task⟩
  | pause => exact ⟨[], h⟩

/-- One event of a run is some deeds of its timeline. -/
theorem Shows.step (h : run.Shows t) (event : Event) (settles : Bool) :
    ∃ deeds, (run.step config event settles).1.Shows (t.run config deeds) := by
  obtain ⟨first, hfirst⟩ := h.act config event
  unfold Run.step
  cases settles with
  | false => exact ⟨first, hfirst⟩
  | true =>
    obtain ⟨others, hothers⟩ := hfirst.settle config
    exact ⟨first ++ others, hothers.run_append config⟩

/-- A run after some events, each of which is settled at once or left. -/
def afterEvents (session : Conversation) (events : List (Event × Bool)) : Run :=
  events.foldl (fun run (event, settles) => (run.step config event settles).1)
    (Run.new (Controller.new session))

/-- **Task runs are timelines.**  Every run shows the controller and the calls of a timeline. -/
theorem exists_timeline (session : Conversation) (events : List (Event × Bool)) :
    ∃ deeds, (afterEvents config session events).Shows
      (Timeline.after config session deeds) := by
  -- along the events neither the run nor the timeline is a new one
  suffices hall : ∀ {run : Run} {t : Timeline}, run.Shows t →
      ∃ deeds, (events.foldl (fun run (event, settles) => (run.step config event settles).1)
        run).Shows (t.run config deeds) from hall (shows_start session)
  induction events with
  | nil => exact fun h => ⟨[], h⟩
  | cons head events ih =>
    intro run t h
    obtain ⟨event, settles⟩ := head
    obtain ⟨first, hfirst⟩ := h.step config event settles
    obtain ⟨others, hothers⟩ := ih hfirst
    exact ⟨first ++ others, hothers.run_append config⟩

end Run

end Machining.Session
