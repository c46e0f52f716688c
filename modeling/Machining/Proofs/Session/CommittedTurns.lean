import Machining.Proofs.Session.Timeline

/-!
# The ledger is the record of the committed turns

The controller changes its ledger in place: a turn looks at the operations that it would give, has
them compiled, and puts them down.  This module shows that nothing is lost, doubled or reordered on
the way.  At every moment the operations are those of the turns that were committed since the last
reset, in the order in which they were submitted, from the last replacement on; the stock is that of
the last of them.

## How it is shown

`Recorded` ties the ledger to the calls of a timeline and is kept by every deed
(`Recorded.step`).  The only deed that adds to the ledger is the resolution of the call in flight,
which is the last call of all (`Timeline.Busy`), so the order of commits is the order of
submissions.
-/

namespace Machining.Session

open Machining.Config Machining.Job Machining.Program

/-! ## What the committed turns bring -/

/-- What a committed turn brings to the job. -/
structure Share where
  /-- How it is taken. -/
  mode : Mode
  /-- The operation. -/
  operation : Operation Float
  /-- The stock. -/
  stock : Stock Float

/-- What the turn of a call has brought to the job since the last reset: something if it was
committed, and nothing else. -/
def Flight.share? (flight : Flight) : Option Share :=
  match flight.landing with
  | some (.result analysis, outcome) =>
    if outcome.committed && !flight.wiped then
      some ⟨flight.call.request.mode, analysis.operation, analysis.stock⟩
    else none
  | _ => none

/-- The shares from the last replacement on; all of them without a replacement. -/
def fromLastReplacement : List Share → List Share
  | [] => []
  | share :: rest =>
    if rest.any fun later => later.mode = .replace then fromLastReplacement rest
    else share :: rest

/-- A committed turn that is told so was in time, and its reply was a result. -/
def Flight.Honest (flight : Flight) : Prop :=
  ∀ reply outcome, flight.landing = some (reply, outcome) → outcome.committed = true →
    flight.superseded = false ∧ outcome.phase = .success ∧ outcome.failure = none ∧
      ∃ analysis, reply = .result analysis

namespace Timeline

/-- What the turns that were committed since the last reset have brought, in the order in which they
were submitted. -/
def shares (t : Timeline) : List Share := t.flights.filterMap Flight.share?

/-- The stock that the job begins with after a deed: a reset sets the given stock, or else that of
the beginning. -/
def reopen (stock opening : Stock Float) : Deed → Stock Float
  | .reset given => given.getD stock
  | _ => opening

/-- The stock that the job began with: that of the last reset, or that of the beginning. -/
def openingStock (stock : Stock Float) (deeds : List Deed) : Stock Float :=
  deeds.foldl (reopen stock) stock

end Timeline

/-! ## One more share -/

/-- A further addition follows the shares, and a replacement takes their place. -/
theorem fromLastReplacement_append_singleton (shares : List Share) (share : Share) :
    fromLastReplacement (shares ++ [share]) =
      match share.mode with
      | .accumulate => fromLastReplacement shares ++ [share]
      | .replace => [share] := by
  induction shares with
  | nil => cases hmode : share.mode <;> simp [fromLastReplacement]
  | cons first rest ih =>
    cases hmode : share.mode with
    | accumulate =>
      rw [hmode] at ih
      -- an addition does not replace, so the search among the rest finds what it found
      have hany : (rest ++ [share]).any (fun later => later.mode = .replace) =
          rest.any fun later => later.mode = .replace := by
        simp [hmode]
      rw [List.cons_append, fromLastReplacement, fromLastReplacement, hany, ih]
      split <;> rfl
    | replace =>
      rw [hmode] at ih
      -- a replacement is found, as it is the last one of the rest
      have hany : (rest ++ [share]).any (fun later => later.mode = .replace) = true := by
        simp [hmode]
      rw [List.cons_append, fromLastReplacement, if_pos hany, ih]

/-- What a turn would give is the record with its share. -/
theorem Ledger.preview_eq (ledger : Ledger) {shares : List Share}
    (h : ledger.operations = (fromLastReplacement shares).map (·.operation)) (share : Share) :
    ledger.preview share.mode share.operation =
      (fromLastReplacement (shares ++ [share])).map (·.operation) := by
  rw [fromLastReplacement_append_singleton]
  cases share.mode with
  | accumulate => simp [preview, h]
  | replace => rfl

/-- A compiled output holds the job that it was compiled from, and its explanation. -/
theorem output_keeps_job {settings : Settings Float} {stock : Stock Float}
    {ops : List (Operation Float)} {explanation : String} {output : Output Float}
    (h : Program.output settings stock ops explanation = .ok output) :
    output.operations = ops ∧ output.stock = stock ∧ output.explanation = explanation := by
  unfold Program.output at h
  cases hcompile : compile settings stock ops with
  | error error =>
    rw [hcompile] at h
    cases h
  | ok lines =>
    rw [hcompile] at h
    cases h
    exact ⟨rfl, rfl, rfl⟩

/-- An output is of the operations that the turn would give and of the stock of its result. -/
theorem Controller.outputOf_eq_ok {config : Assistant} {ledger : Ledger} {mode : Mode}
    {analysis : Analysis} {output : Output Float}
    (h : outputOf config ledger mode analysis = .ok output) :
    output.operations = ledger.preview mode analysis.operation ∧ output.stock = analysis.stock := by
  unfold outputOf at h
  split at h
  · cases h
    exact ⟨rfl, rfl⟩
  · obtain ⟨hoperations, hstock, _⟩ := output_keeps_job h
    exact ⟨hoperations, hstock⟩

/-! ## The shares of single calls -/

namespace Flight

@[simp] theorem share?_launch (generation : Nat) (request : Request) :
    (launch generation request).share? = none := rfl

@[simp] theorem share?_withdraw (token : Option Nat) (flight : Flight) :
    (flight.withdraw token).share? = flight.share? := by
  simp [share?]

/-- A reset lies after everything that was committed before it. -/
@[simp] theorem share?_wipe (flight : Flight) : flight.wipe.share? = none := by
  unfold share?
  rw [wipe_landing]
  split
  · rename_i analysis outcome hlanding
    simp [wipe, hlanding]
  · rfl

theorem share?_of_landing {flight : Flight} (h : flight.landing = none) : flight.share? = none := by
  simp [share?, h]

/-- A turn whose reply is dropped brings nothing. -/
@[simp] theorem share?_land_stale (flight : Flight) (reply : Reply) (generation : Nat) :
    (flight.land reply (Controller.stale generation)).share? = none := by
  cases reply <;> rfl

namespace Honest

theorem of_landing {flight : Flight} (h : flight.landing = none) : flight.Honest := by
  intro reply outcome hlanding
  rw [h] at hlanding
  cases hlanding

/-- Overtaking a call does not touch a turn that has ended. -/
theorem withdraw {flight : Flight} (h : flight.Honest) (token : Option Nat) :
    (flight.withdraw token).Honest := by
  intro reply outcome hlanding hcommitted
  rw [withdraw_landing] at hlanding
  obtain ⟨hsuperseded, hrest⟩ := h reply outcome hlanding hcommitted
  exact ⟨by simp [hsuperseded, hlanding], hrest⟩

theorem wipe {flight : Flight} (h : flight.Honest) : flight.wipe.Honest := h

theorem land_stale (flight : Flight) (reply : Reply) (generation : Nat) :
    (flight.land reply (Controller.stale generation)).Honest := by
  intro _ _ hlanding hcommitted
  cases hlanding
  cases hcommitted

end Honest

end Flight

/-! ## How a turn ends -/

namespace Controller

/-- What the end of a turn does to the ledger: the turn is not committed and nothing changes, or its
reply was a result, whose operation and stock are put down. -/
theorem conclude_ledger (config : Assistant) (c : Controller) (mode : Mode) (reply : Reply) :
    (c.conclude config mode reply).1.session.defaultStock = c.session.defaultStock ∧
      ((c.conclude config mode reply).2.committed = false ∧
          (c.conclude config mode reply).1.session.ledger = c.session.ledger ∨
        ∃ analysis, reply = .result analysis ∧
          (c.conclude config mode reply).2.committed = true ∧
          (c.conclude config mode reply).2.phase = .success ∧
          (c.conclude config mode reply).2.failure = none ∧
          (c.conclude config mode reply).1.session.ledger =
            ⟨c.session.ledger.preview mode analysis.operation, analysis.stock⟩) := by
  cases reply with
  | aborted => exact ⟨rfl, Or.inl ⟨rfl, rfl⟩⟩
  | failure failure =>
    rw [conclude]
    -- a failure is told or escapes, and the ledger stays either way
    cases failure.kind with
    | ok kind => exact ⟨rfl, Or.inl ⟨rfl, rfl⟩⟩
    | error error => exact ⟨rfl, Or.inl ⟨rfl, rfl⟩⟩
  | result analysis =>
    -- only with an output is the turn committed
    cases hout : outputOf config c.session.ledger mode analysis with
    | error error =>
      simp only [conclude, hout]
      exact ⟨rfl, Or.inl ⟨rfl, rfl⟩⟩
    | ok output =>
      obtain ⟨hoperations, hstock⟩ := outputOf_eq_ok hout
      simp only [conclude, hout]
      refine ⟨rfl, Or.inr ⟨analysis, rfl, rfl, rfl, rfl, ?_⟩⟩
      rw [← hoperations, ← hstock]
      rfl

end Controller

namespace Timeline

/-! ## The record -/

/-- The ledger is the record of the committed turns, on top of the stock that the job began with. -/
structure Recorded (stock opening : Stock Float) (t : Timeline) : Prop where
  defaultStock : t.controller.session.defaultStock = stock
  operations :
    t.controller.session.ledger.operations = (fromLastReplacement t.shares).map (·.operation)
  stock : t.controller.session.ledger.stock = (t.shares.getLast?.map (·.stock)).getD opening
  honest : ∀ flight ∈ t.flights, flight.Honest

variable (config : Assistant) {t : Timeline} {stock opening : Stock Float}

theorem start_recorded (stock : Stock Float) : (start (.new stock)).Recorded stock stock :=
  ⟨rfl, rfl, rfl, fun _ hmem => by cases hmem⟩

/-- A deed that leaves the ledger and all shares as they are keeps the record. -/
private theorem Recorded.of_eq (h : t.Recorded stock opening) {next : Timeline}
    (hdefault : next.controller.session.defaultStock = t.controller.session.defaultStock)
    (hledger : next.controller.session.ledger = t.controller.session.ledger)
    (hshares : next.shares = t.shares) (hhonest : ∀ flight ∈ next.flights, flight.Honest) :
    next.Recorded stock opening := by
  refine ⟨hdefault.trans h.defaultStock, ?_, ?_, hhonest⟩
  · rw [hledger, hshares]
    exact h.operations
  · rw [hledger, hshares]
    exact h.stock

/-- Overtaking calls does not touch the shares. -/
private theorem shares_withdraw (c : Controller) (flights : List Flight) (token : Option Nat) :
    shares ⟨c, flights.map (Flight.withdraw token)⟩ = flights.filterMap Flight.share? := by
  rw [shares, List.filterMap_map]
  congr 1
  funext flight
  exact Flight.share?_withdraw token flight

/-- A turn that is committed adds its share to the record. -/
theorem Recorded.conclude {earlier : List Flight} {current : Flight}
    (h : t.Recorded stock opening) (hbusy : t.Busy earlier current) (reply : Reply) :
    (t.step config (.resolve earlier.length reply)).Recorded stock opening := by
  have hflights := hbusy.flights_eq
  -- the calls before the one in flight stay as they are, and it has no share yet
  have hhonest : ∀ flight ∈ earlier, flight.Honest := by
    intro flight hmem
    exact h.honest flight (by rw [hflights]; exact List.mem_append_left _ hmem)
  have hshares : t.shares = earlier.filterMap Flight.share? := by
    rw [shares, hflights, List.filterMap_append]
    simp [Flight.share?_of_landing hbusy.landing]
  obtain ⟨hdefault, hend⟩ :=
    Controller.conclude_ledger config t.controller current.call.request.mode reply
  rw [hbusy.step_resolve config reply]
  -- of how the turn ends, only what it does to the ledger counts
  generalize t.controller.conclude config current.call.request.mode reply = ended at hdefault hend
  obtain ⟨next, outcome⟩ := ended
  simp only at hdefault hend
  rcases hend with ⟨hfailed, hledger⟩ | ⟨analysis, rfl, hcommitted, hphase, hfailure, hledger⟩
  · -- the turn failed: no share, and the ledger of before
    have hshare : (current.land reply outcome).share? = none := by
      unfold Flight.share?
      cases reply <;> simp_all [Flight.land]
    refine h.of_eq hdefault hledger ?_ ?_
    · rw [hshares, shares, List.filterMap_append]
      simp [hshare]
    · -- every landing tells the truth: the old ones did, and this one is not committed
      intro flight hmem
      rcases List.mem_append.mp hmem with hearlier | hcurrent
      · exact hhonest flight hearlier
      · rw [List.mem_singleton.mp hcurrent]
        intro _ _ hlanding hcommitted
        cases hlanding
        rw [hfailed] at hcommitted
        cases hcommitted
  · -- the turn was committed: its share comes last, and the ledger is its preview
    have hshare : (current.land (.result analysis) outcome).share? =
        some ⟨current.call.request.mode, analysis.operation, analysis.stock⟩ := by
      simp [Flight.share?, Flight.land, hcommitted, hbusy.wiped]
    have hadded : shares ⟨next, earlier ++ [current.land (.result analysis) outcome]⟩ =
        t.shares ++ [⟨current.call.request.mode, analysis.operation, analysis.stock⟩] := by
      rw [hshares, shares, List.filterMap_append]
      simp [hshare]
    refine ⟨hdefault.trans h.defaultStock, ?_, ?_, ?_⟩
    · rw [hledger, hadded]
      exact Ledger.preview_eq _ h.operations
        ⟨current.call.request.mode, analysis.operation, analysis.stock⟩
    · rw [hledger, hadded]
      simp
    · -- this one is committed, and it says so in every field
      intro flight hmem
      rcases List.mem_append.mp hmem with hearlier | hcurrent
      · exact hhonest flight hearlier
      · rw [List.mem_singleton.mp hcurrent]
        intro _ _ hlanding _
        cases hlanding
        exact ⟨hbusy.superseded, hphase, hfailure, analysis, rfl⟩

/-- Each deed keeps the record, on top of the stock that a reset sets. -/
theorem Recorded.step (h : t.Recorded stock opening) (hsound : t.Sound) (deed : Deed) :
    (t.step config deed).Recorded stock (reopen stock opening deed) := by
  cases deed with
  | submit turn =>
    rcases hsound with hrest | ⟨earlier, current, hbusy⟩
    · rcases hrest.step_submit config turn with hrefused | ⟨label, mode, hbegun⟩
      · rw [hrefused]
        exact h
      -- a turn that begins has no share yet
      · rw [hbegun]
        refine h.of_eq rfl rfl ?_ ?_
        · simp [shares, List.filterMap_append]
        · intro flight hmem
          rcases List.mem_append.mp hmem with hold | hnew
          · exact h.honest flight hold
          · rw [List.mem_singleton.mp hnew]
            exact Flight.Honest.of_landing rfl
    · rw [hbusy.step_submit config turn]
      exact h
  | resolve call reply =>
    rcases hsound.resolve_cases config call reply with
      hsame | ⟨flight, hflight, hlanding, hdropped⟩ | ⟨earlier, current, hbusy, rfl⟩
    · rw [hsame]
      exact h
    · rw [hdropped]
      refine h.of_eq rfl rfl ?_ ?_
      · -- the call had no share while it was in flight, and gets none
        apply filterMap_set_of_eq hflight
        rw [Flight.share?_land_stale, Flight.share?_of_landing hlanding]
      · intro other hmem
        rcases List.mem_or_eq_of_mem_set hmem with hold | rfl
        · exact h.honest other hold
        · exact Flight.Honest.land_stale flight reply _
    · exact h.conclude config hbusy reply
  | cancel =>
    -- withdrawing commits nothing and takes no commit back, with a turn in flight or without
    have hhonest (token : Option Nat) :
        ∀ flight ∈ t.flights.map (Flight.withdraw token), flight.Honest := by
      refine List.forall_mem_map.mpr ?_
      intro old hold
      exact (h.honest old hold).withdraw token
    rcases hsound with hrest | ⟨earlier, current, hbusy⟩
    · rw [hrest.step_cancel config]
      exact h.of_eq rfl rfl (shares_withdraw _ _ _) (hhonest _)
    · obtain ⟨last, hstep⟩ := hbusy.step_cancel config
      rw [hstep]
      exact h.of_eq rfl rfl (shares_withdraw _ _ _) (hhonest _)
  | reset given =>
    -- every share lies before the reset, and the ledger begins anew
    have hshares : (t.step config (.reset given)).shares = [] := by
      simp [shares, Timeline.step]
    have hledger : (t.step config (.reset given)).controller.session.ledger =
        Ledger.empty (given.getD stock) := by
      rw [← h.defaultStock]
      rfl
    refine ⟨h.defaultStock, ?_, ?_, ?_⟩
    · rw [hledger, hshares]
      rfl
    · rw [hledger, hshares]
      rfl
    · refine List.forall_mem_map.mpr ?_
      intro old hold
      exact ((h.honest old hold).withdraw _).wipe

theorem Recorded.run (h : t.Recorded stock opening) (hsound : t.Sound) (deeds : List Deed) :
    (t.run config deeds).Recorded stock (deeds.foldl (reopen stock) opening) := by
  induction deeds generalizing t opening with
  | nil => exact h
  | cons deed deeds ih => exact ih (h.step config hsound deed) (hsound.step config deed)

/-- **The ledger is the record of the committed turns.**  After any deeds the operations are those
of the turns that were committed since the last reset, in the order in which they were submitted,
from the last replacement on.  The stock is that of the last of these turns, and without one it is
the stock that the job began with.  A turn counts as committed only if its reply was a result that
came in time and no failure was told. -/
theorem ledger_records_committed_turns (config : Assistant) (stock : Stock Float)
    (deeds : List Deed) :
    (after config (.new stock) deeds).controller.session.ledger.operations =
        (fromLastReplacement (after config (.new stock) deeds).shares).map (·.operation) ∧
      (after config (.new stock) deeds).controller.session.ledger.stock =
        ((after config (.new stock) deeds).shares.getLast?.map (·.stock)).getD
          (openingStock stock deeds) ∧
      ∀ flight ∈ (after config (.new stock) deeds).flights, flight.Honest := by
  have hsound : (start (.new stock)).Sound := Or.inl (start_resting _)
  have hrecorded := (start_recorded stock).run config hsound deeds
  exact ⟨hrecorded.operations, hrecorded.stock, hrecorded.honest⟩

/-- Of three turns the first is committed, the second withdrawn, and the third replaces the job. -/
theorem ledger_records_committed_turns_of_three :
    let deeds : List Deed :=
      [.submit (sampleTurn .accumulate), .resolve 0 (.result (sampleAnalysis 10)),
        .submit (sampleTurn .accumulate), .cancel,
        .submit (sampleTurn .replace), .resolve 1 (.result (sampleAnalysis 20)),
        .resolve 2 (.result { sampleAnalysis 50 with program := some "M30" })]
    (after sampleAssistant (.new sampleStock) deeds).shares =
        [⟨.accumulate, sampleHole 10, sampleStock⟩, ⟨.replace, sampleHole 50, sampleStock⟩] ∧
      (after sampleAssistant (.new sampleStock) deeds).controller.session.ledger.operations =
        [sampleHole 50] := by
  intro deeds
  have hshares : (after sampleAssistant (.new sampleStock) deeds).shares =
      [⟨.accumulate, sampleHole 10, sampleStock⟩, ⟨.replace, sampleHole 50, sampleStock⟩] := rfl
  refine ⟨hshares, ?_⟩
  rw [(ledger_records_committed_turns sampleAssistant sampleStock deeds).1, hshares]
  rfl

end Timeline

end Machining.Session
