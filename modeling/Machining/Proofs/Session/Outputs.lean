import Machining.Proofs.Program.Reuse
import Machining.Proofs.Session.CommittedTurns
import Machining.Proofs.Session.Moves

/-!
# The output of a session is that of its ledger

The ledger, the last output and the transcript are kept apart: a turn that is committed writes all
three, a reset clears them, and every other deed leaves them alone or adds a message that carries no
result.  This module shows that they always tell the same story.  Without operations there is no
output.  With operations there is one, of just these operations and the stock of the ledger; its
program came along with the last committed turn, if that was a replacement, or is what any compiler
with the settings of the assistant makes of the ledger, whatever it was used for before; and it is
the output of the last answer with a result.

## How it is shown

`Told` is the story as long as something was committed since the last reset, and `Untold` is the one
before.  `Consistent.move` shows that each move keeps one of the two or, when a turn is committed,
begins it anew.
-/

namespace Machining.Session

open Machining.Config Machining.Job Machining.Program

/-! ## Committed turns with their results -/

/-- The mode and the result of a call whose turn was committed since the last reset. -/
def Flight.commit? (flight : Flight) : Option (Mode × Analysis) :=
  match flight.landing with
  | some (.result analysis, outcome) =>
    if outcome.committed && !flight.wiped then some (flight.call.request.mode, analysis) else none
  | _ => none

/-- The turns that were committed since the last reset, with their results. -/
def Timeline.commits (t : Timeline) : List (Mode × Analysis) := t.flights.filterMap Flight.commit?

/-- What a committed turn brings to the job is in its result. -/
theorem Flight.share?_eq_map_commit? (flight : Flight) :
    flight.share? = flight.commit?.map fun (mode, analysis) =>
      ⟨mode, analysis.operation, analysis.stock⟩ := by
  unfold share? commit?
  rcases flight.landing with _ | ⟨reply, outcome⟩
  · rfl
  · cases reply with
    | result analysis =>
      dsimp only
      split <;> rfl
    | failure failure => rfl
    | aborted => rfl

theorem Flight.commit?_of_share? {flight : Flight} (h : flight.share? = none) :
    flight.commit? = none := by
  rw [share?_eq_map_commit?] at h
  exact Option.map_eq_none_iff.mp h

@[simp] theorem Flight.commit?_withdraw (token : Option Nat) (flight : Flight) :
    (flight.withdraw token).commit? = flight.commit? := by
  simp [commit?]

/-! ## How an output is made -/

/-- How the program of an output came about. -/
inductive Made (config : Assistant) (mode : Mode) (analysis : Analysis) (out : Output Float) :
    Prop where
  /-- It came along with a replacement. -/
  | supplied (program : String) (hmode : mode = .replace)
      (hprogram : analysis.program = some program) (hne : program ≠ "") (htext : out.text = program)
  /-- No program came along with a replacement, and the output is what a compiler makes of the job,
  whatever the compiler was used for before. -/
  | compiled (hnone : mode = .replace → ∀ program, analysis.program = some program → program = "")
      (hout : ∀ c : Compiler Float, c.settings = config.compiler →
        (c.next ⟨out.stock, out.operations, out.explanation⟩).1 = .ok out)

/-- A program is supplied if there is one that is not empty. -/
private theorem suppliedProgram?_eq_some {program : Option String} {text : String} :
    suppliedProgram? program = some text ↔ program = some text ∧ text ≠ "" := by
  simp [suppliedProgram?, Option.filter_eq_some_iff]

private theorem suppliedProgram?_eq_none {program : Option String} :
    suppliedProgram? program = none ↔ ∀ text, program = some text → text = "" := by
  simp [suppliedProgram?, Option.filter_eq_none_iff]

/-- Any compiler makes a compiled output from the job that it holds. -/
private theorem compilers_make_output {settings : Settings Float} {stock : Stock Float}
    {ops : List (Operation Float)} {explanation : String} {out : Output Float}
    (h : Program.output settings stock ops explanation = .ok out) (c : Compiler Float)
    (hsettings : c.settings = settings) :
    (c.next ⟨out.stock, out.operations, out.explanation⟩).1 = .ok out := by
  obtain ⟨hoperations, hstock, hexplanation⟩ := output_keeps_job h
  rw [Compiler.next_fst, hsettings, hexplanation, hoperations, hstock]
  exact h

/-- The output of a turn explains itself in the words of its result, and was made from it. -/
theorem Controller.outputOf_made {config : Assistant} {ledger : Ledger} {mode : Mode}
    {analysis : Analysis} {out : Output Float}
    (h : outputOf config ledger mode analysis = .ok out) :
    out.explanation = analysis.explanation ∧ Made config mode analysis out := by
  unfold outputOf at h
  split at h
  · -- a replacement with a program of its own
    rename_i program hprogram
    obtain ⟨hsome, hne⟩ := suppliedProgram?_eq_some.mp hprogram
    cases h
    exact ⟨rfl, .supplied program rfl hsome hne rfl⟩
  · -- else the job is compiled
    rename_i hnot
    obtain ⟨_, _, hexplanation⟩ := output_keeps_job h
    refine ⟨hexplanation, .compiled ?_ (compilers_make_output h)⟩
    intro hmode
    apply suppliedProgram?_eq_none.mp
    cases hprogram : suppliedProgram? analysis.program with
    | none => rfl
    | some program => exact absurd hprogram (hnot program hmode)

/-! ## Answers with results -/

/-- The answers of a conversation that carry a result. -/
def Conversation.answers (talk : Conversation) : List Message :=
  talk.messages.filter fun message => message.role = .assistant && message.result.isSome

namespace Conversation

@[simp] theorem answers_postUser (talk : Conversation) (text : String)
    (attachment : Option String) : (talk.postUser text attachment).1.answers = talk.answers := by
  simp [answers, postUser, post, nextMessage]

@[simp] theorem answers_postFailure (talk : Conversation) (kind : FailureKind) (text : String) :
    (talk.postFailure kind text).1.answers = talk.answers := by
  simp [answers, postFailure, post, nextMessage]

@[simp] theorem answers_postResult (talk : Conversation) (out : Output Float) :
    (talk.postResult out).1.answers =
      talk.answers ++
        [{ talk.nextMessage .assistant out.explanation with result := some out }] := by
  simp [answers, postResult, post, nextMessage]

end Conversation

/-! ## One story -/

namespace Timeline

/-- Nothing was committed since the last reset. -/
structure Untold (t : Timeline) : Prop where
  output : t.controller.session.output = none
  operations : t.controller.session.ledger.operations = []
  commits : t.commits = []
  answers : t.controller.session.answers = []

/-- The output is that of the ledger, it was made by the last committed turn, and the last answer
with a result carries it. -/
structure Told (config : Assistant) (t : Timeline) (out : Output Float) : Prop where
  output : t.controller.session.output = some out
  operations : out.operations = t.controller.session.ledger.operations
  stock : out.stock = t.controller.session.ledger.stock
  nonempty : out.operations ≠ []
  made : ∃ mode analysis, t.commits.getLast? = some (mode, analysis) ∧
    out.explanation = analysis.explanation ∧ Made config mode analysis out
  answered : ∃ message, t.controller.session.answers.getLast? = some message ∧
    message.role = .assistant ∧ message.result = some out ∧ message.text = out.explanation

/-- The ledger, the output and the transcript tell the same story. -/
def Consistent (config : Assistant) (t : Timeline) : Prop :=
  t.Untold ∨ ∃ out, t.Told config out

variable {config : Assistant} {t next : Timeline}

/-- Whatever leaves the job and the answers as they are keeps the story. -/
private theorem Consistent.of_eq (h : t.Consistent config)
    (houtput : next.controller.session.output = t.controller.session.output)
    (hledger : next.controller.session.ledger = t.controller.session.ledger)
    (hcommits : next.commits = t.commits)
    (hanswers : next.controller.session.answers = t.controller.session.answers) :
    next.Consistent config := by
  rcases h with huntold | ⟨out, htold⟩
  · refine Or.inl ⟨houtput.trans huntold.output, ?_, hcommits.trans huntold.commits,
      hanswers.trans huntold.answers⟩
    rw [hledger]
    exact huntold.operations
  · refine Or.inr ⟨out, houtput.trans htold.output, ?_, ?_, htold.nonempty, ?_, ?_⟩
    · rw [hledger]
      exact htold.operations
    · rw [hledger]
      exact htold.stock
    · rw [hcommits]
      exact htold.made
    · rw [hanswers]
      exact htold.answered

theorem start_consistent (config : Assistant) (stock : Stock Float) :
    (start (.new stock)).Consistent config :=
  Or.inl ⟨rfl, rfl, rfl, rfl⟩

/-- The committed turns before the turn in flight, and that turn as it ends. -/
private theorem commits_finish {earlier : List Flight} {current : Flight}
    (h : t.Busy earlier current) (c : Controller) (reply : Reply) (outcome : Outcome) :
    commits ⟨c, earlier ++ [current.land reply outcome]⟩ =
      t.commits ++ (current.land reply outcome).commit?.toList := by
  have hopen : current.commit? = none :=
    Flight.commit?_of_share? (Flight.share?_of_landing h.landing)
  simp only [commits, h.flights_eq, List.filterMap_append]
  cases hcommit : (current.land reply outcome).commit? with
  | none => simp [hopen, hcommit]
  | some commit => simp [hopen, hcommit]

/-- A turn ends: with an output the story is that of the output, and otherwise it stays. -/
theorem Consistent.finish {earlier : List Flight} {current : Flight} (h : t.Consistent config)
    (hbusy : t.Busy earlier current) (reply : Reply) :
    Consistent config ⟨(t.controller.conclude config current.call.request.mode reply).1,
      earlier ++ [current.land reply
        (t.controller.conclude config current.call.request.mode reply).2]⟩ := by
  have hcommits := commits_finish hbusy
  -- the turn is committed, fails in a kind, or ends in silence
  rcases t.controller.conclude_cases config current.call.request.mode reply with
    ⟨analysis, out, rfl, hout, hcommit⟩ | ⟨kind, hfail⟩ | ⟨_, hdrop⟩
  · rw [hcommit]
    obtain ⟨hoperations, _⟩ := Controller.outputOf_eq_ok hout
    obtain ⟨hexplanation, hmade⟩ := Controller.outputOf_made hout
    -- the story begins anew with this turn
    have hlanded : (current.land (.result analysis) (t.controller.commit out).2).commit? =
        some (current.call.request.mode, analysis) := by
      simp [Flight.commit?, Flight.land, Controller.commit, hbusy.wiped]
    refine Or.inr ⟨out, rfl, rfl, rfl, ?_, ⟨_, analysis, ?_, hexplanation, hmade⟩, ?_⟩
    · -- the operation of the result is one of the operations, in either mode
      rw [hoperations]
      cases current.call.request.mode <;> simp [Ledger.preview]
    · rw [hcommits, hlanded]
      simp
    · refine ⟨{ t.controller.session.nextMessage .assistant out.explanation with
        result := some out }, ?_, rfl, rfl, rfl⟩
      have hposted := Conversation.answers_postResult t.controller.session out
      exact (congrArg List.getLast? hposted).trans List.getLast?_concat
  · rw [hfail]
    -- a turn that fails adds an answer, but none with a result
    have hlanded : (current.land reply (t.controller.fail config kind).2).commit? = none := by
      cases reply <;> rfl
    refine h.of_eq rfl rfl ?_ ?_
    · rw [hcommits, hlanded]
      simp
    · exact Conversation.answers_postFailure ..
  · rw [hdrop]
    have hlanded : (current.land reply t.controller.drop.2).commit? = none := by
      cases reply <;> rfl
    refine h.of_eq rfl rfl ?_ rfl
    rw [hcommits, hlanded]
    simp

/-- Every move over a sound timeline keeps the story. -/
theorem Consistent.move {deed : Deed} (h : t.Consistent config) (hmove : Move config t deed next) :
    next.Consistent config := by
  cases hmove with
  | stay => exact h
  | start turn label mode hrest =>
    refine h.of_eq rfl rfl ?_ (Conversation.answers_postUser ..)
    simp [commits, Flight.commit?_of_share? (Flight.share?_launch ..)]
  | drop call reply flight hflight hlanding hbehind =>
    refine h.of_eq rfl rfl ?_ rfl
    -- the call had not been committed, and is not now
    apply filterMap_set_of_eq hflight
    rw [Flight.commit?_of_share? (Flight.share?_land_stale ..),
      Flight.commit?_of_share? (Flight.share?_of_landing hlanding)]
  | finish earlier current reply hbusy => exact h.finish hbusy reply
  | withdraw earlier current last hbusy =>
    refine h.of_eq rfl rfl ?_ (Conversation.answers_postFailure ..)
    simp only [commits, List.filterMap_map]
    congr 1
    funext flight
    exact Flight.commit?_withdraw _ flight
  | reset stock =>
    refine Or.inl ⟨rfl, rfl, ?_, rfl⟩
    simp [commits, Flight.commit?_of_share?]

/-- **The output of a session is that of its ledger.**  At every moment there is no output exactly
when the ledger has no operations.  An output has the operations and the stock of the ledger.  It
belongs to the last turn that was committed since the last reset: its program is the one that came
along, if that turn was a replacement with a program that is not empty, and otherwise every compiler
with the settings of the assistant, new or used, makes the output from the ledger.  The last answer
that carries a result carries this output, and says what it explains. -/
theorem output_matches_ledger (config : Assistant) (stock : Stock Float) (deeds : List Deed) :
    let t := after config (.new stock) deeds
    let session := t.controller.session
    (session.output = none ↔ session.ledger.operations = []) ∧
      ∀ out, session.output = some out →
        out.operations = session.ledger.operations ∧
          out.stock = session.ledger.stock ∧
          (∃ mode analysis, t.commits.getLast? = some (mode, analysis) ∧
            out.explanation = analysis.explanation ∧
            ((∃ program, mode = .replace ∧ analysis.program = some program ∧ program ≠ "" ∧
                out.text = program) ∨
              (mode = .replace → ∀ program, analysis.program = some program → program = "") ∧
                ∀ c : Compiler Float, c.settings = config.compiler →
                  (c.next ⟨session.ledger.stock, session.ledger.operations, out.explanation⟩).1 =
                    .ok out)) ∧
          ∃ message, session.answers.getLast? = some message ∧ message.role = .assistant ∧
            message.result = some out ∧ message.text = out.explanation := by
  intro t session
  have hconsistent : t.Consistent config :=
    after_induction config (.new stock) (start_consistent config stock)
      (fun _ h hmove => h.move hmove) deeds
  -- no turn was committed since the last reset, or the story is that of an output
  rcases hconsistent with huntold | ⟨out, htold⟩
  · refine ⟨iff_of_true huntold.output huntold.operations, ?_⟩
    intro out hout
    rw [huntold.output] at hout
    cases hout
  · refine ⟨?_, ?_⟩
    · have hoperations : session.ledger.operations ≠ [] := by
        rw [← htold.operations]
        exact htold.nonempty
      exact iff_of_false (by rw [htold.output]; simp) hoperations
    · intro out' hout
      obtain rfl : out = out' := Option.some.inj (htold.output.symm.trans hout)
      obtain ⟨mode, analysis, hlast, hexplanation, hmade⟩ := htold.made
      refine ⟨htold.operations, htold.stock, ⟨mode, analysis, hlast, hexplanation, ?_⟩,
        htold.answered⟩
      -- a supplied program is the output as it is; a compiled one is what the ledger gives
      cases hmade with
      | supplied program hmode hprogram hne htext =>
        exact Or.inl ⟨program, hmode, hprogram, hne, htext⟩
      | compiled hnone hcompiled =>
        refine Or.inr ⟨hnone, ?_⟩
        intro c hsettings
        rw [← htold.stock, ← htold.operations]
        exact hcompiled c hsettings

end Timeline

end Machining.Session
