import Machining.Proofs.Program.Overflow
import Machining.Proofs.Session.Outputs

/-!
# Whether a ledger can be compiled again

A turn that adds to the job has the whole job compiled anew, so a job that does not compile stops
all further additions.  A turn puts down what it has compiled, with one exception: a replacement
that brings its own program is put down as it is.  This module shows that nothing else gets into a
ledger that cannot be compiled again, and what can fail when more is added.

* `FiniteCounts` says of an operation that the quotients of its distances and steps are finite;
  `Fractions.compile_eq_ok_iff` says that a job compiles exactly when this holds of its operations.
* `ledger_compiles_unless_supplied`: every ledger compiles, unless its only operation came with a
  program and has no finite counts.
* `supplied_fine_hole_blocks_additions`: such an operation, and a turn that fails after it.
-/

namespace Machining.Program

open Machining.Numeric Machining.Job

/-- An operation whose distances, divided by their steps, are finite. -/
def FiniteCounts (settings : Settings Float) (stock : Stock Float) (op : Operation Float) : Prop :=
  ∀ stride ∈ strides settings stock op, Scalar.isFinite (stride.span / stride.step) = true

namespace Fractions

variable {settings : Settings Float} {stock : Stock Float} {ops : List (Operation Float)}

private theorem count_cases (hf : Fractions settings) {stride : Stride Float}
    (h : stride ∈ ops.flatMap (strides settings stock)) :
    (Scalar.isFinite (stride.span / stride.step) = true ∧ ∃ steps, stride.count = .ok steps) ∨
      (Scalar.isFinite (stride.span / stride.step) = false ∧
        stride.count = .error .infinityToInteger) := by
  obtain ⟨op, -, hstride⟩ := List.mem_flatMap.mp h
  exact ((arises_of_mem_strides hstride).measured hf).count_cases

/-- A job compiles exactly when all its operations have finite counts. -/
theorem compile_eq_ok_iff (hf : Fractions settings) :
    (∃ program, compile settings stock ops = .ok program) ↔
      ∀ op ∈ ops, FiniteCounts settings stock op := by
  constructor
  · rintro ⟨program, hprogram⟩ op hop stride hstride
    have hmem : stride ∈ ops.flatMap (strides settings stock) :=
      List.mem_flatMap.mpr ⟨op, hop, hstride⟩
    cases compile_hinges settings stock ops with
    | ok _ _ hcounts =>
      obtain ⟨steps, hsteps⟩ := hcounts stride hmem
      rcases hf.count_cases hmem with ⟨hfinite, -⟩ | ⟨-, hfails⟩
      · exact hfinite
      · rw [hsteps] at hfails
        cases hfails
    | error error hfailed _ =>
      rw [hprogram] at hfailed
      cases hfailed
  · intro hfinite
    cases compile_hinges settings stock ops with
    | ok program hprogram _ => exact ⟨program, hprogram⟩
    | error error _ hcount =>
      -- a count that fails belongs to a quotient that is not finite
      obtain ⟨stride, hmem, hcount⟩ := hcount
      rcases hf.count_cases hmem with ⟨-, steps, hsteps⟩ | ⟨hinfinite, -⟩
      · rw [hsteps] at hcount
        cases hcount
      · obtain ⟨op, hop, hstride⟩ := List.mem_flatMap.mp hmem
        rw [hfinite op hop stride hstride] at hinfinite
        cases hinfinite

/-- A job that does not compile fails with an infinity where a whole number is needed. -/
theorem compile_eq_error (hf : Fractions settings)
    (h : ¬ ∀ op ∈ ops, FiniteCounts settings stock op) :
    compile settings stock ops = .error .infinityToInteger := by
  cases compile_hinges settings stock ops with
  | ok program hprogram _ => exact absurd (hf.compile_eq_ok_iff.mp ⟨program, hprogram⟩) h
  | error error hfailed hcount =>
    obtain ⟨stride, hmem, hcount⟩ := hcount
    rcases hf.count_cases hmem with ⟨-, steps, hsteps⟩ | ⟨-, hfails⟩
    · rw [hsteps] at hcount
      cases hcount
    · obtain rfl := Except.error.inj (hcount.symm.trans hfails)
      exact hfailed

end Fractions

/-! ## Outputs -/

theorem exists_output_iff {settings : Settings Float} {stock : Stock Float}
    {ops : List (Operation Float)} {explanation : String} :
    (∃ out, output settings stock ops explanation = .ok out) ↔
      ∃ program, compile settings stock ops = .ok program := by
  unfold output
  cases compile settings stock ops with
  | error error => simp [Except.map]
  | ok program => simp [Except.map]

theorem output_eq_error {settings : Settings Float} {stock : Stock Float}
    {ops : List (Operation Float)} {explanation : String} {error : ArithmeticError}
    (h : compile settings stock ops = .error error) :
    output settings stock ops explanation = .error error := by
  unfold output
  rw [h]
  rfl

end Machining.Program

namespace Machining.Session

open Machining.Config Machining.Job Machining.Numeric Machining.Program

namespace Timeline

variable {config : Assistant} {t : Timeline}

/-! ## What a replacement leaves -/

private theorem shares_eq_map_commits (t : Timeline) :
    t.shares = t.commits.map fun (mode, analysis) =>
      ⟨mode, analysis.operation, analysis.stock⟩ := by
  rw [shares, commits, List.map_filterMap]
  congr 1
  funext flight
  exact Flight.share?_eq_map_commit? flight

/-- After a replacement the ledger holds its operation alone, and its stock. -/
theorem Recorded.of_replace {stock opening : Stock Float} (h : t.Recorded stock opening)
    {analysis : Analysis} (hlast : t.commits.getLast? = some (.replace, analysis)) :
    t.controller.session.ledger.operations = [analysis.operation] ∧
      t.controller.session.ledger.stock = analysis.stock := by
  obtain ⟨earlier, hcommits⟩ := List.getLast?_eq_some_iff.mp hlast
  have hshares : t.shares = earlier.map (fun (mode, analysis) =>
      ⟨mode, analysis.operation, analysis.stock⟩) ++
        [⟨.replace, analysis.operation, analysis.stock⟩] := by
    rw [shares_eq_map_commits, hcommits, List.map_append]
    rfl
  constructor
  · rw [h.operations, hshares, fromLastReplacement_append_singleton]
    rfl
  · rw [h.stock, hshares, List.getLast?_concat]
    rfl

/-! ## What a ledger holds -/

/-- The last committed turn was a replacement that brought its own program. -/
def Supplied (t : Timeline) (analysis : Analysis) : Prop :=
  t.commits.getLast? = some (.replace, analysis) ∧
    ∃ program, analysis.program = some program ∧ program ≠ ""

/-- What was compiled has finite counts. -/
private theorem finiteCounts_of_made (hf : Fractions config.compiler) {out : Output Float}
    (h : ∀ c : Compiler Float, c.settings = config.compiler →
      (c.next ⟨out.stock, out.operations, out.explanation⟩).1 = .ok out) :
    ∀ op ∈ out.operations, FiniteCounts config.compiler out.stock op := by
  have hout := h (Compiler.fresh config.compiler) rfl
  rw [Compiler.next_fst] at hout
  exact hf.compile_eq_ok_iff.mp (exists_output_iff.mp ⟨out, hout⟩)

/-- All operations of a ledger have finite counts, or its only one came with a program. -/
theorem finiteCounts_or_supplied (hf : Fractions config.compiler) {stock opening : Stock Float}
    (hrecorded : t.Recorded stock opening) (h : t.Consistent config) :
    (∀ op ∈ t.controller.session.ledger.operations,
        FiniteCounts config.compiler t.controller.session.ledger.stock op) ∨
      ∃ analysis, t.Supplied analysis ∧
        t.controller.session.ledger.operations = [analysis.operation] ∧
        t.controller.session.ledger.stock = analysis.stock := by
  rcases h with huntold | ⟨out, htold⟩
  · refine Or.inl ?_
    rw [huntold.operations]
    exact List.forall_mem_nil _
  · obtain ⟨mode, analysis, hlast, -, hmade⟩ := htold.made
    -- the last output is a supplied program, or the job was compiled as it is
    cases hmade with
    | supplied program hmode hprogram hne _ =>
      subst hmode
      exact Or.inr ⟨analysis, ⟨hlast, program, hprogram, hne⟩, hrecorded.of_replace hlast⟩
    | compiled _ hcompiled =>
      refine Or.inl ?_
      rw [← htold.operations, ← htold.stock]
      exact finiteCounts_of_made hf hcompiled

/-- What an addition is compiled to. -/
private theorem outputOf_accumulate (config : Assistant) (ledger : Ledger) (analysis : Analysis) :
    Controller.outputOf config ledger .accumulate analysis =
      Program.output config.compiler analysis.stock (ledger.operations ++ [analysis.operation])
        analysis.explanation := rfl

/-- What is added to a ledger that compiles, with the same stock, hinges on the new operation
alone. -/
private theorem exists_outputOf_iff (hf : Fractions config.compiler) {ledger : Ledger}
    (h : ∀ op ∈ ledger.operations, FiniteCounts config.compiler ledger.stock op)
    {analysis : Analysis} (hstock : analysis.stock = ledger.stock) :
    (∃ out, Controller.outputOf config ledger .accumulate analysis = .ok out) ↔
      FiniteCounts config.compiler ledger.stock analysis.operation := by
  rw [outputOf_accumulate, hstock, exists_output_iff, hf.compile_eq_ok_iff]
  constructor
  · intro hall
    exact hall _ (List.mem_append_right _ (List.mem_singleton_self _))
  · intro hnew op hop
    rcases List.mem_append.mp hop with hold | hlast
    · exact h op hold
    · rw [List.mem_singleton.mp hlast]
      exact hnew

/-- What is added to a ledger that does not compile, with the same stock, does not compile. -/
private theorem outputOf_eq_error (hf : Fractions config.compiler) {ledger : Ledger}
    (h : ¬ ∀ op ∈ ledger.operations, FiniteCounts config.compiler ledger.stock op)
    {analysis : Analysis} (hstock : analysis.stock = ledger.stock) :
    Controller.outputOf config ledger .accumulate analysis = .error .infinityToInteger := by
  rw [outputOf_accumulate, hstock]
  refine output_eq_error (hf.compile_eq_error ?_)
  intro hall
  exact h fun op hop => hall op (List.mem_append_left _ hop)

/-- **A ledger compiles unless its operation was supplied with a program.**  With settings that were
loaded, every compiler with these settings compiles the job of the ledger at every moment, and a
turn that adds an operation to be cut from the same stock fails to compile only through a distance
of its own operation.  There is one case besides: the last committed turn was a replacement that
brought its own program, and a distance of its operation divided by its step is not finite.  Then
all these compilers fail alike, and so does every such addition. -/
theorem ledger_compiles_unless_supplied {tree : Files.Tree} {path : Option Files.Path}
    {config : Config.Assistant} (h : Config.load tree path = .ok config) (stock : Stock Float)
    (deeds : List Deed) :
    let t := after config (.new stock) deeds
    let ledger := t.controller.session.ledger
    ((∀ c : Compiler Float, c.settings = config.compiler → ∀ explanation, ∃ out,
          (c.next ⟨ledger.stock, ledger.operations, explanation⟩).1 = .ok out) ∧
        ∀ analysis : Analysis, analysis.stock = ledger.stock →
          ((∃ out, Controller.outputOf config ledger .accumulate analysis = .ok out) ↔
            ∀ stride ∈ strides config.compiler ledger.stock analysis.operation,
              Scalar.isFinite (stride.span / stride.step) = true)) ∨
      ((∀ c : Compiler Float, c.settings = config.compiler → ∀ explanation,
          (c.next ⟨ledger.stock, ledger.operations, explanation⟩).1 =
            .error .infinityToInteger) ∧
        (∀ analysis : Analysis, analysis.stock = ledger.stock →
          Controller.outputOf config ledger .accumulate analysis = .error .infinityToInteger) ∧
        ∃ analysis program, t.commits.getLast? = some (.replace, analysis) ∧
          analysis.program = some program ∧ program ≠ "" ∧
          ledger.operations = [analysis.operation] ∧ ledger.stock = analysis.stock ∧
          ∃ stride ∈ strides config.compiler analysis.stock analysis.operation,
            Scalar.isFinite (stride.span / stride.step) = false) := by
  intro t ledger
  have hf := fractions_of_accepted (Config.accepted_of_load h)
  -- what the output and the ledger come from, along the whole run
  have hconsistent : t.Consistent config :=
    after_induction config (.new stock) (start_consistent config stock)
      (fun _ h hmove => h.move hmove) deeds
  have hrecorded : t.Recorded stock (openingStock stock deeds) :=
    (start_recorded stock).run config (Or.inl (start_resting _)) deeds
  -- either every count of the ledger is finite, or the job was supplied with its program
  by_cases hfinite : ∀ op ∈ ledger.operations, FiniteCounts config.compiler ledger.stock op
  · refine Or.inl ⟨?_, fun analysis => exists_outputOf_iff hf hfinite⟩
    intro c hsettings explanation
    rw [Compiler.next_fst, hsettings]
    exact exists_output_iff.mpr (hf.compile_eq_ok_iff.mpr hfinite)
  · -- a compiled job has finite counts, so this one was not compiled
    rcases finiteCounts_or_supplied hf hrecorded hconsistent with
      hall | ⟨analysis, ⟨hlast, program, hprogram, hne⟩, hoperations, hstock⟩
    · exact absurd hall hfinite
    refine Or.inr ⟨?_, fun other => outputOf_eq_error hf hfinite,
      analysis, program, hlast, hprogram, hne, hoperations, hstock, ?_⟩
    · intro c hsettings explanation
      rw [Compiler.next_fst, hsettings]
      exact output_eq_error (hf.compile_eq_error hfinite)
    · -- the ledger holds one operation, so its counts are the ones that are not finite
      by_contra hnone
      refine hfinite ?_
      have hop : FiniteCounts config.compiler analysis.stock analysis.operation := by
        intro stride hmem
        by_contra hstride
        exact hnone ⟨stride, hmem, Bool.eq_false_of_not_eq_true hstride⟩
      have hledger : ledger = ⟨[analysis.operation], analysis.stock⟩ := by
        rw [← hoperations, ← hstock]
      rw [hledger]
      exact List.forall_mem_singleton.mpr hop

/-- A replacement by a hole in the smallest of steps, which brings its own program. -/
def fineReplacement : List Deed :=
  [.submit (sampleTurn .replace),
    .resolve 0 (.result ⟨fineHole, sampleStock, "A hole.", some "M30"⟩)]

/-- After it the ledger holds the hole, which was never compiled. -/
private theorem ledger_fineReplacement (config : Assistant) :
    (after config (.new sampleStock) fineReplacement).controller.session.ledger =
      ⟨[fineHole], sampleStock⟩ := rfl

/-- The hole that was supplied with a program is the one case in which a ledger does not compile. -/
theorem ledger_compiles_unless_supplied_of_fineHole :
    ∃ config, Config.load .empty none = .ok config ∧
      ∃ stride ∈ strides config.compiler sampleStock fineHole,
        Scalar.isFinite (stride.span / stride.step) = false := by
  obtain ⟨config, hload, hfails⟩ := exists_load_fineHole
  refine ⟨config, hload, ?_⟩
  rcases ledger_compiles_unless_supplied hload sampleStock fineReplacement with
    ⟨hcompiles, -⟩ | ⟨-, -, analysis, _, -, -, -, hoperations, hstock, hstride⟩
  · obtain ⟨out, hout⟩ := hcompiles (Compiler.fresh config.compiler) rfl ""
    rw [ledger_fineReplacement, Compiler.next_fst] at hout
    -- the hole does not compile, so the job was supplied
    have hfailed : Program.output config.compiler sampleStock [fineHole] "" =
        .error .infinityToInteger := output_eq_error hfails
    exact absurd (hout.symm.trans hfailed) (by simp)
  · rw [ledger_fineReplacement] at hoperations hstock
    have hoperation : fineHole = analysis.operation := List.singleton_inj.mp hoperations
    rw [← hoperation, ← hstock] at hstride
    exact hstride

/-- A hole that was supplied with a program cannot be compiled, and stops the addition of a plain
one. -/
theorem supplied_fine_hole_blocks_additions :
    ∃ config, Config.load .empty none = .ok config ∧
      let ledger := (after config (.new sampleStock) fineReplacement).controller.session.ledger
      ((Compiler.fresh config.compiler).next ⟨ledger.stock, ledger.operations, ""⟩).1 =
          .error .infinityToInteger ∧
        Controller.outputOf config ledger .accumulate (sampleAnalysis 50) =
          .error .infinityToInteger := by
  obtain ⟨config, hload, hfails⟩ := exists_load_fineHole
  have hf := fractions_of_accepted (Config.accepted_of_load hload)
  refine ⟨config, hload, ?_, ?_⟩
  · rw [ledger_fineReplacement, Compiler.next_fst]
    exact output_eq_error hfails
  · refine outputOf_eq_error hf ?_ rfl
    intro hfinite
    obtain ⟨program, hprogram⟩ := hf.compile_eq_ok_iff.mpr hfinite
    exact absurd (hprogram.symm.trans hfails) (by simp)

end Timeline

end Machining.Session
