import Machining.Proofs.Config.Accepted
import Machining.Proofs.Numeric.FloatRange
import Machining.Proofs.Numeric.Reals
import Machining.Proofs.Program.Layout
import Machining.Proofs.Program.Strides

/-!
# Jobs that cannot be compiled

A job that makes no sense is compiled all the same, but one kind of job is not: one that covers a
distance in so many steps that their number, before it is rounded up, is beyond the range of
floating-point numbers.  Over the real numbers there is no such job.

* `exists_compile_real`: every job over the real numbers compiles.
* `compiles_unless_a_count_overflows`: with settings that are loaded, a job compiles exactly when
  the quotients of its distances and steps are finite, and otherwise it fails with an infinity where
  a whole number is needed.
* `fine_hole_has_no_output`: a hole that is drilled in the smallest of steps is such a job.
-/

namespace Machining.Program

open Machining.Numeric Machining.Job

/-! ## Exact arithmetic -/

theorem exists_count_real {stride : Stride ℝ} (h : Scalar.le stride.step Scalar.zero = false) :
    ∃ steps, stride.count = .ok steps := by
  have hne : ¬ Scalar.eq stride.step Scalar.zero = true := by
    intro heq
    have hle : Scalar.le stride.step Scalar.zero = true :=
      decide_eq_true (of_decide_eq_true heq).le
    rw [hle] at h
    cases h
  exact ⟨_, if_neg hne⟩

/-- **Every job over the real numbers compiles.** -/
theorem exists_compile_real (settings : Settings ℝ) (stock : Stock ℝ) (ops : List (Operation ℝ)) :
    ∃ program, compile settings stock ops = .ok program := by
  cases compile_hinges settings stock ops with
  | ok program hprogram _ => exact ⟨program, hprogram⟩
  | error error _ hcount =>
    obtain ⟨stride, hmem, hcount⟩ := hcount
    obtain ⟨op, -, hstride⟩ := List.mem_flatMap.mp hmem
    -- only a step of zero cannot be counted, and none is taken
    obtain ⟨steps, hsteps⟩ := exists_count_real (step_of_mem_strides hstride)
    rw [hsteps] at hcount
    cases hcount

/-! ## Floating-point numbers -/

/-- A distance that is not below zero, in finite steps above zero. -/
structure Stride.Measured (stride : Stride Float) : Prop where
  span : AtLeastZero stride.span
  step : ∃ q, HasValue stride.step q ∧ 0 < q

theorem exists_hasValue_slack : ∃ q, HasValue Toolpath.slack q ∧ 0 ≤ q ∧ q ≤ 1 := by
  have hbinary : Binary64.ofFloat (Toolpath.slack : Float) =
      .finite false 0x112E0BE826D695 (-82) := by rfl
  exact ⟨_, congrArg Binary64.value? hbinary, by norm_num [signed], by norm_num [signed]⟩

/-- The steps of a distance can be counted exactly when the quotient is finite. -/
theorem Stride.Measured.count_cases {stride : Stride Float} (h : stride.Measured) :
    (Scalar.isFinite (stride.span / stride.step) = true ∧ ∃ steps, stride.count = .ok steps) ∨
      (Scalar.isFinite (stride.span / stride.step) = false ∧
        stride.count = .error .infinityToInteger) := by
  obtain ⟨step, hstep, hpos⟩ := h.step
  obtain ⟨slack, hslack, hslack_nonneg, -⟩ := exists_hasValue_slack
  have hquotient := h.span.div hstep hpos
  have hcount : stride.count =
      (Scalar.ceil (stride.span / stride.step - Toolpath.slack)).map fun steps =>
        (max 1 steps).toNat := by
    unfold Stride.count Toolpath.stepCount
    rw [if_neg]
    intro heq
    -- what equals zero is at most zero
    exact absurd ((hstep.le_iff hasValue_zero).mp (le_of_beq heq)) (not_le.mpr hpos)
  rw [hcount]
  cases hfinite : Scalar.isFinite (stride.span / stride.step) with
  | true =>
    obtain ⟨quotient, hvalue⟩ := isFinite_iff.mp hfinite
    -- the slack that is taken away before rounding up is finite as well
    have hless := isFinite_iff.mpr
      (hvalue.sub_of_nonneg hslack (hquotient.nonneg hvalue) hslack_nonneg)
    obtain ⟨steps, hsteps⟩ := exists_ceil_iff.mpr hless
    exact .inl ⟨rfl, _, by rw [hsteps]; rfl⟩
  | false =>
    have hless : Scalar.isFinite (stride.span / stride.step - Toolpath.slack) = false := by
      by_contra htrue
      rw [(isFinite_of_isFinite_sub (Bool.eq_true_of_not_eq_false htrue)).1] at hfinite
      cases hfinite
    exact .inr ⟨rfl, by rw [ceil_eq_error (hquotient.isNumber.sub hslack) hless]; rfl⟩

section Distances

variable {settings : Settings Float} {stock : Stock Float} {op : Operation Float}
  {stride : Stride Float}

/-- What is known of the fractions of settings that were loaded. -/
structure Fractions (settings : Settings Float) : Prop where
  /-- A ring takes no more than the cutter's width. -/
  stepover : ∃ q, HasValue settings.pocketStepover q ∧ |q| ≤ 1
  /-- Nor does a pass over a face. -/
  pass : ∃ q, HasValue (Scalar.ofNat 1 - settings.faceOverlap) q ∧ |q| ≤ 1

/-- A cutter that fits into a finite size is finite. -/
theorem exists_hasValue_of_fits {tool size : Float} (htool : Scalar.isPositive tool = true)
    (hsize : Scalar.isFinite size = true) (hroom : Scalar.lt size tool = false) :
    ∃ q, HasValue tool q := by
  obtain ⟨p, hp⟩ := isFinite_iff.mp hsize
  obtain ⟨_, v, _, hv, _⟩ := (lt_iff_value_lt _ _).mp htool
  have hfits : Scalar.le tool size = true :=
    (le_iff_value_le _ _).mpr ⟨v, _, hv, hp, value_le_of_lt_eq_false hp hv hroom⟩
  obtain ⟨q, hq, -⟩ := hasValue_zero.between hp (le_of_lt_eq_true htool) hfits
  exact ⟨q, hq⟩

private theorem step_measured {step : Float} (hfinite : ∃ q, HasValue step q)
    (h : Scalar.le step Scalar.zero = false) : ∃ q, HasValue step q ∧ 0 < q := by
  obtain ⟨q, hq⟩ := hfinite
  exact ⟨q, hq, Extended.ofRat_lt_ofRat.mp (value_lt_of_le_eq_false hq hasValue_zero h)⟩

private theorem isNumber_half_sub {size tool : Float} (hsize : ∃ p, HasValue size p)
    (htool : ∃ q, HasValue tool q) : IsNumber (Scalar.half size - Scalar.half tool) := by
  obtain ⟨p, hp⟩ := hsize
  obtain ⟨q, hq⟩ := htool
  obtain ⟨r, hr⟩ := hp.half
  obtain ⟨s, hs⟩ := hq.half
  exact hr.isNumber.sub hs

/-- The outline of a stock that makes sense is finite. -/
private theorem footprint_measured (h : stock.isWellFormed = true) :
    (∃ p, HasValue stock.footprint.yMin p) ∧ ∃ q, HasValue stock.footprint.yMax q := by
  unfold Stock.isWellFormed at h
  unfold Stock.footprint
  cases hshape : stock.shape with
  | cylindrical =>
    simp only [hshape, Bool.and_eq_true] at h
    obtain ⟨p, hp⟩ := isFinite_iff.mp h.2.1
    obtain ⟨r, hr⟩ := hp.half
    obtain ⟨s, hs, -⟩ := hr.neg
    exact ⟨⟨s, hs⟩, ⟨r, hr⟩⟩
  | rectangular =>
    simp only [hshape, Bool.and_eq_true] at h
    exact ⟨⟨0, hasValue_zero⟩, isFinite_iff.mp h.2.1.1.2⟩

/-- With fractions in their ranges, every distance is measured. -/
theorem Arises.measured (hf : Fractions settings) (h : Arises settings stock stride op) :
    stride.Measured := by
  cases h with
  | depth hstart hdepth hfinite hspan hstep =>
    obtain ⟨p, hp⟩ := isFinite_iff.mp hstart
    obtain ⟨q, hq⟩ := isFinite_iff.mp hdepth
    exact ⟨(hp.isNumber.sub hq).atLeastZero_of_le hspan,
      step_measured (isFinite_iff.mp hfinite) hstep⟩
  | ring htool hdiameter hroom hspan hstep =>
    -- the cutter is no wider than the pocket, so it is finite too
    obtain ⟨q, hq⟩ := exists_hasValue_of_fits htool hdiameter hroom
    obtain ⟨f, hf, hle⟩ := hf.stepover
    exact ⟨(isNumber_half_sub (isFinite_iff.mp hdiameter) ⟨q, hq⟩).atLeastZero_of_le hspan,
      step_measured (hq.mul_fraction hf hle) hstep⟩
  | @rectangle _ width length htool hsize hroom hspan hstep =>
    obtain ⟨hwidth, hlength⟩ := isFinite_of_isFinite_add hsize
    obtain ⟨q, hq⟩ := exists_hasValue_of_fits htool (Scalar.isFinite_min hwidth hlength) hroom
    obtain ⟨f, hf, hle⟩ := hf.stepover
    refine ⟨IsNumber.atLeastZero_of_lt ?_ hspan, step_measured (hq.mul_fraction hf hle) hstep⟩
    -- the reach is that of the shorter side, and both sides are finite
    exact Scalar.min_rec (P := IsNumber) (isNumber_half_sub (isFinite_iff.mp hwidth) ⟨q, hq⟩)
      (isNumber_half_sub (isFinite_iff.mp hlength) ⟨q, hq⟩)
  | raster hfinite hstock hspan hstep =>
    obtain ⟨⟨p, hp⟩, ⟨q, hq⟩⟩ := footprint_measured hstock
    obtain ⟨t, ht⟩ := isFinite_iff.mp hfinite
    obtain ⟨f, hf, hle⟩ := hf.pass
    have hpq : p < q := Extended.ofRat_lt_ofRat.mp (value_lt_of_le_eq_false hq hp hspan)
    exact ⟨hq.atLeastZero_sub hp hpq.le, step_measured (ht.mul_fraction hf hle) hstep⟩

end Distances

/-- Fractions that pass the comparisons of their ranges are in range. -/
theorem Fractions.of_ranges {settings : Settings Float}
    (hstepover_pos : Scalar.lt Scalar.zero settings.pocketStepover = true)
    (hstepover_le : Scalar.le settings.pocketStepover (Float.ofNat 1) = true)
    (hoverlap_nonneg : Scalar.le Scalar.zero settings.faceOverlap = true)
    (hoverlap_lt : Scalar.lt settings.faceOverlap (Float.ofNat 1) = true) :
    Fractions settings where
  stepover := by
    obtain ⟨q, hq, hlow, hhigh⟩ :=
      hasValue_zero.between hasValue_one (le_of_lt_eq_true hstepover_pos) hstepover_le
    exact ⟨q, hq, (abs_of_nonneg hlow).trans_le hhigh⟩
  pass := by
    obtain ⟨q, hq, hlow, hhigh⟩ :=
      hasValue_zero.between hasValue_one hoverlap_nonneg (le_of_lt_eq_true hoverlap_lt)
    exact hq.one_sub hlow hhigh

/-- Settings that were loaded have their fractions in range. -/
theorem fractions_of_accepted {config : Config.Assistant} (h : Config.Accepted config) :
    Fractions config.compiler :=
  .of_ranges h.stepover_pos h.stepover_le h.overlap_nonneg h.overlap_lt

/-- **A job compiles unless a count overflows.**  With settings that were loaded, a job compiles
when all its distances divided by their steps are finite.  Otherwise it fails, and always in the
same way: an infinity cannot be made a whole number. -/
theorem compiles_unless_a_count_overflows {tree : Files.Tree} {path : Option Files.Path}
    {config : Config.Assistant} (h : Config.load tree path = .ok config) (stock : Stock Float)
    (ops : List (Operation Float)) :
    ((∃ program, compile config.compiler stock ops = .ok program) ∧
        ∀ op ∈ ops, ∀ stride ∈ strides config.compiler stock op,
          Scalar.isFinite (stride.span / stride.step) = true) ∨
      (compile config.compiler stock ops = .error .infinityToInteger ∧
        ∃ op ∈ ops, ∃ stride ∈ strides config.compiler stock op,
          Scalar.isFinite (stride.span / stride.step) = false) := by
  have hmeasured {op : Operation Float} {stride : Stride Float}
      (hstride : stride ∈ strides config.compiler stock op) : stride.Measured :=
    (arises_of_mem_strides hstride).measured (fractions_of_accepted (Config.accepted_of_load h))
  -- compiling hinges on the counts, and a count is there exactly if its quotient is finite
  cases compile_hinges config.compiler stock ops with
  | ok program hprogram hcounts =>
    refine .inl ⟨⟨program, hprogram⟩, fun op hop stride hstride => ?_⟩
    obtain ⟨steps, hsteps⟩ := hcounts stride (List.mem_flatMap.mpr ⟨op, hop, hstride⟩)
    rcases (hmeasured hstride).count_cases with ⟨hfinite, -⟩ | ⟨-, hfails⟩
    · exact hfinite
    · rw [hsteps] at hfails
      cases hfails
  | error error hfailed hcount =>
    obtain ⟨stride, hmem, hcount⟩ := hcount
    obtain ⟨op, hop, hstride⟩ := List.mem_flatMap.mp hmem
    rcases (hmeasured hstride).count_cases with ⟨-, steps, hsteps⟩ | ⟨hinfinite, hfails⟩
    · rw [hsteps] at hcount
      cases hcount
    · obtain rfl := Except.error.inj (hcount.symm.trans hfails)
      exact .inr ⟨hfailed, op, hop, stride, hstride, hinfinite⟩

/-- A hole that is drilled in steps of the least number above zero. -/
def fineHole : Operation Float := { sampleHole 10 20 with stepDown := Float.ofBits 1 }

/-- How a job fails, if it does. -/
private def failure? (config : Config.Assistant) (ops : List (Operation Float)) :
    Option ArithmeticError :=
  match compile config.compiler sampleStock ops with
  | .error error => some error
  | .ok _ => none

/-- With the shipped settings its job fails. -/
theorem exists_load_fineHole :
    ∃ config, Config.load .empty none = .ok config ∧
      compile config.compiler sampleStock [fineHole] = .error .infinityToInteger := by
  -- loading and compiling are run once, and taken apart afterwards
  have hfails : (Config.load .empty none).toOption.map (failure? · [fineHole]) =
      some (some .infinityToInteger) := by decide +kernel
  cases hload : Config.load .empty none with
  | error error =>
    rw [hload] at hfails
    cases hfails
  | ok config =>
    rw [hload] at hfails
    have hfailure : failure? config [fineHole] = some .infinityToInteger :=
      Option.some.inj hfails
    refine ⟨config, rfl, ?_⟩
    unfold failure? at hfailure
    split at hfailure
    · rename_i error hcompile
      rw [hcompile, Option.some.inj hfailure]
    · cases hfailure

/-- With the shipped settings the number of its pecks overflows. -/
theorem compiles_unless_a_count_overflows_of_fineHole :
    ∃ config, Config.load .empty none = .ok config ∧
      ∃ stride ∈ strides config.compiler sampleStock fineHole,
        Scalar.isFinite (stride.span / stride.step) = false := by
  obtain ⟨config, hload, hfails⟩ := exists_load_fineHole
  rcases compiles_unless_a_count_overflows hload sampleStock [fineHole] with
    ⟨⟨program, hprogram⟩, -⟩ | ⟨-, op, hop, stride, hstride, hinfinite⟩
  · rw [hfails] at hprogram
    cases hprogram
  · obtain rfl := List.mem_singleton.mp hop
    exact ⟨config, hload, stride, hstride, hinfinite⟩

/-- With the shipped settings its job has no output. -/
theorem fine_hole_has_no_output :
    ∃ config, Config.load .empty none = .ok config ∧
      output config.compiler sampleStock [fineHole] "" = .error .infinityToInteger := by
  obtain ⟨config, hload, hfails⟩ := exists_load_fineHole
  refine ⟨config, hload, ?_⟩
  unfold output
  rw [hfails]
  rfl

end Machining.Program
