import Mathlib.Analysis.Convex.Segment
import Machining.Proofs.Job.Spacing
import Machining.Proofs.Program.Polyline
import Machining.Proofs.Program.RoundPockets

/-!
# Faces

The top face of a stock is cut in passes along X, to and fro.  Each pass runs from beside the stock
to beside it on the other side, and there the tool steps over to the next.  This module shows, in
exact arithmetic, that the passes leave nothing of the outline uncut.

Passes are counted from zero.  Where one begins along X depends on whether its number is even, and
it is where the one before it ends (`passStart`).  Which move is the `n`-th pass, and where the tool
stands when it begins, is shown by induction on the passes (`madeFrom_pass`, `madeFrom_stepOver`).
-/

namespace Machining.Program

open Machining.Numeric Machining.Job

/-! ## To and fro -/

/-- One of two positions, in turns. -/
def inTurns (near far : ℝ) (n : ℕ) : ℝ := if n % 2 = 0 then near else far

theorem inTurns_succ (near far : ℝ) (n : ℕ) : inTurns near far (n + 1) = inTurns far near n := by
  unfold inTurns
  rcases Nat.mod_two_eq_zero_or_one n with heven | hodd
  · rw [if_neg (by omega), if_pos heven]
  · rw [if_pos (by omega), if_neg (by omega)]

/-- `MadeFrom settings here moves k point step`: of some moves that begin `here`, the `k`-th is
`step`, and the tool is where `point` is printed when it begins. -/
structure MadeFrom (settings : Settings ℝ) (here : Place) (moves : List Move) (k : ℕ)
    (point : Point ℝ) (step : Move) : Prop where
  nth : moves[k]? = some step
  begins : arrive here (moves.take k) = settings.place point

variable {settings : Settings ℝ} {here : Place} {moves : List Move} {k : ℕ} {point : Point ℝ}

theorem MadeFrom.cons {first step : Move}
    (h : MadeFrom settings (first.goesTo here) moves k point step) :
    MadeFrom settings here (first :: moves) (k + 1) point step :=
  ⟨h.nth, h.begins⟩

section Passes

variable (near far : ℝ)

/-- Every step to a pass begins where the pass before it ends. -/
theorem madeFrom_stepOver {first y next : ℝ} {rest : List ℝ} {n : ℕ}
    (hy : (first :: rest)[n]? = some y) (hnext : rest[n]? = some next) :
    MadeFrom settings (settings.place ⟨far, first⟩) (facePasses settings near far rest) (2 * n)
      ⟨inTurns far near n, y⟩ (.cutY (settings.coordinate next)) := by
  induction n generalizing near far first rest with
  | zero =>
    cases rest with
    | nil => cases hnext
    | cons second rest =>
      cases hy
      cases hnext
      exact ⟨rfl, rfl⟩
  | succ n ih =>
    cases rest with
    | nil => cases hnext
    | cons second rest =>
      rw [inTurns_succ]
      -- behind two moves the tool is on the other side, and the sides change their places
      exact (ih far near hy hnext).cons.cons

/-- Every pass begins where the step to it ends. -/
theorem madeFrom_pass {first next : ℝ} {rest : List ℝ} {n : ℕ} (hnext : rest[n]? = some next) :
    MadeFrom settings (settings.place ⟨far, first⟩) (facePasses settings near far rest) (2 * n + 1)
      ⟨inTurns far near n, next⟩ (.cutX (settings.coordinate (inTurns near far n))) := by
  -- again two moves at a time, but the step before the pass is one of them
  induction n generalizing near far first rest with
  | zero =>
    cases rest with
    | nil => cases hnext
    | cons second rest =>
      cases hnext
      exact ⟨rfl, rfl⟩
  | succ n ih =>
    cases rest with
    | nil => cases hnext
    | cons second rest =>
      rw [inTurns_succ, inTurns_succ]
      exact (ih far near hnext).cons.cons

theorem length_facePasses (rest : List ℝ) :
    (facePasses settings near far rest).length = 2 * rest.length := by
  induction rest generalizing near far with
  | nil => rfl
  | cons y rest ih =>
    rw [facePasses, List.length_cons, List.length_cons, List.length_cons, ih]
    ring

theorem level_of_mem_facePasses {rest : List ℝ} {step : Move}
    (h : step ∈ facePasses settings near far rest) :
    (∃ x, step = .cutX x) ∨ ∃ y, step = .cutY y := by
  induction rest generalizing near far with
  | nil => cases h
  | cons y rest ih =>
    rcases List.mem_cons.mp h with rfl | h
    · exact Or.inr ⟨_, rfl⟩
    · rcases List.mem_cons.mp h with rfl | h
      · exact Or.inl ⟨_, rfl⟩
      · exact ih far near h

end Passes

/-! ## The moves of a face -/

/-- The position along X where the `n`-th pass begins and the one before it ends: half of the cutter
beside the stock, on the side of least X for an even number. -/
noncomputable def passStart (stock : Stock ℝ) (op : Operation ℝ) (n : ℕ) : ℝ :=
  inTurns (stock.footprint.xMin - Scalar.half op.toolDiameter)
    (stock.footprint.xMax + Scalar.half op.toolDiameter) n

theorem passStart_succ (stock : Stock ℝ) (op : Operation ℝ) (n : ℕ) :
    passStart stock op (n + 1) =
      inTurns (stock.footprint.xMax + Scalar.half op.toolDiameter)
        (stock.footprint.xMin - Scalar.half op.toolDiameter) n :=
  inTurns_succ _ _ n

/-- The moves behind the plunge: the passes with the steps between them. -/
noncomputable def faceCuts (settings : Settings ℝ) (stock : Stock ℝ) (op : Operation ℝ)
    (rest : List ℝ) : List Move :=
  .cutX (settings.coordinate (passStart stock op 1)) ::
    facePasses settings (passStart stock op 0) (passStart stock op 1) rest

variable {stock : Stock ℝ} {op : Operation ℝ} {first y next : ℝ} {rest : List ℝ} {n : ℕ}

theorem faceMillPlan_eq_ok
    (hpasses : Toolpath.rasterOffsets stock.footprint.yMin stock.footprint.yMax
      (op.toolDiameter * (1 - settings.faceOverlap)) = .ok (first :: rest)) :
    faceMillPlan settings stock op =
      .ok (.rapidTo (settings.place ⟨passStart stock op 0, first⟩) ::
        .cutZ (settings.coordinate op.zDepth) :: faceCuts settings stock op rest) := by
  rw [faceMillPlan, ofNat_real, Nat.cast_one, hpasses]
  rfl

theorem length_faceCuts (settings : Settings ℝ) (stock : Stock ℝ) (op : Operation ℝ) (first : ℝ)
    (rest : List ℝ) :
    (faceCuts settings stock op rest).length + 1 = 2 * (first :: rest).length := by
  rw [faceCuts, List.length_cons, List.length_cons, length_facePasses]
  ring

theorem level_of_mem_faceCuts {step : Move} (h : step ∈ faceCuts settings stock op rest) :
    (∃ x, step = .cutX x) ∨ ∃ y, step = .cutY y := by
  rcases List.mem_cons.mp h with rfl | hrest
  · exact Or.inl ⟨_, rfl⟩
  · exact level_of_mem_facePasses _ _ hrest

theorem madeFrom_faceCuts_pass (hy : (first :: rest)[n]? = some y) :
    MadeFrom settings (settings.place ⟨passStart stock op 0, first⟩)
      (faceCuts settings stock op rest) (2 * n) ⟨passStart stock op n, y⟩
      (.cutX (settings.coordinate (passStart stock op (n + 1)))) := by
  cases n with
  | zero =>
    cases hy
    exact ⟨rfl, rfl⟩
  | succ n =>
    rw [passStart_succ, passStart_succ, inTurns_succ]
    rw [List.getElem?_cons_succ] at hy
    exact (madeFrom_pass _ _ hy).cons

theorem madeFrom_faceCuts_stepOver (hy : (first :: rest)[n]? = some y)
    (hnext : rest[n]? = some next) :
    MadeFrom settings (settings.place ⟨passStart stock op 0, first⟩)
      (faceCuts settings stock op rest) (2 * n + 1) ⟨passStart stock op (n + 1), y⟩
      (.cutY (settings.coordinate next)) := by
  rw [passStart_succ]
  exact (madeFrom_stepOver _ _ hy hnext).cons

/-- A stock that is well-formed has an outline with some length. -/
theorem yMin_lt_yMax_of_isWellFormed (h : stock.isWellFormed = true) :
    stock.footprint.yMin < stock.footprint.yMax := by
  -- the outline of a round stock is the square about it
  unfold Stock.isWellFormed at h
  unfold Stock.footprint
  cases hshape : stock.shape with
  | rectangular =>
    rw [hshape] at h
    simp only [Bool.and_eq_true, isPositive_real_iff] at h
    change Scalar.zero < stock.length
    rw [zero_real]
    exact h.2.2
  | cylindrical =>
    rw [hshape] at h
    simp only [Bool.and_eq_true, isPositive_real_iff] at h
    change -Scalar.half stock.diameter < Scalar.half stock.diameter
    rw [half_real]
    linarith [h.2.2]

/-- What the face of a stock that is not skipped was checked for. -/
theorem outline_of_skipReason? (hfeature : op.feature = .faceMill)
    (hskip : skipReason? stock op = none) :
    0 < op.toolDiameter ∧ stock.footprint.yMin < stock.footprint.yMax := by
  obtain ⟨-, htool, hstock⟩ := (passed_of_skipReason? hskip).faceMill hfeature
  exact ⟨(isPositive_real_iff _).mp htool, yMin_lt_yMax_of_isWellFormed hstock⟩

/-- Passes begin and end beside the stock. -/
theorem passStart_outside (stock : Stock ℝ) (htool : 0 < op.toolDiameter) (n : ℕ) :
    passStart stock op n < stock.footprint.xMin ∨ stock.footprint.xMax < passStart stock op n := by
  rw [passStart, inTurns, half_real]
  split
  · left
    linarith
  · right
    linarith

/-- The way of a pass leads over the whole width of the stock. -/
theorem mem_pass (htool : 0 < op.toolDiameter) {x : ℝ}
    (hx : x ∈ Set.Icc stock.footprint.xMin stock.footprint.xMax) (n : ℕ) (y : ℝ) :
    (⟨x, y⟩ : ℂ) ∈
      segment ℝ (⟨passStart stock op n, y⟩ : ℂ) ⟨passStart stock op (n + 1), y⟩ := by
  have hbeside : x ∈ Set.Icc (stock.footprint.xMin - Scalar.half op.toolDiameter)
      (stock.footprint.xMax + Scalar.half op.toolDiameter) := by
    rw [half_real]
    constructor <;> linarith [hx.1, hx.2]
  rw [passStart, passStart_succ, inTurns, inTurns]
  -- to one side or to the other
  split
  · exact mem_segment_re hbeside
  · rw [segment_symm]
    exact mem_segment_re hbeside

/-! ## Faces in a program -/

/-- What is shown of the block of a face.  The passes are at the positions `passes` along Y, and
`cuts` are the moves behind the plunge. -/
structure FacesStock (settings : Settings ℝ) (stock : Stock ℝ) (op : Operation ℝ)
    (passes : List ℝ) (cuts : List Move) (body : List Line) : Prop where
  /-- The passes are a stepover apart. -/
  passes_eq : Toolpath.rasterOffsets stock.footprint.yMin stock.footprint.yMax
    (op.toolDiameter * (1 - settings.faceOverlap)) = .ok passes
  /-- The first pass is on the edge of least Y. -/
  first : passes.head? = some stock.footprint.yMin
  /-- The last pass is on the edge of greatest Y. -/
  last : passes.getLast? = some stock.footprint.yMax
  /-- The tool plunges to the depth of the cut where the first pass begins. -/
  moves : ∃ z, steps body =
    [.rapidZ z, .rapidTo (settings.place ⟨passStart stock op 0, stock.footprint.yMin⟩),
      .cutZ (settings.coordinate op.zDepth)] ++ cuts ++ [.rapidZ z]
  /-- From there on it stays at this depth. -/
  level : ∀ step ∈ cuts, (∃ x, step = .cutX x) ∨ ∃ y, step = .cutY y
  /-- There are no moves but the passes and the steps between them. -/
  length_cuts : cuts.length + 1 = 2 * passes.length
  /-- A pass goes all the way to the other side. -/
  pass : ∀ n y, passes[n]? = some y →
    MadeFrom settings (settings.place ⟨passStart stock op 0, stock.footprint.yMin⟩) cuts (2 * n)
      ⟨passStart stock op n, y⟩ (.cutX (settings.coordinate (passStart stock op (n + 1))))
  /-- On that side the tool steps over to the next pass. -/
  stepOver : ∀ n y next, passes[n]? = some y → passes[n + 1]? = some next →
    MadeFrom settings (settings.place ⟨passStart stock op 0, stock.footprint.yMin⟩) cuts (2 * n + 1)
      ⟨passStart stock op (n + 1), y⟩ (.cutY (settings.coordinate next))
  /-- Both sides are beside the stock. -/
  outside : ∀ n, passStart stock op n < stock.footprint.xMin ∨
    stock.footprint.xMax < passStart stock op n
  /-- No point of the outline is further from a pass than half of the cutter. -/
  cleared : ∀ p : ℂ, p.re ∈ Set.Icc stock.footprint.xMin stock.footprint.xMax →
    p.im ∈ Set.Icc stock.footprint.yMin stock.footprint.yMax →
      ∃ n y, passes[n]? = some y ∧
        ∃ q ∈ segment ℝ (⟨passStart stock op n, y⟩ : ℂ) ⟨passStart stock op (n + 1), y⟩,
          ‖p - q‖ ≤ op.toolDiameter / 2 * (1 + 1 / 10 ^ 9)

/-- **Faces are milled without gaps.** -/
theorem faces_are_milled_without_gaps (settings : Settings ℝ) (stock : Stock ℝ)
    {ops : List (Operation ℝ)} {i : ℕ} {op : Operation ℝ} (hop : ops[i]? = some op)
    (hfeature : op.feature = .faceMill) (hskip : skipReason? stock op = none)
    (hlow : 0 ≤ settings.faceOverlap) (hhigh : settings.faceOverlap < 1) :
    ∃ program bodies foot body passes cuts, compile settings stock ops = .ok program ∧
      Divided settings stock ops program bodies foot ∧ bodies[i]? = some body ∧
      FacesStock settings stock op passes cuts body := by
  obtain ⟨htool, houtline⟩ := outline_of_skipReason? hfeature hskip
  have hstep : 0 < op.toolDiameter * (1 - settings.faceOverlap) :=
    mul_pos htool (sub_pos.mpr hhigh)
  have hstepover : op.toolDiameter * (1 - settings.faceOverlap) ≤ op.toolDiameter :=
    mul_le_of_le_one_right htool.le (sub_le_self 1 hlow)
  -- there is a first pass, so the plan is a list of moves
  obtain ⟨passes, hpasses, hcovers⟩ := Toolpath.exists_rasterOffsets houtline hstep
  obtain ⟨rest, rfl⟩ : ∃ rest, passes = stock.footprint.yMin :: rest :=
    List.head?_eq_some_iff.mp hcovers.first
  have hplan : plan settings stock op (safeZ settings stock op) =
      .ok (.rapidTo (settings.place ⟨passStart stock op 0, stock.footprint.yMin⟩) ::
        .cutZ (settings.coordinate op.zDepth) :: faceCuts settings stock op rest) := by
    rw [plan, hfeature]
    exact faceMillPlan_eq_ok hpasses
  obtain ⟨program, bodies, foot, body, z, hcompile, hdivided, hbody, hsteps⟩ :=
    exists_steps_of_plan hop (kind_ne_unknown hfeature OperationKind.noConfusion) hskip hplan
  refine ⟨program, bodies, foot, body, stock.footprint.yMin :: rest,
    faceCuts settings stock op rest, hcompile, hdivided, hbody, ?_⟩
  constructor
  case passes_eq => exact hpasses
  case first => exact hcovers.first
  case last => exact hcovers.last
  case moves => exact ⟨z, hsteps⟩
  case level => exact fun _ => level_of_mem_faceCuts
  case length_cuts => exact length_faceCuts settings stock op _ rest
  case pass => exact fun _ _ => madeFrom_faceCuts_pass
  case stepOver => exact fun _ _ _ => madeFrom_faceCuts_stepOver
  case outside => exact passStart_outside stock htool
  case cleared =>
    intro p hre him
    -- the passes are a stepover apart, which is no wider than the cutter
    obtain ⟨y, hy, hnear⟩ := hcovers.near p.im him.1 him.2
    obtain ⟨n, hn⟩ := List.mem_iff_getElem?.mp hy
    -- straight along Y to the pass
    refine ⟨n, y, hn, ⟨p.re, y⟩, mem_pass htool hre n y, ?_⟩
    rw [norm_sub_along_im]
    refine hnear.trans ?_
    rw [mul_div_right_comm]
    gcongr

/-! ## A sample face -/

/-- A cut over a whole face with a wide cutter. -/
noncomputable def sampleFace : Operation ℝ :=
  ⟨Scalar.ofNat 50, Scalar.ofNat 30, Scalar.ofNat 20, Scalar.ofNat 12, Scalar.ofNat 200,
    Scalar.ofNat 1500, Scalar.ofNat 20, .faceMill, Scalar.zero, .faceMill⟩

private theorem skipReason?_sampleFace : skipReason? exactStock sampleFace = none := by
  norm_num [skipReason?, featureSkipReason?, isUsable, Scalar.isPositive, sampleFace, exactStock,
    Operation.isWellFormed, Stock.isWellFormed, isFinite_real, lt_real, zero_real, ofNat_real]

/-- Four steps of fourteen lead up to the last pass, which is four further on. -/
private theorem rasterOffsets_sampleFace :
    Toolpath.rasterOffsets (0 : ℝ) 60 14 = .ok [0, 14, 28, 42, 56, 60] := by
  have hceil : ⌈(60 - 0 : ℝ) / 14 - 1 / 10 ^ 9⌉₊ = 5 := by
    rw [Nat.ceil_eq_iff (by norm_num)]
    norm_num
  have hcount : Toolpath.stepCount (60 - 0 : ℝ) 14 = .ok 5 := by
    rw [Toolpath.stepCount_real (60 - 0) (by norm_num), hceil]
    rfl
  rw [Toolpath.rasterOffsets_eq_ok (by norm_num) (by norm_num) hcount]
  norm_num [Toolpath.positions, List.range_succ]

/-- The face of the sample stock is milled in six passes. -/
theorem faces_are_milled_without_gaps_of_sampleFace :
    skipReason? exactStock sampleFace = none ∧ 0 ≤ exactSettings.faceOverlap ∧
      exactSettings.faceOverlap < 1 ∧
      ∃ program bodies foot body cuts,
        compile exactSettings exactStock [sampleFace] = .ok program ∧
          Divided exactSettings exactStock [sampleFace] program bodies foot ∧
          bodies[0]? = some body ∧
          FacesStock exactSettings exactStock sampleFace [0, 14, 28, 42, 56, 60] cuts body := by
  have hoverlap : 0 ≤ exactSettings.faceOverlap ∧ exactSettings.faceOverlap < 1 := by
    norm_num [exactSettings]
  have hnth : [sampleFace][0]? = some sampleFace := rfl
  obtain ⟨program, bodies, foot, body, passes, cuts, hcompile, hdivided, hbody, hfaces⟩ :=
    faces_are_milled_without_gaps exactSettings exactStock hnth rfl skipReason?_sampleFace
      hoverlap.1 hoverlap.2
  have hstep : sampleFace.toolDiameter * (1 - exactSettings.faceOverlap) = 14 := by
    norm_num [sampleFace, exactSettings, ofNat_real]
  -- the passes can only be those of the sample
  have hlow : exactStock.footprint.yMin = 0 := zero_real
  have hhigh : exactStock.footprint.yMax = 60 := rfl
  have hpasses := hfaces.passes_eq
  rw [hlow, hhigh, hstep, rasterOffsets_sampleFace] at hpasses
  cases hpasses
  exact ⟨skipReason?_sampleFace, hoverlap.1, hoverlap.2, program, bodies, foot, body, cuts,
    hcompile, hdivided, hbody, hfaces⟩

end Machining.Program
