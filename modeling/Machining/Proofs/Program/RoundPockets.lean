import Machining.Proofs.Job.Spacing
import Machining.Proofs.Program.Overflow
import Machining.Proofs.Program.Path

/-!
# Round pockets

A round pocket is cut in rings about its centre.  The greatest ring leaves room for half of the
cutter up to the wall, and this module shows, in exact arithmetic, what becomes of that on paper:

* the tool stays inside the pocket, but for two units of the last decimal place.  The point where a
  circle begins and the way from there to its centre are rounded one by one, so a printed circle
  lies a little off the one that was meant;
* the rings leave nothing standing: no point of the pocket is further from the path of the tool than
  half of its diameter, but for a billionth.

`round_pockets_are_cleared_from_inside` says it of every block of a program.
-/

namespace Machining.Program

open Machining.Numeric Machining.Job

/-! ## Rings -/

/-- Where a ring begins: beside the centre, on the side of larger X. -/
noncomputable def ringStart (op : Operation ℝ) (radius : ℝ) : Point ℝ := ⟨op.x + radius, op.y⟩

/-- The way from where a ring begins to its centre. -/
noncomputable def ringOffset (radius : ℝ) : Point ℝ := ⟨-radius, Scalar.zero⟩

/-- The full circle of a ring, counter-clockwise from where the ring begins. -/
noncomputable def fullCircle (settings : Settings ℝ) (op : Operation ℝ) (radius : ℝ) : Move :=
  .cutArc false (settings.place (ringStart op radius)) (settings.coordinate (ringOffset radius).x)
    (settings.coordinate (ringOffset radius).y)

variable {settings : Settings ℝ} {stock : Stock ℝ} {op : Operation ℝ} {limit radius : ℝ}
  {radii : List ℝ}

theorem ring_eq (settings : Settings ℝ) (op : Operation ℝ) (radius : ℝ) :
    ring settings op radius =
      [.cutTo (settings.place (ringStart op radius)), fullCircle settings op radius] :=
  rfl

/-- Before anything is rounded, a ring lies about the centre of the pocket. -/
theorem ringStart_add_ringOffset (op : Operation ℝ) (radius : ℝ) :
    (ringStart op radius).toComplex + (ringOffset radius).toComplex = op.origin.toComplex := by
  apply Complex.ext
  · exact add_neg_cancel_right op.x radius
  · change op.y + Scalar.zero = op.y
    rw [zero_real, add_zero]

theorem norm_ringOffset (hradius : 0 ≤ radius) : ‖(ringOffset radius).toComplex‖ = radius := by
  have hreal : (ringOffset radius).toComplex = ((-radius : ℝ) : ℂ) :=
    Complex.ext rfl zero_real
  rw [hreal, Complex.norm_real, norm_neg, Real.norm_of_nonneg hradius]

/-- The way to the centre has no part along Y, so printing moves it by half a unit only. -/
theorem norm_printed_ringOffset_sub_le (settings : Settings ℝ) (radius : ℝ) :
    ‖settings.printedPoint (ringOffset radius) - (ringOffset radius).toComplex‖ ≤
      1 / 10 ^ settings.coordinatePlaces / 2 := by
  have hreal : settings.printedPoint (ringOffset radius) - (ringOffset radius).toComplex =
      ((printed settings.coordinatePlaces (-radius) - -radius : ℝ) : ℂ) := by
    apply Complex.ext
    · rfl
    · change printed settings.coordinatePlaces Scalar.zero - Scalar.zero = 0
      rw [zero_real, printed_zero, sub_zero]
  rw [hreal, Complex.norm_real, Real.norm_eq_abs]
  exact abs_printed_sub_le _ _

/-! ## How far from the centre the tool gets -/

private theorem two_div_unit (places : ℕ) :
    (2 : ℝ) / 10 ^ places = 2 * (1 / 10 ^ places) :=
  (mul_one_div 2 _).symm

/-- A point that was meant to be in reach is printed within two units of that. -/
theorem norm_printedPoint_sub_origin_le {point : Point ℝ}
    (h : ‖point.toComplex - op.origin.toComplex‖ ≤ limit) :
    ‖settings.printedPoint point - op.origin.toComplex‖ ≤
      limit + 2 / 10 ^ settings.coordinatePlaces := by
  have hunit : (0 : ℝ) < 1 / 10 ^ settings.coordinatePlaces := by positivity
  calc ‖settings.printedPoint point - op.origin.toComplex‖
      ≤ ‖settings.printedPoint point - point.toComplex‖ +
          ‖point.toComplex - op.origin.toComplex‖ := norm_sub_le_norm_sub_add_norm_sub _ _ _
    _ ≤ 1 / 10 ^ settings.coordinatePlaces + limit :=
        add_le_add (norm_printedPoint_sub_le settings point) h
    _ ≤ limit + 2 / 10 ^ settings.coordinatePlaces := by
        rw [two_div_unit]
        linarith

theorem norm_ringStart_sub (hradius : 0 ≤ radius) :
    ‖(ringStart op radius).toComplex - op.origin.toComplex‖ = radius := by
  rw [← ringStart_add_ringOffset op radius, sub_add_cancel_left, norm_neg,
    norm_ringOffset hradius]

theorem circle?_fullCircle (settings : Settings ℝ) (op : Operation ℝ) (radius : ℝ) :
    (fullCircle settings op radius).circle? (settings.place (ringStart op radius)) =
      some (Metric.sphere
        (settings.printedPoint (ringStart op radius) + settings.printedPoint (ringOffset radius))
        ‖settings.printedPoint (ringOffset radius)‖) := by
  have hoffset := point?_place settings (ringOffset radius)
  rw [Settings.place] at hoffset
  simp only [fullCircle, Move.circle?, point?_place, hoffset]

/-- **A printed circle stays within two units of its ring.** -/
theorem norm_sub_origin_le_of_mem_sphere (hradius : radius ∈ Set.Icc 0 limit) {p : ℂ}
    (hp : p ∈ Metric.sphere
      (settings.printedPoint (ringStart op radius) + settings.printedPoint (ringOffset radius))
      ‖settings.printedPoint (ringOffset radius)‖) :
    ‖p - op.origin.toComplex‖ ≤ limit + 2 / 10 ^ settings.coordinatePlaces := by
  rw [mem_sphere_iff_norm] at hp
  generalize hs : settings.printedPoint (ringStart op radius) = start at hp
  generalize ho : settings.printedPoint (ringOffset radius) = offset at hp
  have hstart : ‖start - (ringStart op radius).toComplex‖ ≤ 1 / 10 ^ settings.coordinatePlaces := by
    rw [← hs]
    exact norm_printedPoint_sub_le settings _
  have hoffset : ‖offset - (ringOffset radius).toComplex‖ ≤
      1 / 10 ^ settings.coordinatePlaces / 2 := by
    rw [← ho]
    exact norm_printed_ringOffset_sub_le settings radius
  -- the printed radius is half a unit too long at most
  have hlength : ‖offset‖ ≤ radius + 1 / 10 ^ settings.coordinatePlaces / 2 := by
    have := norm_le_norm_add_norm_sub' offset (ringOffset radius).toComplex
    rw [norm_ringOffset hradius.1] at this
    linarith
  -- and the printed centre is off by what the two roundings make together
  have hcenter : ‖start + offset - op.origin.toComplex‖ ≤
      1 / 10 ^ settings.coordinatePlaces + 1 / 10 ^ settings.coordinatePlaces / 2 := by
    rw [← ringStart_add_ringOffset op radius, add_sub_add_comm]
    exact (norm_add_le _ _).trans (add_le_add hstart hoffset)
  calc ‖p - op.origin.toComplex‖
      ≤ ‖p - (start + offset)‖ + ‖start + offset - op.origin.toComplex‖ :=
        norm_sub_le_norm_sub_add_norm_sub _ _ _
    _ ≤ limit + 2 / 10 ^ settings.coordinatePlaces := by
        rw [hp, two_div_unit]
        linarith [hradius.2]

/-! ## The moves of a pocket -/

/-- What is shown of a move in a round pocket that begins at `here`. -/
structure CutsInside (settings : Settings ℝ) (op : Operation ℝ) (limit : ℝ) (radii : List ℝ)
    (here : Place) (step : Move) : Prop where
  /-- A move in the plane leads to a point that is at most two units of the last decimal place
  further from the centre than the greatest ring. -/
  point : step.isPlanar = true → ∃ p, (step.goesTo here).point? = some p ∧
    ‖p - op.origin.toComplex‖ ≤ limit + 2 / 10 ^ settings.coordinatePlaces
  /-- An arc is the full circle of a ring: it leads from where the ring begins back to there, and
  its centre was meant to be that of the pocket. -/
  arc : step.isArc = true → ∃ radius ∈ radii, step = fullCircle settings op radius ∧
    here = settings.place (ringStart op radius) ∧ step.goesTo here = here ∧
      (ringStart op radius).toComplex + (ringOffset radius).toComplex = op.origin.toComplex
  /-- So is every point of the circle that an arc runs on. -/
  circle : step.isArc = true → ∃ points, step.circle? here = some points ∧
    ∀ p ∈ points, ‖p - op.origin.toComplex‖ ≤ limit + 2 / 10 ^ settings.coordinatePlaces
  /-- A plunge happens at the centre. -/
  plunge : step.isPlunge = true → here = settings.place op.origin

/-- A move to a printed point that was meant to be in reach. -/
theorem CutsInside.of_point {here : Place} {step : Move} (point : Point ℝ)
    (harc : step.isArc = false) (hplunge : step.isPlunge = false)
    (hgoes : step.goesTo here = settings.place point)
    (hpoint : ‖point.toComplex - op.origin.toComplex‖ ≤ limit) :
    CutsInside settings op limit radii here step := by
  constructor
  case point =>
    intro _
    rw [hgoes, point?_place]
    exact ⟨_, rfl, norm_printedPoint_sub_origin_le hpoint⟩
  case arc => exact fun h => absurd (harc.symm.trans h) Bool.false_ne_true
  case circle => exact fun h => absurd (harc.symm.trans h) Bool.false_ne_true
  case plunge => exact fun h => absurd (hplunge.symm.trans h) Bool.false_ne_true

/-- A move along Z, at the centre if it is a plunge. -/
theorem CutsInside.of_vertical {here : Place} {step : Move} (hplanar : step.isPlanar = false)
    (harc : step.isArc = false) (hplunge : step.isPlunge = true → here = settings.place op.origin) :
    CutsInside settings op limit radii here step := by
  constructor
  case point => exact fun h => absurd (hplanar.symm.trans h) Bool.false_ne_true
  case arc => exact fun h => absurd (harc.symm.trans h) Bool.false_ne_true
  case circle => exact fun h => absurd (harc.symm.trans h) Bool.false_ne_true
  case plunge => exact hplunge

theorem CutsInside.of_fullCircle (hmem : radius ∈ radii) (hradius : radius ∈ Set.Icc 0 limit) :
    CutsInside settings op limit radii (settings.place (ringStart op radius))
      (fullCircle settings op radius) := by
  constructor
  case point =>
    intro _
    -- the circle begins and ends on the ring
    change ∃ p, (settings.place (ringStart op radius)).point? = some p ∧ _
    rw [point?_place]
    refine ⟨_, rfl, norm_printedPoint_sub_origin_le ?_⟩
    rw [norm_ringStart_sub hradius.1]
    exact hradius.2
  case arc =>
    intro _
    exact ⟨radius, hmem, rfl, rfl, rfl, ringStart_add_ringOffset op radius⟩
  case circle =>
    intro _
    exact ⟨_, circle?_fullCircle settings op radius,
      fun _ => norm_sub_origin_le_of_mem_sphere hradius⟩
  case plunge => exact fun h => nomatch h

/-- The rings, from wherever the tool comes. -/
theorem along_rings (settings : Settings ℝ) (op : Operation ℝ)
    (hradii : ∀ radius ∈ radii, radius ∈ Set.Icc 0 limit) (here : Place) (part : List ℝ)
    (hpart : ∀ radius ∈ part, radius ∈ radii) :
    Along (CutsInside settings op limit radii) here (part.flatMap (ring settings op)) := by
  induction part generalizing here with
  | nil => exact along_nil
  | cons radius rest ih =>
    have hmem := hpart radius List.mem_cons_self
    have hradius := hradii radius hmem
    rw [List.flatMap_cons, along_append]
    -- to the ring, around it, and on with the next one
    refine ⟨⟨?_, ?_, along_nil⟩, ?_⟩
    · refine .of_point (ringStart op radius) rfl rfl rfl ?_
      rw [norm_ringStart_sub hradius.1]
      exact hradius.2
    · exact .of_fullCircle hmem hradius
    · exact ih _ fun other hother => hpart other (List.mem_cons_of_mem radius hother)

/-- The moves of one layer behind the plunge: the rings, and the way back where there is one. -/
noncomputable def pocketRound (settings : Settings ℝ) (op : Operation ℝ) (radii : List ℝ) :
    List Move :=
  radii.flatMap (ring settings op) ++
    if radii.isEmpty then [] else [.cutTo (settings.place op.origin)]

theorem circularPocketPlan_eq_ok {diameter : ℝ} {layers : List ℝ}
    (hradii : Toolpath.ringRadii (diameter / 2 - op.toolDiameter / 2)
      (op.toolDiameter * settings.pocketStepover) = .ok radii)
    (hlayers : Toolpath.depthLayers op.zStart op.zDepth op.stepDown = .ok layers) :
    circularPocketPlan settings op diameter =
      .ok (.rapidTo (settings.place op.origin) ::
        layers.flatMap fun z =>
          .cutZ (settings.coordinate z) :: pocketRound settings op radii) := by
  rw [circularPocketPlan, half_real, half_real, hradii, hlayers]
  rfl

/-- A layer stays inside, and it leads from the centre back to it. -/
theorem along_layer (settings : Settings ℝ) (op : Operation ℝ) (hlimit : 0 ≤ limit)
    (hradii : ∀ radius ∈ radii, radius ∈ Set.Icc 0 limit) (z : Fixed) :
    Along (CutsInside settings op limit radii) (settings.place op.origin)
        (.cutZ z :: pocketRound settings op radii) ∧
      arrive (settings.place op.origin) (.cutZ z :: pocketRound settings op radii) =
        settings.place op.origin := by
  have hplunge : CutsInside settings op limit radii (settings.place op.origin) (.cutZ z) :=
    .of_vertical rfl rfl fun _ => rfl
  have hrings := along_rings settings op hradii (settings.place op.origin) radii fun _ h => h
  -- without rings the tool only plunges; else it comes back to the middle behind them
  cases radii with
  | nil => exact ⟨⟨hplunge, along_nil⟩, rfl⟩
  | cons first rest =>
    have hback (here : Place) :
        CutsInside settings op limit (first :: rest) here (.cutTo (settings.place op.origin)) := by
      refine .of_point op.origin rfl rfl rfl ?_
      rw [sub_self, norm_zero]
      exact hlimit
    constructor
    · exact ⟨hplunge, along_append.mpr ⟨hrings, hback _, along_nil⟩⟩
    · change arrive _ (_ ++ [_]) = _
      rw [arrive_append]
      rfl

/-- The moves of the whole block stay inside, wherever the tool comes from. -/
theorem along_pocket (hlimit : 0 ≤ limit) (hradii : ∀ radius ∈ radii, radius ∈ Set.Icc 0 limit)
    (here : Place) (z : Fixed) (layers : List ℝ) :
    Along (CutsInside settings op limit radii) here
      (.rapidZ z :: (.rapidTo (settings.place op.origin) ::
        (layers.flatMap fun z => .cutZ (settings.coordinate z) :: pocketRound settings op radii) ++
          [.rapidZ z])) := by
  have hrise (here : Place) : CutsInside settings op limit radii here (.rapidZ z) :=
    .of_vertical rfl rfl fun h => nomatch h
  refine ⟨hrise here, ?_, ?_⟩
  · refine .of_point op.origin rfl rfl rfl ?_
    rw [sub_self, norm_zero]
    exact hlimit
  · -- every layer begins at the centre, since the one before leads back to it
    obtain ⟨hlayers, -⟩ := along_flatMap layers fun z _ =>
      along_layer settings op hlimit hradii (settings.coordinate z)
    exact along_append.mpr ⟨hlayers, hrise _, along_nil⟩

/-! ## Pockets in a program -/

/-- What is shown of the block of a round pocket. -/
structure ClearsPocket (settings : Settings ℝ) (op : Operation ℝ) (diameter : ℝ)
    (radii layers : List ℝ) (body : List Line) : Prop where
  /-- The radii are those of the rings out to half of the cutter from the wall. -/
  radii_eq : Toolpath.ringRadii (diameter / 2 - op.toolDiameter / 2)
    (op.toolDiameter * settings.pocketStepover) = .ok radii
  /-- The layers are the depths of the passes. -/
  layers_eq : Toolpath.depthLayers op.zStart op.zDepth op.stepDown = .ok layers
  /-- Every move stays inside, wherever the tool comes from. -/
  inside : ∀ here, Along
    (CutsInside settings op (diameter / 2 - op.toolDiameter / 2) radii) here (steps body)
  /-- The tool plunges to every layer. -/
  plunges : (steps body).filter Move.isPlunge = layers.map fun z => .cutZ (settings.coordinate z)
  /-- On every layer it cuts the circles of all rings, from the inside out. -/
  circles : (passes (steps body)).map (List.filter Move.isArc) =
    layers.map fun _ => radii.map (fullCircle settings op)
  /-- No point of the pocket is further from the centre and all rings than half of the cutter. -/
  cleared : ∀ rho, 0 ≤ rho → rho ≤ diameter / 2 →
    ∃ radius ∈ 0 :: radii, |rho - radius| ≤ op.toolDiameter / 2 * (1 + 1 / 10 ^ 9)
  /-- The last ring leaves half of the cutter up to the wall. -/
  last : 0 < diameter / 2 - op.toolDiameter / 2 →
    radii.getLast? = some (diameter / 2 - op.toolDiameter / 2)

/-- The rings and the cutter together reach every point of the pocket. -/
theorem exists_near_of_clearsDisc {tool stepover : ℝ} (hstepover : stepover ≤ tool)
    (htool : 0 < tool) (hlimit : 0 ≤ limit) (hclears : Toolpath.ClearsDisc limit stepover radii)
    {rho : ℝ} (hlow : 0 ≤ rho) (hhigh : rho ≤ limit + tool / 2) :
    ∃ radius ∈ 0 :: radii, |rho - radius| ≤ tool / 2 * (1 + 1 / 10 ^ 9) := by
  rcases le_total rho limit with hinside | hwall
  · obtain ⟨radius, hmem, hnear⟩ := hclears.near rho hlow hinside
    refine ⟨radius, hmem, hnear.trans ?_⟩
    rw [mul_div_right_comm]
    gcongr
  · -- what is left up to the wall is within reach of the greatest ring
    have hreach : |rho - limit| ≤ tool / 2 * (1 + 1 / 10 ^ 9) := by
      rw [abs_of_nonneg (by linarith)]
      have : 0 < tool / 2 * (1 / 10 ^ 9) := by positivity
      linarith
    rcases hlimit.eq_or_lt with rfl | hpos
    · exact ⟨0, List.mem_cons_self, hreach⟩
    · have hmem := List.mem_of_getLast? (hclears.last hpos)
      exact ⟨limit, List.mem_cons_of_mem 0 hmem, hreach⟩

theorem isPlunge_of_mem_pocketRound {step : Move} (h : step ∈ pocketRound settings op radii) :
    step.isPlunge = false := by
  rcases List.mem_append.mp h with hring | hback
  · obtain ⟨_, -, hstep⟩ := List.mem_flatMap.mp hring
    rw [ring_eq, List.mem_pair] at hstep
    rcases hstep with rfl | rfl <;> rfl
  · split at hback
    · cases hback
    · rw [List.mem_singleton.mp hback]
      rfl

theorem filter_isArc_pocketRound (settings : Settings ℝ) (op : Operation ℝ) (radii : List ℝ) :
    (pocketRound settings op radii).filter Move.isArc = radii.map (fullCircle settings op) := by
  have hrings : (radii.flatMap (ring settings op)).filter Move.isArc =
      radii.map (fullCircle settings op) := by
    rw [List.filter_flatMap, List.map_eq_flatMap]
    rfl
  rw [pocketRound, List.filter_append, hrings]
  split <;> exact List.append_nil _

/-- What a round pocket that is not skipped was checked for. -/
theorem size_of_skipReason? {diameter : ℝ} (hfeature : op.feature = .circularPocket diameter)
    (hskip : skipReason? stock op = none) :
    0 < op.toolDiameter ∧ 0 ≤ diameter / 2 - op.toolDiameter / 2 := by
  obtain ⟨htool, -, hroom⟩ := (passed_of_skipReason? hskip).circularPocket hfeature
  rw [isPositive_real_iff] at htool
  have hfits : ¬ diameter < op.toolDiameter := by
    rw [← lt_real_iff, hroom]
    exact Bool.false_ne_true
  constructor <;> linarith

/-- **Round pockets are cleared from inside.** -/
theorem round_pockets_are_cleared_from_inside (settings : Settings ℝ) (stock : Stock ℝ)
    {ops : List (Operation ℝ)} {i : ℕ} {op : Operation ℝ} {diameter : ℝ}
    (hop : ops[i]? = some op) (hfeature : op.feature = .circularPocket diameter)
    (hskip : skipReason? stock op = none) (hlow : 0 < settings.pocketStepover)
    (hhigh : settings.pocketStepover ≤ 1) :
    ∃ program bodies foot body radii layers, compile settings stock ops = .ok program ∧
      Divided settings stock ops program bodies foot ∧ bodies[i]? = some body ∧
      ClearsPocket settings op diameter radii layers body := by
  obtain ⟨htool, hlimit⟩ := size_of_skipReason? hfeature hskip
  have hstep : 0 < op.toolDiameter * settings.pocketStepover := mul_pos htool hlow
  have hstepover : op.toolDiameter * settings.pocketStepover ≤ op.toolDiameter :=
    mul_le_of_le_one_right htool.le hhigh
  -- in exact arithmetic rings and layers can always be counted, so the plan is a list of moves
  obtain ⟨radii, hradii, hclears⟩ := Toolpath.exists_ringRadii hlimit hstep
  obtain ⟨layers, hlayers⟩ := Toolpath.exists_depthLayers op.zStart op.zDepth op.stepDown
  -- the block of the pocket holds its plan, between two rises to the safe plane
  obtain ⟨program, hcompile⟩ := exists_compile_real settings stock ops
  have hkind : op.kind ≠ .unknown := by
    rw [Operation.kind, hfeature]
    exact OperationKind.noConfusion
  obtain ⟨bodies, foot, body, z, moves, hdivided, hnth, hplan, hsteps⟩ :=
    exists_steps_of_compile hcompile hop hkind hskip
  rw [plan, hfeature] at hplan
  change circularPocketPlan settings op diameter = .ok moves at hplan
  rw [circularPocketPlan_eq_ok hradii hlayers] at hplan
  cases hplan
  have hparts : steps body = [.rapidZ z, .rapidTo (settings.place op.origin)] ++
      (layers.flatMap fun z => .cutZ (settings.coordinate z) :: pocketRound settings op radii) ++
        [.rapidZ z] := hsteps
  refine ⟨program, bodies, foot, body, radii, layers, hcompile, hdivided, hnth, ?_⟩
  constructor
  case radii_eq => exact hradii
  case layers_eq => exact hlayers
  case inside =>
    intro here
    rw [hsteps]
    exact along_pocket hlimit hclears.mem_Icc here z layers
  case plunges =>
    -- the two rises are rapid, and a round plunges only at its beginning
    rw [hparts, List.filter_append, List.filter_append,
      filter_isPlunge_flatMap _ layers fun _ => isPlunge_of_mem_pocketRound]
    exact List.append_nil _
  case circles =>
    rw [hparts, ← filter_isArc_pocketRound]
    refine map_filter_passes _ layers ?_ (fun _ => isPlunge_of_mem_pocketRound) ?_
    · simp [Move.isPlunge]
    · simp [Move.isPlunge, Move.isArc]
  case cleared =>
    intro rho hrho hwall
    refine exists_near_of_clearsDisc hstepover htool hlimit hclears hrho ?_
    linarith
  case last => exact hclears.last

/-! ## A sample pocket -/

/-- A pocket with room for three rings, cut in two layers. -/
noncomputable def samplePocket : Operation ℝ :=
  ⟨50, 30, 20, 12, 200, 1500, 8, .endMill, 5, .circularPocket 30⟩

/-- Exact settings. -/
noncomputable def exactSettings : Settings ℝ := ⟨"SAMPLE", "G54", 3, 1, 5, 1, 0.5, 0.3, true⟩

/-- A block of metal. -/
noncomputable def exactStock : Stock ℝ := ⟨.rectangular, 100, 60, 20, 0, "Aluminum"⟩

private theorem skipReason?_samplePocket : skipReason? exactStock samplePocket = none := by
  have hfinite (x : ℝ) : Scalar.isFinite x = true := rfl
  have hlt (a b : ℝ) : Scalar.lt a b = decide (a < b) := rfl
  have hle (a b : ℝ) : Scalar.le a b = decide (a ≤ b) := rfl
  norm_num [skipReason?, featureSkipReason?, isUsable, Scalar.isPositive, samplePocket, exactStock,
    hfinite, hlt, hle, zero_real]

/-- Two steps of four lead up to the last ring, which is three further on. -/
private theorem ringRadii_samplePocket :
    Toolpath.ringRadii (11 : ℝ) 4 = .ok [4, 8, 11] := by
  have hceil : ⌈(11 : ℝ) / 4 - 1 / 10 ^ 9⌉₊ = 3 := by
    rw [Nat.ceil_eq_iff (by norm_num)]
    norm_num
  -- three steps of 4 mm, the last of them cut short at 11 mm
  have hcount : Toolpath.stepCount (11 : ℝ) 4 = .ok (2 + 1) := by
    rw [Toolpath.stepCount_real 11 (by norm_num), hceil]
    rfl
  obtain ⟨radii, hradii, -, hpositions⟩ :=
    Toolpath.ringRadii_eq_ok (by norm_num) (by norm_num) hcount
  have hlist : Toolpath.positions 0 11 4 (2 + 1) = [0, 4, 8, 11] := by
    norm_num [Toolpath.positions, List.range_succ]
  rw [hlist] at hpositions
  rw [hradii, (List.cons.inj hpositions).2]

/-- The block of the sample pocket cuts three full circles on each of its layers. -/
theorem round_pockets_are_cleared_from_inside_of_samplePocket :
    skipReason? exactStock samplePocket = none ∧
      ∃ program bodies foot body layers,
        compile exactSettings exactStock [samplePocket] = .ok program ∧
          Divided exactSettings exactStock [samplePocket] program bodies foot ∧
          bodies[0]? = some body ∧
          ClearsPocket exactSettings samplePocket 30 [4, 8, 11] layers body := by
  have hstepover : 0 < exactSettings.pocketStepover ∧ exactSettings.pocketStepover ≤ 1 := by
    norm_num [exactSettings]
  have hnth : [samplePocket][0]? = some samplePocket := rfl
  obtain ⟨program, bodies, foot, body, radii, layers, hcompile, hdivided, hbody, hclears⟩ :=
    round_pockets_are_cleared_from_inside exactSettings exactStock hnth rfl
      skipReason?_samplePocket hstepover.1 hstepover.2
  -- the radii can only be those of the sample
  have hlimit : (30 : ℝ) / 2 - samplePocket.toolDiameter / 2 = 11 := by norm_num [samplePocket]
  have hstep : samplePocket.toolDiameter * exactSettings.pocketStepover = 4 := by
    norm_num [samplePocket, exactSettings]
  have hradii := hclears.radii_eq
  rw [hlimit, hstep, ringRadii_samplePocket] at hradii
  cases hradii
  exact ⟨skipReason?_samplePocket, program, bodies, foot, body, layers, hcompile, hdivided, hbody,
    hclears⟩

end Machining.Program
