import Machining.Proofs.Job.Spacing
import Machining.Proofs.Program.Polyline
import Machining.Proofs.Program.RoundPockets

/-!
# Rectangular pockets

A rectangular pocket is cut in rectangles about its centre, from a line or a point out to the one
that leaves room for half of the cutter up to the walls.  A move to the position that is printed
already is left out.  This module shows, in exact arithmetic, that the tool is where it would be
without that: it stops at the same places, but for repeated neighbours.  So it comes to all corners
of the outermost rectangle on every layer, it plunges at the centre only, and it never gets closer
to a wall than half of its diameter, but for half a unit of the last decimal place.

`CutsRings` says which moves the block of a pocket has, and
`rectangular_pockets_are_cut_inside_their_walls` what follows for the path of the tool.
-/

namespace Machining.Program

open Machining.Numeric Machining.Job

/-! ## The moves of a pocket -/

/-- How far the cutter's centre may be from the middle of a pocket, along an axis. -/
noncomputable def room (op : Operation ℝ) (size : ℝ) : ℝ :=
  Scalar.half size - Scalar.half op.toolDiameter

/-- The positions that a layer is aimed at: the corners of all rings, from the inside out, and the
centre. -/
noncomputable def layerTargets (op : Operation ℝ) (rings : List (ℝ × ℝ)) : List (Point ℝ) :=
  rings.flatMap (fun ring => corners op.origin ring.1 ring.2) ++ [op.origin]

/-- The moves of a layer behind the plunge: to the targets, without those that lead nowhere. -/
noncomputable def layerMoves (settings : Settings ℝ) (op : Operation ℝ) (rings : List (ℝ × ℝ)) :
    List Move :=
  (visited (settings.place op.origin) ((layerTargets op rings).map settings.place)).map .cutTo

variable {settings : Settings ℝ} {stock : Stock ℝ} {op : Operation ℝ} {width length : ℝ}
  {rings : List (ℝ × ℝ)} {layers : List ℝ} {body : List Line}

theorem rectangularPocketPlan_eq_ok
    (hrings : Toolpath.rectangleRings (room op width) (room op length)
      (op.toolDiameter * settings.pocketStepover) = .ok rings)
    (hlayers : Toolpath.depthLayers op.zStart op.zDepth op.stepDown = .ok layers) :
    rectangularPocketPlan settings op width length =
      .ok (.rapidTo (settings.place op.origin) ::
        layers.flatMap fun z =>
          .cutZ (settings.coordinate z) :: layerMoves settings op rings) := by
  unfold room at hrings
  rw [rectangularPocketPlan]
  dsimp only
  rw [hrings, hlayers, layerMoves, layerTargets, List.map_append, List.map_flatMap]
  rfl

/-- What a rectangular pocket that is not skipped was checked for. -/
theorem room_of_skipReason? (hfeature : op.feature = .rectangularPocket width length)
    (hskip : skipReason? stock op = none) :
    0 < op.toolDiameter ∧ 0 ≤ room op width ∧ 0 ≤ room op length := by
  obtain ⟨htool, -, hroom⟩ := (passed_of_skipReason? hskip).rectangularPocket hfeature
  rw [isPositive_real_iff] at htool
  have hfits : op.toolDiameter ≤ min width length := by
    rw [← not_lt, ← min_real, ← lt_real_iff, hroom]
    exact Bool.false_ne_true
  have hwidth := hfits.trans (min_le_left width length)
  have hlength := hfits.trans (min_le_right width length)
  rw [room, room, half_real, half_real, half_real]
  refine ⟨htool, ?_, ?_⟩ <;> linarith

/-- What the block of a rectangular pocket is made of. -/
structure CutsRings (settings : Settings ℝ) (op : Operation ℝ) (width length : ℝ)
    (rings : List (ℝ × ℝ)) (layers : List ℝ) (body : List Line) : Prop where
  /-- The half-sizes are those of the rings out to half of the cutter from the walls. -/
  rings_eq : Toolpath.rectangleRings (room op width) (room op length)
    (op.toolDiameter * settings.pocketStepover) = .ok rings
  /-- The layers are the depths of the passes. -/
  layers_eq : Toolpath.depthLayers op.zStart op.zDepth op.stepDown = .ok layers
  /-- The tool arrives above the centre.  Then it plunges to each layer and goes from target to
  target there. -/
  moves : ∃ z, steps body = [.rapidZ z, .rapidTo (settings.place op.origin)] ++
    (layers.flatMap fun z => .cutZ (settings.coordinate z) :: layerMoves settings op rings) ++
      [.rapidZ z]

/-- In exact arithmetic every job has such a block for each rectangular pocket that is not
skipped. -/
theorem exists_cutsRings (settings : Settings ℝ) (stock : Stock ℝ) {ops : List (Operation ℝ)}
    {i : ℕ} (hop : ops[i]? = some op) (hfeature : op.feature = .rectangularPocket width length)
    (hskip : skipReason? stock op = none) :
    ∃ program bodies foot body rings layers, compile settings stock ops = .ok program ∧
      Divided settings stock ops program bodies foot ∧ bodies[i]? = some body ∧
      Toolpath.FillsRectangle (room op width) (room op length)
        (op.toolDiameter * settings.pocketStepover) rings ∧
      CutsRings settings op width length rings layers body := by
  obtain ⟨-, hwidth, hlength⟩ := room_of_skipReason? hfeature hskip
  -- a pocket that is not skipped has room for its rings
  obtain ⟨rings, hrings, hfills⟩ := Toolpath.exists_rectangleRings hwidth hlength
    (op.toolDiameter * settings.pocketStepover)
  obtain ⟨layers, hlayers⟩ := Toolpath.exists_depthLayers op.zStart op.zDepth op.stepDown
  have hplan : plan settings stock op (safeZ settings stock op) =
      .ok (.rapidTo (settings.place op.origin) :: layers.flatMap fun z =>
        .cutZ (settings.coordinate z) :: layerMoves settings op rings) := by
    rw [plan, hfeature]
    exact rectangularPocketPlan_eq_ok hrings hlayers
  obtain ⟨program, bodies, foot, body, z, hcompile, hdivided, hbody, hsteps⟩ :=
    exists_steps_of_plan hop (kind_ne_unknown hfeature OperationKind.noConfusion) hskip hplan
  exact ⟨program, bodies, foot, body, rings, layers, hcompile, hdivided, hbody, hfills,
    ⟨hrings, hlayers, z, hsteps⟩⟩

/-! ## The path of the tool -/

theorem exists_cutTo_of_mem_layerMoves {step : Move} (h : step ∈ layerMoves settings op rings) :
    ∃ place, step = .cutTo place := by
  obtain ⟨place, -, rfl⟩ := List.mem_map.mp h
  exact ⟨place, rfl⟩

theorem isPlunge_of_mem_layerMoves {step : Move} (h : step ∈ layerMoves settings op rings) :
    step.isPlunge = false := by
  obtain ⟨place, rfl⟩ := exists_cutTo_of_mem_layerMoves h
  rfl

theorem stops_layerMoves (settings : Settings ℝ) (op : Operation ℝ) (rings : List (ℝ × ℝ))
    (here : Place) : stops here (layerMoves settings op rings) =
      visited (settings.place op.origin) ((layerTargets op rings).map settings.place) :=
  stops_map_cutTo here _

/-- A layer leads from the centre back to it. -/
theorem arrive_layer (settings : Settings ℝ) (op : Operation ℝ) (rings : List (ℝ × ℝ)) (z : Fixed) :
    arrive (settings.place op.origin) (.cutZ z :: layerMoves settings op rings) =
      settings.place op.origin := by
  change arrive (settings.place op.origin) (layerMoves settings op rings) = _
  -- the centre is the last target, and if the move to it is left out the tool is there already
  rw [layerMoves, layerTargets, List.map_append]
  exact arrive_visited _ _ _

/-- What is aimed at lies in the rectangle that is left for the cutter's centre. -/
theorem mem_layerTargets_box {stepover : ℝ} (hwidth : 0 ≤ room op width)
    (hlength : 0 ≤ room op length)
    (hfills : Toolpath.FillsRectangle (room op width) (room op length) stepover rings)
    {point : Point ℝ} (h : point ∈ layerTargets op rings) :
    |point.x - op.x| ≤ room op width ∧ |point.y - op.y| ≤ room op length := by
  rcases List.mem_append.mp h with hcorner | horigin
  · obtain ⟨ring, hring, hcorner⟩ := List.mem_flatMap.mp hcorner
    obtain ⟨hX, hY⟩ := hfills.mem_Icc ring hring
    -- a corner is as far from the centre as its ring reaches
    have hreach : |point.x - op.x| = ring.1 ∧ |point.y - op.y| = ring.2 := by
      simp only [corners, List.mem_cons, List.not_mem_nil, or_false] at hcorner
      rcases hcorner with rfl | rfl | rfl | rfl | rfl <;>
        simp [Operation.origin, abs_of_nonneg hX.1, abs_of_nonneg hY.1]
    rw [hreach.1, hreach.2]
    exact ⟨hX.2, hY.2⟩
  · rw [List.mem_singleton.mp horigin]
    change |op.x - op.x| ≤ _ ∧ |op.y - op.y| ≤ _
    rw [sub_self, sub_self, abs_zero]
    exact ⟨hwidth, hlength⟩

/-- Half a unit is the most that printing adds to the distance along an axis. -/
private theorem abs_printed_sub_middle_le (places : ℕ) {x middle reach : ℝ}
    (h : |x - middle| ≤ reach) : |printed places x - middle| ≤ reach + 1 / 10 ^ places / 2 :=
  calc |printed places x - middle|
      ≤ |printed places x - x| + |x - middle| := abs_sub_le _ _ _
    _ ≤ 1 / 10 ^ places / 2 + reach := add_le_add (abs_printed_sub_le places x) h
    _ = reach + 1 / 10 ^ places / 2 := add_comm _ _

/-- Where all stops were meant to be in a rectangle, no way between them as they are printed leads
out of it by more than half a unit. -/
theorem polyline_printed_subset {a b : ℝ} {points : List (Point ℝ)}
    (h : ∀ point ∈ points, |point.x - op.x| ≤ a ∧ |point.y - op.y| ≤ b) :
    ∀ p ∈ polyline (points.map settings.printedPoint),
      |p.re - op.x| ≤ a + 1 / 10 ^ settings.coordinatePlaces / 2 ∧
        |p.im - op.y| ≤ b + 1 / 10 ^ settings.coordinatePlaces / 2 := by
  apply polyline_subset_of_convex (convex_box op.origin.toComplex _ _)
  intro p hp
  obtain ⟨point, hpoint, rfl⟩ := List.mem_map.mp hp
  obtain ⟨hx, hy⟩ := h point hpoint
  exact ⟨abs_printed_sub_middle_le _ hx, abs_printed_sub_middle_le _ hy⟩

namespace CutsRings

/-- The tool stops where it would stop if no move were left out, but for repeated neighbours. -/
theorem stops_eq (h : CutsRings settings op width length rings layers body) (here : Place) :
    stops here (steps body) = settings.place op.origin ::
      layers.flatMap fun _ =>
        visited (settings.place op.origin) ((layerTargets op rings).map settings.place) := by
  obtain ⟨z, hmoves⟩ := h.moves
  have hback : ∀ depth ∈ layers, arrive (settings.place op.origin)
      (.cutZ (settings.coordinate depth) :: layerMoves settings op rings) =
        settings.place op.origin :=
    fun depth _ => arrive_layer settings op rings (settings.coordinate depth)
  have hlast (last : Place) : stops last [.rapidZ z] = [] := rfl
  rw [hmoves, stops_append, stops_append, hlast, List.append_nil]
  change settings.place op.origin :: stops (settings.place op.origin) (List.flatMap _ _) = _
  rw [stops_flatMap layers hback]
  exact congrArg _ (List.flatMap_congr fun _ _ => stops_layerMoves settings op rings _)

/-- On every layer the moves in the plane are those to the targets. -/
theorem passes_eq (h : CutsRings settings op width length rings layers body) :
    (passes (steps body)).map (List.filter Move.isPlanar) =
      layers.map fun _ => layerMoves settings op rings := by
  obtain ⟨z, hmoves⟩ := h.moves
  have hplanar : (layerMoves settings op rings).filter Move.isPlanar =
      layerMoves settings op rings := by
    rw [List.filter_eq_self]
    intro step hstep
    obtain ⟨place, rfl⟩ := exists_cutTo_of_mem_layerMoves hstep
    rfl
  rw [hmoves, map_filter_passes _ layers ?_ (fun _ => isPlunge_of_mem_layerMoves) ?_, hplanar]
  · simp [Move.isPlunge]
  · simp [Move.isPlunge, Move.isPlanar]

/-- A move in the plane goes straight to its place. -/
theorem straight (h : CutsRings settings op width length rings layers body) {step : Move}
    (hstep : step ∈ steps body) (hplanar : step.isPlanar = true) :
    ∃ place, step = .rapidTo place ∨ step = .cutTo place := by
  obtain ⟨z, hmoves⟩ := h.moves
  rw [hmoves] at hstep
  -- the approach, the moves of a layer, and the retract
  rcases List.mem_append.mp hstep with hstep | hlast
  · rcases List.mem_append.mp hstep with hfirst | hlayer
    · rcases List.mem_pair.mp hfirst with rfl | rfl
      · cases hplanar
      · exact ⟨_, Or.inl rfl⟩
    · obtain ⟨depth, -, hstep⟩ := List.mem_flatMap.mp hlayer
      rcases List.mem_cons.mp hstep with rfl | hmove
      · cases hplanar
      · obtain ⟨place, rfl⟩ := exists_cutTo_of_mem_layerMoves hmove
        exact ⟨place, Or.inr rfl⟩
  · rw [List.mem_singleton.mp hlast] at hplanar
    cases hplanar

/-- The tool plunges at the centre, wherever it comes from. -/
theorem plunge (h : CutsRings settings op width length rings layers body) (here : Place) :
    Along (fun place step => step.isPlunge = true → place = settings.place op.origin) here
      (steps body) := by
  obtain ⟨z, hmoves⟩ := h.moves
  -- every layer begins at the centre, since the one before leads back to it
  have hlayer : ∀ depth ∈ layers,
      Along (fun place step => step.isPlunge = true → place = settings.place op.origin)
          (settings.place op.origin)
          (.cutZ (settings.coordinate depth) :: layerMoves settings op rings) ∧
        arrive (settings.place op.origin)
            (.cutZ (settings.coordinate depth) :: layerMoves settings op rings) =
          settings.place op.origin := by
    refine fun depth _ => ⟨⟨fun _ => rfl, along_of_forall fun step hstep place hplunge => ?_⟩,
      arrive_layer settings op rings _⟩
    rw [isPlunge_of_mem_layerMoves hstep] at hplunge
    cases hplunge
  rw [hmoves, along_append, along_append]
  exact ⟨⟨⟨fun hplunge => (nomatch hplunge), fun hplunge => (nomatch hplunge), along_nil⟩,
    (along_flatMap layers hlayer).1⟩, fun hplunge => (nomatch hplunge), along_nil⟩

theorem plunges (h : CutsRings settings op width length rings layers body) :
    (steps body).filter Move.isPlunge = layers.map fun z => .cutZ (settings.coordinate z) := by
  obtain ⟨z, hmoves⟩ := h.moves
  rw [hmoves, List.filter_append, List.filter_append,
    filter_isPlunge_flatMap _ layers fun _ => isPlunge_of_mem_layerMoves]
  exact List.append_nil _

end CutsRings

/-! ## Pockets in a program -/

/-- What is shown of the path of the tool in the block of a rectangular pocket. -/
structure StaysInPocket (settings : Settings ℝ) (op : Operation ℝ) (width length : ℝ)
    (rings : List (ℝ × ℝ)) (layers : List ℝ) (body : List Line) : Prop where
  /-- The block is made of its rings. -/
  made : CutsRings settings op width length rings layers body
  /-- Every move in the plane is straight. -/
  straight : ∀ step ∈ steps body, step.isPlanar = true →
    ∃ place, step = .rapidTo place ∨ step = .cutTo place
  /-- The places where the tool stops, wherever it comes from, are the centre and on every layer the
  printed targets, without repeated neighbours. -/
  stops_eq : ∀ here, stops here (steps body) =
    ((op.origin :: layers.flatMap fun _ => layerTargets op rings).map
      settings.place).destutter (· ≠ ·)
  /-- The stops are printed positions, and no point on the ways between them is further from the
  centre along an axis than the room for the cutter, but for half a unit of the last decimal
  place. -/
  inside : ∃ path : List (Point ℝ), (∀ here, stops here (steps body) = path.map settings.place) ∧
    ∀ p ∈ polyline (path.map settings.printedPoint),
      |p.re - op.x| ≤ room op width + 1 / 10 ^ settings.coordinatePlaces / 2 ∧
        |p.im - op.y| ≤ room op length + 1 / 10 ^ settings.coordinatePlaces / 2
  /-- The tool plunges to every layer. -/
  plunges : (steps body).filter Move.isPlunge = layers.map fun z => .cutZ (settings.coordinate z)
  /-- It plunges at the centre. -/
  plunge : ∀ here, Along
    (fun place step => step.isPlunge = true → place = settings.place op.origin) here (steps body)
  /-- There is one pass for every layer. -/
  length_passes : (passes (steps body)).length = layers.length
  /-- With a stepover above zero, as in all settings that load, every pass comes to all corners of
  the rectangle that leaves just the room for the cutter. -/
  corners : 0 < settings.pocketStepover → ∀ pass ∈ passes (steps body),
    ∀ corner ∈ corners op.origin (room op width) (room op length),
      settings.place corner ∈ settings.place op.origin :: stops (settings.place op.origin) pass

private theorem exists_path (h : CutsRings settings op width length rings layers body) :
    ∃ path : List (Point ℝ), (∀ here, stops here (steps body) = path.map settings.place) ∧
      ∀ point ∈ path, point = op.origin ∨ point ∈ layerTargets op rings := by
  obtain ⟨kept, hkept, hvisited, -⟩ := exists_kept settings op.origin (layerTargets op rings)
  refine ⟨op.origin :: layers.flatMap fun _ => kept, fun here => ?_, fun point hpoint => ?_⟩
  · rw [h.stops_eq here, hvisited, List.map_cons, List.map_flatMap]
  · refine (List.mem_cons.mp hpoint).imp_right fun hmem => ?_
    obtain ⟨-, -, hmem⟩ := List.mem_flatMap.mp hmem
    exact hkept.subset hmem

/-- **Rectangular pockets are cut inside their walls**, all the way along them and from their
centres. -/
theorem rectangular_pockets_are_cut_inside_their_walls (settings : Settings ℝ) (stock : Stock ℝ)
    {ops : List (Operation ℝ)} {i : ℕ} {op : Operation ℝ} {width length : ℝ}
    (hop : ops[i]? = some op) (hfeature : op.feature = .rectangularPocket width length)
    (hskip : skipReason? stock op = none) :
    ∃ program bodies foot body rings layers, compile settings stock ops = .ok program ∧
      Divided settings stock ops program bodies foot ∧ bodies[i]? = some body ∧
      StaysInPocket settings op width length rings layers body := by
  obtain ⟨htool, hwidth, hlength⟩ := room_of_skipReason? hfeature hskip
  obtain ⟨program, bodies, foot, body, rings, layers, hcompile, hdivided, hbody, hfills, hmade⟩ :=
    exists_cutsRings settings stock hop hfeature hskip
  refine ⟨program, bodies, foot, body, rings, layers, hcompile, hdivided, hbody, ?_⟩
  constructor
  case made => exact hmade
  case straight => exact fun _ => hmade.straight
  case stops_eq =>
    intro here
    have htargets : (layerTargets op rings).map settings.place =
        (rings.flatMap fun ring => corners op.origin ring.1 ring.2).map settings.place ++
          [settings.place op.origin] := by
      rw [layerTargets, List.map_append, List.map_singleton]
    -- no repeated neighbours are left between layers either, since each ends at the centre
    rw [hmade.stops_eq here, List.map_cons, destutter_eq_visited, List.map_flatMap, htargets,
      visited_flatMap]
  case inside =>
    obtain ⟨path, hpath, htargets⟩ := exists_path hmade
    refine ⟨path, hpath, polyline_printed_subset fun point hpoint => ?_⟩
    refine mem_layerTargets_box hwidth hlength hfills ?_
    rcases htargets point hpoint with rfl | htarget
    · exact List.mem_append_right _ (List.mem_singleton_self op.origin)
    · exact htarget
  case plunges => exact hmade.plunges
  case plunge => exact hmade.plunge
  case length_passes =>
    have hlength := congrArg List.length hmade.passes_eq
    rwa [List.length_map, List.length_map] at hlength
  case corners =>
    intro hstepover pass hpass corner hcorner
    have hplanar : pass.filter Move.isPlanar = layerMoves settings op rings := by
      have hmem := List.mem_map_of_mem (f := List.filter Move.isPlanar) hpass
      rw [hmade.passes_eq] at hmem
      obtain ⟨-, -, heq⟩ := List.mem_map.mp hmem
      exact heq.symm
    -- the last ring is the rectangle itself, and no target is missed
    have hring := List.mem_of_getLast? (hfills.last (mul_pos htool hstepover))
    have htarget : corner ∈ layerTargets op rings :=
      List.mem_append_left _ (List.mem_flatMap.mpr ⟨_, hring, hcorner⟩)
    rw [← stops_filter_isPlanar, hplanar, stops_layerMoves]
    exact mem_visited _ (List.mem_map_of_mem htarget)

/-! ## A sample pocket -/

/-- A pocket with room for a line and two rings, cut in two layers. -/
noncomputable def sampleRectangle : Operation ℝ :=
  ⟨Scalar.ofNat 50, Scalar.ofNat 30, Scalar.ofNat 20, Scalar.ofNat 12, Scalar.ofNat 200,
    Scalar.ofNat 1500, Scalar.ofNat 4, .endMill, Scalar.ofNat 5,
    .rectangularPocket (Scalar.ofNat 20) (Scalar.ofNat 12)⟩

private theorem feature_sampleRectangle :
    sampleRectangle.feature = .rectangularPocket 20 12 := by
  norm_num [sampleRectangle, ofNat_real]

private theorem skipReason?_sampleRectangle : skipReason? exactStock sampleRectangle = none := by
  norm_num [skipReason?, featureSkipReason?, isUsable, Scalar.isPositive, sampleRectangle,
    exactStock, isFinite_real, lt_real, le_real, zero_real, ofNat_real, min_real]

/-- Under the boundary the rings lie four, two and no millimetres deep. -/
private theorem rectangleRings_sampleRectangle :
    Toolpath.rectangleRings (8 : ℝ) 4 2 = .ok [(4, 0), (6, 2), (8, 4)] := by
  have hmin : min (8 : ℝ) 4 = 4 := by norm_num
  have hceil : ⌈(4 : ℝ) / 2 - 1 / 10 ^ 9⌉₊ = 2 := by
    rw [Nat.ceil_eq_iff (by norm_num)]
    norm_num
  have hcount : Toolpath.stepCount (min (8 : ℝ) 4) 2 = .ok 2 := by
    rw [hmin, Toolpath.stepCount_real 4 (by norm_num), hceil]
    rfl
  rw [Toolpath.rectangleRings_eq_ok (by norm_num) (by norm_num) hcount, hmin]
  norm_num [Toolpath.positions, List.range_succ]

/-- In the block of the sample pocket the tool stays within eight and four millimetres of the
centre. -/
theorem rectangular_pockets_are_cut_inside_their_walls_of_sampleRectangle :
    skipReason? exactStock sampleRectangle = none ∧
      ∃ program bodies foot body layers,
        compile exactSettings exactStock [sampleRectangle] = .ok program ∧
          Divided exactSettings exactStock [sampleRectangle] program bodies foot ∧
          bodies[0]? = some body ∧
          StaysInPocket exactSettings sampleRectangle 20 12 [(4, 0), (6, 2), (8, 4)] layers body :=
    by
  have hnth : [sampleRectangle][0]? = some sampleRectangle := rfl
  obtain ⟨program, bodies, foot, body, rings, layers, hcompile, hdivided, hbody, hstays⟩ :=
    rectangular_pockets_are_cut_inside_their_walls exactSettings exactStock hnth
      feature_sampleRectangle skipReason?_sampleRectangle
  -- the rings can only be those of the sample
  have hwidth : room sampleRectangle 20 = 8 := by
    norm_num [room, half_real, ofNat_real, sampleRectangle]
  have hlength : room sampleRectangle 12 = 4 := by
    norm_num [room, half_real, ofNat_real, sampleRectangle]
  have hstep : sampleRectangle.toolDiameter * exactSettings.pocketStepover = 2 := by
    norm_num [sampleRectangle, exactSettings, ofNat_real]
  have hrings := hstays.made.rings_eq
  rw [hwidth, hlength, hstep, rectangleRings_sampleRectangle] at hrings
  cases hrings
  exact ⟨skipReason?_sampleRectangle, program, bodies, foot, body, layers, hcompile, hdivided,
    hbody, hstays⟩

end Machining.Program
