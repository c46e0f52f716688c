import Machining.Proofs.Numeric.FloatBounds
import Machining.Proofs.Program.Decimals
import Machining.Proofs.Program.Overflow

/-!
# How far the moves of an operation reach

The positions of a plan are sums and products of several sizes, so they may be infinite although
every size is finite.  This module bounds them.  Where the sizes are within a power of two, every
position that is made of them is within one that is a few places longer, and then it is finite.

## How it is shown

Positions that are reached in steps do not go far over the distance that the steps cover
(`Stride.Measured.within`), however small the steps are.
-/

namespace Machining.Job

/-- The numbers of a segment. -/
def Segment.numbers (segment : Segment Float) : List Float :=
  [segment.x, segment.y] ++ segment.cx.toList ++ segment.cy.toList ++ segment.radius.toList

/-- The sizes of a feature that positions are made of. -/
def Feature.sizes : Feature Float → List Float
  | .circularPocket diameter => [diameter]
  | .rectangularPocket width length => [width, length]
  | .drill _ | .faceMill | .contour _ | .unknown => []

/-- The sizes of an operation that positions are made of. -/
def Operation.sizes (op : Operation Float) : List Float :=
  [op.x, op.y, op.zStart, op.zDepth, op.toolDiameter] ++ op.feature.sizes

/-- The numbers that the arcs of an operation are worked out from. -/
def Operation.arcNumbers (op : Operation Float) : List Float :=
  match op.feature with
  | .contour segments => [op.x, op.y] ++ segments.flatMap Segment.numbers
  | _ => []

/-- The sizes of a stock. -/
def Stock.sizes (stock : Stock Float) : List Float :=
  [stock.width, stock.length, stock.height, stock.diameter]

end Machining.Job

namespace Machining.Program

open Machining.Numeric Machining.Job

/-- The finite ones among some numbers are within a power of two. -/
def FinitesWithin (k : ℕ) (numbers : List Float) : Prop :=
  ∀ x ∈ numbers, Scalar.isFinite x = true → Within k x

/-! ## Positions in steps -/

section Steps

variable {j count n : ℕ} {a b c : Float} {stride : Stride Float}

/-- Fewer steps than a distance takes are one place longer than the distance at most. -/
theorem Stride.Measured.within (h : stride.Measured) (hspan : Within j stride.span)
    (hcount : stride.count = .ok count) (hn : n < count) (hj : j + 1 ≤ 1023) :
    Within (j + 1) (Scalar.ofNat n * stride.step) := by
  obtain ⟨step, hstep, hpos⟩ := h.step
  obtain ⟨slack, hslack, hslack0, hslack1⟩ := exists_hasValue_slack
  unfold Stride.count Toolpath.stepCount at hcount
  split at hcount
  · cases hcount
  · obtain ⟨steps, hsteps, rfl⟩ := exists_of_map_eq_ok hcount
    exact hspan.ofNat_mul h.span hstep hpos hslack hslack0 hslack1 hsteps (by omega) hj

private theorem exists_of_mem_inner {position : ℕ → Float} {z : Float}
    (h : z ∈ Toolpath.inner count position) : ∃ n < count, position n = z := by
  obtain ⟨i, hi, rfl⟩ := List.mem_map.mp h
  have := List.mem_range.mp hi
  exact ⟨i + 1, by omega, rfl⟩

private theorem within_depthLayers {layers : List Float}
    (hm : ∀ stride ∈ depthStrides a b c, stride.Measured) (ha : Within j a) (hb : Within j b)
    (hj : j + 3 ≤ 1023) (h : Toolpath.depthLayers a b c = .ok layers) :
    ∀ z ∈ layers, Within (j + 3) z := by
  unfold Toolpath.depthLayers at h
  unfold depthStrides at hm
  dsimp only at h
  have hlast : ∀ z ∈ [b], Within (j + 3) z := by
    intro z hz
    rw [List.mem_singleton.mp hz]
    exact hb.mono (by omega)
  split at h
  · cases h
    exact hlast
  · -- every layer but the last lies a number of steps below the top
    rename_i hguard
    rw [if_neg hguard] at hm
    obtain ⟨count, hcount, rfl⟩ := exists_of_map_eq_ok h
    refine List.forall_mem_append.mpr ⟨fun z hz => ?_, hlast⟩
    obtain ⟨n, hn, rfl⟩ := exists_of_mem_inner hz
    have hspan := ha.sub hb (by omega)
    have hsteps := (hm _ (List.mem_singleton_self _)).within hspan hcount hn (by omega)
    exact (ha.mono (by omega)).sub hsteps (by omega)

private theorem within_ringRadii {radii : List Float}
    (hm : ∀ stride ∈ ringStrides a b, stride.Measured) (ha : Within j a) (hj : j + 1 ≤ 1023)
    (h : Toolpath.ringRadii a b = .ok radii) : ∀ radius ∈ radii, Within (j + 1) radius := by
  unfold Toolpath.ringRadii at h
  unfold ringStrides at hm
  split at h
  · cases h
    exact List.forall_mem_nil _
  · rename_i hguard
    rw [if_neg hguard] at hm
    obtain ⟨count, hcount, rfl⟩ := exists_of_map_eq_ok h
    refine List.forall_mem_append.mpr ⟨fun radius hradius => ?_, fun radius hradius => ?_⟩
    · obtain ⟨n, hn, rfl⟩ := exists_of_mem_inner hradius
      -- every ring but the last one is fewer steps out than are counted
      exact (hm _ (List.mem_singleton_self _)).within ha hcount hn hj
    · rw [List.mem_singleton.mp hradius]
      exact ha.mono (by omega)

private theorem within_rectangleRings {rings : List (Float × Float)}
    (hm : ∀ stride ∈ rectangleStrides a b c, stride.Measured) (ha : Within j a) (hb : Within j b)
    (hj : j + 2 ≤ 1023) (h : Toolpath.rectangleRings a b c = .ok rings) :
    ∀ ring ∈ rings, Within (j + 2) ring.1 ∧ Within (j + 2) ring.2 := by
  unfold Toolpath.rectangleRings at h
  unfold rectangleStrides at hm
  dsimp only at h hm
  split at h
  · cases h
    exact List.forall_mem_nil _
  · rename_i hguard
    rw [if_neg hguard] at hm
    split at h
    · cases h
      intro ring hring
      rw [List.mem_singleton.mp hring]
      -- there is room for one ring only
      exact ⟨ha.mono (by omega), hb.mono (by omega)⟩
    · rename_i hreach
      rw [if_neg hreach] at hm
      obtain ⟨count, hcount, rfl⟩ := exists_of_map_eq_ok h
      -- a ring is as far from the wall as its offset says, on both sides
      have hoffset : ∀ offset ∈ Scalar.min a b ::
          (List.range count).reverse.map fun i => Scalar.ofNat i * c, Within (j + 1) offset := by
        refine List.forall_mem_cons.mpr ⟨(ha.min hb).mono (by omega), fun offset hmem => ?_⟩
        obtain ⟨n, hn, rfl⟩ := List.mem_map.mp hmem
        have hn := List.mem_range.mp (List.mem_reverse.mp hn)
        exact (hm _ (List.mem_singleton_self _)).within (ha.min hb) hcount hn (by omega)
      intro ring hring
      obtain ⟨offset, hmem, rfl⟩ := List.mem_map.mp hring
      exact ⟨(ha.mono (by omega)).sub (hoffset offset hmem) (by omega),
        (hb.mono (by omega)).sub (hoffset offset hmem) (by omega)⟩

private theorem within_rasterOffsets {passes : List Float}
    (hm : ∀ stride ∈ rasterStrides a b c, stride.Measured) (ha : Within j a) (hb : Within j b)
    (hj : j + 3 ≤ 1023) (h : Toolpath.rasterOffsets a b c = .ok passes) :
    ∀ y ∈ passes, Within (j + 3) y := by
  unfold Toolpath.rasterOffsets at h
  unfold rasterStrides at hm
  split at h
  -- a single pass stands where the strip begins
  · cases h
    intro y hy
    rw [List.mem_singleton.mp hy]
    exact ha.mono (by omega)
  · rename_i hguard
    rw [if_neg hguard] at hm
    obtain ⟨count, hcount, rfl⟩ := exists_of_map_eq_ok h
    refine List.forall_mem_append.mpr ⟨fun y hy => ?_, fun y hy => ?_⟩
    · obtain ⟨n, hn, rfl⟩ := List.mem_map.mp hy
      -- a pass is at most the whole width from the first, as there are no more steps than fit
      have hn := List.mem_range.mp hn
      have hspan := hb.sub ha (by omega)
      have hsteps := (hm _ (List.mem_singleton_self _)).within hspan hcount hn (by omega)
      exact (ha.mono (by omega)).add hsteps (by omega)
    · rw [List.mem_singleton.mp hy]
      exact hb.mono (by omega)

end Steps

/-! ## Plans -/

/-- The place and the depths of an operation, within a power of two. -/
structure Located (k : ℕ) (op : Operation Float) : Prop where
  x : Within k op.x
  y : Within k op.y
  zStart : Within k op.zStart
  zDepth : Within k op.zDepth

theorem Located.mono {j k : ℕ} {op : Operation Float} (h : Located j op) (hjk : j ≤ k) :
    Located k op where
  x := h.x.mono hjk
  y := h.y.mono hjk
  zStart := h.zStart.mono hjk
  zDepth := h.zDepth.mono hjk

section Plans

variable {j : ℕ} {settings : Settings Float} {stock : Stock Float} {op : Operation Float}
  {plane : Float} {moves : List Move}

private theorem hasDigits_within (settings : Settings Float) {x : Float} (h : Within j x) :
    hasDigits (settings.coordinate x) = true :=
  hasDigits_coordinate settings h.isFinite

private theorem hasDigits_cutZ (settings : Settings Float) {z : Float} (h : Within j z) :
    (Move.cutZ (settings.coordinate z)).HasDigits :=
  List.forall_mem_singleton.mpr (hasDigits_within settings h)

private theorem hasDigits_cutTo (settings : Settings Float) {x y : Float} (hx : Within j x)
    (hy : Within j y) : (Move.cutTo (settings.place ⟨x, y⟩)).HasDigits :=
  List.forall_mem_cons.mpr ⟨hasDigits_within settings hx,
    List.forall_mem_singleton.mpr (hasDigits_within settings hy)⟩

private theorem hasDigits_cutArc (settings : Settings Float) (clockwise : Bool)
    {x y centerX centerY : Float} (hx : Within j x) (hy : Within j y) (hcx : Within j centerX)
    (hcy : Within j centerY) :
    (Move.cutArc clockwise (settings.place ⟨x, y⟩) (settings.coordinate centerX)
      (settings.coordinate centerY)).HasDigits := by
  have hplace := hasDigits_cutTo settings hx hy
  refine List.forall_mem_append.mpr ⟨hplace, ?_⟩
  refine List.forall_mem_cons.mpr ⟨hasDigits_within settings hcx, ?_⟩
  exact List.forall_mem_singleton.mpr (hasDigits_within settings hcy)

private theorem pecks_hasDigits (hretract : Within j settings.peckRetract)
    (hplane : Within (j + 1) plane) (hj : j + 1 ≤ 1023) {layers : List Float}
    (hlayers : ∀ z ∈ layers, Within j z) :
    ∀ step ∈ drillPlan.pecks settings plane layers, step.HasDigits := by
  induction layers with
  | nil => exact List.forall_mem_nil _
  | cons z rest ih =>
    obtain ⟨hz, hrest⟩ := List.forall_mem_cons.mp hlayers
    cases rest with
    | nil => exact List.forall_mem_singleton.mpr (hasDigits_cutZ settings hz)
    | cons next rest =>
      rw [drillPlan.pecks]
      · refine List.forall_mem_cons.mpr
          ⟨hasDigits_cutZ settings hz, List.forall_mem_append.mpr ⟨?_, ih hrest⟩⟩
        -- between two pecks the tool may be lifted, but not above the plane
        split
        · have hlift := (hz.add hretract hj).min hplane
          exact List.forall_mem_singleton.mpr
            (List.forall_mem_singleton.mpr (hasDigits_within settings hlift))
        · exact List.forall_mem_nil _
      · simp

private theorem drill_hasDigits (hop : Located j op) (hretract : Within j settings.peckRetract)
    (hplane : Within (j + 4) plane) (hj : j + 4 ≤ 1023)
    (hm : ∀ stride ∈ depthStrides op.zStart op.zDepth op.stepDown, stride.Measured)
    (h : drillPlan settings op plane = .ok moves) : ∀ step ∈ moves, step.HasDigits := by
  obtain ⟨layers, hlayers, rfl⟩ := exists_of_map_eq_ok h
  refine List.forall_mem_cons.mpr ⟨hasDigits_cutTo settings hop.x hop.y, ?_⟩
  exact pecks_hasDigits (hretract.mono (by omega)) hplane hj
    (within_depthLayers hm hop.zStart hop.zDepth (by omega) hlayers)

private theorem layers_hasDigits {cuts : List Move} (hcuts : ∀ step ∈ cuts, step.HasDigits)
    {layers : List Float} (hlayers : ∀ z ∈ layers, Within j z) :
    ∀ step ∈ layers.flatMap fun z => Move.cutZ (settings.coordinate z) :: cuts,
      step.HasDigits := by
  intro step hmem
  -- on every layer the tool goes down first, and then along
  obtain ⟨z, hz, hstep⟩ := List.mem_flatMap.mp hmem
  rcases List.mem_cons.mp hstep with rfl | hcut
  · exact hasDigits_cutZ settings (hlayers z hz)
  · exact hcuts step hcut

private theorem ring_hasDigits (hop : Located j op) {radius : Float} (hradius : Within j radius)
    (hj : j + 1 ≤ 1023) : ∀ step ∈ ring settings op radius, step.HasDigits := by
  have hx := hop.x.add hradius hj
  have hy := hop.y.mono (Nat.le_succ j)
  have hcenter := hradius.neg.mono (Nat.le_succ j)
  refine List.forall_mem_cons.mpr ⟨hasDigits_cutTo settings hx hy, ?_⟩
  exact List.forall_mem_singleton.mpr (hasDigits_cutArc settings false hx hy hcenter .zero)

private theorem circularPocket_hasDigits {diameter : Float} (hop : Located j op)
    (hdiameter : Within j diameter) (htool : Within j op.toolDiameter) (hj : j + 3 ≤ 1023)
    (hm : ∀ stride ∈ ringStrides (Scalar.half diameter - Scalar.half op.toolDiameter)
      (op.toolDiameter * settings.pocketStepover) ++
        depthStrides op.zStart op.zDepth op.stepDown, stride.Measured)
    (h : circularPocketPlan settings op diameter = .ok moves) :
    ∀ step ∈ moves, step.HasDigits := by
  obtain ⟨hrings, hdepths⟩ := List.forall_mem_append.mp hm
  obtain ⟨radii, hradii, h⟩ := exists_of_bind_eq_ok h
  obtain ⟨layers, hlayers, h⟩ := exists_of_bind_eq_ok h
  obtain rfl := Except.ok.inj h
  -- the outermost ring leaves room for the tool
  have hlimit := (hdiameter.half (by omega)).sub (htool.half (by omega)) (by omega)
  have hradius := within_ringRadii hrings hlimit (by omega) hradii
  refine List.forall_mem_cons.mpr ⟨hasDigits_cutTo settings hop.x hop.y, ?_⟩
  refine layers_hasDigits (List.forall_mem_append.mpr ⟨?_, ?_⟩)
    (within_depthLayers hdepths hop.zStart hop.zDepth hj hlayers)
  · intro step hmem
    obtain ⟨radius, hmem, hstep⟩ := List.mem_flatMap.mp hmem
    exact ring_hasDigits (hop.mono (by omega)) (hradius radius hmem) (by omega) step hstep
  · split
    · exact List.forall_mem_nil _
    · exact List.forall_mem_singleton.mpr (hasDigits_cutTo settings hop.x hop.y)

private theorem mem_of_mem_visited {current place : Place} {places : List Place}
    (h : place ∈ visited current places) : place ∈ places := by
  induction places generalizing current with
  | nil => cases h
  | cons next rest ih =>
    rw [visited] at h
    split at h
    · -- a place where the tool stands already is left out
      exact List.mem_cons_of_mem _ (ih h)
    · rcases List.mem_cons.mp h with rfl | hrest
      · exact List.mem_cons_self
      · exact List.mem_cons_of_mem _ (ih hrest)

private theorem corners_within {center : Point Float} {halfX halfY : Float}
    (hx : Within j center.x) (hy : Within j center.y) (hhalfX : Within j halfX)
    (hhalfY : Within j halfY) (hj : j + 1 ≤ 1023) :
    ∀ corner ∈ corners center halfX halfY, Within (j + 1) corner.x ∧ Within (j + 1) corner.y := by
  simp only [corners, List.forall_mem_cons]
  have hleft := hx.sub hhalfX hj
  have hright := hx.add hhalfX hj
  have hfront := hy.sub hhalfY hj
  have hback := hy.add hhalfY hj
  exact ⟨⟨hleft, hfront⟩, ⟨hright, hfront⟩, ⟨hright, hback⟩, ⟨hleft, hback⟩, ⟨hleft, hfront⟩,
    List.forall_mem_nil _⟩

private theorem rectangularPocket_hasDigits {width length : Float} (hop : Located j op)
    (hwidth : Within j width) (hlength : Within j length) (htool : Within j op.toolDiameter)
    (hj : j + 4 ≤ 1023)
    (hm : ∀ stride ∈ rectangleStrides (Scalar.half width - Scalar.half op.toolDiameter)
      (Scalar.half length - Scalar.half op.toolDiameter)
        (op.toolDiameter * settings.pocketStepover) ++
          depthStrides op.zStart op.zDepth op.stepDown, stride.Measured)
    (h : rectangularPocketPlan settings op width length = .ok moves) :
    ∀ step ∈ moves, step.HasDigits := by
  obtain ⟨hrings, hdepths⟩ := List.forall_mem_append.mp hm
  obtain ⟨rings, hfound, h⟩ := exists_of_bind_eq_ok h
  obtain ⟨layers, hlayers, h⟩ := exists_of_bind_eq_ok h
  obtain rfl := Except.ok.inj h
  have hradius := htool.half (by omega)
  have hhalf := within_rectangleRings hrings ((hwidth.half (by omega)).sub hradius (by omega))
    ((hlength.half (by omega)).sub hradius (by omega)) (by omega) hfound
  refine List.forall_mem_cons.mpr ⟨hasDigits_cutTo settings hop.x hop.y, ?_⟩
  refine layers_hasDigits ?_ (within_depthLayers hdepths hop.zStart hop.zDepth (by omega) hlayers)
  intro step hmem
  obtain ⟨place, hplace, rfl⟩ := List.mem_map.mp hmem
  -- a place to visit is a corner of some ring, or the centre that the tool returns to
  rcases List.mem_append.mp (mem_of_mem_visited hplace) with htarget | hcenter
  · obtain ⟨⟨halfX, halfY⟩, hring, htarget⟩ := List.mem_flatMap.mp htarget
    obtain ⟨corner, hcorner, rfl⟩ := List.mem_map.mp htarget
    obtain ⟨hhalfX, hhalfY⟩ := hhalf _ hring
    obtain ⟨hx, hy⟩ := corners_within (hop.x.mono (by omega)) (hop.y.mono (by omega)) hhalfX hhalfY
      (by omega) corner hcorner
    exact hasDigits_cutTo settings hx hy
  · rw [List.mem_singleton.mp hcenter]
    exact hasDigits_cutTo settings hop.x hop.y

private theorem facePasses_hasDigits {near far : Float} (hnear : Within j near)
    (hfar : Within j far) {passes : List Float} (hpasses : ∀ y ∈ passes, Within j y) :
    ∀ step ∈ facePasses settings near far passes, step.HasDigits := by
  induction passes generalizing near far with
  | nil => exact List.forall_mem_nil _
  | cons y rest ih =>
    obtain ⟨hy, hrest⟩ := List.forall_mem_cons.mp hpasses
    rw [facePasses]
    refine List.forall_mem_cons.mpr ⟨?_, List.forall_mem_cons.mpr ⟨?_, ?_⟩⟩
    · exact List.forall_mem_singleton.mpr (hasDigits_within settings hy)
    · exact List.forall_mem_singleton.mpr (hasDigits_within settings hnear)
    · -- the next pass goes the other way
      exact ih hfar hnear hrest

/-- The outline of a stock, within a power of two. -/
structure Outlined (k : ℕ) (stock : Stock Float) : Prop where
  xMin : Within k stock.footprint.xMin
  yMin : Within k stock.footprint.yMin
  xMax : Within k stock.footprint.xMax
  yMax : Within k stock.footprint.yMax

private theorem faceMill_hasDigits (hop : Located j op) (hstock : Outlined j stock)
    (htool : Within j op.toolDiameter) (hj : j + 3 ≤ 1023)
    (hm : ∀ stride ∈ rasterStrides stock.footprint.yMin stock.footprint.yMax
      (op.toolDiameter * (Scalar.ofNat 1 - settings.faceOverlap)), stride.Measured)
    (h : faceMillPlan settings stock op = .ok moves) : ∀ step ∈ moves, step.HasDigits := by
  obtain ⟨passes, hfound, rfl⟩ := exists_of_map_eq_ok h
  have hpasses := within_rasterOffsets hm hstock.yMin hstock.yMax hj hfound
  -- the passes reach beyond the stock by the radius of the tool
  have hradius := htool.half (by omega)
  have hlow := (hstock.xMin.sub hradius (by omega)).mono (show j + 1 ≤ j + 3 by omega)
  have hhigh := (hstock.xMax.add hradius (by omega)).mono (show j + 1 ≤ j + 3 by omega)
  cases passes with
  | nil => exact List.forall_mem_nil _
  | cons first rest =>
    obtain ⟨hfirst, hrest⟩ := List.forall_mem_cons.mp hpasses
    refine List.forall_mem_cons.mpr ⟨hasDigits_cutTo settings hlow hfirst, ?_⟩
    refine List.forall_mem_cons.mpr ⟨hasDigits_cutZ settings hop.zDepth, ?_⟩
    refine List.forall_mem_cons.mpr ⟨?_, facePasses_hasDigits hlow hhigh hrest⟩
    exact List.forall_mem_singleton.mpr (hasDigits_within settings hhigh)

end Plans

/-! ## Arcs -/

section Arcs

variable {k : ℕ} {settings : Settings Float} {start : Point Float} {segment : Segment Float}

private theorem within_one : Within 0 (Scalar.ofNat 1) := ⟨1, hasValue_one, by norm_num⟩

private theorem exists_hasValue_chord {chord : Float} (h : Within k chord)
    (hlong : Scalar.lt chord Segment.leastChord = false) :
    ∃ q, HasValue chord q ∧ 1 ≤ 2 ^ 40 * q := by
  obtain ⟨q, hq, -⟩ := h
  have hbinary : Binary64.ofFloat (Segment.leastChord : Float) =
      .finite false 4951760157141521 (-92) := by rfl
  have hleast := Extended.ofRat_le_ofRat.mp
    (value_le_of_lt_eq_false hq (congrArg Binary64.value? hbinary) hlong)
  -- the least chord is longer than `2 ^ (-40)`
  refine ⟨q, hq, le_trans ?_ (mul_le_mul_of_nonneg_left hleast (by positivity))⟩
  norm_num [signed]

private theorem atLeastZero_max {x : Float} (h : Within k x) :
    AtLeastZero (Scalar.max x Scalar.zero) := by
  obtain ⟨q, hq, -⟩ := h
  unfold Scalar.max
  split
  · exact ⟨_, hasValue_zero, le_rfl⟩
  · rename_i hlt
    exact hq.isNumber.atLeastZero_of_lt (Bool.eq_false_iff.mpr hlt)

/-- The centre that follows from a radius is not far away, since the chord is not too short. -/
private theorem within_centerByRadius {radius : Float} {center : Point Float}
    (hstartX : Within k start.x) (hstartY : Within k start.y) (hx : Within k segment.x)
    (hy : Within k segment.y) (hradius : Within k radius) (hk : 2 * k + 47 ≤ 1023)
    (h : segment.centerByRadius start radius = some center) :
    Within (2 * k + 46) center.x ∧ Within (2 * k + 46) center.y := by
  have hdx := hx.sub hstartX (by omega)
  have hdy := hy.sub hstartY (by omega)
  have hchord := hdx.hypot hdy (by omega)
  unfold Segment.centerByRadius at h
  dsimp only at h
  generalize segment.x - start.x = dx at hdx hchord h
  generalize segment.y - start.y = dy at hdy hchord h
  generalize Scalar.hypot dx dy = chord at hchord h
  split at h
  · cases h
  rename_i hlong
  obtain ⟨length, hlength, hlong⟩ := exists_hasValue_chord hchord (Bool.eq_false_iff.mpr hlong)
  have hhalf := hchord.half (by omega)
  have hr := (hradius.abs.mono (show k ≤ k + 1 + 2 by omega)).max hhalf
  -- the height is the root of a difference of squares
  have hsquares := (hr.mul hr (by omega)).sub (hhalf.mul hhalf (by omega)) (by omega)
  have hheight := ((hsquares.max .zero).mono (show _ ≤ 2 * (k + 4) by omega)).sqrt
    (atLeastZero_max hsquares) (by omega)
  have hdirection : Within 0 (if segment.isClockwise then -(Scalar.ofNat 1 : Float)
      else Scalar.ofNat 1) := by
    split
    · exact within_one.neg
    · exact within_one
  have hside : Within 0 (if Scalar.lt radius Scalar.zero then
      -(if segment.isClockwise then -(Scalar.ofNat 1 : Float) else Scalar.ofNat 1)
      else if segment.isClockwise then -(Scalar.ofNat 1) else Scalar.ofNat 1) := by
    split
    · exact hdirection.neg
    · exact hdirection
  have hreach := hside.mul hheight (by omega)
  obtain rfl := Option.some.inj h
  -- from the middle of the chord one goes to the side by the height
  constructor
  · have hmiddle := (hstartX.mono (Nat.le_succ k)).add (hdx.half (by omega)) (by omega)
    have hoffset := hreach.mul (hdy.neg.div hlength hlong (by omega)) (by omega)
    exact ((hmiddle.mono (by omega)).add hoffset (by omega)).mono (by omega)
  · have hmiddle := (hstartY.mono (Nat.le_succ k)).add (hdy.half (by omega)) (by omega)
    have hoffset := hreach.mul (hdx.div hlength hlong (by omega)) (by omega)
    exact ((hmiddle.mono (by omega)).add hoffset (by omega)).mono (by omega)

/-- A written centre that fits both ends of an arc is finite. -/
private theorem isFinite_of_fitsCenter {center : Point Float}
    (h : segment.fitsCenter start center Segment.tolerance = true) :
    Scalar.isFinite center.x = true ∧ Scalar.isFinite center.y = true := by
  have hbinary : Binary64.ofFloat (Segment.tolerance : Float) =
      .finite false 4611686018427388 (-62) := by rfl
  have hclose := (Bool.and_eq_true_iff.mp h).2
  have hdistance := (isFinite_of_isFinite_sub
    (isFinite_of_abs_le (congrArg Binary64.value? hbinary) hclose)).1
  obtain ⟨hx, hy⟩ := isFinite_of_isFinite_hypot hdistance
  exact ⟨(isFinite_of_isFinite_sub hx).2, (isFinite_of_isFinite_sub hy).2⟩

private theorem mem_numbers_of_explicitCenter? {center : Point Float}
    (h : segment.explicitCenter? = some center) :
    center.x ∈ segment.numbers ∧ center.y ∈ segment.numbers := by
  unfold Segment.explicitCenter? at h
  split at h
  · rename_i cx cy hcx hcy
    obtain rfl := Option.some.inj h
    simp [Segment.numbers, hcx, hcy]
  · cases h

/-- An arc that is cut about a written centre is cut about a finite one. -/
private theorem isFinite_of_isWellFormed {center : Point Float} (harc : segment.isArc = true)
    (hcenter : segment.explicitCenter? = some center)
    (h : segment.isWellFormed start Segment.tolerance = true) :
    Scalar.isFinite center.x = true ∧ Scalar.isFinite center.y = true := by
  unfold Segment.isWellFormed at h
  rw [hcenter, harc] at h
  exact isFinite_of_fitsCenter (Bool.and_eq_true_iff.mp h).2

private theorem within_center {center : Point Float}
    (hstartX : Within k start.x) (hstartY : Within k start.y)
    (hx : Within k segment.x) (hy : Within k segment.y)
    (hnumbers : FinitesWithin k segment.numbers)
    (hk : 2 * k + 47 ≤ 1023) (hcenter : segment.center? start = some center)
    (hfits : (segment.explicitCenter?.isNone ||
      segment.isWellFormed start Segment.tolerance) = true) :
    Within (2 * k + 46) center.x ∧ Within (2 * k + 46) center.y := by
  unfold Segment.center? at hcenter
  split at hcenter
  · rename_i harc
    cases hwritten : segment.explicitCenter? with
    | some written =>
      -- a written centre is one of the numbers themselves, and the ends of the arc fit to it
      rw [hwritten] at hcenter hfits
      obtain rfl := Option.some.inj hcenter
      obtain ⟨hmemX, hmemY⟩ := mem_numbers_of_explicitCenter? hwritten
      obtain ⟨hfiniteX, hfiniteY⟩ := isFinite_of_isWellFormed harc hwritten hfits
      exact ⟨(hnumbers _ hmemX hfiniteX).mono (by omega),
        (hnumbers _ hmemY hfiniteY).mono (by omega)⟩
    | none =>
      -- any other follows from the radius, which was looked at before
      rw [hwritten] at hcenter
      obtain ⟨radius, hradius, hcenter⟩ := Option.bind_eq_some_iff.mp hcenter
      obtain ⟨hradius, husable⟩ := Option.filter_eq_some_iff.mp hradius
      have hmem : radius ∈ segment.numbers := by simp [Segment.numbers, hradius]
      have hradius := hnumbers radius hmem (Bool.and_eq_true_iff.mp husable).2
      exact within_centerByRadius hstartX hstartY hx hy hradius hk hcenter
  · cases hcenter

private theorem segmentMove_hasDigits
    (hstartX : Within k start.x) (hstartY : Within k start.y)
    (hx : Within k segment.x) (hy : Within k segment.y)
    (hnumbers : FinitesWithin k segment.numbers)
    (hk : 2 * k + 47 ≤ 1023) : (segmentMove settings start segment).HasDigits := by
  have hline := hasDigits_cutTo settings hx hy
  unfold segmentMove
  dsimp only
  split
  · -- an arc: its centre is not far from its ends, as it has to fit them
    rename_i center hcenter
    split
    · rename_i hfits
      obtain ⟨hcx, hcy⟩ := within_center hstartX hstartY hx hy hnumbers hk hcenter hfits
      exact hasDigits_cutArc settings _ (hx.mono (by omega)) (hy.mono (by omega))
        (hcx.sub (hstartX.mono (by omega)) (by omega))
        (hcy.sub (hstartY.mono (by omega)) (by omega))
    · exact hline
  · exact hline

private theorem chain_hasDigits (hstartX : Within k start.x) (hstartY : Within k start.y)
    {segments : List (Segment Float)}
    (hnumbers : ∀ segment ∈ segments, FinitesWithin k segment.numbers)
    (hk : 2 * k + 47 ≤ 1023) : ∀ step ∈ chain settings start segments, step.HasDigits := by
  induction segments generalizing start with
  | nil => exact List.forall_mem_nil _
  | cons segment rest ih =>
    obtain ⟨hsegment, hrest⟩ := List.forall_mem_cons.mp hnumbers
    rw [chain]
    -- the tool stands at a finite position all the time, as a segment that ends nowhere is left out
    split
    · rename_i hfinite
      obtain ⟨hfiniteX, hfiniteY⟩ := Bool.and_eq_true_iff.mp hfinite
      have hx := hsegment segment.x (by simp [Segment.numbers]) hfiniteX
      have hy := hsegment segment.y (by simp [Segment.numbers]) hfiniteY
      exact List.forall_mem_cons.mpr
        ⟨segmentMove_hasDigits hstartX hstartY hx hy hsegment hk, ih hx hy hrest⟩
    · exact List.forall_mem_cons.mpr ⟨List.forall_mem_nil _, ih hstartX hstartY hrest⟩

end Arcs

/-! ## All plans -/

section Sizes

variable {j k : ℕ} {settings : Settings Float} {stock : Stock Float} {op : Operation Float}

theorem FinitesWithin.located (h : FinitesWithin j op.sizes) (hpassed : Passed stock op) :
    Located j op where
  x := h op.x (by simp [Operation.sizes]) hpassed.x
  y := h op.y (by simp [Operation.sizes]) hpassed.y
  zStart := h op.zStart (by simp [Operation.sizes]) hpassed.zStart
  zDepth := h op.zDepth (by simp [Operation.sizes]) hpassed.zDepth

theorem FinitesWithin.tool (h : FinitesWithin j op.sizes)
    (htool : Scalar.isFinite op.toolDiameter = true) : Within j op.toolDiameter :=
  h op.toolDiameter (by simp [Operation.sizes]) htool

theorem FinitesWithin.feature (h : FinitesWithin j op.sizes) : FinitesWithin j op.feature.sizes :=
  fun x hx => h x (List.mem_append_right _ hx)

theorem FinitesWithin.outlined (h : FinitesWithin j stock.sizes)
    (hstock : stock.isWellFormed = true) (hj : j ≤ 1023) : Outlined j stock := by
  unfold Stock.isWellFormed at hstock
  -- a cylinder reaches as far as its radius on each side, a block from zero to its sizes
  cases hshape : stock.shape with
  | cylindrical =>
    simp only [hshape, Bool.and_eq_true] at hstock
    have hradius := (h stock.diameter (by simp [Stock.sizes]) hstock.2.1).half hj
    constructor <;> simp only [Stock.footprint, hshape]
    · exact hradius.neg
    · exact hradius.neg
    · exact hradius
    · exact hradius
  | rectangular =>
    simp only [hshape, Bool.and_eq_true] at hstock
    constructor <;> simp only [Stock.footprint, hshape]
    · exact .zero
    · exact .zero
    · exact h stock.width (by simp [Stock.sizes]) hstock.2.1.1.1
    · exact h stock.length (by simp [Stock.sizes]) hstock.2.1.1.2

/-- **No position of a plan is infinite where its sizes are not too large.** -/
theorem plan_hasDigits {plane : Float} {moves : List Move} (hpassed : Passed stock op)
    (hop : FinitesWithin j op.sizes) (harcs : FinitesWithin k op.arcNumbers)
    (hstock : FinitesWithin j stock.sizes) (hretract : Within j settings.peckRetract)
    (hplane : Within (j + 4) plane) (hj : j + 4 ≤ 1023) (hk : 2 * k + 47 ≤ 1023)
    (hm : ∀ stride ∈ featureStrides settings stock op, stride.Measured)
    (h : plan settings stock op plane = .ok moves) : ∀ step ∈ moves, step.HasDigits := by
  -- the bounds of the operation are those of its places, its sizes and its tool
  have hplaced := hop.located hpassed
  have hsizes := hop.feature
  unfold plan at h
  unfold featureStrides at hm
  dsimp only at hm
  cases hfeature : op.feature with
  | drill diameter =>
    rw [hfeature] at h hm
    exact drill_hasDigits hplaced hretract hplane hj hm h
  | circularPocket diameter =>
    obtain ⟨htool, hdiameter, hroom⟩ := hpassed.circularPocket hfeature
    rw [hfeature] at h hm hsizes
    -- a tool that fits into the pocket is finite too
    have htool := isFinite_iff.mpr (exists_hasValue_of_fits htool hdiameter hroom)
    exact circularPocket_hasDigits hplaced (hsizes _ (List.mem_singleton_self _) hdiameter)
      (hop.tool htool) (by omega) hm h
  | rectangularPocket width length =>
    obtain ⟨htool, hsize, hroom⟩ := hpassed.rectangularPocket hfeature
    rw [hfeature] at h hm hsizes
    -- neither is the tool wider than the lesser side
    obtain ⟨hwidth, hlength⟩ := isFinite_of_isFinite_add hsize
    have hleast := Scalar.isFinite_min hwidth hlength
    have htool := isFinite_iff.mpr (exists_hasValue_of_fits htool hleast hroom)
    exact rectangularPocket_hasDigits hplaced (hsizes width (by simp [Feature.sizes]) hwidth)
      (hsizes length (by simp [Feature.sizes]) hlength) (hop.tool htool) hj hm h
  | faceMill =>
    obtain ⟨htool, -, hwell⟩ := hpassed.faceMill hfeature
    rw [hfeature] at h hm
    exact faceMill_hasDigits hplaced (hstock.outlined hwell (by omega)) (hop.tool htool) (by omega)
      hm h
  | contour segments =>
    unfold Operation.arcNumbers at harcs
    rw [hfeature] at h harcs
    obtain rfl := Except.ok.inj h
    -- a contour has no layers, but its arcs have centres, with bounds of their own
    obtain ⟨hstart, hsegments⟩ := List.forall_mem_append.mp harcs
    have hx := hstart op.x (by simp) hpassed.x
    have hy := hstart op.y (by simp) hpassed.y
    have hchain : ∀ segment ∈ segments, FinitesWithin k segment.numbers :=
      fun segment hmem x hx => hsegments x (List.mem_flatMap.mpr ⟨segment, hmem, hx⟩)
    refine List.forall_mem_cons.mpr ⟨hasDigits_cutTo settings hx hy, ?_⟩
    refine List.forall_mem_cons.mpr ⟨hasDigits_cutZ settings hplaced.zDepth, ?_⟩
    exact chain_hasDigits hx hy hchain hk
  | unknown =>
    rw [hfeature] at h
    cases h
    exact List.forall_mem_nil _

end Sizes

end Machining.Program
