import Mathlib.Analysis.Complex.Norm
import Machining.Proofs.Numeric.ExactNumbers
import Machining.Proofs.Program.Path

/-!
# Contours

A contour is cut segment by segment, each from where the tool has got to.  A segment whose end
point is no point is dropped, and an arc without a centre that serves is cut straight; the segments
behind it do not notice.  This module shows that the lines of a contour follow its segments one by
one, that each is cut from the end point of the last one before it that was not dropped
(`Segment.reached`), and that every arc is about a point that is equally far from both of its ends,
but for the tolerance.

What is said of the moves holds in any numbers (`CutsSegment`).  That a centre fits is shown in
exact arithmetic, of jobs in which any field may be infinite or no number.
-/

namespace Machining.Job

open Machining.Numeric

/-- The code of the moves on a course. -/
def Course.code : Course → String
  | line => "G1 "
  | clockwise => "G2 "
  | counterClockwise => "G3 "

namespace Segment

variable {α : Type} [Scalar α]

/-- Whether the segment ends at a point. -/
def hasFinish (segment : Segment α) : Bool :=
  Scalar.isFinite segment.x && Scalar.isFinite segment.y

/-- The centre of an arc from `start`, if it serves: a written one has to fit both ends. -/
def servingCenter? (segment : Segment α) (start : Point α) : Option (Point α) :=
  (segment.center? start).filter fun _ =>
    segment.explicitCenter?.isNone || segment.isWellFormed start tolerance

/-- The end point of the last of some segments that has one, or the start point. -/
def reached (start : Point α) (segments : List (Segment α)) : Point α :=
  ((segments.filter hasFinish).map finish).getLastD start

theorem reached_nil (start : Point α) : reached start ([] : List (Segment α)) = start := rfl

theorem reached_cons_of_hasFinish {segment : Segment α} (h : segment.hasFinish = true)
    (start : Point α) (rest : List (Segment α)) :
    reached start (segment :: rest) = reached segment.finish rest := by
  rw [reached, List.filter_cons_of_pos h, List.map_cons, List.getLastD_cons]
  rfl

theorem reached_cons_of_not_hasFinish {segment : Segment α} (h : segment.hasFinish = false)
    (start : Point α) (rest : List (Segment α)) :
    reached start (segment :: rest) = reached start rest := by
  rw [reached, List.filter_cons_of_neg (Bool.eq_false_iff.mp h)]
  rfl

/-- Only arcs have a centre. -/
theorem ne_line_of_servingCenter? {segment : Segment α} {start center : Point α}
    (h : segment.servingCenter? start = some center) : segment.course ≠ .line := by
  rintro hline
  have hnone : segment.center? start = none := by
    simp [center?, isArc, hline]
  rw [servingCenter?, hnone] at h
  cases h

end Segment

end Machining.Job

namespace Machining.Program

open Machining.Numeric Machining.Job

variable {α : Type} [Scalar α]

/-! ## Segment by segment -/

/-- How a segment is cut from `start`. -/
inductive CutsSegment (settings : Settings α) (start : Point α) (segment : Segment α) :
    Move → Prop where
  /-- Without an end point it is not. -/
  | dropped (hfinish : segment.hasFinish = false) : CutsSegment settings start segment .dropped
  /-- Without a centre it is cut straight to its end point. -/
  | straight (hfinish : segment.hasFinish = true)
      (hcenter : segment.servingCenter? start = none) :
      CutsSegment settings start segment (.cutTo (settings.place segment.finish))
  /-- Otherwise it is cut about its centre, in its own direction. -/
  | arc (hfinish : segment.hasFinish = true) {center : Point α}
      (hcenter : segment.servingCenter? start = some center) :
      CutsSegment settings start segment
        (.cutArc segment.isClockwise (settings.place segment.finish)
          (settings.coordinate (center.x - start.x)) (settings.coordinate (center.y - start.y)))

variable {settings : Settings α} {stock : Stock α} {op : Operation α} {start : Point α}
  {segment : Segment α} {segments : List (Segment α)}

/-- A segment is cut about the centre that serves, or straight. -/
theorem segmentMove_eq (settings : Settings α) (start : Point α) (segment : Segment α) :
    segmentMove settings start segment =
      (segment.servingCenter? start).elim (.cutTo (settings.place segment.finish)) fun center =>
        .cutArc segment.isClockwise (settings.place segment.finish)
          (settings.coordinate (center.x - start.x))
          (settings.coordinate (center.y - start.y)) := by
  unfold segmentMove Segment.servingCenter?
  dsimp only
  cases segment.center? start with
  | none => rfl
  | some center =>
    -- both sides ask the same of the centre
    rw [Option.filter_some]
    cases segment.explicitCenter?.isNone || segment.isWellFormed start Segment.tolerance <;> rfl

theorem cutsSegment_segmentMove (settings : Settings α) (start : Point α)
    (h : segment.hasFinish = true) :
    CutsSegment settings start segment (segmentMove settings start segment) := by
  rw [segmentMove_eq]
  cases hcenter : segment.servingCenter? start with
  | none => exact .straight h hcenter
  | some center => exact .arc h hcenter

theorem chain_cons_of_hasFinish (h : segment.hasFinish = true) (settings : Settings α)
    (start : Point α) (rest : List (Segment α)) :
    chain settings start (segment :: rest) =
      segmentMove settings start segment :: chain settings segment.finish rest :=
  if_pos h

theorem chain_cons_of_not_hasFinish (h : segment.hasFinish = false) (settings : Settings α)
    (start : Point α) (rest : List (Segment α)) :
    chain settings start (segment :: rest) = .dropped :: chain settings start rest :=
  if_neg (Bool.eq_false_iff.mp h)

theorem length_chain (settings : Settings α) (start : Point α) (segments : List (Segment α)) :
    (chain settings start segments).length = segments.length := by
  induction segments generalizing start with
  | nil => rfl
  | cons segment rest ih =>
    cases hfinish : segment.hasFinish with
    | true => rw [chain_cons_of_hasFinish hfinish, List.length_cons, ih, List.length_cons]
    | false => rw [chain_cons_of_not_hasFinish hfinish, List.length_cons, ih, List.length_cons]

/-- Every segment is cut from the point that was reached before it. -/
theorem cutsSegment_of_chain {k : ℕ} {step : Move} (hsegment : segments[k]? = some segment)
    (hstep : (chain settings start segments)[k]? = some step) :
    CutsSegment settings (Segment.reached start (segments.take k)) segment step := by
  induction segments generalizing start k with
  | nil => cases hsegment
  | cons first rest ih =>
    cases hfinish : first.hasFinish with
    | true =>
      rw [chain_cons_of_hasFinish hfinish] at hstep
      cases k with
      | zero =>
        cases hsegment
        cases hstep
        exact cutsSegment_segmentMove settings start hfinish
      | succ k =>
        rw [List.take_succ_cons, Segment.reached_cons_of_hasFinish hfinish]
        exact ih hsegment hstep
    | false =>
      rw [chain_cons_of_not_hasFinish hfinish] at hstep
      cases k with
      | zero =>
        cases hsegment
        cases hstep
        exact .dropped hfinish
      | succ k =>
        -- the next segment starts where this one would have
        rw [List.take_succ_cons, Segment.reached_cons_of_not_hasFinish hfinish]
        exact ih hsegment hstep

/-- A segment that is cut ends where its end point is printed. -/
theorem goesTo_segmentMove (settings : Settings α) (start : Point α) (segment : Segment α)
    (here : Place) :
    (segmentMove settings start segment).goesTo here = settings.place segment.finish := by
  rw [segmentMove_eq]
  cases segment.servingCenter? start <;> rfl

/-- The tool is where the point that was reached is printed. -/
theorem arrive_chain (settings : Settings α) (start : Point α) (segments : List (Segment α))
    (k : ℕ) :
    arrive (settings.place start) ((chain settings start segments).take k) =
      settings.place (Segment.reached start (segments.take k)) := by
  induction segments generalizing start k with
  | nil => simp [chain, arrive, Segment.reached_nil]
  | cons first rest ih =>
    cases k with
    | zero => rfl
    | succ k =>
      -- a segment without an end moves nowhere, and has no part in either side
      cases hfinish : first.hasFinish with
      | true =>
        rw [chain_cons_of_hasFinish hfinish, List.take_succ_cons, List.take_succ_cons,
          Segment.reached_cons_of_hasFinish hfinish, ← ih]
        change arrive ((segmentMove settings start first).goesTo _) _ = _
        rw [goesTo_segmentMove]
      | false =>
        rw [chain_cons_of_not_hasFinish hfinish, List.take_succ_cons, List.take_succ_cons,
          Segment.reached_cons_of_not_hasFinish hfinish, ← ih]
        rfl

/-! ## On paper -/

/-- What stands on the line of a segment: a remark, or a move to the end point, straight or with the
code of the segment's own course. -/
inductive Written (settings : Settings α) (segment : Segment α) : String → Prop where
  | remark (hfinish : segment.hasFinish = false) :
      Written settings segment "; segment dropped: non-finite end point"
  | straight (hfinish : segment.hasFinish = true) :
      Written settings segment (Course.line.code ++ (settings.place segment.finish).text)
  | arc (hfinish : segment.hasFinish = true) (hcourse : segment.course ≠ .line) (i j : Fixed) :
      Written settings segment
        (segment.course.code ++ (settings.place segment.finish).text ++ " I" ++ i.text ++
          " J" ++ j.text)

theorem CutsSegment.written {step : Move} (h : CutsSegment settings start segment step) :
    Written settings segment (Line.move step none).text := by
  cases h with
  | dropped hfinish => exact .remark hfinish
  | straight hfinish => exact .straight hfinish
  | arc hfinish hcenter =>
    have hcourse := Segment.ne_line_of_servingCenter? hcenter
    -- an arc has one of the two courses, as lines have no centre
    have hcode : (if segment.isClockwise then "G2 " else "G3 ") = segment.course.code := by
      unfold Segment.isClockwise
      cases hname : segment.course with
      | line => exact absurd hname hcourse
      | clockwise | counterClockwise => rfl
    unfold Line.text
    dsimp only [Move.text]
    rw [hcode]
    exact .arc hfinish hcourse _ _

/-! ## Centres -/

/-- A point among exact numbers. -/
def exactPoint (point : Point ℝ) : Point ExactNumber := ⟨.real point.x, .real point.y⟩

/-- `FitsEnds start finish center`: all three are points, and an arc about `center` has its ends at
`start` and `finish`, but for the tolerance. -/
def FitsEnds (start finish center : Point ExactNumber) : Prop :=
  ∃ s f c : Point ℝ, start = exactPoint s ∧ finish = exactPoint f ∧ center = exactPoint c ∧
    |‖c.toComplex - s.toComplex‖ - ‖c.toComplex - f.toComplex‖| ≤ Segment.tolerance

theorem exists_exactPoint {point : Point ExactNumber} (hx : Scalar.isFinite point.x = true)
    (hy : Scalar.isFinite point.y = true) : ∃ p, point = exactPoint p := by
  obtain ⟨x, y⟩ := point
  obtain ⟨x', rfl⟩ := ExactNumber.exists_real_of_isFinite hx
  obtain ⟨y', rfl⟩ := ExactNumber.exists_real_of_isFinite hy
  exact ⟨⟨x', y'⟩, rfl⟩

theorem exists_exactPoint_of_hasFinish {segment : Segment ExactNumber}
    (h : segment.hasFinish = true) : ∃ f, segment.finish = exactPoint f := by
  obtain ⟨hx, hy⟩ := Bool.and_eq_true_iff.mp h
  exact exists_exactPoint hx hy

theorem exists_exactPoint_reached (start : Point ℝ) (segments : List (Segment ExactNumber)) :
    ∃ p, Segment.reached (exactPoint start) segments = exactPoint p := by
  induction segments generalizing start with
  | nil => exact ⟨start, rfl⟩
  | cons segment rest ih =>
    cases hfinish : segment.hasFinish with
    | true =>
      obtain ⟨f, hf⟩ := exists_exactPoint_of_hasFinish hfinish
      rw [Segment.reached_cons_of_hasFinish hfinish, hf]
      exact ih f
    | false =>
      rw [Segment.reached_cons_of_not_hasFinish hfinish]
      exact ih start

theorem hypot_eq_norm (a b : Point ℝ) :
    Scalar.hypot (a.x - b.x) (a.y - b.y) = ‖a.toComplex - b.toComplex‖ := by
  rw [Complex.norm_eq_sqrt_sq_add_sq, sq, sq]
  rfl

theorem distance_exactPoint (a b : Point ℝ) :
    Segment.distance (exactPoint a) (exactPoint b) = .real ‖a.toComplex - b.toComplex‖ := by
  rw [← hypot_eq_norm, Segment.distance, exactPoint, exactPoint, ExactNumber.real_sub,
    ExactNumber.real_sub, ExactNumber.hypot_real]

theorem tolerance_real : (Segment.tolerance : ℝ) = 1 / 10 ^ 3 := by
  change ((1 : ℕ) : ℝ) / 10 ^ 3 = 1 / 10 ^ 3
  rw [Nat.cast_one]

theorem exists_exactPoint_of_distance_eq {s : Point ℝ} {center : Point ExactNumber} {distance : ℝ}
    (h : Segment.distance (exactPoint s) center = .real distance) :
    ∃ c, center = exactPoint c ∧ ‖s.toComplex - c.toComplex‖ = distance := by
  obtain ⟨x, y⟩ := center
  obtain ⟨dx, dy, hdx, hdy, hdistance⟩ := ExactNumber.exists_real_of_hypot_eq h
  obtain ⟨cx, rfl, rfl⟩ := ExactNumber.exists_real_of_sub_eq hdx
  obtain ⟨cy, rfl, rfl⟩ := ExactNumber.exists_real_of_sub_eq hdy
  exact ⟨⟨cx, cy⟩, rfl, (hypot_eq_norm s ⟨cx, cy⟩).symm.trans hdistance⟩

/-- A written centre that passes the check fits both ends. -/
theorem fitsEnds_of_fitsCenter {segment : Segment ExactNumber} {s f : Point ℝ}
    {center : Point ExactNumber} (hf : segment.finish = exactPoint f)
    (h : segment.fitsCenter (exactPoint s) center Segment.tolerance = true) :
    FitsEnds (exactPoint s) (exactPoint f) center := by
  unfold Segment.fitsCenter at h
  dsimp only at h
  obtain ⟨-, hle⟩ := Bool.and_eq_true_iff.mp h
  rw [hf] at hle
  -- their difference is bounded, so both distances are numbers, and the centre is a point
  obtain ⟨atStart, atFinish, hstart, hfinish, hbound⟩ :=
    ExactNumber.exists_real_of_abs_sub_le hle
  obtain ⟨c, rfl, rfl⟩ := exists_exactPoint_of_distance_eq hstart
  rw [distance_exactPoint] at hfinish
  obtain rfl := ExactNumber.real.inj hfinish
  refine ⟨s, f, c, rfl, rfl, rfl, ?_⟩
  rw [norm_sub_rev c.toComplex, norm_sub_rev c.toComplex]
  exact hbound

/-- A point beside the middle of a chord, off it at a right angle, is equally far from its ends. -/
theorem norm_sub_eq_of_beside_middle (s f : Point ℝ) (t : ℝ) {c : Point ℝ}
    (hx : c.x = s.x + (f.x - s.x) / 2 - t * (f.y - s.y))
    (hy : c.y = s.y + (f.y - s.y) / 2 + t * (f.x - s.x)) :
    ‖c.toComplex - s.toComplex‖ = ‖c.toComplex - f.toComplex‖ := by
  rw [Complex.norm_eq_sqrt_sq_add_sq, Complex.norm_eq_sqrt_sq_add_sq]
  congr 1
  change (c.x - s.x) ^ 2 + (c.y - s.y) ^ 2 = (c.x - f.x) ^ 2 + (c.y - f.y) ^ 2
  rw [hx, hy]
  ring

private theorem zero_le_max (x : ℝ) : 0 ≤ Scalar.max x 0 := by
  rw [max_real]
  exact le_max_right x 0

/-- The centre that follows from a radius lies beside the middle of the chord. -/
theorem exists_beside_middle {segment : Segment ExactNumber} {s f : Point ℝ} {radius : ℝ}
    {center : Point ExactNumber} (hf : segment.finish = exactPoint f)
    (h : segment.centerByRadius (exactPoint s) (.real radius) = some center) :
    ∃ c t, center = exactPoint c ∧ c.x = s.x + (f.x - s.x) / 2 - t * (f.y - s.y) ∧
      c.y = s.y + (f.y - s.y) / 2 + t * (f.x - s.x) := by
  have hx : segment.x = .real f.x := congrArg Point.x hf
  have hy : segment.y = .real f.y := congrArg Point.y hf
  have hone : (Scalar.ofNat 1 : ExactNumber) = .real 1 := congrArg ExactNumber.real Nat.cast_one
  have hzero : (Scalar.zero : ExactNumber) = .real 0 := congrArg ExactNumber.real zero_real
  unfold Segment.centerByRadius at h
  rw [hx, hy, hone, hzero] at h
  dsimp only [exactPoint] at h
  split at h
  · -- ends on top of each other have no such centre
    cases h
  · simp only [ExactNumber.real_sub, ExactNumber.hypot_real, ExactNumber.half_real,
      ExactNumber.abs_real, ExactNumber.max_real, ExactNumber.real_mul, ExactNumber.real_neg,
      ExactNumber.real_div, ExactNumber.real_add] at h
    -- neither the side nor the height matters, as long as they are numbers
    obtain ⟨side, hside⟩ : ∃ side,
        (if Scalar.lt (ExactNumber.real radius) (.real 0) = true then
            -if segment.isClockwise = true then ExactNumber.real (-1) else .real 1
          else if segment.isClockwise = true then .real (-1) else .real 1) = .real side := by
      split <;> split <;> exact ⟨_, rfl⟩
    rw [hside, ExactNumber.sqrt_real (zero_le_max _)] at h
    generalize (Scalar.sqrt (Scalar.max _ 0) : ℝ) = height at h
    generalize Scalar.hypot (f.x - s.x) (f.y - s.y) = chord at h
    simp only [ExactNumber.real_mul, ExactNumber.real_add] at h
    cases h
    refine ⟨⟨_, _⟩, side * height / chord, rfl, ?_, ?_⟩
    · simp only [half_real]
      ring
    · simp only [half_real]
      ring

/-- A centre that follows from the radius is equally far from both ends. -/
theorem fitsEnds_of_centerByRadius {segment : Segment ExactNumber} {s f : Point ℝ} {radius : ℝ}
    {center : Point ExactNumber} (hf : segment.finish = exactPoint f)
    (h : segment.centerByRadius (exactPoint s) (.real radius) = some center) :
    FitsEnds (exactPoint s) (exactPoint f) center := by
  obtain ⟨c, t, rfl, hx, hy⟩ := exists_beside_middle hf h
  refine ⟨s, f, c, rfl, rfl, rfl, ?_⟩
  rw [norm_sub_eq_of_beside_middle s f t hx hy, sub_self, abs_zero, tolerance_real]
  positivity

/-- Every centre that serves fits both ends. -/
theorem fitsEnds_of_servingCenter? {segment : Segment ExactNumber} {s : Point ℝ}
    {center : Point ExactNumber} (hfinish : segment.hasFinish = true)
    (h : segment.servingCenter? (exactPoint s) = some center) :
    FitsEnds (exactPoint s) segment.finish center := by
  obtain ⟨f, hf⟩ := exists_exactPoint_of_hasFinish hfinish
  have harc : segment.isArc = true := by
    rw [Segment.isArc, bne_iff_ne]
    exact Segment.ne_line_of_servingCenter? h
  obtain ⟨hcenter, hfits⟩ := Option.filter_eq_some_iff.mp h
  rw [Segment.center?, if_pos harc] at hcenter
  rw [hf]
  cases hexplicit : segment.explicitCenter? with
  | some written =>
    -- it was checked
    rw [hexplicit] at hcenter hfits
    obtain rfl := Option.some.inj hcenter
    rw [Option.isNone_some, Bool.false_or, Segment.isWellFormed, harc, hexplicit] at hfits
    exact fitsEnds_of_fitsCenter hf (Bool.and_eq_true_iff.mp hfits).2
  | none =>
    -- it was worked out
    rw [hexplicit] at hcenter
    obtain ⟨radius, husable, hradius⟩ := Option.bind_eq_some_iff.mp hcenter
    obtain ⟨-, hchecked⟩ := Option.filter_eq_some_iff.mp husable
    obtain ⟨r, rfl⟩ := ExactNumber.exists_real_of_isFinite (Bool.and_eq_true_iff.mp hchecked).2
    exact fitsEnds_of_centerByRadius hf hradius

/-! ## Contours in a program -/

/-- What is shown of the block of a contour.  The moves behind the plunge are `moves`. -/
structure FollowsContour (settings : Settings ExactNumber) (stock : Stock ExactNumber)
    (op : Operation ExactNumber) (segments : List (Segment ExactNumber)) (moves : List Move)
    (body : List Line) : Prop where
  /-- The tool plunges where the contour starts.  Behind the plunge there are the lines of the
  moves, and the rise to the safe plane. -/
  body_eq : ∃ front, body =
      front ++ .move (.cutZ (settings.coordinate op.zDepth)) (some (settings.feed op.feedRate)) ::
        (moves.map (.move · none) ++ [retract settings stock op]) ∧
    steps front = [.rapidZ (settings.coordinate (safeZ settings stock op)),
      .rapidTo (settings.place op.origin)]
  /-- There is one line for each segment. -/
  length_moves : moves.length = segments.length
  /-- Each segment is cut from the point that was reached before it. -/
  cuts : ∀ (k : ℕ) (segment : Segment ExactNumber) (step : Move), segments[k]? = some segment →
    moves[k]? = some step →
      CutsSegment settings (Segment.reached op.origin (segments.take k)) segment step
  /-- On paper the line is a remark, or it leads to the end point of the segment, straight or with
  the code of its course. -/
  written : ∀ (k : ℕ) (segment : Segment ExactNumber) (step : Move), segments[k]? = some segment →
    moves[k]? = some step → Written settings segment (Line.move step none).text
  /-- The tool is where the point that was reached is printed. -/
  arrives : ∀ k, arrive (settings.place op.origin) (moves.take k) =
    settings.place (Segment.reached op.origin (segments.take k))
  /-- An arc is about a centre that fits both of its ends. -/
  fits : ∀ (k : ℕ) (segment : Segment ExactNumber) (center : Point ExactNumber),
    segments[k]? = some segment → segment.hasFinish = true →
      segment.servingCenter? (Segment.reached op.origin (segments.take k)) = some center →
        FitsEnds (Segment.reached op.origin (segments.take k)) segment.finish center

theorem exists_block_contour (settings : Settings α) (stock : Stock α)
    (hfeature : op.feature = .contour segments) (hskip : skipReason? stock op = none)
    (carried : Carried α) (index : ℕ) :
    ∃ front, block settings stock carried index op =
        .ok (front ++
          .move (.cutZ (settings.coordinate op.zDepth)) (some (settings.feed op.feedRate)) ::
            ((chain settings op.origin segments).map (.move · none) ++
              [retract settings stock op])) ∧
      steps front = [.rapidZ (settings.coordinate (safeZ settings stock op)),
        .rapidTo (settings.place op.origin)] := by
  have hkind := kind_ne_unknown hfeature OperationKind.noConfusion
  refine ⟨.opening index op.kind :: retract settings stock op ::
    (toolLines settings op (Scalar.nearest op.spindleSpeed) carried.spindle ++
      [.move (.rapidTo (settings.place op.origin)) none]), ?_, ?_⟩
  · -- the plunge is the first cutting move, so it takes the feed
    rw [block_of_known hkind, hskip, plan, hfeature]
    simp [contourPlan, withFeed, Move.isCut, Except.map]
  · change _ :: steps _ = _
    rw [steps_append, steps_toolLines]
    rfl

/-- **Contours follow their segments.** -/
theorem contours_follow_their_segments (settings : Settings ExactNumber)
    (stock : Stock ExactNumber) {op : Operation ExactNumber}
    {segments : List (Segment ExactNumber)} (hfeature : op.feature = .contour segments)
    (hskip : skipReason? stock op = none) :
    (∀ carried index, ∃ body moves, block settings stock carried index op = .ok body ∧
      FollowsContour settings stock op segments moves body) ∧
    ∀ (ops : List (Operation ExactNumber)) (program : List Line) (i : ℕ),
      compile settings stock ops = .ok program → ops[i]? = some op →
      ∃ bodies foot body moves, Divided settings stock ops program bodies foot ∧
        bodies[i]? = some body ∧ FollowsContour settings stock op segments moves body := by
  have hpassed := passed_of_skipReason? hskip
  obtain ⟨start, hstart⟩ : ∃ start, op.origin = exactPoint start :=
    exists_exactPoint hpassed.x hpassed.y
  have hblocks : ∀ carried index, ∃ body moves, block settings stock carried index op = .ok body ∧
      FollowsContour settings stock op segments moves body := by
    intro carried index
    obtain ⟨front, hblock, hfront⟩ :=
      exists_block_contour settings stock hfeature hskip carried index
    refine ⟨_, chain settings op.origin segments, hblock, ?_⟩
    constructor
    case body_eq => exact ⟨front, rfl, hfront⟩
    case length_moves => exact length_chain settings op.origin segments
    case cuts => exact fun _ _ _ => cutsSegment_of_chain
    case written =>
      exact fun _ _ _ hsegment hstep => (cutsSegment_of_chain hsegment hstep).written
    case arrives => exact arrive_chain settings op.origin segments
    case fits =>
      intro k segment center _ hfinish hcenter
      obtain ⟨p, hp⟩ := exists_exactPoint_reached start (segments.take k)
      rw [hstart, hp] at hcenter ⊢
      exact fitsEnds_of_servingCenter? hfinish hcenter
  refine ⟨hblocks, ?_⟩
  intro ops program i hcompile hop
  -- in a program it is such a block with whatever the blocks before it leave behind
  obtain ⟨bodies, last, hchained, hdivided⟩ := exists_divided_of_compile hcompile
  obtain ⟨before, body, hnth, hblock, -⟩ := hchained.inherits hop
  obtain ⟨body', moves, hblock', hfollows⟩ := hblocks before _
  rw [hblock] at hblock'
  cases hblock'
  exact ⟨bodies, _, body, moves, hdivided, hnth, hfollows⟩

/-! ## A sample contour -/

section Sample

open Scalar (ofNat)

/-- An arc about a written centre. -/
noncomputable def writtenArc : Segment ExactNumber :=
  ⟨.counterClockwise, ofNat 40, ofNat 30, some (ofNat 20), some (ofNat 30), none⟩

/-- Segments of all sorts: one that ends nowhere, an arc about a written centre, an arc with a
radius, an arc whose centre is out of reach, and a straight one. -/
noncomputable def mixedChain : List (Segment ExactNumber) :=
  [⟨.line, .nan, ofNat 5, none, none, none⟩,
    writtenArc,
    ⟨.clockwise, ofNat 60, ofNat 30, none, none, some (ofNat 12)⟩,
    ⟨.clockwise, ofNat 100, ofNat 30, some (ofNat 60), some (.infinite false), none⟩,
    ⟨.line, ofNat 100, ofNat 60, none, none, none⟩]

/-- A contour along the segments. -/
noncomputable def mixedContour : Operation ExactNumber :=
  ⟨ofNat 0, ofNat 30, ofNat 20, ofNat 12, ofNat 200, ofNat 1500, ofNat 8, .endMill, ofNat 0,
    .contour mixedChain⟩

/-- Settings in exact numbers. -/
noncomputable def mixedSettings : Settings ExactNumber :=
  ⟨"SAMPLE", "G54", 3, 1, ofNat 5, ofNat 1, Scalar.ofDecimal 5 1, Scalar.ofDecimal 3 1, true⟩

/-- A block of metal in exact numbers. -/
noncomputable def mixedStock : Stock ExactNumber :=
  ⟨.rectangular, ofNat 100, ofNat 60, ofNat 20, ofNat 0, "Aluminum"⟩

end Sample

private theorem skipReason?_mixedContour : skipReason? mixedStock mixedContour = none := by
  have hfinite (n : ℕ) : Scalar.isFinite (Scalar.ofNat n : ExactNumber) = true := rfl
  have hpositive (n : ℕ) : Scalar.isPositive (Scalar.ofNat n : ExactNumber) =
      decide ((Scalar.zero : ℝ) < n) := rfl
  norm_num [skipReason?, featureSkipReason?, isUsable, mixedContour, mixedStock, mixedChain,
    hfinite, hpositive, zero_real]

private theorem distance_along_X (a b y : ℝ) :
    Segment.distance (exactPoint ⟨a, y⟩) (exactPoint ⟨b, y⟩) = .real (|a - b|) := by
  rw [distance_exactPoint, Complex.norm_eq_sqrt_sq_add_sq, ← Real.sqrt_sq_eq_abs]
  norm_num [Point.toComplex]

/-- The written centre serves where the contour starts. -/
private theorem servingCenter?_writtenArc :
    writtenArc.servingCenter? mixedContour.origin =
      some ⟨Scalar.ofNat 20, Scalar.ofNat 30⟩ := by
  have hstart : Segment.distance mixedContour.origin ⟨Scalar.ofNat 20, Scalar.ofNat 30⟩ =
      .real (|(0 : ℕ) - (20 : ℕ)|) := distance_along_X _ _ _
  have hfinish : Segment.distance writtenArc.finish ⟨Scalar.ofNat 20, Scalar.ofNat 30⟩ =
      .real (|(40 : ℕ) - (20 : ℕ)|) := distance_along_X _ _ _
  have htolerance : (Segment.tolerance : ExactNumber) = .real Segment.tolerance := rfl
  refine Option.filter_some_pos (?_ : writtenArc.fitsCenter _ _ _ = true)
  rw [Segment.fitsCenter, hstart, hfinish, htolerance, ExactNumber.real_sub,
    ExactNumber.abs_real, ExactNumber.lt_real, ExactNumber.le_real, Bool.and_eq_true, lt_real_iff,
    le_real_iff, tolerance_real]
  change _ ∧ |_| ≤ _
  norm_num

/-- The sample contour is compiled segment by segment, and the second is cut as an arc. -/
theorem contours_follow_their_segments_of_mixedContour :
    skipReason? mixedStock mixedContour = none ∧
      ∃ program bodies foot body moves,
        compile mixedSettings mixedStock [mixedContour] = .ok program ∧
          Divided mixedSettings mixedStock [mixedContour] program bodies foot ∧
          bodies[0]? = some body ∧
          FollowsContour mixedSettings mixedStock mixedContour mixedChain moves body ∧
          moves[1]? = some (.cutArc false (mixedSettings.place writtenArc.finish)
            (mixedSettings.coordinate (Scalar.ofNat 20 - Scalar.ofNat 0))
            (mixedSettings.coordinate (Scalar.ofNat 30 - Scalar.ofNat 30))) := by
  have hfeature : mixedContour.feature = .contour mixedChain := rfl
  have hnth : [mixedContour][0]? = some mixedContour := rfl
  obtain ⟨hblocks, hprograms⟩ :=
    contours_follow_their_segments mixedSettings mixedStock hfeature skipReason?_mixedContour
  obtain ⟨program, hcompile⟩ :
      ∃ program, compile mixedSettings mixedStock [mixedContour] = .ok program := by
    obtain ⟨body, moves, hblock, -⟩ := hblocks (start mixedSettings mixedStock) 1
    rw [compile, blocks, hblock]
    exact ⟨_, rfl⟩
  obtain ⟨bodies, foot, body, moves, hdivided, hbody, hfollows⟩ :=
    hprograms [mixedContour] program 0 hcompile hnth
  refine ⟨skipReason?_mixedContour, program, bodies, foot, body, moves, hcompile, hdivided, hbody,
    hfollows, ?_⟩
  obtain ⟨step, hstep⟩ : ∃ step, moves[1]? = some step := by
    have hlength : moves.length = 5 := hfollows.length_moves
    exact ⟨_, List.getElem?_eq_getElem (by omega)⟩
  have hserves := servingCenter?_writtenArc
  have hcut := hfollows.cuts 1 _ step rfl hstep
  rw [hstep]
  -- nothing was reached before it but the start
  cases hcut with
  | dropped hfinish => cases hfinish
  | straight hfinish hnone => exact absurd (hserves.symm.trans hnone) (Option.some_ne_none _)
  | arc hfinish hcenter =>
    obtain rfl := Option.some.inj (hserves.symm.trans hcenter)
    rfl

end Machining.Program
