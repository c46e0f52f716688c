import Machining.Proofs.Program.Contours

/-!
# Contours that are well formed

Whether an arc can be cut is asked in two places: `Segment.isWellFormed` asks it of the segments
that `Segment.walk` yields, and the plan of a contour asks it again, of a start point that it moves
along by itself.  Here both are set side by side, in any numbers.

The start points agree, and so do the answers about written centres.  Of a radius the plan asks
more: it has to be finite, and the chord must not be shorter than `Segment.leastChord`.  An arc that
is well formed but fails this, `Segment.lacksCenter`, is cut straight; all others are cut as they
are tagged (`well_formed_contours_are_cut_along_their_walk`).  There are such arcs
(`tiny_arc_is_cut_straight`).
-/

namespace Machining.Job

open Machining.Numeric

variable {α : Type} [Scalar α]

namespace Segment

/-- Whether an arc has nothing but a radius, from which no centre follows: it is not finite, or the
chord is too short for a direction. -/
def lacksCenter (segment : Segment α) (start : Point α) : Bool :=
  segment.isArc && segment.explicitCenter?.isNone &&
    segment.radius.any fun radius =>
      !Scalar.isFinite radius || Scalar.lt (distance segment.finish start) leastChord

/-- The course on which a segment is cut from `start`. -/
def courseCut (segment : Segment α) (start : Point α) : Course :=
  if segment.lacksCenter start then .line else segment.course

variable {segment : Segment α} {start : Point α}

theorem hasFinish_of_isWellFormed {limit : α} (h : segment.isWellFormed start limit = true) :
    segment.hasFinish = true := by
  simp only [isWellFormed, Bool.and_eq_true] at h
  simp [hasFinish, h.1]

/-- A centre follows from a usable radius unless the chord is too short. -/
theorem isSome_centerByRadius (segment : Segment α) (start : Point α) (radius : α) :
    (segment.centerByRadius start radius).isSome =
      !Scalar.lt (distance segment.finish start) leastChord := by
  unfold centerByRadius
  dsimp only
  split
  · rename_i hshort
    show false = _
    rw [distance, finish, hshort]
    rfl
  · rename_i hlong
    show true = _
    rw [distance, finish, Bool.eq_false_iff.mpr hlong]
    rfl

/-- A radius that fits is not zero, so all that the plan asks of it is that it is finite. -/
theorem usableRadius?_of_fitsRadius {limit : α} (h : segment.fitsRadius start limit = true) :
    ∃ radius, segment.radius = some radius ∧
      segment.usableRadius? = if Scalar.isFinite radius then some radius else none := by
  unfold fitsRadius at h
  cases hradius : segment.radius with
  | none =>
    rw [hradius] at h
    cases h
  | some radius =>
    rw [hradius] at h
    simp only [Bool.and_eq_true, Bool.not_eq_true'] at h
    exact ⟨radius, rfl, by simp [usableRadius?, hradius, Option.filter, h.1.1]⟩

/-- **The two tests differ only about radii.**  A well-formed arc has a centre that serves, unless
it has but a radius from which none follows. -/
theorem isSome_servingCenter? (h : segment.isWellFormed start tolerance = true) :
    (segment.servingCenter? start).isSome = (segment.isArc && !segment.lacksCenter start) := by
  cases harc : segment.isArc with
  | false => simp [servingCenter?, center?, harc]
  | true =>
    cases hexplicit : segment.explicitCenter? with
    | some center =>
      -- the plan repeats the test that was passed
      simp [servingCenter?, center?, lacksCenter, harc, hexplicit, h]
    | none =>
      have hfits : segment.fitsRadius start tolerance = true := by
        simp only [isWellFormed, harc, hexplicit, Bool.and_eq_true] at h
        simpa using h.2
      obtain ⟨radius, hradius, husable⟩ := usableRadius?_of_fitsRadius hfits
      cases hfinite : Scalar.isFinite radius with
      | false =>
        rw [hfinite, if_neg Bool.false_ne_true] at husable
        simp [servingCenter?, center?, lacksCenter, harc, hexplicit, hradius, husable, hfinite]
      | true =>
        rw [hfinite, if_pos rfl] at husable
        have hcenter := isSome_centerByRadius segment start radius
        cases hmade : segment.centerByRadius start radius <;> rw [hmade] at hcenter <;>
          simp [servingCenter?, center?, lacksCenter, harc, hexplicit, hradius, husable, hfinite,
            hmade, ← hcenter]

end Segment

end Machining.Job

namespace Machining.Program

open Machining.Numeric Machining.Job

/-! ## Segment by segment -/

section Segments

variable {α : Type} [Scalar α] {settings : Settings α} {start : Point α} {segment : Segment α}
  {step : Move}

/-- How a well-formed segment is cut from `start`. -/
inductive CutsAsTagged (settings : Settings α) (start : Point α) (segment : Segment α) :
    Move → Prop where
  /-- A line goes straight to its end point. -/
  | straight (hline : segment.isArc = false) :
      CutsAsTagged settings start segment (.cutTo (settings.place segment.finish))
  /-- An arc runs about its centre, in its own direction. -/
  | arc (hlacks : segment.lacksCenter start = false) {center : Point α}
      (hcenter : segment.center? start = some center) :
      CutsAsTagged settings start segment
        (.cutArc segment.isClockwise (settings.place segment.finish)
          (settings.coordinate (center.x - start.x)) (settings.coordinate (center.y - start.y)))
  /-- An arc that lacks a centre goes straight to its end point. -/
  | withoutCenter (hlacks : segment.lacksCenter start = true) :
      CutsAsTagged settings start segment (.cutTo (settings.place segment.finish))

theorem cutsAsTagged_segmentMove (settings : Settings α)
    (h : segment.isWellFormed start Segment.tolerance = true) :
    CutsAsTagged settings start segment (segmentMove settings start segment) := by
  have hserves := Segment.isSome_servingCenter? h
  rw [segmentMove_eq]
  cases hcenter : segment.servingCenter? start with
  | none =>
    -- none serves, so it is a line, or the arc lacks one
    cases harc : segment.isArc with
    | false => exact .straight harc
    | true =>
      apply CutsAsTagged.withoutCenter
      simpa [hcenter, harc] using hserves
  | some center =>
    apply CutsAsTagged.arc
    · rw [hcenter] at hserves
      exact (by simpa using hserves : _ ∧ _).2
    · exact (Option.filter_eq_some_iff.mp hcenter).1

/-- Along the walk, each segment is cut from its own start point. -/
theorem cutsAsTagged_chain (settings : Settings α) {segments : List (Segment α)}
    (h : ∀ stretch ∈ Segment.walk start segments,
      stretch.2.isWellFormed stretch.1 Segment.tolerance = true) :
    List.Forall₂ (fun stretch => CutsAsTagged settings stretch.1 stretch.2)
      (Segment.walk start segments) (chain settings start segments) := by
  induction segments generalizing start with
  | nil => exact .nil
  | cons segment rest ih =>
    obtain ⟨hfirst, hrest⟩ := List.forall_mem_cons.mp h
    -- a well-formed segment ends somewhere, so both loops go on from there
    rw [chain_cons_of_hasFinish (Segment.hasFinish_of_isWellFormed hfirst)]
    exact .cons (cutsAsTagged_segmentMove settings hfirst) (ih hrest)

/-! ## On paper -/

/-- A segment is written with the code of the course on which it is cut. -/
theorem CutsAsTagged.text (h : CutsAsTagged settings start segment step) :
    ∃ rest, (Line.move step none).text =
      (segment.courseCut start).code ++ (settings.place segment.finish).text ++ rest := by
  cases h with
  | straight hline =>
    have hcourse : segment.course = .line := by simpa [Segment.isArc] using hline
    exact ⟨"", by simp [Segment.courseCut, hcourse, Line.text, Move.text, Course.code]⟩
  | @arc hlacks center hcenter =>
    refine ⟨" I" ++ (settings.coordinate (center.x - start.x)).text ++ " J" ++
      (settings.coordinate (center.y - start.y)).text, ?_⟩
    cases hcourse : segment.course with
    | line => simp [Segment.center?, Segment.isArc, hcourse] at hcenter
    | clockwise | counterClockwise =>
      simp [Segment.courseCut, hlacks, hcourse, Line.text, Move.text, Segment.isClockwise,
        Course.code, String.append_assoc]
  | withoutCenter hlacks =>
    exact ⟨"", by simp [Segment.courseCut, hlacks, Line.text, Move.text, Course.code]⟩

/-- Only a dropped segment leaves its remark inside a block. -/
theorem eq_dropped_of_text {line : Line} (hinner : line.isInner = true)
    (htext : line.text = Move.dropped.text) : line = .move .dropped none := by
  have hchars := congrArg String.toList htext
  -- no other line of a block begins as the remark does
  cases line with
  | move step feed =>
    cases feed with
    | none =>
      cases step with
      | dropped => rfl
      | cutArc clockwise place i j => cases clockwise <;> simp [Line.text, Move.text] at hchars
      | _ => simp [Line.text, Move.text] at hchars
    | some feed =>
      cases step with
      | cutArc clockwise place i j => cases clockwise <;> simp [Line.text, Move.text] at hchars
      | _ => simp [Line.text, Move.text] at hchars
  | title | stock | operationCount | modes | workOffset | opening | closing | endOfProgram =>
    cases hinner
  | _ => simp [Line.text, Move.text] at hchars

end Segments

/-! ## Contours in a program -/

variable {α : Type} [Scalar α]

/-- What is shown of the block of a well-formed contour, whose moves behind the plunge are
`moves`. -/
structure FollowsWalk (settings : Settings α) (stock : Stock α) (op : Operation α)
    (moves : List Move) (body : List Line) : Prop where
  /-- The tool plunges where the contour starts.  Behind the plunge there are the lines of the
  moves, and the rise to the safe plane. -/
  body_eq : ∃ front, body =
      front ++ .move (.cutZ (settings.coordinate op.zDepth)) (some (settings.feed op.feedRate)) ::
        (moves.map (.move · none) ++ [retract settings stock op]) ∧
    steps front = [.rapidZ (settings.coordinate (safeZ settings stock op)),
      .rapidTo (settings.place op.origin)]
  /-- There is one move for each segment, from the point where the walk starts it. -/
  cuts : List.Forall₂ (fun stretch => CutsAsTagged settings stretch.1 stretch.2) op.walk moves
  /-- Its line has the code of the course on which the segment is cut. -/
  codes : List.Forall₂ (fun stretch step => ∃ rest, (Line.move step none).text =
    (stretch.2.courseCut stretch.1).code ++ (settings.place stretch.2.finish).text ++ rest)
      op.walk moves
  /-- No line says that a segment was dropped. -/
  not_dropped : ∀ line ∈ body, line.text ≠ Move.dropped.text

/-- No segment is dropped among moves that cut well-formed segments. -/
private theorem dropped_notMem (settings : Settings α) (stock : Stock α) (op : Operation α)
    {front : List Line} {walk : List (Point α × Segment α)} {moves : List Move}
    (hfront : steps front = [.rapidZ (settings.coordinate (safeZ settings stock op)),
      .rapidTo (settings.place op.origin)])
    (hcuts : List.Forall₂ (fun stretch => CutsAsTagged settings stretch.1 stretch.2) walk moves) :
    .move .dropped none ∉
      front ++ .move (.cutZ (settings.coordinate op.zDepth)) (some (settings.feed op.feedRate)) ::
        (moves.map (.move · none) ++ [retract settings stock op]) := by
  -- no stretch is cut as a remark, and the approach has two moves, neither of them one
  have hmoves : .dropped ∉ moves := by
    intro hmem
    induction hcuts with
    | nil => cases hmem
    | cons hcut _ ih =>
      rcases List.mem_cons.mp hmem with rfl | hrest
      · cases hcut
      · exact ih hrest
  have happroach : Line.move .dropped none ∉ front := by
    intro hmem
    have hstep : Move.dropped ∈ steps front := List.mem_filterMap.mpr ⟨_, hmem, rfl⟩
    simp [hfront] at hstep
  simp [hmoves, happroach, retract]

/-- **Well-formed contours are cut along their walk.**  Nothing of a contour that is well formed and
not skipped is dropped: each segment is cut from the start point that the walk gives it, with the
code of its own course, but for an arc that lacks a centre, which is cut straight. -/
theorem well_formed_contours_are_cut_along_their_walk (settings : Settings α) (stock : Stock α)
    {op : Operation α} {segments : List (Segment α)} (hfeature : op.feature = .contour segments)
    (hformed : op.isWellFormed = true) (hskip : skipReason? stock op = none) :
    (∀ carried index, ∃ body moves, block settings stock carried index op = .ok body ∧
      FollowsWalk settings stock op moves body) ∧
    ∀ (ops : List (Operation α)) (program : List Line) (i : ℕ),
      compile settings stock ops = .ok program → ops[i]? = some op →
      ∃ bodies foot body moves, Divided settings stock ops program bodies foot ∧
        bodies[i]? = some body ∧ FollowsWalk settings stock op moves body := by
  -- the well-formed contour has well-formed stretches, and each is cut as it is tagged
  have hwalk : op.walk = Segment.walk op.origin segments := by rw [Operation.walk, hfeature]
  have hsegments : ∀ stretch ∈ Segment.walk op.origin segments,
      stretch.2.isWellFormed stretch.1 Segment.tolerance = true := by
    rw [Operation.isWellFormed, hfeature] at hformed
    simpa [hwalk] using (Bool.and_eq_true_iff.mp hformed).2
  have hcuts := cutsAsTagged_chain settings hsegments
  have hblocks : ∀ carried index, ∃ body moves, block settings stock carried index op = .ok body ∧
      FollowsWalk settings stock op moves body := by
    intro carried index
    obtain ⟨front, hblock, hfront⟩ :=
      exists_block_contour settings stock hfeature hskip carried index
    refine ⟨_, chain settings op.origin segments, hblock, ⟨front, rfl, hfront⟩, ?_, ?_, ?_⟩
    · rwa [hwalk]
    · rw [hwalk]
      exact hcuts.imp fun _ _ hcut => hcut.text
    · intro line hline htext
      -- a line that reads as a remark would be that remark, which no stretch has left
      have hnone := dropped_notMem settings stock op hfront hcuts
      obtain ⟨rest, hbody, hinner⟩ := (blockForm_of_block hblock).inner
      rw [hbody] at hline hnone
      rcases List.mem_cons.mp hline with rfl | hrest
      · have hchars := congrArg String.toList htext
        simp [Line.text, Move.text] at hchars
      · rw [eq_dropped_of_text (hinner line hrest) htext] at hline
        exact hnone hline
  refine ⟨hblocks, ?_⟩
  intro ops program i hcompile hop
  -- in a program it is such a block with whatever the blocks before it leave behind
  obtain ⟨bodies, last, hchained, hdivided⟩ := exists_divided_of_compile hcompile
  obtain ⟨before, body, hnth, hblock, -⟩ := hchained.inherits hop
  obtain ⟨body', moves, hblock', hfollows⟩ := hblocks before _
  rw [hblock] at hblock'
  cases hblock'
  exact ⟨bodies, _, body, moves, hdivided, hnth, hfollows⟩

/-! ## Sample contours -/

/-- An arc by its radius. -/
def roundedArc : Segment Float := ⟨.clockwise, 20, 30, none, none, some 8⟩

/-- A contour with this arc, an arc about a written centre, and a line. -/
def roundedContour : Operation Float :=
  { sampleHole 10 20 with feature := .contour [roundedArc,
    ⟨.counterClockwise, 30, 30, some 25, some 30, none⟩, ⟨.line, 30, 40, none, none, none⟩] }

/-- The rounded contour is well formed and cut along its walk, and its first segment with the code
of clockwise arcs. -/
theorem well_formed_contours_are_cut_along_their_walk_of_roundedContour :
    roundedContour.isWellFormed = true ∧ skipReason? sampleStock roundedContour = none ∧
      ∃ program bodies foot body moves,
        compile sampleSettings sampleStock [roundedContour] = .ok program ∧
          Divided sampleSettings sampleStock [roundedContour] program bodies foot ∧
          bodies[0]? = some body ∧
          FollowsWalk sampleSettings sampleStock roundedContour moves body ∧
          ∃ step rest, moves[0]? = some step ∧
            (Line.move step none).text = "G2 X20.000 Y30.000" ++ rest := by
  have hformed : roundedContour.isWellFormed = true := by decide +kernel
  have hskip : skipReason? sampleStock roundedContour = none := by decide +kernel
  obtain ⟨hblocks, hprograms⟩ :=
    well_formed_contours_are_cut_along_their_walk sampleSettings sampleStock rfl hformed hskip
  obtain ⟨program, hcompile⟩ :
      ∃ program, compile sampleSettings sampleStock [roundedContour] = .ok program := by
    obtain ⟨body, moves, hblock, -⟩ := hblocks (start sampleSettings sampleStock) 1
    exact ⟨_, by rw [compile, blocks, hblock]; rfl⟩
  obtain ⟨bodies, foot, body, moves, hdivided, hbody, hfollows⟩ :=
    hprograms [roundedContour] program 0 hcompile rfl
  refine ⟨hformed, hskip, program, bodies, foot, body, moves, hcompile, hdivided, hbody, hfollows,
    ?_⟩
  -- the first stretch of the walk is that of the arc by its radius
  obtain ⟨step, others, ⟨rest, htext⟩, -, rfl⟩ := List.forall₂_cons_left_iff.mp hfollows.codes
  have hcode : (roundedArc.courseCut roundedContour.origin).code ++
      (sampleSettings.place roundedArc.finish).text = "G2 X20.000 Y30.000" := by
    decide +kernel
  exact ⟨step, rest, rfl, htext.trans (congrArg (· ++ rest) hcode)⟩

/-- An arc over a tenth of a billionth of a millimetre. -/
def tinyArc : Segment Float := ⟨.clockwise, 1e-13, 30, none, none, some 1⟩

/-- A contour of the tiny arc alone. -/
def tinyContour : Operation Float := { sampleHole 0 20 with feature := .contour [tinyArc] }

/-- **A tiny arc is cut straight.**  The contour is well formed and all its numbers are finite, yet
its block has no line with the code of clockwise arcs. -/
theorem tiny_arc_is_cut_straight :
    tinyContour.isWellFormed = true ∧ skipReason? sampleStock tinyContour = none ∧
      tinyArc.course = .clockwise ∧
      ∃ body, block sampleSettings sampleStock (start sampleSettings sampleStock) 1 tinyContour =
          .ok body ∧
        ∀ line ∈ body, "G2 ".isPrefixOf line.text = false := by
  have hfound : (block sampleSettings sampleStock (start sampleSettings sampleStock) 1
      tinyContour).toOption.any
        (fun body => body.all fun line => !"G2 ".isPrefixOf line.text) = true := by
    decide +kernel
  obtain ⟨body, hblock, htest⟩ := exists_of_any_eq_true hfound
  refine ⟨by decide +kernel, by decide +kernel, rfl, body, hblock, ?_⟩
  simpa using htest

end Machining.Program
