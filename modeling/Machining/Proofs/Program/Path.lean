import Mathlib.Analysis.Complex.Norm
import Machining.Program.Notice
import Machining.Proofs.Numeric.Reals
import Machining.Proofs.Program.Independence
import Machining.Proofs.Program.Overflow

/-!
# The path of the tool

This module follows the tool in the plane, from the place where a move begins to the place where it
ends.  Places are what is printed, so the machine is at them exactly.

## Points

In exact arithmetic a place stands for a point.  Points of the plane are complex numbers here, with
X along the real axis and Y along the imaginary one, so that the length of a difference is the
distance of two points.  Printing a point moves it by one unit of the last decimal place at most
(`norm_printedPoint_sub_le`).
-/

namespace Machining.Job

/-- A position as a point of the plane. -/
def Point.toComplex (point : Point ℝ) : ℂ := ⟨point.x, point.y⟩

end Machining.Job

namespace Machining.Program

open Machining.Numeric Machining.Job

/-! ## From place to place -/

namespace Move

/-- Whether the move goes along Z at the cutting feed. -/
def isPlunge : Move → Bool
  | cutZ _ => true
  | rapidZ _ | rapidTo _ | cutTo _ | cutX _ | cutY _ | cutArc .. | dropped => false

/-- Whether the move names a position in the plane. -/
def isPlanar : Move → Bool
  | rapidTo _ | cutTo _ | cutX _ | cutY _ | cutArc .. => true
  | rapidZ _ | cutZ _ | dropped => false

/-- The place that a move from `here` leads to. -/
def goesTo (here : Place) : Move → Place
  | rapidTo place | cutTo place | cutArc _ place _ _ => place
  | cutX x => { here with x := x }
  | cutY y => { here with y := y }
  | rapidZ _ | cutZ _ | dropped => here

end Move

/-- The place that some moves lead to, one after another. -/
def arrive (here : Place) (steps : List Move) : Place := steps.foldl Move.goesTo here

/-- `Along P here steps`: when the tool makes the moves from `here` on, `P` holds of each move and
of the place where it begins. -/
def Along (P : Place → Move → Prop) : Place → List Move → Prop
  | _, [] => True
  | here, step :: rest => P here step ∧ Along P (step.goesTo here) rest

section Along

variable {P : Place → Move → Prop} {here : Place}

theorem along_nil : Along P here [] := trivial

theorem along_append {first second : List Move} :
    Along P here (first ++ second) ↔ Along P here first ∧ Along P (arrive here first) second := by
  induction first generalizing here with
  | nil => exact (and_iff_right along_nil).symm
  | cons step rest ih =>
    rw [List.cons_append]
    change P here step ∧ Along P (step.goesTo here) (rest ++ second) ↔
      (P here step ∧ Along P (step.goesTo here) rest) ∧
        Along P (arrive (step.goesTo here) rest) second
    rw [ih, and_assoc]

/-- What holds of a move wherever it begins. -/
theorem along_of_forall {moves : List Move} (h : ∀ step ∈ moves, ∀ here, P here step) :
    Along P here moves := by
  induction moves generalizing here with
  | nil => exact along_nil
  | cons step rest ih =>
    refine ⟨h step List.mem_cons_self here, ih fun other hmem => ?_⟩
    exact h other (List.mem_cons_of_mem step hmem)

theorem arrive_append (here : Place) (first second : List Move) :
    arrive here (first ++ second) = arrive (arrive here first) second :=
  List.foldl_append

/-- Rounds that each lead back to where they begin. -/
theorem along_flatMap {α : Type} {f : α → List Move} (rounds : List α)
    (h : ∀ x ∈ rounds, Along P here (f x) ∧ arrive here (f x) = here) :
    Along P here (rounds.flatMap f) ∧ arrive here (rounds.flatMap f) = here := by
  induction rounds with
  | nil => exact ⟨along_nil, rfl⟩
  | cons x rest ih =>
    obtain ⟨hfirst, hback⟩ := h x List.mem_cons_self
    obtain ⟨hrest, hend⟩ := ih fun y hy => h y (List.mem_cons_of_mem x hy)
    rw [List.flatMap_cons, along_append, arrive_append, hback]
    exact ⟨⟨hfirst, hrest⟩, hend⟩

end Along

/-! ## The moves of a block -/

/-- The moves among some lines. -/
def steps (lines : List Line) : List Move := lines.filterMap Line.step?

/-- The moves behind each plunge, up to the next. -/
def passes (moves : List Move) : List (List Move) := (moves.splitOnP Move.isPlunge).tail

theorem steps_append (first second : List Line) :
    steps (first ++ second) = steps first ++ steps second :=
  List.filterMap_append

theorem steps_withFeed (feed : Fixed) (moves : List Move) :
    steps (withFeed feed moves) = moves := by
  rw [steps, ← Function.id_comp Line.step?, ← List.filterMap_map, map_step?_withFeed,
    List.filterMap_map]
  exact List.filterMap_some

theorem kind_ne_unknown {α : Type} {op : Operation α} {feature : Feature α}
    (hfeature : op.feature = feature) (h : feature.kind ≠ .unknown) : op.kind ≠ .unknown := by
  rwa [Operation.kind, hfeature]

variable {α : Type} [Scalar α] {settings : Settings α} {stock : Stock α}

theorem steps_toolLines (op : Operation α) (speed : Int) (spindle : Option (Tool × Int)) :
    steps (toolLines settings op speed spindle) = [] := by
  rw [steps, List.filterMap_eq_nil_iff]
  intro line hline
  exact (inner_of_mem_toolLines hline).2

/-- The moves in the block of an operation that is machined: its plan between two rises to the safe
plane. -/
theorem exists_steps_of_compile {ops : List (Operation α)} {program : List Line}
    (hcompile : compile settings stock ops = .ok program) {i : Nat} {op : Operation α}
    (hop : ops[i]? = some op) (hkind : op.kind ≠ .unknown) (hskip : skipReason? stock op = none) :
    ∃ bodies foot body z moves, Divided settings stock ops program bodies foot ∧
      bodies[i]? = some body ∧
      plan settings stock op (safeZ settings stock op) = .ok moves ∧
      steps body = .rapidZ z :: (moves ++ [.rapidZ z]) := by
  obtain ⟨bodies, last, hchained, hdivided⟩ := exists_divided_of_compile hcompile
  obtain ⟨before, body, hnth, hblock, -⟩ := hchained.inherits hop
  -- of the three forms of a block only one is left, and neither its tool lines nor its feed words
  -- are moves
  cases blockForm_of_block hblock with
  | unknown hunknown => exact absurd hunknown hkind
  | skipped _ hreason =>
    rw [hskip] at hreason
    cases hreason
  | @machined moves _ _ hplan =>
    refine ⟨bodies, _, _, settings.coordinate (safeZ settings stock op), moves, hdivided, hnth,
      hplan, ?_⟩
    change _ :: steps _ = _
    rw [steps_append, steps_append, steps_toolLines, steps_withFeed]
    rfl

/-- In exact arithmetic every job has such a block for each operation that is machined. -/
theorem exists_steps_of_plan {settings : Settings ℝ} {stock : Stock ℝ}
    {ops : List (Operation ℝ)} {i : Nat} {op : Operation ℝ} {moves : List Move}
    (hop : ops[i]? = some op) (hkind : op.kind ≠ .unknown) (hskip : skipReason? stock op = none)
    (hplan : plan settings stock op (safeZ settings stock op) = .ok moves) :
    ∃ program bodies foot body z, compile settings stock ops = .ok program ∧
      Divided settings stock ops program bodies foot ∧ bodies[i]? = some body ∧
      steps body = .rapidZ z :: (moves ++ [.rapidZ z]) := by
  obtain ⟨program, hcompile⟩ := exists_compile_real settings stock ops
  obtain ⟨bodies, foot, body, z, moves', hdivided, hbody, hplan', hsteps⟩ :=
    exists_steps_of_compile hcompile hop hkind hskip
  rw [hplan] at hplan'
  cases hplan'
  exact ⟨program, bodies, foot, body, z, hcompile, hdivided, hbody, hsteps⟩

/-- The plunges of rounds that plunge nowhere but at their beginning. -/
theorem filter_isPlunge_flatMap {β : Type} {round : List Move} (depth : β → Fixed) (layers : List β)
    (hround : ∀ step ∈ round, step.isPlunge = false) :
    (layers.flatMap fun z => .cutZ (depth z) :: round).filter Move.isPlunge =
      layers.map fun z => .cutZ (depth z) := by
  have hnone : round.filter Move.isPlunge = [] := by
    rw [List.filter_eq_nil_iff]
    intro step hstep
    rw [hround step hstep]
    exact Bool.false_ne_true
  have hfirst (z : β) :
      (Move.cutZ (depth z) :: round).filter Move.isPlunge = [.cutZ (depth z)] := by
    rw [List.filter_cons_of_pos rfl, hnone]
  rw [List.filter_flatMap, List.map_eq_flatMap]
  exact List.flatMap_congr fun z _ => hfirst z

/-- Where the rounds of a block are the same moves behind a plunge, its passes are these moves.
What is not asked for may stand behind the last. -/
theorem map_filter_passes {β : Type} {front round back : List Move} {wanted : Move → Bool}
    (depth : β → Fixed) (layers : List β) (hfront : ∀ step ∈ front, step.isPlunge = false)
    (hround : ∀ step ∈ round, step.isPlunge = false)
    (hback : ∀ step ∈ back, step.isPlunge = false ∧ wanted step = false) :
    (passes (front ++ (layers.flatMap fun z => .cutZ (depth z) :: round) ++ back)).map
        (List.filter wanted) =
      layers.map fun _ => round.filter wanted := by
  have hparts : ((front ++ (layers.flatMap fun z => .cutZ (depth z) :: round) ++ back).splitOnP
      Move.isPlunge).map (List.filter wanted) =
        front.filter wanted :: layers.map fun _ => round.filter wanted := by
    -- on the layers, with what stands in front of the first plunge
    induction layers generalizing front with
    | nil =>
      have hnone : back.filter wanted = [] := by
        rw [List.filter_eq_nil_iff]
        intro step hstep
        rw [(hback step hstep).2]
        exact Bool.false_ne_true
      rw [List.flatMap_nil, List.append_nil, List.splitOnP_eq_singleton, List.map_singleton,
        List.filter_append, hnone, List.append_nil, List.map_nil]
      intro step hstep
      rcases List.mem_append.mp hstep with hmem | hmem
      · exact hfront step hmem
      · exact (hback step hmem).1
    | cons z rest ih =>
      rw [List.flatMap_cons, List.cons_append, List.append_assoc, List.cons_append,
        List.splitOnP_append_cons_of_forall_mem hfront _ rfl, List.map_cons, ih hround,
        List.map_cons]
  rw [passes, List.map_tail, hparts, List.tail_cons]

/-! ## Points -/

/-- The point that two decimals stand for. -/
noncomputable def Place.point? (place : Place) : Option ℂ :=
  match place.x.real?, place.y.real? with
  | some x, some y => some ⟨x, y⟩
  | _, _ => none

/-- The point that is read where a position is printed. -/
noncomputable def Settings.printedPoint (settings : Settings ℝ) (point : Point ℝ) : ℂ :=
  ⟨printed settings.coordinatePlaces point.x, printed settings.coordinatePlaces point.y⟩

/-- The circle that an arc from `here` runs on. -/
noncomputable def Move.circle? (here : Place) : Move → Option (Set ℂ)
  | .cutArc _ _ i j =>
    match here.point?, Place.point? ⟨i, j⟩ with
    | some start, some offset => some (Metric.sphere (start + offset) ‖offset‖)
    | _, _ => none
  | _ => none

theorem real?_coordinate (settings : Settings ℝ) (x : ℝ) :
    (settings.coordinate x).real? = some (printed settings.coordinatePlaces x) := by
  rw [Settings.coordinate, Fixed.real?_unsigned, real?_fixed]

theorem point?_place (settings : Settings ℝ) (point : Point ℝ) :
    (settings.place point).point? = some (settings.printedPoint point) := by
  simp only [Place.point?, Settings.place, real?_coordinate, Settings.printedPoint]

/-- Printing moves a point by one unit of the last decimal place at most. -/
theorem norm_printedPoint_sub_le (settings : Settings ℝ) (point : Point ℝ) :
    ‖settings.printedPoint point - point.toComplex‖ ≤ 1 / 10 ^ settings.coordinatePlaces := by
  -- half a unit along each of the axes
  have hx := abs_printed_sub_le settings.coordinatePlaces point.x
  have hy := abs_printed_sub_le settings.coordinatePlaces point.y
  calc ‖settings.printedPoint point - point.toComplex‖
      ≤ |printed settings.coordinatePlaces point.x - point.x| +
          |printed settings.coordinatePlaces point.y - point.y| :=
        Complex.norm_le_abs_re_add_abs_im _
    _ ≤ 1 / 10 ^ settings.coordinatePlaces / 2 + 1 / 10 ^ settings.coordinatePlaces / 2 :=
        add_le_add hx hy
    _ = 1 / 10 ^ settings.coordinatePlaces := add_halves _

end Machining.Program
