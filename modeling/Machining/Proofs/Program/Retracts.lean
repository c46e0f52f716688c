import Machining.Proofs.Numeric.Steadiness
import Machining.Proofs.Program.Independence
import Machining.Proofs.Program.SafePlane
import Machining.Proofs.Program.Strides
import Machining.Proofs.Program.WordValues

/-!
# Retracts go upwards

Behind its arrival over the part a tool goes down at the feed and comes up rapidly: a little after
each peck of a hole, and to the safe plane at the end.  A rapid move down would drive the tool into
the part.

The lifts never go down, because a peck is some steps below the top of the cut, and the safe plane
is above the top (`lift_not_lt`).  The last retract starts at the depth of the cut.  Nothing keeps a
job from asking for a depth above the top, which is then cut in one pass; so the last retract goes
upwards exactly if that depth is not above the safe plane.

* `retracts_rise_unless_depth_is_above_plane` says this of the blocks of all programs.
* `retract_of_highHole_goes_down` is a hole for which it goes down.
-/

namespace Machining.Program

open Machining.Numeric Machining.Job

variable {α : Type} [Scalar α] {settings : Settings α} {stock : Stock α} {op : Operation α}

/-! ## Heights below the safe plane -/

/-- The safe plane of an operation that is machined is the clearance above its top and the stock. -/
theorem Passed.safeZ_eq (h : Passed stock op) :
    safeZ settings stock op = Scalar.max op.zStart stock.height + settings.safeClearance :=
  safeZ_of_isFinite h.stockHeight h.zStart

section Steady

variable [SteadyScalar α]

/-- What the top of the cut or the stock is not below, the safe plane is not below. -/
theorem safeZ_not_lt (hpassed : Passed stock op)
    (hclear : Scalar.isPositive settings.safeClearance = true) {z : α}
    (h : Scalar.lt op.zStart z = false ∨ Scalar.lt stock.height z = false) :
    Scalar.lt (safeZ settings stock op) z = false := by
  rw [hpassed.safeZ_eq]
  refine Scalar.not_lt_trans (Scalar.isFinite_max hpassed.zStart hpassed.stockHeight)
    (SteadyScalar.add_not_lt hclear) ?_
  rcases h with hstart | hheight
  · exact Scalar.max_not_lt_left hstart _
  · exact Scalar.max_not_lt_of_right hpassed.stockHeight hheight

/-- **A lift does not go down**, and not above the safe plane. -/
theorem lift_not_lt (hpassed : Passed stock op)
    (hclear : Scalar.isPositive settings.safeClearance = true)
    (hpeck : Scalar.isPositive settings.peckRetract = true) {z : α}
    (hz : Toolpath.IsStepBelow op.zStart op.stepDown z) :
    Scalar.lt (Scalar.min (z + settings.peckRetract) (safeZ settings stock op)) z = false := by
  obtain ⟨hfinite, hstep, k, rfl⟩ := hz
  exact Scalar.min_not_lt (SteadyScalar.add_not_lt hpeck)
    (safeZ_not_lt hpassed hclear (.inl (SteadyScalar.not_lt_sub_steps hfinite hstep k)))

end Steady

/-! ## Moves that do not lower the tool rapidly -/

/-- The height of the tool after some moves. -/
def heightAfter (z : Fixed) (moves : List Move) : Fixed :=
  moves.foldl (fun z step => step.height?.getD z) z

/-- `NeverLowers z moves`: from the height `z` on no rapid move along Z goes down. -/
def NeverLowers : Fixed → List Move → Prop
  | _, [] => True
  | z, step :: rest =>
    (∀ w, step = .rapidZ w → ¬ w.Below z) ∧ NeverLowers (step.height?.getD z) rest

theorem neverLowers_append {z : Fixed} {first second : List Move} :
    NeverLowers z (first ++ second) ↔
      NeverLowers z first ∧ NeverLowers (heightAfter z first) second := by
  induction first generalizing z with
  | nil => simp [NeverLowers, heightAfter]
  | cons step rest ih => simp [NeverLowers, heightAfter, ih, and_assoc]

theorem neverLowers_retract {z w : Fixed} : NeverLowers z [.rapidZ w] ↔ ¬ w.Below z := by
  simp [NeverLowers]

/-- Cuts that keep the height. -/
private theorem neverLowers_of_isLevel {cuts : List Move}
    (h : ∀ step ∈ cuts, step.isLevel = true) (z : Fixed) :
    NeverLowers z cuts ∧ heightAfter z cuts = z := by
  induction cuts with
  | nil => exact ⟨trivial, rfl⟩
  | cons step rest ih =>
    obtain ⟨hlevel, hrest⟩ := List.forall_mem_cons.mp h
    -- a level move has no height
    have hheight : step.height? = none := by cases step <;> first | rfl | cases hlevel
    obtain ⟨hnever, hafter⟩ := ih hrest
    refine ⟨⟨?_, ?_⟩, ?_⟩
    · rintro w rfl
      cases hlevel
    · rwa [hheight]
    · rw [heightAfter, List.foldl_cons, hheight]
      exact hafter

/-- Passes that are cut one below the other. -/
private theorem neverLowers_layers {cuts : List Move} (h : ∀ step ∈ cuts, step.isLevel = true)
    (layers : List α) (z : Fixed) :
    NeverLowers z (layers.flatMap fun z => .cutZ (settings.coordinate z) :: cuts) ∧
      heightAfter z (layers.flatMap fun z => .cutZ (settings.coordinate z) :: cuts) =
        (layers.getLast?.map settings.coordinate).getD z := by
  induction layers generalizing z with
  | nil => exact ⟨trivial, rfl⟩
  | cons first rest ih =>
    obtain ⟨hcuts, hlevel⟩ := neverLowers_of_isLevel h (settings.coordinate first)
    obtain ⟨hrest, hlast⟩ := ih (settings.coordinate first)
    rw [List.flatMap_cons, List.cons_append]
    refine ⟨⟨by simp, neverLowers_append.mpr ⟨hcuts, hlevel.symm ▸ hrest⟩⟩, ?_⟩
    rw [heightAfter, List.foldl_cons, List.foldl_append]
    change heightAfter (heightAfter (settings.coordinate first) cuts) _ = _
    rw [hlevel, hlast, List.getLast?_cons]
    cases rest.getLast? <;> rfl

/-- Pecks with lifts that do not go down. -/
private theorem neverLowers_pecks {plane : α} {upper : List α} {depth : α}
    (h : Scalar.isPositive settings.peckRetract = true → ∀ z ∈ upper,
      ¬ (settings.coordinate (Scalar.min (z + settings.peckRetract) plane)).Below
        (settings.coordinate z)) (z : Fixed) :
    NeverLowers z (drillPlan.pecks settings plane (upper ++ [depth])) ∧
      heightAfter z (drillPlan.pecks settings plane (upper ++ [depth])) =
        settings.coordinate depth := by
  induction upper generalizing z with
  | nil => exact ⟨⟨by simp, trivial⟩, rfl⟩
  | cons first rest ih =>
    have hrest (w : Fixed) := ih (fun hpeck z hz => h hpeck z (List.mem_cons_of_mem _ hz)) w
    rw [List.cons_append, pecks_cons _ _ (by simp)]
    -- whether there is a lift or not, the next peck begins above this one
    split
    · rename_i hpeck
      refine ⟨⟨by simp, ?_, (hrest _).1⟩, (hrest _).2⟩
      rintro w hw
      obtain rfl := Move.rapidZ.inj hw
      exact h hpeck first List.mem_cons_self
    · exact ⟨⟨by simp, (hrest _).1⟩, (hrest _).2⟩

/-- **One plan.**  Behind its first move a plan does not lower the tool rapidly, and ends at the
depth of the cut. -/
theorem PlanForm.neverLowers [SteadyScalar α] (hpassed : Passed stock op)
    (hclear : Scalar.isPositive settings.safeClearance = true) {moves : List Move}
    (h : PlanForm settings op (safeZ settings stock op) moves) :
    ∃ place rest, moves = .rapidTo place :: rest ∧
      (∀ step ∈ rest, step.isRapidInPlane = false) ∧
      ∀ z, NeverLowers z rest ∧ heightAfter z rest = settings.coordinate op.zDepth := by
  cases h with
  | pecked place hdrill hlayers =>
    obtain ⟨upper, rfl, hupper⟩ := hlayers.exists_upper
    exact ⟨place, _, rfl, pecks_plain settings _ _, neverLowers_pecks fun hpeck z hz =>
      not_below_coordinate (lift_not_lt hpassed hclear hpeck (hupper z hz))⟩
  | layered place hother hlayers hcuts =>
    obtain ⟨upper, rfl, -⟩ := hlayers.exists_upper
    refine ⟨place, _, rfl, layers_plain settings hcuts _, fun z => ?_⟩
    refine ⟨(neverLowers_layers hcuts _ z).1, (neverLowers_layers hcuts _ z).2.trans ?_⟩
    rw [List.getLast?_concat]
    rfl

/-! ## What the machine reads -/

/-- A rapid move along Z that does not end below the height where it starts. -/
def NotLowered (m : Machine) (line : Line) : Prop :=
  isRapidAlongZ line.text = true → ∀ u v, (m.read line.text).z.bind textValue? = some u →
    m.z.bind textValue? = some v → v ≤ u

private theorem notLowered_move {m : Machine} {z : Fixed} (hz : m.z = some z.text) (step : Move)
    (feed : Option Fixed) :
    NotLowered m (.move step feed) ↔ ∀ w, step = .rapidZ w → ¬ w.Below z := by
  have hoffset (name : String) : Line.move step feed ≠ .workOffset name := by simp
  unfold NotLowered
  rw [isRapidAlongZ_text hoffset, Machine.read_move_z, hz]
  -- of all moves only a rapid one along Z is looked at
  cases step with
  | rapidZ w =>
    simp only [Line.step?, Option.any_some, Move.isRapidAlongZ, Move.height?, Option.map_some,
      Option.or_some, Option.getD_some, Option.bind_some, textValue?_text, true_implies]
    constructor
    · rintro h other hw ⟨u, v, hu, hv, huv⟩
      obtain rfl := Move.rapidZ.inj hw
      exact (h u v hu hv).not_gt huv
    · intro h u v hu hv
      exact not_lt.mp fun huv => h w rfl ⟨u, v, hu, hv, huv⟩
  | _ => simp [Line.step?, Move.isRapidAlongZ]

/-- The machine sees the heights of the moves. -/
theorem always_notLowered_iff {lines : List Line} {moves : List Move} {m : Machine} {z : Fixed}
    (hlines : lines.map Line.step? = moves.map some) (hz : m.z = some z.text) :
    m.Always NotLowered lines ↔ NeverLowers z moves := by
  induction moves generalizing lines m z with
  | nil =>
    obtain rfl := List.map_eq_nil_iff.mp hlines
    exact Iff.rfl
  | cons step rest ih =>
    obtain ⟨line, others, rfl, hstep, hrest⟩ := List.map_eq_cons_iff.mp hlines
    obtain ⟨feed, rfl⟩ := eq_move_of_step? hstep
    -- the machine holds the height of the last move that had one
    have hnext : (m.read (Line.move step feed).text).z = some (step.height?.getD z).text := by
      rw [Machine.read_move_z, hz]
      cases step.height? <;> rfl
    rw [Machine.always_cons, notLowered_move hz, ih hrest hnext]
    exact Iff.rfl

/-! ## Blocks -/

/-- The lines of a block in front of its moves: the tool is taken to the safe plane and loaded. -/
def approach (settings : Settings α) (stock : Stock α) (carried : Carried α) (index : Nat)
    (op : Operation α) : List Line :=
  .opening index op.kind :: retract settings stock op ::
    toolLines settings op (Scalar.nearest op.spindleSpeed) carried.spindle

section Approach

variable {carried : Carried α} {index : Nat} {body : List Line}

/-- The block of an operation that is machined is the approach, the moves and the last retract. -/
theorem BlockForm.eq_of_machined (h : BlockForm settings stock carried index op body)
    (hmachined : isMachined stock op = true) :
    ∃ moves, Passed stock op ∧ PlanForm settings op (safeZ settings stock op) moves ∧
      body = approach settings stock carried index op ++
        (withFeed (settings.feed op.feedRate) moves ++ [retract settings stock op]) := by
  cases h with
  | unknown hkind => simp [isMachined, hkind] at hmachined
  | skipped hkind hreason => simp [isMachined, hreason] at hmachined
  | machined hkind hreason hplan =>
    exact ⟨_, passed_of_skipReason? hreason, planForm_of_plan hkind hplan, rfl⟩

/-- The approach ends at the safe plane. -/
theorem z_execute_approach (m : Machine) :
    (m.execute (approach settings stock carried index op)).z =
      some (safePlane settings stock op) := by
  rw [approach, Machine.execute_cons, Machine.execute_cons]
  exact (toolLines_stay (read_retract_z _ settings stock op) op _ _).2

private theorem not_rapid_move {step : Move} (h : step.isRapidInPlane = false)
    (feed : Option Fixed) : isRapidInPlane (Line.move step feed).text = false := by
  rw [isRapidInPlane_text (by simp)]
  exact h

/-- The only move of the approach is the first retract. -/
theorem step_of_mem_approach {line : Line}
    (h : line ∈ approach settings stock carried index op) :
    (∀ name, line ≠ .workOffset name) ∧
      ∀ step ∈ line.step?, step = .rapidZ (settings.coordinate (safeZ settings stock op)) := by
  rcases List.mem_cons.mp h with rfl | h
  · exact ⟨by simp, fun step hstep => nomatch hstep⟩
  · rcases List.mem_cons.mp h with rfl | htool
    · exact ⟨by simp [retract], fun step hstep => (Option.some.inj hstep).symm⟩
    · obtain ⟨hinner, hnone⟩ := inner_of_mem_toolLines htool
      exact ⟨ne_workOffset_of_isInner hinner, by simp [hnone]⟩

end Approach

/-- What a machine makes of the rapid moves along Z of a block that is taken apart at the arrival of
the tool over the part. -/
structure RisesBehind (settings : Settings α) (stock : Stock α) (op : Operation α) (m : Machine)
    (before : List Line) (arrival : Line) (behind : List Line) : Prop where
  /-- The arrival is the only rapid move in the plane. -/
  arrives : isRapidInPlane arrival.text = true
  only : ∀ line ∈ before ++ behind, isRapidInPlane line.text = false
  /-- Up to the last retract no rapid move along Z goes down. -/
  lifts : (m.execute (before ++ [arrival])).Always NotLowered behind.dropLast
  /-- With the last retract none does exactly if the depth of the cut is not above the safe plane
  as they are printed. -/
  retracts_iff : (m.execute (before ++ [arrival])).Always NotLowered behind ↔
    ¬ (settings.coordinate (safeZ settings stock op)).Below (settings.coordinate op.zDepth)

/-- **One block.**  In the block of an operation that is machined nothing but the last retract goes
down rapidly, and that only from above the safe plane. -/
theorem BlockForm.risesBehind [SteadyScalar α]
    (hclear : Scalar.isPositive settings.safeClearance = true) {carried : Carried α} {index : Nat}
    {body : List Line} (h : BlockForm settings stock carried index op body)
    (hmachined : isMachined stock op = true) :
    ∃ before arrival behind, body = before ++ arrival :: behind ∧
      ∀ m : Machine, RisesBehind settings stock op m before arrival behind := by
  obtain ⟨moves, hpassed, hform, rfl⟩ := h.eq_of_machined hmachined
  obtain ⟨place, rest, rfl, hplain, hnever⟩ := hform.neverLowers hpassed hclear
  refine ⟨approach settings stock carried index op, .move (.rapidTo place) none,
    withFeed (settings.feed op.feedRate) rest ++ [retract settings stock op], rfl, fun m => ?_⟩
  -- from the safe plane on no rapid move lowers the tool, and the cuts end at the depth
  obtain ⟨hcuts, hdepth⟩ := hnever (settings.coordinate (safeZ settings stock op))
  -- the tool arrives at the safe plane, and the lines behind are the moves of the plan
  have hplane : (m.execute (approach settings stock carried index op ++
      [.move (.rapidTo place) none])).z =
      some (settings.coordinate (safeZ settings stock op)).text := by
    rw [Machine.execute_append, Machine.execute_cons, Machine.execute_nil, Machine.read_move_z,
      z_execute_approach]
    rfl
  have hmoves : (withFeed (settings.feed op.feedRate) rest ++ [retract settings stock op]).map
      Line.step? =
        (rest ++ [Move.rapidZ (settings.coordinate (safeZ settings stock op))]).map some := by
    rw [List.map_append, List.map_append, map_step?_withFeed]
    rfl
  constructor
  case arrives =>
    rw [isRapidInPlane_text (by simp)]
    rfl
  case only =>
    intro line hmem
    -- neither in front nor behind is there another rapid move in the plane
    rcases List.mem_append.mp hmem with hbefore | hbehind
    · obtain ⟨hoffset, hstep⟩ := step_of_mem_approach hbefore
      rw [isRapidInPlane_text hoffset, Option.any_eq_false]
      exact fun step hmem => by rw [hstep step hmem]; rfl
    · rcases List.mem_append.mp hbehind with hmove | hretract
      · obtain ⟨step, hstep, word, rfl⟩ := exists_move_of_mem_withFeed hmove
        exact not_rapid_move (hplain step hstep) word
      · rw [List.mem_singleton.mp hretract]
        exact not_rapid_move rfl none
  case lifts =>
    rw [List.dropLast_concat, always_notLowered_iff (map_step?_withFeed _ _) hplane]
    exact hcuts
  case retracts_iff =>
    -- the last retract is the only move that may go down
    rw [always_notLowered_iff hmoves hplane, neverLowers_append, hdepth, neverLowers_retract]
    exact and_iff_right hcuts

/-! ## Programs -/

/-- **Retracts go upwards unless the depth is above the safe plane.**  Behind its arrival over the
part the tool is not lowered rapidly in the block of an operation that is machined, if and only if
the depth of the cut is not printed above the safe plane; what may go down is the last retract
alone.  A depth that is not above the top of the cut or not above the stock never is. -/
theorem retracts_rise_unless_depth_is_above_plane [SteadyScalar α]
    (hclear : Scalar.isPositive settings.safeClearance = true) {ops : List (Operation α)}
    {program : List Line} (h : compile settings stock ops = .ok program) :
    ∃ bodies foot, Divided settings stock ops program bodies foot ∧
      ∀ (i : Nat) (op : Operation α) (body : List Line), ops[i]? = some op →
        bodies[i]? = some body → isMachined stock op = true →
          (∃ before arrival behind, body = before ++ arrival :: behind ∧
            ∀ m : Machine, RisesBehind settings stock op m before arrival behind) ∧
          (Scalar.lt op.zStart op.zDepth = false ∨ Scalar.lt stock.height op.zDepth = false →
            ¬ (settings.coordinate (safeZ settings stock op)).Below
              (settings.coordinate op.zDepth)) := by
  obtain ⟨bodies, last, hchained, hdivided⟩ := exists_divided_of_compile h
  refine ⟨bodies, _, hdivided, ?_⟩
  intro i op body hop hbody hmachined
  obtain ⟨carried, hform⟩ := hchained.blockForm hop hbody
  obtain ⟨moves, hpassed, -⟩ := hform.eq_of_machined hmachined
  exact ⟨hform.risesBehind hclear hmachined, fun htop =>
    not_below_coordinate (safeZ_not_lt hpassed hclear htop)⟩

/-- The first hole of the sample job ends below its top, so no rapid move behind the arrival of the
tool goes down. -/
theorem retracts_rise_unless_depth_is_above_plane_of_sampleJob :
    ∃ program bodies foot, compile sampleSettings sampleStock sampleJob = .ok program ∧
      Divided sampleSettings sampleStock sampleJob program bodies foot ∧
      ∀ body, bodies[0]? = some body → ∃ before arrival behind,
        body = before ++ arrival :: behind ∧ isRapidInPlane arrival.text = true ∧
          ∀ m : Machine, (m.execute (before ++ [arrival])).Always NotLowered behind := by
  have hclear : Scalar.isPositive sampleSettings.safeClearance = true := rfl
  obtain ⟨program, hcompile⟩ := exists_compile_sampleJob
  obtain ⟨bodies, foot, hdivided, hrises⟩ :=
    retracts_rise_unless_depth_is_above_plane hclear hcompile
  refine ⟨program, bodies, foot, hcompile, hdivided, fun body hbody => ?_⟩
  obtain ⟨⟨before, arrival, behind, heq, hbehind⟩, hbelow⟩ := hrises 0 _ body rfl hbody rfl
  exact ⟨before, arrival, behind, heq, (hbehind .idle).arrives, fun m =>
    (hbehind m).retracts_iff.mpr (hbelow (.inl rfl))⟩

/-- A hole whose depth is above its top and above the safe plane. -/
def highHole : Operation Float := { sampleHole 10 20 with zDepth := 50 }

/-- **The retract of a high hole goes down.**  The hole is machined, in one pass at the height 50,
and at the end the tool goes rapidly to the safe plane at the height 25. -/
theorem retract_of_highHole_goes_down :
    Scalar.isPositive sampleSettings.safeClearance = true ∧ isMachined sampleStock highHole = true ∧
      ∃ program bodies foot body before arrival behind,
        compile sampleSettings sampleStock [highHole] = .ok program ∧
        Divided sampleSettings sampleStock [highHole] program bodies foot ∧
        bodies[0]? = some body ∧ body = before ++ arrival :: behind ∧
        isRapidInPlane arrival.text = true ∧
        ∀ m : Machine, ¬ (m.execute (before ++ [arrival])).Always NotLowered behind := by
  have hok :
      (compile sampleSettings sampleStock [highHole]).toOption.any (fun _ => true) = true := by
    rfl
  obtain ⟨program, hcompile, -⟩ := exists_of_any_eq_true hok
  obtain ⟨bodies, last, hchained, hdivided⟩ := exists_divided_of_compile hcompile
  obtain ⟨carried, body, hnth, hblock, -⟩ := hchained.inherits (i := 0) rfl
  obtain ⟨before, arrival, behind, rfl, hbehind⟩ :=
    (blockForm_of_block hblock).risesBehind rfl rfl
  refine ⟨rfl, rfl, program, bodies, _, _, before, arrival, behind, hcompile, hdivided, hnth, rfl,
    (hbehind .idle).arrives, fun m halways => (hbehind m).retracts_iff.mp halways ?_⟩
  -- the safe plane is at 25 mm and the hole is cut at 50 mm
  have hplane : sampleSettings.coordinate (safeZ sampleSettings sampleStock highHole) =
      .decimal false 25000 3 := by rfl
  have hdepth : sampleSettings.coordinate highHole.zDepth = .decimal false 50000 3 := by rfl
  rw [hplane, hdepth]
  refine ⟨_, _, rfl, rfl, Extended.ofRat_lt_ofRat.mpr ?_⟩
  norm_num [signed]

end Machining.Program
