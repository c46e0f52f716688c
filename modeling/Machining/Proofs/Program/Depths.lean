import Machining.Proofs.Job.Spacing
import Machining.Proofs.Program.Contours
import Machining.Proofs.Program.Overflow
import Machining.Proofs.Program.Retracts

/-!
# Cuts go down to their depth and no further

In exact arithmetic the passes of a cut go down step by step and end at its depth.  This module
follows them into the words of the program.  Every height is printed for itself, but what is not
below a number is not printed below it.

* `cuts_descend_to_depth` says for all programs that no height in the block of an operation is below
  its depth, that the feed goes down to the depth, from pass to pass no higher, and how a hole is
  pecked.
* `exists_compile_of_isFinite`: in exact arithmetic jobs compile, whatever infinities they hold.
-/

namespace Machining.Job.Toolpath

open Machining.Numeric

/-! ## Depths of passes in exact arithmetic -/

theorem stepCount_exact (span step : ℝ) :
    stepCount (ExactNumber.real span) (.real step) = stepCount span step := rfl

/-- Steps down from the top that stay above the depth of the cut. -/
private theorem inner_descends {top depth step : ℝ} {count : ℕ} (hspan : 0 < top - depth)
    (hstep : 0 < step) (hcount : stepCount (top - depth) step = .ok count) :
    (inner count fun k => top - k * step).Pairwise (· ≥ ·) ∧
      ∀ z ∈ inner count fun k => top - k * step, depth ≤ z := by
  constructor
  · refine List.pairwise_map.mpr (List.pairwise_lt_range.imp fun {i j} hij => ?_)
    have hcast : ((i + 1 : ℕ) : ℝ) ≤ (j + 1 : ℕ) := by exact_mod_cast Nat.succ_le_succ hij.le
    exact sub_le_sub_left (mul_le_mul_of_nonneg_right hcast hstep.le) top
  · intro z hz
    obtain ⟨i, hi, rfl⟩ := List.mem_map.mp hz
    have hlt := List.mem_range.mp hi
    have hbelow := steps_lt_span hspan hstep hcount (show i + 1 < count by omega)
    linarith

/-- The passes go down, and none is below the depth of the cut. -/
theorem Layers.exists_real {top depth : ℝ} {stepDown : ExactNumber} {layers : List ExactNumber}
    (h : Layers (.real top) (.real depth) stepDown layers) :
    ∃ depths : List ℝ, layers = depths.map .real ∧ depths.getLast? = some depth ∧
      depths.Pairwise (· ≥ ·) ∧ ∀ z ∈ depths, depth ≤ z := by
  cases h with
  | single => exact ⟨[depth], rfl, rfl, List.pairwise_singleton _ _, by simp⟩
  | @stepped count hfinite hstep hspan hcount =>
    obtain ⟨step, rfl⟩ := ExactNumber.exists_real_of_isFinite hfinite
    rw [ExactNumber.real_sub] at hspan hcount
    have hpos : 0 < step := ExactNumber.pos_of_le_eq_false hstep
    -- the layers between come down step by step and stay above the depth, which is the last one
    obtain ⟨hpairwise, habove⟩ :=
      inner_descends (ExactNumber.pos_of_le_eq_false hspan) hpos hcount
    refine ⟨(inner count fun k => top - k * step) ++ [depth], ?_, List.getLast?_concat, ?_, ?_⟩
    · rw [List.map_append, inner, inner, List.map_map]
      rfl
    · exact List.pairwise_append.mpr ⟨hpairwise, List.pairwise_singleton _ _, fun z hz w hw =>
        (List.mem_singleton.mp hw).le.trans (habove z hz)⟩
    · intro z hz
      rcases List.mem_append.mp hz with hinner | hlast
      · exact habove z hinner
      · exact (List.mem_singleton.mp hlast).ge

end Machining.Job.Toolpath

namespace Machining.Program

open Machining.Numeric Machining.Job

/-! ## Heights as they are printed -/

/-- Whether a number is printed that is not below another one. -/
def IsAtLeast (high low : String) : Prop :=
  ∃ u v, textValue? high = some u ∧ textValue? low = some v ∧ v ≤ u

section Heights

variable {settings : Settings ExactNumber} {a b : ExactNumber}

theorem exists_value?_coordinate (settings : Settings ExactNumber) (h : a ≠ .nan) :
    ∃ u, textValue? (settings.coordinate a).text = some u := by
  rw [textValue?_text, Settings.coordinate, Fixed.value?_unsigned]
  cases a with
  | nan => exact absurd rfl h
  | infinite negative => exact ⟨_, rfl⟩
  | real x => exact ⟨_, rfl⟩

theorem isAtLeast_coordinate (ha : a ≠ .nan) (hb : b ≠ .nan) (h : Scalar.lt a b = false) :
    IsAtLeast (settings.coordinate a).text (settings.coordinate b).text := by
  obtain ⟨u, hu⟩ := exists_value?_coordinate settings ha
  obtain ⟨v, hv⟩ := exists_value?_coordinate settings hb
  refine ⟨u, v, hu, hv, not_lt.mp fun huv => ?_⟩
  rw [textValue?_text] at hu hv
  exact not_below_coordinate h ⟨u, v, hu, hv, huv⟩

end Heights

/-- The heights of the moves at the feed, in order. -/
def feedHeights (lines : List Line) : List String :=
  (lines.filter fun line => isFeedMove line.text).flatMap fun line =>
    ((readWords line.text).filter fun word => word.letter = 'Z').map Word.value

/-- The lines of a hole that is pecked with lifts: a move down at the feed, and behind each but the
last a rapid move up that stays below the safe plane. -/
inductive PeckCycle (plane : String) : List Line → Prop where
  /-- The last peck. -/
  | last {line : Line} {z : String} (hfeed : isFeedMove line.text = true)
      (hz : ⟨'Z', z⟩ ∈ readWords line.text) : PeckCycle plane [line]
  /-- A peck with its lift. -/
  | peck {line lift : Line} {z w : String} {rest : List Line}
      (hfeed : isFeedMove line.text = true) (hz : ⟨'Z', z⟩ ∈ readWords line.text)
      (hrapid : isRapidAlongZ lift.text = true) (hw : ⟨'Z', w⟩ ∈ readWords lift.text)
      (hup : IsAtLeast w z) (hplane : IsAtLeast plane w) (hrest : PeckCycle plane rest) :
      PeckCycle plane (line :: lift :: rest)

/-- What is shown of the block of an operation. -/
structure Descends {α : Type} [Scalar α] (settings : Settings α) (stock : Stock α)
    (op : Operation α) (body : List Line) : Prop where
  /-- No height is below the depth of the cut. -/
  above : ∀ line ∈ body, ∀ word ∈ readWords line.text, word.letter = 'Z' →
    IsAtLeast word.value (settings.coordinate op.zDepth).text
  /-- The last move down at the feed goes to the depth of the cut. -/
  reaches : (feedHeights body).getLast? = some (settings.coordinate op.zDepth).text
  /-- From pass to pass the heights at the feed do not go up. -/
  descends : (feedHeights body).Pairwise IsAtLeast
  /-- Between its arrival and the last retract, and not before, the tool pecks a hole, if it is to
  be lifted at all. -/
  pecks : op.kind = .drill → Scalar.isPositive settings.peckRetract = true →
    ∃ before arrival cycle, body = before ++ arrival :: (cycle ++ [retract settings stock op]) ∧
      (∀ line ∈ before, isFeedMove line.text = false) ∧ isRapidInPlane arrival.text = true ∧
      PeckCycle (safePlane settings stock op) cycle

/-! ## The heights of a plan -/

section Plans

variable {α : Type} [Scalar α] {settings : Settings α} {op : Operation α} {plane : α}

/-- The height that a move at the feed goes to, if it names one. -/
def Move.cutHeight? : Move → Option Fixed
  | .cutZ z => some z
  | _ => none

private theorem cutHeight?_cutZ (z : Fixed) : (Move.cutZ z).cutHeight? = some z := rfl

/-- At the feed the tool goes down to the depths of the pecks. -/
private theorem cutHeights_pecks (layers : List α) :
    (drillPlan.pecks settings plane layers).filterMap Move.cutHeight? =
      layers.map settings.coordinate := by
  induction layers with
  | nil => rfl
  | cons z rest ih =>
    cases rest with
    | nil => rfl
    | cons next rest =>
      rw [pecks_cons _ _ (List.cons_ne_nil next rest), List.filterMap_cons_some (cutHeight?_cutZ _),
        List.filterMap_append, ih]
      split <;> rfl

private theorem height?_of_isLevel {step : Move} (h : step.isLevel = true) :
    step.height? = none := by
  cases step with
  | rapidZ | cutZ => cases h
  | _ => rfl

private theorem cutHeights_layers {cuts : List Move} (h : ∀ step ∈ cuts, step.isLevel = true)
    (layers : List α) :
    (layers.flatMap fun z => .cutZ (settings.coordinate z) :: cuts).filterMap Move.cutHeight? =
      layers.map settings.coordinate := by
  -- level cuts have no height
  have hcuts : cuts.filterMap Move.cutHeight? = [] := by
    refine List.filterMap_eq_nil_iff.mpr fun step hstep => ?_
    have hlevel := h step hstep
    cases step with
    | cutZ => cases hlevel
    | _ => rfl
  induction layers with
  | nil => rfl
  | cons z rest ih =>
    rw [List.flatMap_cons, List.cons_append, List.filterMap_cons_some (cutHeight?_cutZ _),
      List.filterMap_append, hcuts, ih]
    rfl

/-- A height that is named among the pecks is that of a peck or of the lift behind one. -/
private theorem height_of_mem_pecks {layers : List α} {step : Move} {w : Fixed}
    (h : step ∈ drillPlan.pecks settings plane layers) (hw : step.height? = some w) :
    ∃ z ∈ layers, w = settings.coordinate z ∨ Scalar.isPositive settings.peckRetract = true ∧
      w = settings.coordinate (Scalar.min (z + settings.peckRetract) plane) := by
  induction layers with
  | nil => cases h
  | cons z rest ih =>
    -- the last layer has no lift behind it
    cases rest with
    | nil =>
      rw [List.mem_singleton.mp h] at hw
      exact ⟨z, List.mem_cons_self, .inl (Option.some.inj hw).symm⟩
    | cons next rest =>
      rw [pecks_cons _ _ (List.cons_ne_nil next rest), List.mem_cons, List.mem_append] at h
      -- a cut to the layer, the lift behind it if pecks are lifted, or a later peck
      rcases h with rfl | hlift | hrest
      · exact ⟨z, List.mem_cons_self, .inl (Option.some.inj hw).symm⟩
      · obtain ⟨hpeck, hlift⟩ := List.mem_ite_nil_right.mp hlift
        rw [List.mem_singleton.mp hlift] at hw
        exact ⟨z, List.mem_cons_self, .inr ⟨hpeck, (Option.some.inj hw).symm⟩⟩
      · obtain ⟨other, hother, hcases⟩ := ih hrest
        exact ⟨other, List.mem_cons_of_mem z hother, hcases⟩

private theorem height_of_mem_layers {cuts : List Move} (h : ∀ step ∈ cuts, step.isLevel = true)
    {layers : List α} {step : Move} {w : Fixed}
    (hmem : step ∈ layers.flatMap fun z => .cutZ (settings.coordinate z) :: cuts)
    (hw : step.height? = some w) : ∃ z ∈ layers, w = settings.coordinate z := by
  obtain ⟨z, hz, hstep⟩ := List.mem_flatMap.mp hmem
  rcases List.mem_cons.mp hstep with rfl | hcut
  · exact ⟨z, hz, (Option.some.inj hw).symm⟩
  · rw [height?_of_isLevel (h step hcut)] at hw
    cases hw

/-- **One plan.**  At the feed the tool goes down to the depths of the passes, and no height is
named but these and those of the lifts. -/
theorem PlanForm.exists_layers {moves : List Move} (h : PlanForm settings op plane moves) :
    ∃ layers, Toolpath.Layers op.zStart op.zDepth op.stepDown layers ∧
      moves.filterMap Move.cutHeight? = layers.map settings.coordinate ∧
      ∀ step ∈ moves, ∀ w, step.height? = some w → ∃ z ∈ layers,
        w = settings.coordinate z ∨ Scalar.isPositive settings.peckRetract = true ∧
          w = settings.coordinate (Scalar.min (z + settings.peckRetract) plane) := by
  -- pecks have lifts between them, layers only the cuts to them
  cases h with
  | pecked place hdrill hlayers =>
    refine ⟨_, hlayers, cutHeights_pecks _, List.forall_mem_cons.mpr ⟨?_, ?_⟩⟩
    · intro w hw
      cases hw
    · exact fun step hstep w => height_of_mem_pecks hstep
  | layered place hother hlayers hcuts =>
    refine ⟨_, hlayers, cutHeights_layers hcuts _, List.forall_mem_cons.mpr ⟨?_, ?_⟩⟩
    · intro w hw
      cases hw
    · intro step hstep w hw
      obtain ⟨z, hz, heq⟩ := height_of_mem_layers hcuts hstep hw
      exact ⟨z, hz, .inl heq⟩

end Plans

/-! ## The heights of a block -/

section Lines

private theorem heights_move (step : Move) (feed : Option Fixed) :
    ((readWords (Line.move step feed).text).filter fun word => word.letter = 'Z').map Word.value =
      (step.height?.map Fixed.text).toList := by
  rw [readWords_text, Line.words]
  cases feed with
  | none => cases step <;> simp [Move.wordsWithFeed, Move.words, Move.height?]
  | some feed => cases step <;> simp [Move.wordsWithFeed, Move.words, Move.height?]

theorem feedHeights_append (first second : List Line) :
    feedHeights (first ++ second) = feedHeights first ++ feedHeights second := by
  rw [feedHeights, List.filter_append, List.flatMap_append]
  rfl

private theorem feedHeights_move (step : Move) (feed : Option Fixed) :
    feedHeights [.move step feed] = (step.cutHeight?.map Fixed.text).toList := by
  have hfeed : isFeedMove (Line.move step feed).text = step.isCut := isFeedMove_text (by simp)
  have hheights := heights_move step feed
  cases step with
  | rapidZ | rapidTo | dropped =>
    rw [feedHeights, List.filter_cons_of_neg (by simp [hfeed, Move.isCut])]
    rfl
  | cutZ | cutTo | cutX | cutY | cutArc =>
    rw [feedHeights, List.filter_cons_of_pos (by simp [hfeed, Move.isCut]), List.filter_nil,
      List.flatMap_singleton, hheights]
    rfl

/-- The lines of moves have the heights of the moves. -/
theorem feedHeights_of_moves {lines : List Line} {moves : List Move}
    (h : lines.map Line.step? = moves.map some) :
    feedHeights lines = (moves.filterMap Move.cutHeight?).map Fixed.text := by
  induction moves generalizing lines with
  | nil =>
    obtain rfl := List.map_eq_nil_iff.mp h
    rfl
  | cons step rest ih =>
    obtain ⟨line, others, rfl, hstep, hrest⟩ := List.map_eq_cons_iff.mp h
    obtain ⟨feed, rfl⟩ := eq_move_of_step? hstep
    rw [← List.singleton_append, feedHeights_append, feedHeights_move, ih hrest]
    cases hheight : step.cutHeight? with
    | none => rw [List.filterMap_cons_none hheight]; rfl
    | some w => rw [List.filterMap_cons_some hheight]; rfl

/-- Only the lines of moves along Z have a height. -/
private theorem exists_move_of_height {line : Line} {word : Word}
    (hoffset : ∀ name, line ≠ .workOffset name) (h : word ∈ readWords line.text)
    (hletter : word.letter = 'Z') :
    ∃ step z, line.step? = some step ∧ step.height? = some z ∧ word.value = z.text := by
  rw [readWords_text] at h
  cases wordOf_of_mem_line hoffset h with
  | other hother =>
    rw [hletter] at hother
    exact absurd hother (by decide)
  | height feed hheight => exact ⟨_, _, rfl, hheight, rfl⟩
  | feed | speed => cases hletter

private theorem height_mem {step : Move} {z : Fixed} (h : step.height? = some z)
    (feed : Option Fixed) : ⟨'Z', z.text⟩ ∈ readWords (Line.move step feed).text := by
  rw [readWords_text, Line.words]
  cases step with
  | rapidZ | cutZ =>
    obtain rfl := Option.some.inj h
    cases feed <;> simp [Move.wordsWithFeed, Move.words]
  | _ => cases h

private theorem feedHeights_eq_nil {lines : List Line}
    (h : ∀ line ∈ lines, isFeedMove line.text = false) : feedHeights lines = [] := by
  rw [feedHeights, List.filter_eq_nil_iff.mpr fun line hline => by simp [h line hline]]
  rfl

end Lines

/-- The lines of a hole, as the machine sees them. -/
private theorem peckCycle_of_pecks {α : Type} [Scalar α] {settings : Settings α} {plane depth : α}
    {upper : List α} {lines : List Line}
    (hpeck : Scalar.isPositive settings.peckRetract = true)
    (hlifts : ∀ z ∈ upper,
      IsAtLeast (settings.coordinate (Scalar.min (z + settings.peckRetract) plane)).text
        (settings.coordinate z).text ∧
      IsAtLeast (settings.coordinate plane).text
        (settings.coordinate (Scalar.min (z + settings.peckRetract) plane)).text)
    (h : lines.map Line.step? =
      (drillPlan.pecks settings plane (upper ++ [depth])).map some) :
    PeckCycle (settings.coordinate plane).text lines := by
  -- along the depths above the last one, each with its lift
  induction upper generalizing lines with
  | nil =>
    obtain ⟨line, others, rfl, hstep, hnone⟩ := List.map_eq_cons_iff.mp h
    obtain rfl := List.map_eq_nil_iff.mp hnone
    obtain ⟨feed, rfl⟩ := eq_move_of_step? hstep
    exact .last (isFeedMove_text (by simp)) (height_mem rfl feed)
  | cons z rest ih =>
    rw [List.cons_append, pecks_cons _ _ (by simp), if_pos hpeck] at h
    obtain ⟨line, others, rfl, hstep, h⟩ := List.map_eq_cons_iff.mp h
    obtain ⟨lift, others, rfl, hlift, hrest⟩ := List.map_eq_cons_iff.mp h
    obtain ⟨feed, rfl⟩ := eq_move_of_step? hstep
    obtain ⟨word, rfl⟩ := eq_move_of_step? hlift
    obtain ⟨⟨hup, hplane⟩, hothers⟩ := List.forall_mem_cons.mp hlifts
    exact .peck (isFeedMove_text (by simp)) (height_mem rfl feed) (isRapidAlongZ_text (by simp))
      (height_mem rfl word) hup hplane (ih hothers hrest)

/-! ## Blocks -/

/-- Before its arrival the tool makes no move at the feed. -/
private theorem not_feedMove_of_mem_approach {α : Type} [Scalar α] {settings : Settings α}
    {stock : Stock α} {carried : Carried α} {index : ℕ} {op : Operation α} {line : Line}
    (h : line ∈ approach settings stock carried index op) : isFeedMove line.text = false := by
  obtain ⟨hoffset, hstep⟩ := step_of_mem_approach h
  rw [isFeedMove_text hoffset, Option.any_eq_false]
  exact fun step hmem => by rw [hstep step hmem]; rfl

/-- The heights at the feed in a block are those of its moves. -/
theorem feedHeights_block {α : Type} [Scalar α] (settings : Settings α) (stock : Stock α)
    (carried : Carried α) (index : ℕ) (op : Operation α) (moves : List Move) :
    feedHeights (approach settings stock carried index op ++
        (withFeed (settings.feed op.feedRate) moves ++ [retract settings stock op])) =
      (moves.filterMap Move.cutHeight?).map Fixed.text := by
  have happroach : feedHeights (approach settings stock carried index op) = [] :=
    feedHeights_eq_nil fun _ => not_feedMove_of_mem_approach
  have hretract : feedHeights [retract settings stock op] = [] := feedHeights_move _ none
  rw [feedHeights_append, feedHeights_append, happroach, hretract,
    feedHeights_of_moves (map_step?_withFeed _ _), List.nil_append, List.append_nil]

section Blocks

variable {settings : Settings ExactNumber} {stock : Stock ExactNumber}
  {op : Operation ExactNumber}

private theorem ne_nan_of_isPositive {a : ExactNumber} (h : Scalar.isPositive a = true) :
    a ≠ .nan := by
  rintro rfl
  cases h

/-- What is added to a real number and is not "no number" leaves a number. -/
private theorem real_add_ne_nan (x : ℝ) {a : ExactNumber} (h : a ≠ .nan) :
    ExactNumber.real x + a ≠ .nan := by
  cases a with
  | nan => exact absurd rfl h
  | infinite | real => exact ExactNumber.noConfusion

private theorem safeZ_ne_nan (hpassed : Passed stock op)
    (hclear : Scalar.isPositive settings.safeClearance = true) :
    safeZ settings stock op ≠ .nan := by
  obtain ⟨top, htop⟩ := ExactNumber.exists_real_of_isFinite
    (Scalar.isFinite_max hpassed.zStart hpassed.stockHeight)
  rw [hpassed.safeZ_eq, htop]
  exact real_add_ne_nan top (ne_nan_of_isPositive hclear)

private theorem lift_ne_nan (hpassed : Passed stock op)
    (hclear : Scalar.isPositive settings.safeClearance = true)
    (hpeck : Scalar.isPositive settings.peckRetract = true) (x : ℝ) :
    Scalar.min (.real x + settings.peckRetract) (safeZ settings stock op) ≠ .nan :=
  Scalar.min_rec (P := fun z => z ≠ ExactNumber.nan)
    (real_add_ne_nan x (ne_nan_of_isPositive hpeck))
    (safeZ_ne_nan hpassed hclear)

/-- A lift is printed no lower than its peck, and no higher than the safe plane. -/
private theorem lift_isAtLeast (hpassed : Passed stock op)
    (hclear : Scalar.isPositive settings.safeClearance = true)
    (hpeck : Scalar.isPositive settings.peckRetract = true) {x : ℝ}
    (hx : Toolpath.IsStepBelow op.zStart op.stepDown (.real x)) :
    IsAtLeast (settings.coordinate (Scalar.min (.real x + settings.peckRetract)
        (safeZ settings stock op))).text (settings.coordinate (.real x)).text ∧
      IsAtLeast (settings.coordinate (safeZ settings stock op)).text
        (settings.coordinate (Scalar.min (.real x + settings.peckRetract)
          (safeZ settings stock op))).text := by
  have hplane := safeZ_ne_nan hpassed hclear
  have hlift := lift_ne_nan hpassed hclear hpeck x
  exact ⟨isAtLeast_coordinate hlift ExactNumber.noConfusion (lift_not_lt hpassed hclear hpeck hx),
    isAtLeast_coordinate hplane hlift (Scalar.not_lt_min_right _ _)⟩

/-- No height that a plan names is printed below the depth of the cut. -/
private theorem height_isAtLeast (hpassed : Passed stock op)
    (hclear : Scalar.isPositive settings.safeClearance = true) {x depth : ℝ}
    (hdepth : op.zDepth = .real depth) (hx : depth ≤ x) {w : Fixed}
    (hplane : Scalar.lt (safeZ settings stock op) op.zDepth = false)
    (hw : w = settings.coordinate (.real x) ∨ Scalar.isPositive settings.peckRetract = true ∧
      w = settings.coordinate (Scalar.min (.real x + settings.peckRetract)
        (safeZ settings stock op))) :
    IsAtLeast w.text (settings.coordinate op.zDepth).text := by
  have hbelow : Scalar.lt (.real x) op.zDepth = false := by
    rw [hdepth]
    exact ExactNumber.lt_real_eq_false hx
  have hnumber : op.zDepth ≠ .nan := hdepth ▸ ExactNumber.noConfusion
  rcases hw with rfl | ⟨hpeck, rfl⟩
  · exact isAtLeast_coordinate ExactNumber.noConfusion hnumber hbelow
  · refine isAtLeast_coordinate (lift_ne_nan hpassed hclear hpeck x) hnumber
      (Scalar.min_not_lt ?_ hplane)
    exact Scalar.not_lt_trans rfl (SteadyScalar.add_not_lt hpeck) hbelow

/-- **One block.**  In exact arithmetic the block of an operation goes down to its depth and no
further. -/
theorem BlockForm.descends (hclear : Scalar.isPositive settings.safeClearance = true)
    {carried : Carried ExactNumber} {index : ℕ} {body : List Line}
    (h : BlockForm settings stock carried index op body) (hmachined : isMachined stock op = true)
    (hdown : Scalar.le op.zDepth op.zStart = true) : Descends settings stock op body := by
  obtain ⟨moves, hpassed, hform, rfl⟩ := h.eq_of_machined hmachined
  -- an operation that is machined has numbers for its heights, so the layers are numbers too
  obtain ⟨top, htop⟩ := ExactNumber.exists_real_of_isFinite hpassed.zStart
  obtain ⟨depth, hdepth⟩ := ExactNumber.exists_real_of_isFinite hpassed.zDepth
  obtain ⟨layers, hlayers, hcuts, hheights⟩ := hform.exists_layers
  rw [htop, hdepth] at hlayers
  obtain ⟨depths, rfl, hlast, hpairwise, habove⟩ := hlayers.exists_real
  -- downwards, so the safe plane is not below the depth either
  have hstart : Scalar.lt op.zStart op.zDepth = false := by
    rw [htop, hdepth, ExactNumber.le_real, le_real_iff] at hdown
    rw [htop, hdepth]
    exact ExactNumber.lt_real_eq_false hdown
  have hplane := safeZ_not_lt hpassed hclear (.inl hstart)
  have hretract : IsAtLeast (settings.coordinate (safeZ settings stock op)).text
      (settings.coordinate op.zDepth).text :=
    isAtLeast_coordinate (safeZ_ne_nan hpassed hclear) (hdepth ▸ ExactNumber.noConfusion) hplane
  constructor
  case above =>
    intro line hline word hword hletter
    -- a height stands in a retract or in a move of the plan
    rcases List.mem_append.mp hline with happroach | hline
    · obtain ⟨hoffset, hstep⟩ := step_of_mem_approach happroach
      obtain ⟨step, z, hmove, hz, hvalue⟩ := exists_move_of_height hoffset hword hletter
      rw [hstep step hmove] at hz
      obtain rfl := Option.some.inj hz
      rwa [hvalue]
    · rcases List.mem_append.mp hline with hmove | hlast
      · obtain ⟨step, hstep, feed, rfl⟩ := exists_move_of_mem_withFeed hmove
        obtain ⟨other, z, hother, hz, hvalue⟩ := exists_move_of_height (by simp) hword hletter
        obtain rfl := Option.some.inj hother
        obtain ⟨_, hlayer, hcases⟩ := hheights step hstep z hz
        obtain ⟨x, hx, rfl⟩ := List.mem_map.mp hlayer
        rw [hvalue]
        exact height_isAtLeast hpassed hclear hdepth (habove x hx) hplane hcases
      · rw [List.mem_singleton.mp hlast] at hword
        obtain ⟨step, z, hmove, hz, hvalue⟩ :=
          exists_move_of_height (by simp [retract]) hword hletter
        obtain rfl := Option.some.inj hmove
        obtain rfl := Option.some.inj hz
        rwa [hvalue]
  case reaches =>
    -- the cuts are the layers as they are printed, the last of them the depth
    rw [feedHeights_block, hcuts, List.getLast?_map, List.getLast?_map, List.getLast?_map, hlast,
      hdepth]
    rfl
  case descends =>
    rw [feedHeights_block, hcuts, List.pairwise_map, List.pairwise_map, List.pairwise_map]
    exact hpairwise.imp fun hxy => isAtLeast_coordinate ExactNumber.noConfusion
      ExactNumber.noConfusion (ExactNumber.lt_real_eq_false hxy)
  case pecks =>
    intro hkind hpeck
    -- pecks are drilled, and nothing else is
    cases hform with
    | layered place hother =>
      cases hfeature : op.feature with
      | drill diameter => exact absurd hfeature (hother diameter)
      | _ => simp [Operation.kind, hfeature, Feature.kind] at hkind
    | pecked place hdrill hpasses =>
      refine ⟨_, .move (.rapidTo place) none, withFeed (settings.feed op.feedRate) _, rfl,
        fun _ => not_feedMove_of_mem_approach, isRapidInPlane_text (by simp), ?_⟩
      -- every layer but the last one has a lift behind it
      obtain ⟨upper, rfl, hupper⟩ := hpasses.exists_upper
      rw [htop, hdepth] at hpasses
      obtain ⟨xs, hxs, -⟩ := hpasses.exists_real
      refine peckCycle_of_pecks hpeck (fun z hz => ?_) (map_step?_withFeed _ _)
      obtain ⟨x, -, rfl⟩ : ∃ x ∈ xs, ExactNumber.real x = z :=
        List.mem_map.mp (hxs ▸ List.mem_append_left _ hz)
      exact lift_isAtLeast hpassed hclear hpeck (hupper _ hz)

end Blocks

/-! ## Programs -/

section Compiling

variable {settings : Settings ExactNumber} {stock : Stock ExactNumber}
  {op : Operation ExactNumber} {a b : ExactNumber}

private theorem isFinite_sub (ha : Scalar.isFinite a = true) (hb : Scalar.isFinite b = true) :
    Scalar.isFinite (a - b) = true := by
  obtain ⟨x, rfl⟩ := ExactNumber.exists_real_of_isFinite ha
  obtain ⟨y, rfl⟩ := ExactNumber.exists_real_of_isFinite hb
  rfl

private theorem isFinite_mul (ha : Scalar.isFinite a = true) (hb : Scalar.isFinite b = true) :
    Scalar.isFinite (a * b) = true := by
  obtain ⟨x, rfl⟩ := ExactNumber.exists_real_of_isFinite ha
  obtain ⟨y, rfl⟩ := ExactNumber.exists_real_of_isFinite hb
  rfl

private theorem isFinite_half (ha : Scalar.isFinite a = true) :
    Scalar.isFinite (Scalar.half a) = true := by
  obtain ⟨x, rfl⟩ := ExactNumber.exists_real_of_isFinite ha
  rfl

/-- The terms of a sum that is real are real. -/
private theorem isFinite_of_add (h : Scalar.isFinite (a + b) = true) :
    Scalar.isFinite a = true ∧ Scalar.isFinite b = true := by
  cases a with
  | nan => cases h
  | infinite negative =>
    cases b with
    | nan | real => cases h
    | infinite other => cases negative <;> cases other <;> cases h
  | real x =>
    cases b with
    | nan | infinite => cases h
    | real y => exact ⟨rfl, rfl⟩

/-- A cutter that fits into a real size is real. -/
private theorem isFinite_of_fits (htool : Scalar.isPositive a = true)
    (hsize : Scalar.isFinite b = true) (hroom : Scalar.lt b a = false) :
    Scalar.isFinite a = true := by
  obtain ⟨y, rfl⟩ := ExactNumber.exists_real_of_isFinite hsize
  rcases ExactNumber.exists_real_of_isPositive htool with rfl | ⟨x, rfl, -⟩
  · cases hroom
  · rfl

private theorem isFinite_footprint (h : stock.isWellFormed = true) :
    Scalar.isFinite (stock.footprint.yMax - stock.footprint.yMin) = true := by
  unfold Stock.isWellFormed at h
  unfold Stock.footprint
  cases hshape : stock.shape with
  | rectangular =>
    simp only [hshape, Bool.and_eq_true] at h
    exact isFinite_sub h.2.1.1.2 rfl
  | cylindrical =>
    simp only [hshape, Bool.and_eq_true] at h
    obtain ⟨d, hd⟩ := ExactNumber.exists_real_of_isFinite h.2.1
    rw [hd]
    rfl

/-- Every distance is real and covered in real steps, where the fractions are real. -/
private theorem isFinite_of_mem_strides (hstepover : Scalar.isFinite settings.pocketStepover = true)
    (hoverlap : Scalar.isFinite settings.faceOverlap = true) {stride : Stride ExactNumber}
    (h : stride ∈ strides settings stock op) :
    Scalar.isFinite stride.span = true ∧ Scalar.isFinite stride.step = true := by
  -- a stride is measured from numbers that the checks have found finite
  cases arises_of_mem_strides h with
  | depth hstart hdepth hfinite => exact ⟨isFinite_sub hstart hdepth, hfinite⟩
  | ring htool hdiameter hroom =>
    have hcutter := isFinite_of_fits htool hdiameter hroom
    exact ⟨isFinite_sub (isFinite_half hdiameter) (isFinite_half hcutter),
      isFinite_mul hcutter hstepover⟩
  | rectangle htool hsize hroom =>
    obtain ⟨hwidth, hlength⟩ := isFinite_of_add hsize
    have hcutter := isFinite_of_fits htool (Scalar.isFinite_min hwidth hlength) hroom
    have hhalf := isFinite_half hcutter
    exact ⟨Scalar.isFinite_min (isFinite_sub (isFinite_half hwidth) hhalf)
      (isFinite_sub (isFinite_half hlength) hhalf), isFinite_mul hcutter hstepover⟩
  | raster hcutter hstock =>
    exact ⟨isFinite_footprint hstock, isFinite_mul hcutter (isFinite_sub rfl hoverlap)⟩

/-- **Exact jobs compile** with fractions that are real, whatever else is infinite or no number. -/
theorem exists_compile_of_isFinite (hstepover : Scalar.isFinite settings.pocketStepover = true)
    (hoverlap : Scalar.isFinite settings.faceOverlap = true) (stock : Stock ExactNumber)
    (ops : List (Operation ExactNumber)) :
    ∃ program, compile settings stock ops = .ok program := by
  cases compile_hinges settings stock ops with
  | ok program hprogram => exact ⟨program, hprogram⟩
  | error error hprogram hcount =>
    obtain ⟨⟨span, step⟩, hmem, hcount⟩ := hcount
    obtain ⟨op, -, hstride⟩ := List.mem_flatMap.mp hmem
    obtain ⟨hspan, hstep⟩ := isFinite_of_mem_strides hstepover hoverlap hstride
    obtain ⟨x, rfl⟩ := ExactNumber.exists_real_of_isFinite hspan
    obtain ⟨y, rfl⟩ := ExactNumber.exists_real_of_isFinite hstep
    -- only a step of zero cannot be counted, and none is taken
    have hpos := ExactNumber.pos_of_le_eq_false (step_of_mem_strides hstride)
    rw [Stride.count, Toolpath.stepCount_exact, Toolpath.stepCount_real x hpos] at hcount
    cases hcount

end Compiling

/-- **Cuts go down to their depth and no further.**  In exact arithmetic the block of every
operation that is machined, and whose depth is not above its top, is as `Descends` says.  A program
there is whenever the fractions of the settings are real. -/
theorem cuts_descend_to_depth {settings : Settings ExactNumber}
    (hclear : Scalar.isPositive settings.safeClearance = true) (stock : Stock ExactNumber)
    (ops : List (Operation ExactNumber)) :
    (Scalar.isFinite settings.pocketStepover = true → Scalar.isFinite settings.faceOverlap = true →
        ∃ program, compile settings stock ops = .ok program) ∧
      ∀ program, compile settings stock ops = .ok program →
        ∃ bodies foot, Divided settings stock ops program bodies foot ∧
          ∀ (i : ℕ) (op : Operation ExactNumber) (body : List Line), ops[i]? = some op →
            bodies[i]? = some body → isMachined stock op = true →
              Scalar.le op.zDepth op.zStart = true → Descends settings stock op body := by
  refine ⟨fun hstepover hoverlap => exists_compile_of_isFinite hstepover hoverlap stock ops, ?_⟩
  intro program hcompile
  obtain ⟨bodies, last, hchained, hdivided⟩ := exists_divided_of_compile hcompile
  refine ⟨bodies, _, hdivided, ?_⟩
  intro i op body hop hbody hmachined hdown
  obtain ⟨carried, hform⟩ := hchained.blockForm hop hbody
  exact hform.descends hclear hmachined hdown

/-! ## A sample hole -/

/-- A hole that is drilled in three pecks. -/
noncomputable def deepHole : Operation ExactNumber :=
  ⟨Scalar.ofNat 10, Scalar.ofNat 30, Scalar.ofNat 20, Scalar.ofNat 10, Scalar.ofNat 200,
    Scalar.ofNat 1500, Scalar.ofNat 8, .drill, Scalar.ofNat 4, .drill (Scalar.ofNat 8)⟩

private theorem isPositive_ofNat (n : ℕ) : Scalar.isPositive (Scalar.ofNat n : ExactNumber) =
    decide ((Scalar.zero : ℝ) < n) := rfl

private theorem isMachined_deepHole : isMachined mixedStock deepHole = true := by
  have hfinite (n : ℕ) : Scalar.isFinite (Scalar.ofNat n : ExactNumber) = true := rfl
  have hskip : skipReason? mixedStock deepHole = none := by
    norm_num [skipReason?, featureSkipReason?, isUsable, deepHole, mixedStock,
      Operation.isWellFormed, hfinite, isPositive_ofNat, zero_real]
  rw [isMachined, hskip]
  rfl

/-- The hole goes down to its depth, and the tool is lifted behind each peck but the last. -/
theorem cuts_descend_to_depth_of_deepHole :
    ∃ program bodies foot body before arrival cycle,
      compile mixedSettings mixedStock [deepHole] = .ok program ∧
        Divided mixedSettings mixedStock [deepHole] program bodies foot ∧
        bodies[0]? = some body ∧ Descends mixedSettings mixedStock deepHole body ∧
        body = before ++ arrival :: (cycle ++ [retract mixedSettings mixedStock deepHole]) ∧
        PeckCycle (safePlane mixedSettings mixedStock deepHole) cycle := by
  -- the numbers of the settings and of the hole, as the theorem asks for them
  have hclear : Scalar.isPositive mixedSettings.safeClearance = true := by
    norm_num [mixedSettings, isPositive_ofNat, zero_real]
  have hpeck : Scalar.isPositive mixedSettings.peckRetract = true := by
    norm_num [mixedSettings, isPositive_ofNat, zero_real]
  have hdown : Scalar.le deepHole.zDepth deepHole.zStart = true := by
    change Scalar.le ((10 : ℕ) : ℝ) ((20 : ℕ) : ℝ) = true
    rw [le_real_iff]
    norm_num
  obtain ⟨hexists, hdescends⟩ := cuts_descend_to_depth hclear mixedStock [deepHole]
  obtain ⟨program, hcompile⟩ := hexists rfl rfl
  obtain ⟨bodies, foot, hdivided, hblocks⟩ := hdescends program hcompile
  have hlength := hdivided.length_eq
  obtain ⟨body, hbody⟩ : ∃ body, bodies[0]? = some body :=
    ⟨_, List.getElem?_eq_getElem (hlength ▸ Nat.zero_lt_one)⟩
  have hbody' := hblocks 0 deepHole body rfl hbody isMachined_deepHole hdown
  obtain ⟨before, arrival, cycle, heq, -, -, hcycle⟩ := hbody'.pecks rfl hpeck
  exact ⟨program, bodies, foot, body, before, arrival, cycle, hcompile, hdivided, hbody, hbody',
    heq, hcycle⟩

end Machining.Program
