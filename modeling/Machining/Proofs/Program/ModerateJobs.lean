import Machining.Proofs.Program.Reach

/-!
# Programs without infinite numbers

The compiler looks at every number of a job before it plans with it, and what is infinite or no
number is skipped, dropped or cut in another way.  It does not look at what comes out.  A sum or a
square of finite numbers may be infinite, and then the program says "inf", or "nan" where one
infinity is taken away from another.

* `moderate_jobs_have_decimal_words`: where the finite numbers of a job are not extremely large, all
  numbers of its program are decimals.  What is infinite or no number in the job does no harm.
* `wide_arc_is_cut_about_nothing`: an arc with a finite radius whose square is infinite has no
  centre on paper.
-/

namespace Machining.Program

open Machining.Numeric Machining.Job

/-! ## Moderate numbers -/

/-- Lengths up to here can be added without harm. -/
def greatestLength : Float := 1e300

/-- Lengths up to here can be squared without harm. -/
def greatestArcLength : Float := 1e144

/-- Whether a number, if it is finite, is not larger than a limit. -/
def isModerate (limit x : Float) : Bool :=
  !Scalar.isFinite x || (Scalar.le (-limit) x && Scalar.le x limit)

/-- Settings that are finite and in their ranges, with moderate clearances. -/
structure Settings.IsModerate (settings : Settings Float) : Prop where
  clearance_finite : Scalar.isFinite settings.safeClearance = true
  clearance_moderate : isModerate greatestLength settings.safeClearance = true
  retract_finite : Scalar.isFinite settings.peckRetract = true
  retract_moderate : isModerate greatestLength settings.peckRetract = true
  stepover_pos : Scalar.lt Scalar.zero settings.pocketStepover = true
  stepover_le : Scalar.le settings.pocketStepover (Float.ofNat 1) = true
  overlap_nonneg : Scalar.le Scalar.zero settings.faceOverlap = true
  overlap_lt : Scalar.lt settings.faceOverlap (Float.ofNat 1) = true

/-- Whether the lengths of a stock are moderate. -/
def isModerateStock (stock : Stock Float) : Bool := stock.sizes.all (isModerate greatestLength)

/-- Whether the lengths of an operation are moderate. -/
def isModerateOperation (op : Operation Float) : Bool :=
  op.sizes.all (isModerate greatestLength) && op.arcNumbers.all (isModerate greatestArcLength)

section Numbers

variable {k m : ℕ} {e : ℤ} {limit x : Float}

private theorem within_of_isModerate (hlow : Binary64.ofFloat (-limit) = .finite true m e)
    (hhigh : Binary64.ofFloat limit = .finite false m e) (hm : m ≤ 2 ^ 53) (he : 53 + e ≤ k)
    (h : isModerate limit x = true) (hx : Scalar.isFinite x = true) : Within k x := by
  unfold isModerate at h
  rw [hx] at h
  obtain ⟨hle, hge⟩ := Bool.and_eq_true_iff.mp h
  obtain ⟨q, hq, hlow, hhigh⟩ := HasValue.between (congrArg Binary64.value? hlow)
    (congrArg Binary64.value? hhigh) hle hge
  have hlimit := (le_abs_self _).trans (magnitude_le_two_pow hm he)
  exact ⟨q, hq, (abs_le.mpr ⟨hlow, hhigh⟩).trans hlimit⟩

private theorem within_length (h : isModerate greatestLength x = true)
    (hx : Scalar.isFinite x = true) : Within 997 x := by
  have hlow : Binary64.ofFloat (-greatestLength) = .finite true 6724873095247260 944 := by
    decide +kernel
  have hhigh : Binary64.ofFloat greatestLength = .finite false 6724873095247260 944 := by
    decide +kernel
  exact within_of_isModerate hlow hhigh (by norm_num) (by norm_num) h hx

private theorem within_arcLength (h : isModerate greatestArcLength x = true)
    (hx : Scalar.isFinite x = true) : Within 479 x := by
  have hlow : Binary64.ofFloat (-greatestArcLength) = .finite true 5770611636116085 426 := by
    decide +kernel
  have hhigh : Binary64.ofFloat greatestArcLength = .finite false 5770611636116085 426 := by
    decide +kernel
  exact within_of_isModerate hlow hhigh (by norm_num) (by norm_num) h hx

private theorem finitesWithin_sizes {numbers : List Float}
    (h : numbers.all (isModerate greatestLength) = true) : FinitesWithin 997 numbers :=
  fun x hx => within_length (List.all_eq_true.mp h x hx)

private theorem finitesWithin_arcNumbers {numbers : List Float}
    (h : numbers.all (isModerate greatestArcLength) = true) : FinitesWithin 479 numbers :=
  fun x hx => within_arcLength (List.all_eq_true.mp h x hx)

end Numbers

/-! ## Blocks and footer -/

section Blocks

variable {settings : Settings Float} {stock : Stock Float} {op : Operation Float}

theorem Settings.IsModerate.fractions (h : settings.IsModerate) : Fractions settings :=
  .of_ranges h.stepover_pos h.stepover_le h.overlap_nonneg h.overlap_lt

private theorem within_stockTop (hstock : isModerateStock stock = true) :
    Within 997 (stockTop stock) := by
  unfold stockTop
  split
  · rename_i hfinite
    exact finitesWithin_sizes hstock stock.height (by simp [Stock.sizes]) hfinite
  · exact .zero

private theorem within_start (hsettings : settings.IsModerate)
    (hstock : isModerateStock stock = true) : Within 998 (start settings stock).topSafeZ :=
  (within_stockTop hstock).add
    (within_length hsettings.clearance_moderate hsettings.clearance_finite) (by norm_num)

private theorem within_safeZ (hsettings : settings.IsModerate)
    (hstock : isModerateStock stock = true) (hop : isModerateOperation op = true) :
    Within 998 (safeZ settings stock op) := by
  -- the plane is above the stock and above the start of the operation, if that is finite
  have hstockTop := within_stockTop hstock
  have htop : Within 997 (if Scalar.isFinite op.zStart then op.zStart else stockTop stock) := by
    split
    · rename_i hfinite
      exact finitesWithin_sizes (Bool.and_eq_true_iff.mp hop).1 op.zStart
        (by simp [Operation.sizes]) hfinite
    · exact hstockTop
  exact (htop.max hstockTop).add
    (within_length hsettings.clearance_moderate hsettings.clearance_finite) (by norm_num)

private theorem decimalWords_rapidZ {z : Float} (h : Within 998 z) :
    DecimalWords (.move (.rapidZ (settings.coordinate z)) none) := by
  have hdigits : (Move.rapidZ (settings.coordinate z)).HasDigits :=
    List.forall_mem_singleton.mpr (hasDigits_coordinate settings h.isFinite)
  exact decimalWords_move hdigits fun _ hx => nomatch hx

private theorem decimalWords_withFeed (hsettings : settings.IsModerate)
    (hstock : isModerateStock stock = true) (hop : isModerateOperation op = true)
    (hskip : skipReason? stock op = none) {moves : List Move}
    (hplan : plan settings stock op (safeZ settings stock op) = .ok moves) :
    ∀ line ∈ withFeed (settings.feed op.feedRate) moves, DecimalWords line := by
  have hpassed := passed_of_skipReason? hskip
  obtain ⟨hsizes, harcs⟩ := Bool.and_eq_true_iff.mp hop
  have hm : ∀ stride ∈ featureStrides settings stock op, stride.Measured := by
    intro stride hmem
    have hmem : stride ∈ strides settings stock op := by
      unfold strides
      rwa [hskip]
    exact (arises_of_mem_strides hmem).measured hsettings.fractions
  have hmoves := plan_hasDigits hpassed (finitesWithin_sizes hsizes)
    (finitesWithin_arcNumbers harcs) (finitesWithin_sizes hstock)
    (within_length hsettings.retract_moderate hsettings.retract_finite)
    ((within_safeZ hsettings hstock hop).mono (by norm_num)) (by norm_num) (by norm_num) hm hplan
  intro line hline
  -- a line is a move of the plan, and perhaps the feed of the operation
  obtain ⟨step, hstep, word, rfl⟩ := exists_move_of_mem_withFeed hline
  refine decimalWords_move (hmoves step hstep) fun x hx => ?_
  rw [eq_feed_of_mem_withFeed hline x hx]
  exact hasDigits_feed settings (Bool.and_eq_true_iff.mp hpassed.feedRate).1

private theorem BlockForm.decimalWords {carried : Carried Float} {index : ℕ} {body : List Line}
    (h : BlockForm settings stock carried index op body) (hsettings : settings.IsModerate)
    (hstock : isModerateStock stock = true) (hop : isModerateOperation op = true) :
    ∀ line ∈ body, DecimalWords line := by
  have hopening : DecimalWords (.opening index op.kind) :=
    decimalWords_of_step?_eq_none rfl fun _ => Line.noConfusion
  have hretract : DecimalWords (retract settings stock op) :=
    decimalWords_rapidZ (within_safeZ hsettings hstock hop)
  cases h with
  | unknown hkind =>
    exact List.forall_mem_cons.mpr ⟨hopening, List.forall_mem_singleton.mpr
      (decimalWords_of_step?_eq_none rfl fun _ => Line.noConfusion)⟩
  | skipped hkind hreason =>
    exact List.forall_mem_cons.mpr ⟨hopening, List.forall_mem_cons.mpr
      ⟨decimalWords_of_step?_eq_none rfl fun _ => Line.noConfusion,
        List.forall_mem_singleton.mpr hretract⟩⟩
  | machined hkind hreason hplan =>
    refine List.forall_mem_cons.mpr ⟨hopening, List.forall_mem_cons.mpr ⟨hretract, ?_⟩⟩
    refine List.forall_mem_append.mpr ⟨fun line hline => ?_, List.forall_mem_append.mpr ⟨?_, ?_⟩⟩
    · -- the lines that fetch the tool move nothing
      obtain ⟨hinner, hstep⟩ := inner_of_mem_toolLines hline
      exact decimalWords_of_step?_eq_none hstep (ne_workOffset_of_isInner hinner)
    · exact decimalWords_withFeed hsettings hstock hop hreason hplan
    · exact List.forall_mem_singleton.mpr hretract

private theorem within_leaves {carried : Carried Float} (h : Within 998 carried.topSafeZ)
    (hsafe : Within 998 (safeZ settings stock op)) :
    Within 998 (leaves settings stock carried op).topSafeZ := by
  by_cases hkind : op.kind = .unknown
  · rw [leaves_of_unknown hkind]
    exact h
  · cases hreason : skipReason? stock op with
    | some reason =>
      rw [leaves_of_skipped hkind hreason]
      exact h.max hsafe
    | none =>
      rw [leaves_of_machined hkind hreason]
      exact h.max hsafe

private theorem Chained.decimalWords {carried last : Carried Float} {index : ℕ}
    {ops : List (Operation Float)} {bodies : List (List Line)}
    (h : Chained settings stock carried index ops bodies last) (hsettings : settings.IsModerate)
    (hstock : isModerateStock stock = true) (hops : ∀ op ∈ ops, isModerateOperation op = true)
    (hcarried : Within 998 carried.topSafeZ) :
    (∀ line ∈ bodies.flatten, DecimalWords line) ∧ Within 998 last.topSafeZ := by
  -- the highest safe plane so far goes along with the blocks, and stays finite
  induction h with
  | nil => exact ⟨List.forall_mem_nil _, hcarried⟩
  | cons hbody _ ih =>
    obtain ⟨hop, hrest⟩ := List.forall_mem_cons.mp hops
    obtain ⟨hlines, hlast⟩ :=
      ih hrest (within_leaves hcarried (within_safeZ hsettings hstock hop))
    rw [List.flatten_cons]
    exact ⟨List.forall_mem_append.mpr
      ⟨(blockForm_of_block hbody).decimalWords hsettings hstock hop, hlines⟩, hlast⟩

private theorem footer_decimalWords {last : Carried Float} (h : Within 998 last.topSafeZ) :
    ∀ line ∈ (footer settings last).tail, DecimalWords line := by
  have hrest : ∀ line ∈ [Line.spindleOff] ++
      (if settings.coolant then [.coolantOff] else []) ++ [.endOfProgram],
        line.step? = none ∧ ∀ name, line ≠ .workOffset name := by
    cases settings.coolant <;> simp [Line.step?]
  refine List.forall_mem_cons.mpr ⟨decimalWords_rapidZ h, fun line hline => ?_⟩
  obtain ⟨hstep, hname⟩ := hrest line hline
  exact decimalWords_of_step?_eq_none hstep hname

end Blocks

/-! ## Programs -/

/-- **Moderate jobs have decimal words.**  Where the settings are in their ranges and no finite
number of a job is extremely large, every position, centre, feed and speed in the blocks and the
footer of its program is a decimal. -/
theorem moderate_jobs_have_decimal_words {settings : Settings Float} {stock : Stock Float}
    {ops : List (Operation Float)} {program : List Line} (hsettings : settings.IsModerate)
    (hstock : isModerateStock stock = true) (hops : ∀ op ∈ ops, isModerateOperation op = true)
    (h : compile settings stock ops = .ok program) :
    ∃ bodies foot, Divided settings stock ops program bodies foot ∧
      ∀ line ∈ bodies.flatten ++ foot, ∀ word ∈ readWords line.text,
        word.letter ∈ ['X', 'Y', 'Z', 'I', 'J', 'F', 'S'] → isDecimal word.value = true := by
  obtain ⟨bodies, last, hchained, hdivided⟩ := exists_divided_of_compile h
  obtain ⟨hbodies, hlast⟩ :=
    hchained.decimalWords hsettings hstock hops (within_start hsettings hstock)
  exact ⟨bodies, _, hdivided, List.forall_mem_append.mpr ⟨hbodies, footer_decimalWords hlast⟩⟩

/-- A contour with arcs of both kinds, and with a segment that ends nowhere. -/
def sampleContour : Operation Float :=
  { sampleHole 10 20 with feature := .contour [⟨.clockwise, 20, 30, none, none, some 8⟩,
    ⟨.line, Float.ofBits 0x7FF8000000000000, 30, none, none, none⟩,
    ⟨.counterClockwise, 30, 30, some 25, some 30, none⟩] }

theorem moderate_jobs_have_decimal_words_of_sampleContour :
    ∃ program bodies foot, compile sampleSettings sampleStock [sampleContour] = .ok program ∧
      Divided sampleSettings sampleStock [sampleContour] program bodies foot ∧
        ∀ line ∈ bodies.flatten ++ foot, ∀ word ∈ readWords line.text,
          word.letter ∈ ['X', 'Y', 'Z', 'I', 'J', 'F', 'S'] → isDecimal word.value = true := by
  have hsettings : sampleSettings.IsModerate := by
    constructor <;> decide +kernel
  have hok : (compile sampleSettings sampleStock [sampleContour]).isOk = true := by decide +kernel
  cases hcompile : compile sampleSettings sampleStock [sampleContour] with
  | error error =>
    rw [hcompile] at hok
    cases hok
  | ok program =>
    obtain ⟨bodies, foot, hdivided, hwords⟩ := moderate_jobs_have_decimal_words hsettings
      (by decide +kernel) (List.forall_mem_singleton.mpr (by decide +kernel)) hcompile
    exact ⟨program, bodies, foot, rfl, hdivided, hwords⟩

/-- An arc between two near points whose radius is so large that its square is infinite. -/
def wideArc : Operation Float :=
  { sampleHole 0 20 with
    tool := .endMill, feature := .contour [⟨.clockwise, 10, 30, none, none, some 1e200⟩] }

/-- The line that it is cut by. -/
def wideArcLine : Line :=
  .move (.cutArc true ⟨.decimal false 10000 3, .decimal false 30000 3⟩ .nan (.infinite true)) none

/-- **A wide arc is cut about nothing.**  All numbers of the job are finite, and the settings are
sound; yet its program says "nan" where the centre of the arc should be. -/
theorem wide_arc_is_cut_about_nothing :
    ∃ program bodies foot, compile sampleSettings sampleStock [wideArc] = .ok program ∧
      Divided sampleSettings sampleStock [wideArc] program bodies foot ∧
        ∃ line ∈ bodies.flatten ++ foot, ⟨'I', "nan"⟩ ∈ readWords line.text ∧
          isDecimal "nan" = false := by
  have hfound : (compile sampleSettings sampleStock [wideArc]).toOption.any
      (·.contains wideArcLine) = true := by decide +kernel
  cases hcompile : compile sampleSettings sampleStock [wideArc] with
  | error error =>
    rw [hcompile] at hfound
    cases hfound
  | ok program =>
    rw [hcompile] at hfound
    obtain ⟨bodies, last, -, hdivided⟩ := exists_divided_of_compile hcompile
    refine ⟨program, bodies, _, rfl, hdivided, wideArcLine, ?_, ?_, by decide⟩
    · have hmem : wideArcLine ∈ program := List.contains_iff_mem.mp hfound
      rw [hdivided.program_eq] at hmem
      -- neither the header nor the remark in front of the footer moves anything
      rcases List.mem_append.mp hmem with hfront | hfoot
      · refine List.mem_append_left _ ((List.mem_append.mp hfront).resolve_left ?_)
        simp [header, wideArcLine]
      · refine List.mem_append_right _ ((List.mem_cons.mp hfoot).resolve_left ?_)
        simp [wideArcLine]
    · rw [readWords_text]
      decide

end Machining.Program
