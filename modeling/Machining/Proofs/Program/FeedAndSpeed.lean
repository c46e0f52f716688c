import Machining.Proofs.Program.Independence
import Machining.Proofs.Program.Overflow
import Machining.Proofs.Program.WordValues

/-!
# Feeds and speeds that are rounded away

An operation whose feed or speed is not above zero is skipped.  What is asked is whether the number
itself is above zero; it is rounded only when its word is written.  This module follows both words
through a program: each is the feed or the speed of the operation at hand, and it is above zero
exactly if more than half a unit of the last place was asked for.

* `feeds_and_speeds_are_positive_unless_rounded_away` says this of all programs.
* `slow_hole_is_drilled_without_feed` is a hole of which nothing is left: the tool is driven into
  the part with the spindle and the feed at zero.
-/

namespace Machining.Numeric

/-! ## Rounding to zero -/

/-- Nothing is left of a quotient exactly if it is half or less. -/
theorem roundHalfEven_pos_iff {num den : ℕ} (hden : 0 < den) :
    0 < roundHalfEven num den ↔ den < 2 * num := by
  rcases Nat.lt_or_ge num den with hlt | hge
  · have hround : roundHalfEven num den =
        if 2 * num < den then 0 else if den < 2 * num then 1 else 0 := by
      simp only [roundHalfEven, Nat.div_eq_of_lt hlt, Nat.mod_eq_of_lt hlt]
    rw [hround]
    split
    · omega
    · split <;> omega
  · -- what is at least one is not rounded below one
    have hquotient : 0 < num / den := Nat.div_pos hge hden
    have hle := le_roundHalfEven num den
    omega

/-- A positive number has no sign and a mantissa. -/
theorem HasValue.exists_finite {x : Float} {q : ℚ} (h : HasValue x q) (hq : 0 < q) :
    ∃ m e, Binary64.ofFloat x = .finite false m e ∧ q = m * 2 ^ e := by
  obtain ⟨negative, m, e, hx, rfl⟩ := h.exists_eq_finite
  cases negative with
  | false => exact ⟨m, e, hx, rfl⟩
  | true =>
    have hnonneg : (0 : ℚ) ≤ m * 2 ^ e := by positivity
    have hneg : (0 : ℚ) < -(m * 2 ^ e) := hq
    linarith

/-- What is left of a positive number behind so many places. -/
private theorem units_pos_iff (m places : ℕ) (e : ℤ) :
    0 < roundHalfEven (m * (powerParts 2 e).1 * 10 ^ places) (powerParts 2 e).2 ↔
      (1 : ℚ) / 2 < m * 2 ^ e * 10 ^ places := by
  have hdown : 0 < (powerParts 2 e).2 := Nat.pow_pos (by decide)
  have hcast : (0 : ℚ) < (powerParts 2 e).2 := by exact_mod_cast hdown
  rw [roundHalfEven_pos_iff hdown, zpow_eq_powerParts]
  have hscaled : (m : ℚ) * ((powerParts 2 e).1 / (powerParts 2 e).2) * 10 ^ places =
      (m * (powerParts 2 e).1 * 10 ^ places : ℕ) / (powerParts 2 e).2 := by
    push_cast
    ring
  rw [hscaled, div_lt_div_iff₀ two_pos hcast]
  exact_mod_cast Iff.intro (fun h => by linarith) fun h => by linarith

/-- A positive number is printed without a sign, and above zero unless it is rounded away. -/
theorem HasValue.exists_fixed {x : Float} {q : ℚ} (h : HasValue x q) (hq : 0 < q) (places : ℕ) :
    ∃ units, Scalar.fixed places x = .decimal false units places ∧
      (0 < units ↔ 1 / 2 < q * 10 ^ places) := by
  obtain ⟨m, e, hx, rfl⟩ := h.exists_finite hq
  refine ⟨_, ?_, units_pos_iff m places e⟩
  change Fixed.ofFloat places x = _
  rw [Fixed.ofFloat, hx]

/-- The nearest whole number of a positive one is above zero unless it is rounded away. -/
theorem HasValue.exists_nearest {x : Float} {q : ℚ} (h : HasValue x q) (hq : 0 < q) :
    ∃ n : ℕ, Scalar.nearest x = n ∧ (0 < n ↔ 1 / 2 < q) := by
  obtain ⟨m, e, hx, rfl⟩ := h.exists_finite hq
  have hpos := units_pos_iff m 0 e
  rw [pow_zero, mul_one, pow_zero, mul_one] at hpos
  refine ⟨_, ?_, hpos⟩
  change (Binary64.ofFloat x).nearestInt = _
  rw [hx]
  rfl

theorem exists_hasValue_of_isUsable {x : Float} (h : Program.isUsable x = true) :
    ∃ q, HasValue x q ∧ 0 < q := by
  obtain ⟨hfinite, hpositive⟩ := Bool.and_eq_true_iff.mp h
  obtain ⟨q, hq⟩ := isFinite_iff.mp hfinite
  obtain ⟨u, v, hu, hv, huv⟩ := (lt_iff_value_lt _ _).mp hpositive
  obtain rfl := Option.some.inj (hasValue_zero.symm.trans hu)
  obtain rfl := Option.some.inj (hq.symm.trans hv)
  exact ⟨q, hq, Extended.ofRat_lt_ofRat.mp huv⟩

end Machining.Numeric

namespace Machining.Program

open Machining.Numeric Machining.Job

/-! ## The words of feeds and speeds -/

/-- A word that holds what rounding to so many places has left of a positive number: it is no less
than zero, and above zero exactly if the number is more than half a unit of the last place. -/
def HoldsRounded (places : ℕ) (x : Float) (value : String) : Prop :=
  ∃ q v : ℚ, HasValue x q ∧ 0 < q ∧ textValue? value = some (.ofRat v) ∧ 0 ≤ v ∧
    (0 < v ↔ 1 / 2 < q * 10 ^ places)

theorem holdsRounded_feed (settings : Settings Float) {x : Float} (h : isUsable x = true) :
    HoldsRounded settings.feedPlaces x (settings.feed x).text := by
  obtain ⟨q, hq, hpos⟩ := exists_hasValue_of_isUsable h
  obtain ⟨units, hfixed, hunits⟩ := hq.exists_fixed hpos settings.feedPlaces
  refine ⟨q, units / 10 ^ settings.feedPlaces, hq, hpos, ?_, by positivity, ?_⟩
  · rw [textValue?_text, Settings.feed, hfixed]
    rfl
  · rw [← hunits, div_pos_iff_of_pos_right (by positivity), Nat.cast_pos]

theorem holdsRounded_speed {x : Float} (h : isUsable x = true) :
    HoldsRounded 0 x (toString (Scalar.nearest x)) ∧ ∃ n : ℕ, Scalar.nearest x = n := by
  obtain ⟨q, hq, hpos⟩ := exists_hasValue_of_isUsable h
  obtain ⟨n, hnearest, hn⟩ := hq.exists_nearest hpos
  refine ⟨⟨q, n, hq, hpos, ?_, by positivity, ?_⟩, n, hnearest⟩
  · rw [hnearest, textValue?_natCast]
  · rw [Nat.cast_pos, hn, pow_zero, mul_one]

/-! ## Blocks -/

/-- A line whose feed and speed are those of an operation that is machined, as far as rounding has
left something of them. -/
structure CommandsOf (settings : Settings Float) (stock : Stock Float) (op : Operation Float)
    (line : Line) : Prop where
  feed : ∀ word ∈ readWords line.text, word.letter = 'F' →
    isMachined stock op = true ∧ HoldsRounded settings.feedPlaces op.feedRate word.value
  speed : ∀ word ∈ readWords line.text, word.letter = 'S' →
    isMachined stock op = true ∧ HoldsRounded 0 op.spindleSpeed word.value ∧
      ∃ n : ℕ, word.value = toString n

section Blocks

variable {settings : Settings Float} {stock : Stock Float} {op : Operation Float}

/-- Only the feed of a move and the speed of the spindle count. -/
private theorem commandsOf_of_line {line : Line} (hoffset : ∀ name, line ≠ .workOffset name)
    (hfeed : ∀ step feed, line = .move step (some feed) →
      isMachined stock op = true ∧ HoldsRounded settings.feedPlaces op.feedRate feed.text)
    (hspeed : ∀ speed, line = .spindleOn speed →
      isMachined stock op = true ∧ HoldsRounded 0 op.spindleSpeed (toString speed) ∧
        ∃ n : ℕ, speed = n) :
    CommandsOf settings stock op line := by
  constructor
  case feed =>
    intro word hword hletter
    rw [readWords_text] at hword
    -- of the four sorts of words, one has this letter
    cases wordOf_of_mem_line hoffset hword with
    | other hother =>
      rw [hletter] at hother
      exact absurd hother (by decide)
    | height | speed => cases hletter
    | feed step feed => exact hfeed step feed rfl
  case speed =>
    intro word hword hletter
    rw [readWords_text] at hword
    cases wordOf_of_mem_line hoffset hword with
    | other hother =>
      rw [hletter] at hother
      exact absurd hother (by decide)
    | height | feed => cases hletter
    | speed speed =>
      obtain ⟨hmachined, hholds, n, rfl⟩ := hspeed speed rfl
      exact ⟨hmachined, hholds, n, rfl⟩

private theorem commandsOf_of_quiet {line : Line} (hoffset : ∀ name, line ≠ .workOffset name)
    (hfeed : ∀ step feed, line ≠ .move step (some feed))
    (hspeed : ∀ speed, line ≠ .spindleOn speed) : CommandsOf settings stock op line :=
  commandsOf_of_line hoffset (fun step feed hline => absurd hline (hfeed step feed))
    fun speed hline => absurd hline (hspeed speed)

/-- The only speed in the lines of a tool change is that of the operation. -/
private theorem eq_speed_of_mem_toolLines {speed other : ℤ} {spindle : Option (Tool × ℤ)}
    (h : .spindleOn other ∈ toolLines settings op speed spindle) : other = speed := by
  have hload : .spindleOn other ∈ toolLines.load settings op speed → other = speed := by
    rw [toolLines.load]
    cases settings.coolant <;> simp
  -- the spindle is started with a new tool, or once more with another speed
  cases spindle with
  | none => exact hload h
  | some loaded =>
    obtain ⟨tool, current⟩ := loaded
    rw [toolLines] at h
    split at h
    · exact hload ((List.mem_cons.mp h).resolve_left Line.noConfusion)
    · split at h
      · exact Line.spindleOn.inj (List.mem_singleton.mp h)
      · cases h

/-- **One block.**  The feed and the speed in the block of an operation are its own. -/
theorem BlockForm.commandsOf {carried : Carried Float} {index : ℕ} {body : List Line}
    (h : BlockForm settings stock carried index op body) :
    ∀ line ∈ body, CommandsOf settings stock op line := by
  have hopening : CommandsOf settings stock op (.opening index op.kind) :=
    commandsOf_of_quiet (by simp) (by simp) (by simp)
  have hretract : CommandsOf settings stock op (retract settings stock op) :=
    commandsOf_of_quiet (by simp [retract]) (by simp [retract]) (by simp [retract])
  -- the remarks and the retracts of a block command neither
  cases h with
  | unknown hkind =>
    exact List.forall_mem_cons.mpr ⟨hopening, List.forall_mem_singleton.mpr
      (commandsOf_of_quiet (by simp) (by simp) (by simp))⟩
  | skipped hkind hreason =>
    exact List.forall_mem_cons.mpr ⟨hopening, List.forall_mem_cons.mpr
      ⟨commandsOf_of_quiet (by simp) (by simp) (by simp), List.forall_mem_singleton.mpr hretract⟩⟩
  | machined hkind hreason hplan =>
    have hmachined : isMachined stock op = true := by simp [isMachined, hkind, hreason]
    have hpassed := passed_of_skipReason? hreason
    refine List.forall_mem_cons.mpr ⟨hopening, List.forall_mem_cons.mpr ⟨hretract, ?_⟩⟩
    refine List.forall_mem_append.mpr ⟨?_, List.forall_mem_append.mpr
      ⟨?_, List.forall_mem_singleton.mpr hretract⟩⟩
    · -- in front of the moves, the spindle may be commanded
      intro line hline
      obtain ⟨hinner, hstep⟩ := inner_of_mem_toolLines hline
      apply commandsOf_of_line (ne_workOffset_of_isInner hinner)
      · rintro step feed rfl
        cases hstep
      · rintro speed rfl
        obtain rfl := eq_speed_of_mem_toolLines hline
        exact ⟨hmachined, holdsRounded_speed hpassed.spindleSpeed⟩
    · -- the moves may carry the feed
      intro line hline
      obtain ⟨step, -, word, rfl⟩ := exists_move_of_mem_withFeed hline
      apply commandsOf_of_line (by simp)
      · rintro other feed hmove
        obtain ⟨-, rfl⟩ := Line.move.inj hmove
        obtain rfl := eq_feed_of_mem_withFeed hline feed rfl
        exact ⟨hmachined, holdsRounded_feed settings hpassed.feedRate⟩
      · rintro speed hmove
        cases hmove

end Blocks

/-! ## Programs -/

private theorem Chained.commandsOf {settings : Settings Float} {stock : Stock Float}
    {carried last : Carried Float} {index : ℕ} {ops : List (Operation Float)}
    {bodies : List (List Line)} (h : Chained settings stock carried index ops bodies last) :
    ∀ (i : ℕ) (op : Operation Float) (body : List Line), ops[i]? = some op →
      bodies[i]? = some body → ∀ line ∈ body, CommandsOf settings stock op line := by
  intro i op body hop hbody
  obtain ⟨before, hform⟩ := h.blockForm hop hbody
  exact hform.commandsOf

/-- The footer sets neither a feed nor a speed. -/
private theorem footer_quiet (settings : Settings Float) (carried : Carried Float) :
    ∀ line ∈ (footer settings carried).tail, ∀ word ∈ readWords line.text,
      word.letter ≠ 'F' ∧ word.letter ≠ 'S' := by
  simp only [readWords_text]
  cases hcoolant : settings.coolant <;>
    simp [footer, hcoolant, Line.words, Move.wordsWithFeed, Move.words]

/-- **Feeds and speeds are positive unless they are rounded away.**  Every feed and every speed in
the blocks of a program is what rounding has left of that of the operation at hand, which is
positive; so it is no less than zero, and above zero exactly if more than half a unit of the last
place was asked for.  The footer has neither. -/
theorem feeds_and_speeds_are_positive_unless_rounded_away {settings : Settings Float}
    {stock : Stock Float} {ops : List (Operation Float)} {program : List Line}
    (h : compile settings stock ops = .ok program) :
    ∃ bodies foot, Divided settings stock ops program bodies foot ∧
      (∀ (i : ℕ) (op : Operation Float) (body : List Line), ops[i]? = some op →
        bodies[i]? = some body → ∀ line ∈ body, CommandsOf settings stock op line) ∧
      ∀ line ∈ foot, ∀ word ∈ readWords line.text, word.letter ≠ 'F' ∧ word.letter ≠ 'S' := by
  obtain ⟨bodies, last, hchained, hdivided⟩ := exists_divided_of_compile h
  exact ⟨bodies, _, hdivided, hchained.commandsOf, footer_quiet settings last⟩

/-- The feeds and the speeds of the sample job are positive. -/
theorem feeds_and_speeds_are_positive_unless_rounded_away_of_sampleJob :
    ∃ program bodies foot, compile sampleSettings sampleStock sampleJob = .ok program ∧
      Divided sampleSettings sampleStock sampleJob program bodies foot ∧
      ∀ body, bodies[0]? = some body →
        ∀ line ∈ body, CommandsOf sampleSettings sampleStock (sampleHole 10 20) line := by
  obtain ⟨program, hcompile⟩ := exists_compile_sampleJob
  obtain ⟨bodies, foot, hdivided, hcommands, -⟩ :=
    feeds_and_speeds_are_positive_unless_rounded_away hcompile
  exact ⟨program, bodies, foot, hcompile, hdivided, fun body => hcommands 0 _ body rfl⟩

/-- A hole that is drilled at less than a tenth of a millimetre a minute, and at less than half a
turn a minute. -/
def slowHole : Operation Float := { sampleHole 10 20 with feedRate := 0.01, spindleSpeed := 0.4 }

/-- The lines of its plunge and of its speed. -/
def slowLines : List Line :=
  [.move (.cutZ (.decimal false 10000 3)) (some (.decimal false 0 1)), .spindleOn 0]

/-- **A slow hole is drilled without feed.**  With the shipped settings the program of the hole
commands the feed zero and the speed zero, where the hole should have been skipped. -/
theorem slow_hole_is_drilled_without_feed :
    ∃ config program, Config.load .empty none = .ok config ∧
      compile config.compiler sampleStock [slowHole] = .ok program ∧
      (∃ line ∈ program, ⟨'F', "0.0"⟩ ∈ readWords line.text) ∧
      textValue? "0.0" = some (.ofRat 0) ∧
      (∃ line ∈ program, ⟨'S', "0"⟩ ∈ readWords line.text) ∧
      textValue? "0" = some (.ofRat 0) := by
  -- the hole is compiled once, and its two lines are found in the program
  have hfound : (Config.load .empty none).toOption.any (fun config =>
      (compile config.compiler sampleStock [slowHole]).toOption.any fun program =>
        slowLines.all program.contains) = true := by decide +kernel
  obtain ⟨config, hload, htest⟩ := exists_of_any_eq_true hfound
  obtain ⟨program, hcompile, htest⟩ := exists_of_any_eq_true htest
  have hmem : ∀ line ∈ slowLines, line ∈ program := by
    simpa using htest
  refine ⟨config, program, hload, hcompile, ⟨_, hmem _ List.mem_cons_self, ?_⟩, ?_,
    ⟨_, hmem _ (List.mem_cons_of_mem _ List.mem_cons_self), ?_⟩, ?_⟩
  · rw [readWords_text]
    decide
  · have htext : (Fixed.decimal false 0 1).text = "0.0" := by decide
    rw [← htext, textValue?_text]
    simp [Fixed.value?, signed]
  · rw [readWords_text]
    decide
  · exact textValue?_natCast 0

end Machining.Program
