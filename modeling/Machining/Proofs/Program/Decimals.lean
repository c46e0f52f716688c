import Machining.Program.Block
import Machining.Proofs.Numeric.FloatRange
import Machining.Proofs.Program.Machine

/-!
# Words that hold decimals

A machine obeys a word only if its value is a number that is written in digits.  A number without
digits is written too, as "nan" or "inf", and then the word is none that a machine could obey.
`isDecimal` tells the two apart by the text of a word, and this module follows it back to the
numbers that the text was written from: `isDecimal_text` for those of positions and feeds, and
`decimalWords_move` for all words of a move.
-/

namespace Machining.Program

open Machining.Numeric Machining.Job

/-! ## Decimals as they are written -/

/-- Whether there are digits and nothing else. -/
def isDigits (chars : List Char) : Bool := !chars.isEmpty && chars.all Char.isDigit

/-- Takes off a minus in front. -/
def unsignedPart : List Char → List Char
  | '-' :: rest => rest
  | chars => chars

/-- Whether there are digits, and perhaps a point with more digits. -/
def isUnsignedDecimal (chars : List Char) : Bool :=
  match chars.splitOn '.' with
  | [whole] => isDigits whole
  | [whole, fraction] => isDigits whole && isDigits fraction
  | _ => false

/-- Whether a text is a decimal, with a minus or without. -/
def isDecimal (text : String) : Bool := isUnsignedDecimal (unsignedPart text.toList)

/-- Whether a number is written in digits. -/
def hasDigits : Fixed → Bool
  | .decimal .. => true
  | .nan | .infinite _ => false

section Texts

variable {whole fraction : List Char}

theorem isDigits_toDigits (n : ℕ) : isDigits (Nat.toDigits 10 n) = true := by
  simp only [isDigits, Bool.and_eq_true, Bool.not_eq_true', List.isEmpty_eq_false_iff,
    List.all_eq_true]
  exact ⟨Nat.toDigits_ne_nil, fun c hc => Nat.isDigit_of_mem_toDigits (by decide) (by decide) hc⟩

theorem notMem_of_isDigits (h : isDigits whole = true) {c : Char}
    (hc : c.isDigit = false) : c ∉ whole := by
  intro hmem
  simp only [isDigits, Bool.and_eq_true, List.all_eq_true] at h
  rw [h.2 c hmem] at hc
  cases hc

theorem unsignedPart_append (h : isDigits whole = true) (rest : List Char) :
    unsignedPart (whole ++ rest) = whole ++ rest := by
  cases whole with
  | nil => cases h
  | cons c whole =>
    have hminus : c ≠ '-' := by
      rintro rfl
      exact notMem_of_isDigits h (by decide) List.mem_cons_self
    rw [List.cons_append, unsignedPart]
    rintro rest' heq
    exact hminus (List.cons.inj heq).1

private theorem isUnsignedDecimal_whole (h : isDigits whole = true) :
    isUnsignedDecimal whole = true := by
  rw [isUnsignedDecimal, List.splitOn_eq_singleton (notMem_of_isDigits h (by decide))]
  exact h

private theorem isUnsignedDecimal_point (h : isDigits whole = true)
    (hfraction : isDigits fraction = true) :
    isUnsignedDecimal (whole ++ '.' :: fraction) = true := by
  rw [isUnsignedDecimal, List.splitOn_append_cons_self,
    List.splitOn_eq_singleton (notMem_of_isDigits h (by decide)),
    List.splitOn_eq_singleton (notMem_of_isDigits hfraction (by decide))]
  exact Bool.and_eq_true_iff.mpr ⟨h, hfraction⟩

theorem isDigits_paddedDigits (width n : ℕ) :
    isDigits (Fixed.paddedDigits width n).toList = true := by
  have hdigits := isDigits_toDigits n
  simp only [isDigits, Bool.and_eq_true, Bool.not_eq_true', List.isEmpty_eq_false_iff,
    List.all_eq_true] at hdigits
  simp only [isDigits, Fixed.paddedDigits, String.toList_append, toList_pushn, String.toList_ofList,
    Bool.and_eq_true, Bool.not_eq_true', List.isEmpty_eq_false_iff, List.all_eq_true]
  refine ⟨List.append_ne_nil_of_right_ne_nil _ hdigits.1, fun c hc => ?_⟩
  rcases List.mem_append.mp hc with hpad | hdigit
  · -- the padding is made of zeros
    obtain rfl := List.eq_of_mem_replicate ((List.mem_append.mp hpad).resolve_left (by simp))
    decide
  · exact hdigits.2 c hdigit

theorem toList_toString (n : ℕ) : (toString n).toList = Nat.toDigits 10 n := by simp

/-- **A number is written as a decimal exactly when it has digits.** -/
theorem isDecimal_text (x : Fixed) : isDecimal x.text = hasDigits x := by
  cases x with
  | nan => decide
  | infinite negative => cases negative <;> decide
  | decimal negative units places =>
    change isDecimal _ = true
    -- the sign goes first, and then there are one or two runs of digits
    have hwhole := isDigits_toDigits (units / 10 ^ places)
    have hsign (rest : List Char) :
        unsignedPart ((if negative then "-" else "").toList ++
          (Nat.toDigits 10 (units / 10 ^ places) ++ rest)) =
            Nat.toDigits 10 (units / 10 ^ places) ++ rest := by
      cases negative with
      | true => rfl
      | false => exact unsignedPart_append hwhole rest
    unfold isDecimal Fixed.text
    simp only [String.toList_append, toList_toString, List.append_assoc]
    rw [hsign]
    by_cases hplaces : places = 0
    · rw [if_pos hplaces]
      simpa using isUnsignedDecimal_whole hwhole
    · rw [if_neg hplaces]
      simpa using isUnsignedDecimal_point hwhole (isDigits_paddedDigits _ _)

theorem isDecimal_int (n : ℤ) : isDecimal (toString n) = true := by
  rw [Int.toString_eq_repr, Int.repr_eq_if]
  unfold isDecimal
  split
  · -- without a minus the first character is a digit
    have hdigits := isDigits_toDigits n.toNat
    have hunsigned := unsignedPart_append hdigits []
    have hwhole := isUnsignedDecimal_whole hdigits
    rw [List.append_nil] at hunsigned
    rw [← hunsigned] at hwhole
    simpa using hwhole
  · have hwhole := isUnsignedDecimal_whole (isDigits_toDigits (-n).toNat)
    simpa [unsignedPart] using hwhole

end Texts

/-! ## Numbers that have digits -/

section Printed

variable {x : Float}

/-- **A number has digits on paper exactly when it is finite.** -/
theorem hasDigits_ofFloat (places : ℕ) (x : Float) :
    hasDigits (Fixed.ofFloat places x) = Scalar.isFinite x := by
  unfold Fixed.ofFloat
  cases hx : Binary64.ofFloat x with
  | nan => exact (isFinite_of_nan hx).symm
  | infinite negative => exact (isFinite_of_infinite hx).symm
  | finite negative m e => exact (isFinite_of_finite hx).symm

/-- A zero without its sign still has its digits. -/
theorem hasDigits_unsigned (x : Fixed) : hasDigits x.unsigned = hasDigits x := by
  fun_cases Fixed.unsigned x <;> rfl

theorem hasDigits_coordinate (settings : Settings Float) (h : Scalar.isFinite x = true) :
    hasDigits (settings.coordinate x) = true := by
  unfold Settings.coordinate
  rw [hasDigits_unsigned]
  exact (hasDigits_ofFloat _ x).trans h

theorem hasDigits_feed (settings : Settings Float) (h : Scalar.isFinite x = true) :
    hasDigits (settings.feed x) = true :=
  (hasDigits_ofFloat _ x).trans h

end Printed

/-! ## The words of a line -/

/-- The letters whose words hold a number: positions, the centre of an arc, the feed and the
speed. -/
def numberLetters : List Char := ['X', 'Y', 'Z', 'I', 'J', 'F', 'S']

/-- A line whose numbers are all written as decimals. -/
def DecimalWords (line : Line) : Prop :=
  ∀ word ∈ readWords line.text, word.letter ∈ numberLetters → isDecimal word.value = true

/-- The numbers that a move goes by. -/
def Move.numbers : Move → List Fixed
  | rapidZ z | cutZ z => [z]
  | rapidTo place | cutTo place => [place.x, place.y]
  | cutX x => [x]
  | cutY y => [y]
  | cutArc _ place i j => [place.x, place.y, i, j]
  | dropped => []

/-- A move whose numbers all have digits. -/
def Move.HasDigits (step : Move) : Prop := ∀ x ∈ step.numbers, hasDigits x = true

private theorem number_of_mem_words {step : Move} {word : Word} (h : word ∈ step.words)
    (hletter : word.letter ≠ 'G') : ∃ x ∈ step.numbers, word.value = x.text := by
  -- the first word of a move is its code, and the others are its numbers in this order
  cases step with
  | dropped => cases h
  | rapidZ _ | cutZ _ | cutX _ | cutY _ =>
    simp only [Move.words, List.mem_cons, List.not_mem_nil, or_false] at h
    rcases h with rfl | rfl
    · exact absurd rfl hletter
    · exact ⟨_, List.mem_cons_self, rfl⟩
  | rapidTo place | cutTo place =>
    simp only [Move.words, List.mem_cons, List.not_mem_nil, or_false] at h
    rcases h with rfl | rfl | rfl
    · exact absurd rfl hletter
    · exact ⟨place.x, by simp [Move.numbers], rfl⟩
    · exact ⟨place.y, by simp [Move.numbers], rfl⟩
  | cutArc clockwise place i j =>
    simp only [Move.words, List.mem_cons, List.not_mem_nil, or_false] at h
    rcases h with rfl | rfl | rfl | rfl | rfl
    · exact absurd rfl hletter
    · exact ⟨place.x, by simp [Move.numbers], rfl⟩
    · exact ⟨place.y, by simp [Move.numbers], rfl⟩
    · exact ⟨i, by simp [Move.numbers], rfl⟩
    · exact ⟨j, by simp [Move.numbers], rfl⟩

theorem decimalWords_move {step : Move} (hstep : step.HasDigits) {feed : Option Fixed}
    (hfeed : ∀ x ∈ feed, hasDigits x = true) : DecimalWords (.move step feed) := by
  intro word hword hletter
  rw [readWords_text, Line.words] at hword
  -- the first word of a move says how to go, and holds no number
  have hne : word.letter ≠ 'G' := by
    intro heq
    rw [heq] at hletter
    revert hletter
    decide
  have hofStep (h : word ∈ step.words) : isDecimal word.value = true := by
    obtain ⟨x, hx, hvalue⟩ := number_of_mem_words h hne
    rw [hvalue, isDecimal_text]
    exact hstep x hx
  cases feed with
  | none => exact hofStep hword
  | some feed =>
    rw [Move.wordsWithFeed] at hword
    split at hword
    · cases hword
    · rcases List.mem_append.mp hword with hstep | hfeedWord
      · exact hofStep hstep
      · obtain rfl := List.mem_singleton.mp hfeedWord
        rw [isDecimal_text]
        exact hfeed feed rfl

/-- A line that moves nothing has no number but the speed of the spindle. -/
theorem decimalWords_of_step?_eq_none {line : Line} (h : line.step? = none)
    (hoffset : ∀ name, line ≠ .workOffset name) : DecimalWords line := by
  intro word hword hletter
  rw [readWords_text] at hword
  -- every other word names a mode, a tool or a switch
  have hother : word.letter ≠ 'G' ∧ word.letter ≠ 'M' ∧ word.letter ≠ 'T' := by
    refine ⟨?_, ?_, ?_⟩
    all_goals
      intro heq
      rw [heq] at hletter
      revert hletter
      decide
  cases line with
  | move step feed => cases h
  | workOffset name => exact absurd rfl (hoffset name)
  | spindleOn speed =>
    simp only [Line.words, List.mem_cons, List.not_mem_nil, or_false] at hword
    rcases hword with rfl | rfl
    · exact isDecimal_int speed
    · exact absurd rfl hother.2.1
  | modes =>
    simp only [Line.words, List.mem_cons, List.not_mem_nil, or_false] at hword
    rcases hword with rfl | rfl | rfl | rfl <;> exact absurd rfl hother.1
  | selectTool tool =>
    obtain rfl := List.mem_singleton.mp hword
    exact absurd rfl hother.2.2
  | changeTool | spindleOff | coolantOn | coolantOff | endOfProgram =>
    obtain rfl := List.mem_singleton.mp hword
    exact absurd rfl hother.2.1
  | title _ | stock _ _ _ _ | operationCount _ | opening _ _ | nothingToMachine | skipped _
  | toolRemark _ _ | closing => cases hword

end Machining.Program
