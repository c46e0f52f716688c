import Machining.Proofs.Program.Decimals

/-!
# The values of words

What a machine makes of a number in a program depends on its text alone.  `textValue?` reads the
text as a value: a decimal as the rational number that it spells, and the names of the infinities as
the ends of the line.  `textValue?_text` and `textValue?_natCast` say that the values of numbers are
read back from what is written.
-/

namespace Machining.Program

open Machining.Numeric

/-! ## Reading a number -/

/-- The number that is spelt by digits, and perhaps a point with more digits. -/
def unsignedValue? (chars : List Char) : Option ℚ :=
  match chars.splitOn '.' with
  | [whole] => if isDigits whole then some (Nat.ofDigitChars 10 whole 0) else none
  | [whole, fraction] =>
    if isDigits whole && isDigits fraction then
      some (Nat.ofDigitChars 10 whole 0 + Nat.ofDigitChars 10 fraction 0 / 10 ^ fraction.length)
    else none
  | _ => none

/-- The value of a number as it is written; a text that is no number has none. -/
def textValue? (text : String) : Option Extended :=
  match unsignedValue? (unsignedPart text.toList) with
  | some magnitude => some (.ofRat (signed (text.toList.head? = some '-') magnitude))
  | none => if text = "inf" then some ⊤ else if text = "-inf" then some ⊥ else none

/-! ## What is read back -/

section Texts

variable {whole fraction : List Char}

private theorem unsignedValue?_whole (h : isDigits whole = true) :
    unsignedValue? whole = some (Nat.ofDigitChars 10 whole 0 : ℚ) := by
  rw [unsignedValue?, List.splitOn_eq_singleton (notMem_of_isDigits h (by decide))]
  exact if_pos h

private theorem unsignedValue?_point (h : isDigits whole = true)
    (hfraction : isDigits fraction = true) :
    unsignedValue? (whole ++ '.' :: fraction) =
      some (Nat.ofDigitChars 10 whole 0 +
        Nat.ofDigitChars 10 fraction 0 / 10 ^ fraction.length : ℚ) := by
  rw [unsignedValue?, List.splitOn_append_cons_self,
    List.splitOn_eq_singleton (notMem_of_isDigits h (by decide)),
    List.splitOn_eq_singleton (notMem_of_isDigits hfraction (by decide))]
  exact if_pos (Bool.and_eq_true_iff.mpr ⟨h, hfraction⟩)

private theorem ofDigitChars_toDigits (n : ℕ) : Nat.ofDigitChars 10 (Nat.toDigits 10 n) 0 = n :=
  Nat.ofDigitChars_toDigits (by decide) (by decide)

/-- Zeros in front do not count. -/
private theorem ofDigitChars_paddedDigits (width n : ℕ) :
    Nat.ofDigitChars 10 (Fixed.paddedDigits width n).toList 0 = n := by
  simp [Fixed.paddedDigits, toList_pushn, Nat.ofDigitChars_append]

/-- What fits into the places is written with as many digits. -/
theorem length_paddedDigits {places n : ℕ} (hplaces : 0 < places) (hn : n < 10 ^ places) :
    (Fixed.paddedDigits places n).toList.length = places := by
  have hlength := (Nat.length_toDigits_le_iff (by decide) hplaces).mpr hn
  simp [Fixed.paddedDigits, toList_pushn]
  omega

/-- A minus in front of digits is told by the first character. -/
private theorem textValue?_of_sign {text : String} (negative : Bool) (rest : List Char)
    {magnitude : ℚ} (htext : text.toList = (if negative then ['-'] else []) ++ (whole ++ rest))
    (h : isDigits whole = true) (hmagnitude : unsignedValue? (whole ++ rest) = some magnitude) :
    textValue? text = some (.ofRat (signed negative magnitude)) := by
  have hminus : '-' ∉ whole := notMem_of_isDigits h (by decide)
  -- the sign is the first character, and no digit is mistaken for it
  cases negative with
  | true =>
    have hunsigned : unsignedPart text.toList = whole ++ rest := by
      rw [htext]
      rfl
    have hhead : text.toList.head? = some '-' := by
      rw [htext]
      rfl
    rw [textValue?, hunsigned, hmagnitude, hhead]
    rfl
  | false =>
    have hunsigned : unsignedPart text.toList = whole ++ rest := by
      rw [htext]
      exact unsignedPart_append h rest
    have hhead : text.toList.head? ≠ some '-' := by
      rw [htext]
      cases whole with
      | nil => cases h
      | cons c digits =>
        rintro heq
        exact hminus (Option.some.inj heq ▸ List.mem_cons_self)
    rw [textValue?, hunsigned, hmagnitude]
    simp [hhead]

end Texts

/-- **The value of a number is read back from its text.** -/
theorem textValue?_text (x : Fixed) : textValue? x.text = x.value? := by
  cases x with
  | nan => decide
  | infinite negative => cases negative <;> rfl
  | decimal negative units places =>
    have hwhole := isDigits_toDigits (units / 10 ^ places)
    have hsign : (if negative then "-" else "").toList = if negative then ['-'] else [] := by
      cases negative <;> rfl
    rcases Nat.eq_zero_or_pos places with rfl | hplaces
    · apply textValue?_of_sign negative [] _ hwhole
      · rw [List.append_nil, unsignedValue?_whole hwhole, ofDigitChars_toDigits]
        simp
      · simp [Fixed.text, hsign]
    · have hrest : units % 10 ^ places < 10 ^ places := Nat.mod_lt _ (by positivity)
      have hfraction := isDigits_paddedDigits places (units % 10 ^ places)
      apply textValue?_of_sign negative ('.' :: _) _ hwhole
      · rw [unsignedValue?_point hwhole hfraction, ofDigitChars_toDigits,
          ofDigitChars_paddedDigits, length_paddedDigits hplaces hrest]
        -- whole and fraction are quotient and remainder of the units
        have hdivided : (10 ^ places * (units / 10 ^ places : ℕ) + (units % 10 ^ places : ℕ) : ℚ) =
            units := by
          exact_mod_cast Nat.div_add_mod units (10 ^ places)
        rw [← hdivided]
        field_simp
      · simp [Fixed.text, hsign, hplaces.ne']

/-- The value of a whole number is read back from its text. -/
theorem textValue?_natCast (n : ℕ) : textValue? (toString (n : ℤ)) = some (.ofRat n) := by
  have hdigits := isDigits_toDigits n
  have hmagnitude : unsignedValue? (Nat.toDigits 10 n ++ []) = some (n : ℚ) := by
    rw [List.append_nil, unsignedValue?_whole hdigits, ofDigitChars_toDigits]
  have htext : (toString (n : ℤ)).toList = [] ++ (Nat.toDigits 10 n ++ []) := by
    rw [List.nil_append, List.append_nil]
    exact toList_toString n
  exact textValue?_of_sign false [] htext hdigits hmagnitude

/-! ## Which lines have a number -/

/-- Where heights, feeds and speeds stand. -/
inductive WordOf : Line → Word → Prop where
  /-- A word without any of them. -/
  | other {line : Line} {word : Word}
      (hletter : word.letter ∈ ['G', 'M', 'T', 'X', 'Y', 'I', 'J']) : WordOf line word
  /-- A move along Z has the height that it goes to. -/
  | height {step : Move} (feed : Option Fixed) {z : Fixed} (hheight : step.height? = some z) :
      WordOf (.move step feed) ⟨'Z', z.text⟩
  /-- A move that sets the feed has the feed. -/
  | feed (step : Move) (feed : Fixed) : WordOf (.move step (some feed)) ⟨'F', feed.text⟩
  /-- The line that starts the spindle has the speed. -/
  | speed (speed : ℤ) : WordOf (.spindleOn speed) ⟨'S', toString speed⟩

private theorem wordOf_of_mem_words {step : Move} {word : Word} (h : word ∈ step.words)
    (feed : Option Fixed) : WordOf (.move step feed) word := by
  cases step with
  | dropped => cases h
  | rapidZ z | cutZ z =>
    simp only [Move.words, List.mem_cons, List.not_mem_nil, or_false] at h
    rcases h with rfl | rfl
    · exact .other (by decide)
    · exact .height feed rfl
  | rapidTo place | cutTo place | cutX x | cutY y | cutArc clockwise place i j =>
    simp only [Move.words, List.mem_cons, List.not_mem_nil, or_false] at h
    apply WordOf.other
    rcases h with rfl | rfl | rfl | rfl | rfl <;> simp

/-- Every word of a line is one of these. -/
theorem wordOf_of_mem_line {line : Line} {word : Word} (hoffset : ∀ name, line ≠ .workOffset name)
    (h : word ∈ line.words) : WordOf line word := by
  -- by the form of the line; remarks have no words
  cases line with
  | workOffset name => exact absurd rfl (hoffset name)
  | move step feed =>
    cases feed with
    | none => exact wordOf_of_mem_words h none
    | some x =>
      rw [Line.words, Move.wordsWithFeed] at h
      split at h
      · cases h
      · rcases List.mem_append.mp h with hstep | hfeed
        · exact wordOf_of_mem_words hstep _
        · obtain rfl := List.mem_singleton.mp hfeed
          exact .feed step x
  | spindleOn speed =>
    simp only [Line.words, List.mem_cons, List.not_mem_nil, or_false] at h
    rcases h with rfl | rfl
    · exact .speed speed
    · exact .other (by decide)
  | modes | selectTool _ | changeTool | spindleOff | coolantOn | coolantOff | endOfProgram =>
    simp only [Line.words, List.mem_cons, List.not_mem_nil, or_false] at h
    apply WordOf.other
    rcases h with rfl | rfl | rfl | rfl <;> simp
  | title _ | stock _ _ _ _ | operationCount _ | opening _ _ | nothingToMachine | skipped _
  | toolRemark _ _ | closing => cases h

end Machining.Program
