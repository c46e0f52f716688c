import Machining.Numeric.Numeral
import Machining.Numeric.Scientific

/-!
# The characters of numbers

However a number is written, its text is made of digits and of a few marks.  A character that is
neither is *foreign*: it separates numbers from what stands beside them, and a word with such a
character is not found inside a number.

Whole numbers may be too long to be written; one that is read from a short text is not
(`isLongInteger_ofDigits`).
-/

namespace Machining.Numeric

/-- The characters other than digits that numbers are written with. -/
def numberMarks : List Char := ['-', '+', '.', 'a', 'e', 'f', 'i', 'n', 't', 'y', 'N', 'I']

/-- A character that no number is written with. -/
structure IsForeign (c : Char) : Prop where
  notDigit : c.isDigit = false
  notMark : c ∉ numberMarks

theorem isForeign_blank : IsForeign ' ' := ⟨by decide, by decide⟩

theorem isForeign_lineBreak : IsForeign '\n' := ⟨by decide, by decide⟩

theorem toList_pushn (s : String) (c : Char) (n : Nat) :
    (s.pushn c n).toList = s.toList ++ List.replicate n c := by
  rw [String.pushn_eq_repeat_push]
  induction n with
  | zero => simp [Nat.repeat]
  | succ n ih => simp [Nat.repeat, ih, List.replicate_succ']

namespace IsForeign

variable {c : Char}

private theorem notMem_toDigits (h : IsForeign c) (n : Nat) : c ∉ Nat.toDigits 10 n := by
  intro hmem
  have hdigit := Nat.isDigit_of_mem_toDigits (by decide) (by decide) hmem
  rw [h.notDigit] at hdigit
  cases hdigit

private theorem notMem_toString_nat (h : IsForeign c) (n : Nat) : c ∉ (toString n).toList := by
  have hdigits := h.notMem_toDigits n
  simpa using hdigits

private theorem ne_mark (h : IsForeign c) (mark : Char) (hmark : mark ∈ numberMarks) :
    c ≠ mark := by
  rintro rfl
  exact h.notMark hmark

private theorem ne_zero (h : IsForeign c) : c ≠ '0' := by
  rintro rfl
  exact absurd h.notDigit (by decide)

/-- No text of marks has a foreign character. -/
theorem notMem_marks (h : IsForeign c) {s : List Char}
    (hs : s.all numberMarks.contains = true) : c ∉ s := by
  intro hmem
  have hmark := List.all_eq_true.mp hs c hmem
  exact h.notMark (List.contains_iff_mem.mp hmark)

theorem notMem_toString_int (h : IsForeign c) (n : Int) : c ∉ (toString n).toList := by
  rw [Int.toString_eq_repr, Int.repr_eq_if]
  have hpos := h.notMem_toString_nat n.toNat
  have hneg := h.notMem_toString_nat (-n).toNat
  split
  · simpa [h.ne_mark '-' (by decide)] using hpos
  · simpa [h.ne_mark '-' (by decide)] using hneg

private theorem notMem_paddedDigits (h : IsForeign c) (width n : Nat) :
    c ∉ (Fixed.paddedDigits width n).toList := by
  have hdigits := h.notMem_toDigits n
  -- the padding is made of zeros
  simp only [Fixed.paddedDigits, String.toList_append, toList_pushn, List.mem_append, not_or]
  refine ⟨⟨by simp, ?_⟩, by simpa using hdigits⟩
  exact fun hmem => h.ne_zero (List.eq_of_mem_replicate hmem)

/-- A decimal with a fixed number of places is written without foreign characters. -/
theorem notMem_text (h : IsForeign c) (x : Fixed) : c ∉ x.text.toList := by
  cases x with
  | nan => exact h.notMem_marks (by decide)
  | infinite negative => cases negative <;> exact h.notMem_marks (by decide)
  | decimal negative units places =>
    -- a decimal is a sign, the whole part, and a point with the padded digits
    have hwhole := h.notMem_toString_nat (units / 10 ^ places)
    have htail := h.notMem_paddedDigits places (units % 10 ^ places)
    simp only [Fixed.text, String.toList_append, List.mem_append, not_or]
    refine ⟨⟨?_, hwhole⟩, ?_⟩
    · cases negative <;> exact h.notMem_marks (by decide)
    · split
      · simp
      · simpa [h.ne_mark '.' (by decide)] using htail

/-- The significant digits and their power are written without foreign characters. -/
private theorem notMem_scientificText (h : IsForeign c) (layout : Layout) (s : Scientific) :
    c ∉ (s.text layout).toList := by
  have hdigits : c ∉ s.digitText.toList := by
    simpa [Scientific.digitText] using h.notMem_toDigits s.digits
  have htake (n : Nat) : c ∉ s.digitText.toList.take n :=
    fun hmem => hdigits (List.mem_of_mem_take hmem)
  have hdrop (n : Nat) : c ∉ s.digitText.toList.drop n :=
    fun hmem => hdigits (List.mem_of_mem_drop hmem)
  have hpower := h.notMem_paddedDigits 2 s.leadingPower.natAbs
  have hdot := h.ne_mark '.' (by decide)
  have hzero := h.ne_zero
  rw [Scientific.text]
  split
  -- without an exponent: the digits, zeros and a point
  · split
    · split <;> simp [toList_pushn, hdigits, hdot, hzero]
    · split
      · simp [htake, hdrop, hdot]
      · simp [toList_pushn, hdigits, hdot, hzero]
  -- with an exponent: the digits, a point, a mark, a sign and the exponent
  · have he := h.ne_mark 'e' (by decide)
    have hminus := h.ne_mark '-' (by decide)
    have hplus := h.ne_mark '+' (by decide)
    simp only [String.toList_append, List.mem_append, not_or]
    refine ⟨⟨⟨⟨?_, ?_⟩, ?_⟩, ?_⟩, hpower⟩
    · simpa using htake 1
    · split
      · simp
      · simpa [hdot] using hdrop 1
    · simpa using he
    · split <;> simpa

/-- A floating-point number is written without foreign characters. -/
theorem notMem_shortestText (h : IsForeign c) (x : Float) : c ∉ (shortestText x).toList := by
  rw [shortestText, Layout.write]
  split
  · exact h.notMem_marks (by decide)
  · split <;> exact h.notMem_marks (by decide)
  · -- a sign, digits, and a point or an exponent
    have hminus := h.ne_mark '-' (by decide)
    have hdot := h.ne_mark '.' (by decide)
    have hzero := h.ne_zero
    split
    · simp only [String.toList_append, List.mem_append, not_or]
      refine ⟨?_, ?_⟩ <;> split <;> simp [*]
    · simp only [String.toList_append, List.mem_append, not_or]
      refine ⟨?_, h.notMem_scientificText _ _⟩
      split <;> simp [*]

end IsForeign

/-! ## How long a text a number takes -/

/-- A number has fewer digits than its text. -/
private theorem ofDigits_lt {digits : List Char} (h : ∀ c ∈ digits, c.isDigit = true) :
    ofDigits digits < 10 ^ digits.length := by
  -- the digits so far make a number below some bound, and each digit more makes it ten times that
  suffices hall : ∀ (start bound : Nat), start < bound →
      digits.foldl (fun n c => 10 * n + (c.toNat - '0'.toNat)) start <
        bound * 10 ^ digits.length by
    simpa [ofDigits] using hall 0 1 Nat.one_pos
  induction digits with
  | nil => simp
  | cons c rest ih =>
    obtain ⟨hc, hrest⟩ := List.forall_mem_cons.mp h
    intro start bound hlt
    have hdigit : c.toNat - '0'.toNat < 10 := by
      simp only [Char.isDigit, Bool.and_eq_true, decide_eq_true_eq, UInt32.le_iff_toNat_le] at hc
      have hzero : '0'.toNat = 48 := rfl
      have hc' : c.toNat ≤ 57 := hc.2
      omega
    have hnext := ih hrest (10 * start + (c.toNat - '0'.toNat)) (bound * 10) (by omega)
    rw [List.foldl_cons, List.length_cons, Nat.pow_succ']
    rwa [Nat.mul_assoc] at hnext

/-- A whole number with few digits is not long. -/
theorem isLongInteger_ofDigits {digits : List Char} (h : ∀ c ∈ digits, c.isDigit = true)
    (hshort : digits.length ≤ longestInteger) (negative : Bool) :
    isLongInteger (if negative then -(ofDigits digits : Int) else ofDigits digits) = false := by
  have habs : (if negative then -(ofDigits digits : Int) else ofDigits digits).natAbs =
      ofDigits digits := by
    cases negative <;> simp
  have hlt : ofDigits digits < 10 ^ longestInteger :=
    Nat.lt_of_lt_of_le (ofDigits_lt h) (Nat.pow_le_pow_right (by decide) hshort)
  rw [isLongInteger, habs]
  exact decide_eq_false (Nat.not_le.mpr hlt)

end Machining.Numeric
