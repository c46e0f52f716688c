import Machining.Proofs.Json.Faults
import Machining.Session.Analysis

/-!
# Unusable answers

Whatever the analyzer answers, reading ends with a result or with a rejection.  A rejection is meant
to be a failure that states its kind, an unusable answer.  Two rejections do not; they come out as
incidents, and what kind they are is guessed from their text.

* `unfence_isInfix`: what is read is a part of the text that was answered.
* `Oversized` says of a text why it is rejected with an incident: it has too many digits in a row or
  too many opening brackets.
* `Analysis.unusable_unless_oversized`: every other rejection states an unusable answer.
* `Analysis.read_of_long_number`: a number of too many digits is rejected with an incident.
-/

namespace Machining.Session

open Machining.Json Machining.Numeric Machining.Text

/-! ## Code fences -/

private theorem trimLeft_isSuffix (s : List Char) : trimLeft s <:+ s := List.dropWhile_suffix _

private theorem trimRight_isPrefix (s : List Char) : trimRight s <+: s := by
  have h := List.reverse_prefix.mpr (List.dropWhile_suffix isBlank (l := s.reverse))
  rwa [List.reverse_reverse] at h

private theorem dropWord_isSuffix (word s : List Char) : dropWord word s <:+ s := by
  unfold dropWord
  split
  · exact List.drop_suffix _ s
  · exact List.suffix_refl s

/-- A text is read from a part of it, fenced or not. -/
theorem unfence_isInfix (s : List Char) : unfence s <:+: s := by
  simp only [unfence]
  split
  · split
    · -- from the inside out: the closing fence, the blanks, the word, the opening fence, the blanks
      refine (trimRight_isPrefix _).isInfix.trans ?_
      refine List.IsInfix.trans (List.take_prefix _ _).isInfix ?_
      refine (trimRight_isPrefix _).isInfix.trans ?_
      refine (((trimLeft_isSuffix _).trans (dropWord_isSuffix _ _)).trans ?_).isInfix
      exact List.IsSuffix.trans (List.drop_suffix _ _) (trimLeft_isSuffix s)
    · exact List.infix_refl s
  · exact List.infix_refl s

/-- What begins like nothing in a fence does begins with no fence. -/
theorem isPrefixOf_fence {c : Char} (hmark : c ∉ fence) (rest : List Char) :
    fence.isPrefixOf (c :: rest) = false := by
  rw [Bool.eq_false_iff]
  intro hprefix
  obtain ⟨after, hafter⟩ := List.isPrefixOf_iff_prefix.mp hprefix
  have hhead : fence.head? = some c := by simpa [fence] using congrArg List.head? hafter
  exact hmark (List.mem_of_mem_head? hhead)

theorem unfence_eq_self {s : List Char} (h : fence.isPrefixOf (trimLeft s) = false) :
    unfence s = s := by
  simp [unfence, h]

/-- A text that begins with neither a blank nor a fence is read as it stands. -/
theorem unfence_cons {c : Char} {s : List Char} (hblank : isBlank c = false) (hmark : c ∉ fence) :
    unfence (c :: s) = c :: s := by
  have hbody : trimLeft (c :: s) = c :: s := List.dropWhile_cons_of_neg (by simp [hblank])
  exact unfence_eq_self (by rw [hbody, isPrefixOf_fence hmark])

/-! ## Rejections -/

/-- The text of an answer that comes as one. -/
def RawAnswer.text? : RawAnswer → Option String
  | .text s => some s
  | .bytes content => some (Utf8.decodeLossy content)
  | .value _ => none

/-- A text is rejected for what is too large in it. -/
inductive Oversized (s : List Char) : Rejection → Prop where
  /-- More digits in a row than a number may have. -/
  | digits {digits : List Char} (row : digits <:+: s) (only : ∀ c ∈ digits, c.isDigit = true)
      (long : longestInteger < digits.length) :
      Oversized s (.malformed (.longInteger ⟨some digits.length⟩))
  /-- More opening brackets than may stand around one another. -/
  | brackets (many : deepest < s.countP isOpeningBracket) : Oversized s (.malformed .tooDeep)

namespace Oversized

/-- What is too large in a part is too large in the whole. -/
theorem mono {part s : List Char} {rejection : Rejection} (h : Oversized part rejection)
    (hpart : part <:+: s) : Oversized s rejection := by
  cases h with
  | digits row only long => exact .digits (row.trans hpart) only long
  | brackets many => exact .brackets (Nat.lt_of_lt_of_le many (hpart.sublist.countP_le))

/-- What is too large is an incident, not an unusable answer. -/
theorem exists_incident {s : List Char} {rejection : Rejection} (h : Oversized s rejection) :
    ∃ event, rejection.failure = .incident event := by
  cases h with
  | digits row only long => exact ⟨_, rfl⟩
  | brackets many => exact ⟨_, rfl⟩

end Oversized

namespace Analysis

/-- A document that is no result is an unusable answer. -/
theorem failure_of_ofValue {value : Document.Value} {rejection : Rejection}
    (h : ofValue value = .error rejection) :
    rejection.failure = .stated .parse rejection.message := by
  unfold ofValue at h
  split at h
  · -- an answer of the wrong form is told like one that is no mapping
    cases hread : (analysis _).toExcept with
    | ok result =>
      rw [hread] at h
      cases h
    | error issues =>
      rw [hread] at h
      cases h
      rfl
  · cases h
    rfl

/-- A text that is no result is an unusable answer, or something in it is too large. -/
theorem failure_of_ofText {s : String} {rejection : Rejection} (h : ofText s = .error rejection) :
    rejection.failure = .stated .parse rejection.message ∨ Oversized s.toList rejection := by
  -- what is too large in the part that is read is too large in the text
  have hpart : (String.ofList (unfence s.toList)).toList <:+: s.toList := by
    rw [String.toList_ofList]
    exact unfence_isInfix s.toList
  unfold ofText at h
  cases hread : Json.read (String.ofList (unfence s.toList)) with
  | ok value =>
    rw [hread] at h
    exact Or.inl (failure_of_ofValue h)
  | error error =>
    rw [hread] at h
    cases h
    obtain ⟨complaint, line, column, offset, rfl⟩ | ⟨digits, row, only, long, rfl⟩ |
      ⟨rfl, many⟩ := grounds_of_read hread
    · exact Or.inl rfl
    · exact Or.inr ((Oversized.digits row only long).mono hpart)
    · exact Or.inr ((Oversized.brackets many).mono hpart)

/-- **Every answer is a result, unusable, or too large.**  Reading an answer gives a result or a
rejection.  The rejection states an unusable answer, but for one case: the answer is a text in which
too many digits follow one another or too many brackets are opened, and the rejection, which is for
just that, is an incident. -/
theorem unusable_unless_oversized (raw : RawAnswer) :
    (∃ result, read raw = .ok result) ∨
      ∃ rejection, read raw = .error rejection ∧
        (rejection.failure = .stated .parse rejection.message ∨
          ∃ s event, raw.text? = some s ∧ Oversized s.toList rejection ∧
            rejection.failure = .incident event) := by
  cases hread : read raw with
  | ok result => exact Or.inl ⟨result, rfl⟩
  | error rejection =>
    refine Or.inr ⟨rejection, rfl, ?_⟩
    -- a text is oversized itself; bytes are when the text that they stand for is
    have hoversized : ∀ s, raw.text? = some s → Oversized s.toList rejection →
        ∃ s event, raw.text? = some s ∧ Oversized s.toList rejection ∧
          rejection.failure = .incident event := fun s htext hlarge =>
      have ⟨event, hevent⟩ := hlarge.exists_incident
      ⟨s, event, htext, hlarge, hevent⟩
    cases raw with
    | text s =>
      rw [read] at hread
      exact (failure_of_ofText hread).imp_right (hoversized s rfl)
    | bytes content =>
      rw [read] at hread
      exact (failure_of_ofText hread).imp_right (hoversized (Utf8.decodeLossy content) rfl)
    | value value =>
      rw [read] at hread
      exact Or.inl (failure_of_ofValue hread)

/-! ## Numbers that are too long -/

/-- A number of too many digits is rejected for its length, and the rejection is an incident. -/
theorem read_of_long_number {digits : List Char} (hdigits : ∀ c ∈ digits, c.isDigit = true)
    (hzero : digits.head? ≠ some '0') (hlong : longestInteger < digits.length) :
    read (.text (String.ofList digits)) =
      .error (.malformed (.longInteger ⟨some digits.length⟩)) := by
  have hunfence : unfence digits = digits := by
    obtain ⟨c, rest, rfl⟩ : ∃ c rest, digits = c :: rest :=
      List.exists_cons_of_length_pos (Nat.zero_lt_of_lt hlong)
    have hc : c.isDigit = true := hdigits c List.mem_cons_self
    refine unfence_cons (isBlank_of_isDigit hc) fun hmark => ?_
    have hfence : (fence.all fun mark => !mark.isDigit) = true := by decide
    have hnot := List.all_eq_true.mp hfence c hmark
    rw [hc] at hnot
    contradiction
  rw [read, ofText, String.toList_ofList, hunfence, read_long_number hdigits hzero hlong]

/-- A number of one digit too many is neither a result nor an unusable answer; of what its text
speaks, it is a failure of no particular kind. -/
theorem long_number_escapes :
    let answer := RawAnswer.text (String.ofList (List.replicate 4301 '1'))
    (¬∃ result, read answer = .ok result) ∧
      (¬∃ rejection message, read answer = .error rejection ∧
        rejection.failure = .stated .parse message) ∧
      ∃ rejection, read answer = .error rejection ∧ rejection.failure.kind = .ok .other := by
  intro answer
  -- too long by one digit, and so no answer that is merely malformed
  have hread : read answer = .error (.malformed (.longInteger ⟨some 4301⟩)) := by
    have hones : ∀ c ∈ List.replicate 4301 '1', c.isDigit = true := by
      intro c hc
      rw [List.eq_of_mem_replicate hc]
      rfl
    have hlong : longestInteger < (List.replicate 4301 '1').length := by
      rw [List.length_replicate]
      decide
    have h := read_of_long_number hones (by simp) hlong
    rwa [List.length_replicate] at h
  refine ⟨?_, ?_, _, hread, by decide +kernel⟩
  · rintro ⟨result, h⟩
    rw [hread] at h
    cases h
  · rintro ⟨rejection, message, h, hfailure⟩
    rw [hread] at h
    cases h
    cases hfailure

end Analysis

end Machining.Session
