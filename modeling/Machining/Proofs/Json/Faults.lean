import Machining.Json.Reader
import Mathlib.Data.List.TakeWhile

/-!
# What the faults of a JSON text rest on

A text that is no JSON is refused with a place and a complaint.  There are two more ways to refuse a
text, and they have nothing to do with what JSON is: a whole number may have too many digits, and
lists and mappings may be nested too deeply.  Both show in the text itself.

* `Fault.Grounds` says what a fault rests on: digits in a row, more than are read, or more opening
  brackets than may stand around one another.
* `Founded` says that a reader leaves over a part of its text, and that its faults have grounds.
  There is one lemma for every reader, and `founded_value` puts them together by induction on the
  nesting.
* `grounds_of_read` says so of whole documents.
* `read_long_number` says that the first of the two does happen.
-/

namespace Machining.Json

open Machining.Document Machining.Numeric Machining.Text

/-- Whether a character opens a list or a mapping. -/
def isOpeningBracket (c : Char) : Bool := c == '[' || c == '{'

/-- What there is to a fault in a text in which `nesting` brackets may stand around one another. -/
def Fault.Grounds (nesting : Nat) (s : List Char) : Fault → Prop
  | malformed _ _ => True
  | longInteger complaint => ∃ digits, digits <:+: s ∧ (∀ c ∈ digits, c.isDigit = true) ∧
      longestInteger < digits.length ∧ complaint = ⟨some digits.length⟩
  | tooDeep => nesting < s.countP isOpeningBracket

/-- What was found in a part was found in the whole. -/
theorem Fault.Grounds.mono {nesting : Nat} {part s : List Char} {fault : Fault}
    (h : fault.Grounds nesting part) (hpart : part <:+: s) : fault.Grounds nesting s := by
  cases fault with
  | malformed complaint remaining => trivial
  | longInteger complaint =>
    obtain ⟨digits, hdigits, hrest⟩ := h
    exact ⟨digits, hdigits.trans hpart, hrest⟩
  | tooDeep => exact Nat.lt_of_lt_of_le h (hpart.sublist.countP_le)

/-- A reader leaves over an end of its text, or it has grounds for its fault. -/
def Founded {α : Type} (nesting : Nat) (s : List Char) : Except Fault (α × List Char) → Prop
  | .ok (_, rest) => rest <:+ s
  | .error fault => fault.Grounds nesting s

namespace Founded

variable {α β : Type} {nesting : Nat} {s part : List Char}
  {outcome : Except Fault (α × List Char)}

theorem mono (h : Founded nesting part outcome) (hpart : part <:+ s) :
    Founded nesting s outcome := by
  cases outcome with
  | ok made => exact List.IsSuffix.trans h hpart
  | error fault => exact Fault.Grounds.mono h hpart.isInfix

theorem map (h : Founded nesting s outcome) (f : α → β) :
    Founded nesting s (outcome.map fun (found, rest) => (f found, rest)) := by
  cases outcome with
  | ok made => exact h
  | error fault => exact h

/-- One reader after another. -/
theorem bind (h : Founded nesting s outcome)
    {next : α × List Char → Except Fault (β × List Char)}
    (hnext : ∀ found rest, Founded nesting rest (next (found, rest))) :
    Founded nesting s (outcome >>= next) := by
  cases outcome with
  | ok made => exact (hnext made.1 made.2).mono h
  | error fault => exact h

/-- Inside a bracket one more bracket has been opened. -/
theorem inside {c : Char} (h : Founded nesting part outcome) (hpart : part <:+ s)
    (hc : isOpeningBracket c = true) : Founded (nesting + 1) (c :: s) outcome := by
  cases outcome with
  | ok made => exact (List.IsSuffix.trans h hpart).trans (List.suffix_cons c s)
  | error fault =>
    have hwhole : fault.Grounds nesting s := Fault.Grounds.mono h hpart.isInfix
    cases fault with
    | malformed complaint remaining => trivial
    | longInteger complaint => exact hwhole.mono (List.suffix_cons c s).isInfix
    | tooDeep =>
      show nesting + 1 < (c :: s).countP isOpeningBracket
      rw [List.countP_cons_of_pos hc]
      exact Nat.succ_lt_succ hwhole

end Founded

variable {nesting : Nat}

theorem founded_complain {α : Type} (complaint : Complaint) (rest s : List Char) :
    Founded nesting s (complain complaint rest : Except Fault (α × List Char)) := trivial

theorem skipSpace_suffix (s : List Char) : skipSpace s <:+ s := List.dropWhile_suffix _

/-! ## Strings -/

theorem founded_stringUnits (opening : Nat) (units : List Nat) (s : List Char) :
    Founded nesting s (stringUnits opening units s) := by
  -- each turn takes the characters of one unit, and a fault lies behind them or at the start
  fun_induction stringUnits opening units s with
  | case1 => trivial
  | case2 units rest => exact List.suffix_cons _ _
  | case3 => trivial
  | case4 units a b c d next rest unit hunit ih =>
    exact ih.mono ⟨['\\', 'u', a, b, c, d], rfl⟩
  | case5 => exact founded_complain _ _ _
  | case6 => exact founded_complain _ _ _
  | case7 units c rest _ _ plain hplain ih => exact ih.mono ⟨['\\', c], rfl⟩
  | case8 => exact founded_complain _ _ _
  | case9 => exact founded_complain _ _ _
  | case10 units c rest _ _ _ _ _ _ ih => exact ih.mono (List.suffix_cons c rest)

theorem founded_stringBody (s : List Char) : Founded nesting s (stringBody s) :=
  (founded_stringUnits (s.length + 1) [] s).map fun units => String.ofList (joinUnits units)

/-! ## Numbers -/

theorem splitWhole_append (s : List Char) : (splitWhole s).1 ++ (splitWhole s).2 = s := by
  unfold splitWhole
  split
  · rfl
  · exact List.takeWhile_append_dropWhile

theorem isDigit_of_mem_splitWhole (s : List Char) : ∀ c ∈ (splitWhole s).1, c.isDigit = true := by
  unfold splitWhole
  split
  · simp
  · exact List.all_eq_true.mp List.all_takeWhile

theorem splitFraction_suffix (s : List Char) : (splitFraction s).2 <:+ s := by
  unfold splitFraction
  split
  · dsimp only
    split
    · exact List.suffix_refl _
    · exact (List.dropWhile_suffix _).trans (List.suffix_cons _ _)
  · exact List.suffix_refl _

theorem splitSign_suffix (s : List Char) : (splitSign s).2 <:+ s := by
  unfold splitSign
  split
  · exact List.suffix_cons _ _
  · exact List.suffix_cons _ _
  · exact List.suffix_refl _

theorem splitExponent_suffix (s : List Char) : (splitExponent s).2 <:+ s := by
  unfold splitExponent
  split
  · rename_i mark rest
    split
    · dsimp only
      split
      · exact List.suffix_refl _
      · exact ((List.dropWhile_suffix _).trans (splitSign_suffix rest)).trans
          (List.suffix_cons _ _)
    · exact List.suffix_refl _
  · exact List.suffix_refl _

theorem founded_unsignedNumber (start : List Char) (negative : Bool) (s : List Char) :
    Founded nesting s (unsignedNumber start negative s) := by
  have hwhole := splitWhole_append s
  have hdigits := isDigit_of_mem_splitWhole s
  simp only [unsignedNumber]
  generalize splitWhole s = parts at hwhole hdigits
  obtain ⟨whole, afterWhole⟩ := parts
  have hrest : (splitExponent (splitFraction afterWhole).2).2 <:+ s :=
    ((splitExponent_suffix _).trans (splitFraction_suffix afterWhole)).trans ⟨whole, hwhole⟩
  dsimp only
  split
  · exact founded_complain _ _ _
  · split
    · split
      · -- the digits that are too many stand in front of what is left over
        rename_i hlong
        exact ⟨whole, ⟨[], afterWhole, hwhole⟩, hdigits, hlong, rfl⟩
      · exact hrest
    · exact hrest

theorem founded_scalar (s : List Char) : Founded nesting s (scalar s) := by
  unfold scalar
  split
  · exact ⟨['n', 'u', 'l', 'l'], rfl⟩
  · exact ⟨['t', 'r', 'u', 'e'], rfl⟩
  · exact ⟨['f', 'a', 'l', 's', 'e'], rfl⟩
  · exact ⟨['N', 'a', 'N'], rfl⟩
  · exact ⟨['I', 'n', 'f', 'i', 'n', 'i', 't', 'y'], rfl⟩
  · exact ⟨['-', 'I', 'n', 'f', 'i', 'n', 'i', 't', 'y'], rfl⟩
  · exact (founded_unsignedNumber _ true _).mono (List.suffix_cons _ _)
  · exact founded_unsignedNumber _ false _

/-! ## Lists and mappings -/

section Nested

variable {item : Read Value}

theorem founded_items (hitem : ∀ s, Founded nesting s (item s)) (found : List Value) (fuel : Nat)
    (s : List Char) : Founded nesting s (items item found fuel s) := by
  induction fuel generalizing found s with
  | zero => exact founded_complain _ _ _
  | succ fuel ih =>
    -- one item, and what follows its comma
    rw [items]
    refine ((hitem (skipSpace s)).mono (skipSpace_suffix s)).bind fun value rest => ?_
    have hrest := skipSpace_suffix rest
    dsimp only
    split
    · rename_i after heq
      rw [heq] at hrest
      exact (List.suffix_cons _ after).trans hrest
    · rename_i after heq
      rw [heq] at hrest
      exact (ih (value :: found) after).mono ((List.suffix_cons _ after).trans hrest)
    · exact founded_complain _ _ _

theorem founded_member (hitem : ∀ s, Founded nesting s (item s)) (s : List Char) :
    Founded nesting s (member item s) := by
  unfold member
  split
  · rename_i body
    refine ((founded_stringBody body).mono (List.suffix_cons _ body)).bind fun name rest => ?_
    have hrest := skipSpace_suffix rest
    dsimp only
    split
    · rename_i after heq
      rw [heq] at hrest
      -- behind the colon the fault is that of the value
      refine ((hitem (skipSpace after)).mono ?_).bind fun value last => List.suffix_refl last
      exact (skipSpace_suffix after).trans ((List.suffix_cons _ after).trans hrest)
    · exact founded_complain _ _ _
  · exact founded_complain _ _ _

theorem founded_members (hitem : ∀ s, Founded nesting s (item s)) (found : Entries) (fuel : Nat)
    (s : List Char) : Founded nesting s (members item found fuel s) := by
  -- each turn reads one entry; the fault lies behind those that are read
  induction fuel generalizing found s with
  | zero => exact founded_complain _ _ _
  | succ fuel ih =>
    rw [members]
    refine ((founded_member hitem (skipSpace s)).mono (skipSpace_suffix s)).bind
      fun entry rest => ?_
    have hrest := skipSpace_suffix rest
    dsimp only
    split
    · -- the closing bracket
      rename_i after heq
      rw [heq] at hrest
      exact (List.suffix_cons _ after).trans hrest
    · -- a comma, and so one more entry
      rename_i after heq
      rw [heq] at hrest
      exact (ih _ after).mono ((List.suffix_cons _ after).trans hrest)
    · exact founded_complain _ _ _

end Nested

/-- Whatever stands around it, a value is read from its text, and its faults have grounds in it. -/
theorem founded_value (nesting : Nat) (s : List Char) : Founded nesting s (value nesting s) := by
  -- the members of a list or a mapping are read with one bracket less
  induction nesting generalizing s with
  | zero =>
    unfold value
    split
    · exact ((founded_stringBody _).map _).mono (List.suffix_cons _ _)
    -- no bracket may be opened any more, and one of them is the ground
    · exact List.countP_pos_iff.mpr ⟨'[', List.mem_cons_self, rfl⟩
    · exact List.countP_pos_iff.mpr ⟨'{', List.mem_cons_self, rfl⟩
    · contradiction
    · contradiction
    · exact founded_scalar _
  | succ deeper ih =>
    unfold value
    split
    · exact ((founded_stringBody _).map _).mono (List.suffix_cons _ _)
    · contradiction
    · contradiction
    · rename_i later rest heq
      cases heq
      have hrest := skipSpace_suffix rest
      split
      · rename_i after hend
        rw [hend] at hrest
        exact ((List.suffix_cons _ after).trans hrest).trans (List.suffix_cons _ rest)
      · rename_i inside hinside
        -- inside the brackets the fault is that of an item
        exact ((founded_items (ih ·) [] _ (skipSpace rest)).map _).inside hrest rfl
    · rename_i later rest heq
      cases heq
      have hrest := skipSpace_suffix rest
      split
      · rename_i after hend
        rw [hend] at hrest
        exact ((List.suffix_cons _ after).trans hrest).trans (List.suffix_cons _ rest)
      · rename_i inside hinside
        -- or that of an entry
        exact ((founded_members (ih ·) [] _ (skipSpace rest)).map _).inside hrest rfl
    · exact founded_scalar _

/-! ## Documents -/

/-- The fault of a document has grounds in its text. -/
theorem grounds_of_document {nesting : Nat} {s : List Char} {fault : Fault}
    (h : document nesting s = .error fault) : fault.Grounds nesting s := by
  have hread : Founded nesting s (value nesting (skipSpace s)) :=
    (founded_value nesting _).mono (skipSpace_suffix s)
  unfold document at h
  split at h
  · -- a byte order mark in front
    cases h
    trivial
  · cases hvalue : value nesting (skipSpace s) with
    | error other =>
      rw [hvalue] at h hread
      cases h
      exact hread
    | ok made =>
      rw [hvalue] at h
      dsimp only [Bind.bind, Except.bind] at h
      split at h
      · contradiction
      · cases h
        trivial

/-- **A text that is refused is no JSON, or it is too large**: it has more digits in a row than a
number may have, or more opening brackets than may stand around one another. -/
theorem grounds_of_read {s : String} {error : ReadError} (h : read s = .error error) :
    (∃ complaint line column offset, error = .malformed complaint line column offset) ∨
      (∃ digits, digits <:+: s.toList ∧ (∀ c ∈ digits, c.isDigit = true) ∧
        longestInteger < digits.length ∧ error = .longInteger ⟨some digits.length⟩) ∨
      (error = .tooDeep ∧ deepest < s.toList.countP isOpeningBracket) := by
  unfold read at h
  cases hdocument : document deepest s.toList with
  | ok found =>
    rw [hdocument] at h
    cases h
  | error fault =>
    rw [hdocument] at h
    have hgrounds := grounds_of_document hdocument
    cases Except.error.inj h
    -- a fault of the document is named with its place or its length
    cases fault with
    | malformed complaint remaining => exact Or.inl ⟨_, _, _, _, rfl⟩
    | longInteger complaint =>
      obtain ⟨digits, hrow, hdigits, hlong, rfl⟩ := hgrounds
      exact Or.inr (Or.inl ⟨digits, hrow, hdigits, hlong, rfl⟩)
    | tooDeep => exact Or.inr (Or.inr ⟨rfl, hgrounds⟩)

/-! ## Numbers that are too long -/

theorem ne_of_isDigit {c other : Char} (hc : c.isDigit = true)
    (hother : other.isDigit = false) : c ≠ other := by
  rintro rfl
  exact Bool.false_ne_true (hother.symm.trans hc)

theorem scalar_of_isDigit {c : Char} (hc : c.isDigit = true) (rest : List Char) :
    scalar (c :: rest) = unsignedNumber (c :: rest) false (c :: rest) := by
  unfold scalar
  split
  all_goals first
    | rfl
    | (rename_i heq; exact absurd (List.cons.inj heq).1 (ne_of_isDigit hc (by decide)))

/-- What begins with a digit is a number. -/
theorem value_of_isDigit {c : Char} (hc : c.isDigit = true) (nesting : Nat) (rest : List Char) :
    value nesting (c :: rest) = unsignedNumber (c :: rest) false (c :: rest) := by
  have hvalue : value nesting (c :: rest) = scalar (c :: rest) := by
    unfold value
    split
    all_goals first
      | rfl
      | (rename_i heq; exact absurd (List.cons.inj heq).1 (ne_of_isDigit hc (by decide)))
  rw [hvalue, scalar_of_isDigit hc]

theorem splitWhole_of_ne_zero {s : List Char} (h : s.head? ≠ some '0') :
    splitWhole s = (s.takeWhile Char.isDigit, s.dropWhile Char.isDigit) := by
  unfold splitWhole
  split
  · exact absurd rfl h
  · rfl

theorem splitWhole_of_isDigit {digits : List Char} (hdigits : ∀ c ∈ digits, c.isDigit = true)
    (hzero : digits.head? ≠ some '0') : splitWhole digits = (digits, []) := by
  rw [splitWhole_of_ne_zero hzero, List.takeWhile_eq_self_iff.mpr hdigits,
    List.dropWhile_eq_nil_iff.mpr hdigits]

theorem unsignedNumber_of_isDigit {digits : List Char} (hdigits : ∀ c ∈ digits, c.isDigit = true)
    (hzero : digits.head? ≠ some '0') (hlong : longestInteger < digits.length) (start : List Char)
    (negative : Bool) :
    unsignedNumber start negative digits = .error (.longInteger ⟨some digits.length⟩) := by
  have hne : digits ≠ [] := List.ne_nil_of_length_pos (Nat.zero_lt_of_lt hlong)
  rw [unsignedNumber, splitWhole_of_isDigit hdigits hzero]
  simp [splitFraction, splitExponent, hne, hlong]

/-- **A number of too many digits is refused for that**, not as something that is no JSON. -/
theorem read_long_number {digits : List Char} (hdigits : ∀ c ∈ digits, c.isDigit = true)
    (hzero : digits.head? ≠ some '0') (hlong : longestInteger < digits.length) :
    read (String.ofList digits) = .error (.longInteger ⟨some digits.length⟩) := by
  have hnumber := unsignedNumber_of_isDigit hdigits hzero hlong digits false
  obtain ⟨c, rest, rfl⟩ : ∃ c rest, digits = c :: rest :=
    List.exists_cons_of_length_pos (Nat.zero_lt_of_lt hlong)
  have hc : c.isDigit = true := hdigits c List.mem_cons_self
  -- the text has no byte order mark and no blank in front, so the number is read at once
  have hspace : isSpace c = false := by
    simp [isSpace, ne_of_isDigit hc]
  have hmark : ¬(c :: rest).head? = some '\uFEFF' := by
    simpa using ne_of_isDigit hc (by decide : '\uFEFF'.isDigit = false)
  have hdocument : document deepest (c :: rest) =
      .error (.longInteger ⟨some (c :: rest).length⟩) := by
    rw [document, if_neg hmark, skipSpace, List.dropWhile_cons_of_neg (by simp [hspace]),
      value_of_isDigit hc, hnumber]
    rfl
  rw [read, String.toList_ofList, hdocument]
  rfl

end Machining.Json
