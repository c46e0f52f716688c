import Machining.Text.Search

/-!
# Where a text occurs

To be held by a text is to be an infix of its characters, which is all that proofs need of the
search.  Where two texts are put together, a word occurs in the whole exactly where it occurs in one
of them, if what stands between them, or at their beginnings, cannot belong to the word.

Where a text is parted at a character, no part holds that character, and what stands in front of the
first such character belongs to the first part.
-/

namespace Machining.Text

section Occurrences

variable {needle s before after : List Char} {c : Char}

theorem occursIn_iff : occursIn needle s = true ↔ needle <:+: s := by
  induction s with
  | nil => simp [occursIn]
  | cons c rest ih => simp [occursIn, ih, List.infix_cons_iff]

/-- A word that begins in front of a character that it lacks ends in front of it. -/
private theorem prefix_append_cons_iff (before : List Char) (hc : c ∉ needle) :
    needle <+: before ++ c :: after ↔ needle <+: before := by
  -- the foreign character ends every prefix that has not ended before
  induction before generalizing needle with
  | nil =>
    cases needle with
    | nil => simp
    | cons first rest =>
      have hfirst : first ≠ c := fun heq => hc (heq ▸ List.mem_cons_self)
      simp [List.cons_prefix_cons, hfirst]
  | cons other before ih =>
    cases needle with
    | nil => simp
    | cons first rest =>
      have hrest : c ∉ rest := fun hmem => hc (List.mem_cons_of_mem first hmem)
      simp only [List.cons_append, List.cons_prefix_cons, ih hrest]

/-- A character that a word lacks cuts a text in two, and the word is found in one of them. -/
theorem infix_append_cons_iff (hc : c ∉ needle) :
    needle <:+: before ++ c :: after ↔ needle <:+: before ∨ needle <:+: after := by
  induction before with
  | nil =>
    have hstart : needle <+: c :: after ↔ needle <+: [] :=
      prefix_append_cons_iff [] hc
    rw [List.nil_append, List.infix_cons_iff, hstart, List.prefix_nil, List.infix_nil]
  | cons other before ih =>
    rw [List.cons_append, List.infix_cons_iff, List.infix_cons_iff, ih, ← List.cons_append,
      prefix_append_cons_iff (other :: before) hc, or_assoc]

/-- A word is not found in front of where a character stands that it begins with. -/
theorem cons_infix_append_iff (hc : c ∉ before) :
    c :: needle <:+: before ++ s ↔ c :: needle <:+: s := by
  induction before with
  | nil => rfl
  | cons other before ih =>
    simp only [List.mem_cons, not_or] at hc
    obtain ⟨hother, hbefore⟩ := hc
    rw [List.cons_append, List.infix_cons_iff, ih hbefore]
    simp [List.cons_prefix_cons, hother]

end Occurrences

section Texts

variable {s needle : String}

theorem holds_iff : holds s needle = true ↔ needle.toList <:+: s.toList := occursIn_iff

/-- What holds a word is something, the word, and something. -/
theorem exists_append_of_holds (h : holds s needle = true) :
    ∃ before after, s = before ++ needle ++ after := by
  obtain ⟨before, after, happend⟩ := holds_iff.mp h
  refine ⟨String.ofList before, String.ofList after, String.toList_injective ?_⟩
  simpa using happend.symm

end Texts

/-! ## Parts of a text -/

/-- The parts of a text at whose front something stands that is not parted. -/
theorem splitOn_append_of_notMem {separator : Char} {front : List Char}
    (h : separator ∉ front) (rest : List Char) :
    ∃ first, (front ++ rest).splitOn separator =
      (front ++ first) :: (rest.splitOn separator).tail := by
  -- along the front, which goes into the first part character by character
  induction front with
  | nil =>
    cases hsplit : rest.splitOn separator with
    | nil => exact absurd hsplit (List.splitOn_ne_nil _ _)
    | cons first others => exact ⟨first, by simp [hsplit]⟩
  | cons c front ih =>
    obtain ⟨hc, hfront⟩ := not_or.mp (mt List.mem_cons.mpr h)
    obtain ⟨first, hfirst⟩ := ih hfront
    refine ⟨first, ?_⟩
    have hne : (c == separator) = false := by simpa using Ne.symm hc
    simp [List.splitOn_cons_eq_if_modifyHead, hne, hfirst]

end Machining.Text
