import Machining.Proofs.Json.Contents
import Machining.Proofs.Numeric.Characters
import Machining.Proofs.Text.Search

/-!
# Which words occur in written JSON

A value that is written as JSON holds more than what it tells: quotes, brackets and commas, blanks,
and the escapes inside of texts.  A word of letters and digits is found in the whole only where it
is found in one of the texts or one of the numbers, since what JSON adds around them cannot belong
to the word.

Inside a text the word may meet escapes.  It is not cut by one, as its own characters are written as
they stand; but what an escape is made of can belong to it.  A character is *coded* if its escape
tells its code, for then the escape has digits.

* `IsWord` collects what is asked of a word.
* `infix_writeText_iff`: where no escape has the character that a word begins with, the word is
  found in a written text exactly if it is found in the text.
* `infix_write_iff`: a word is found in a written value exactly if it is found in a written text or
  in a number of it.
-/

namespace Machining.Json

open Machining.Document Machining.Numeric Machining.Text

/-! ## Escapes -/

/-- The characters of the escapes that do not tell a code. -/
def shortEscapeMarks : List Char := ['"', '\\', 'n', 'r', 't', 'b', 'f']

/-- The digits of codes. -/
def codeDigits : List Char :=
  ['0', '1', '2', '3', '4', '5', '6', '7', '8', '9', 'a', 'b', 'c', 'd', 'e', 'f']

/-- The characters of the escapes. -/
def escapeMarks : List Char := 'u' :: shortEscapeMarks ++ codeDigits

/-- A character whose escape tells its code: one outside of printable ASCII that has no shorter
escape. -/
def IsCoded (c : Char) : Prop :=
  c ∉ ['\n', '\r', '\t', '\x08', '\x0c'] ∧ (codePoint c < 0x20 ∨ 0x7F ≤ codePoint c)

instance (c : Char) : Decidable (IsCoded c) :=
  inferInstanceAs (Decidable (c ∉ ['\n', '\r', '\t', '\x08', '\x0c'] ∧
    (codePoint c < 0x20 ∨ 0x7F ≤ codePoint c)))

private theorem mem_toDigits_sixteen {n : Nat} {c : Char} (h : c ∈ Nat.toDigits 16 n) :
    c ∈ codeDigits := by
  have hdigit : ∀ d < 16, Nat.digitChar d ∈ codeDigits := by decide
  -- digit by digit, from the last one
  induction n using Nat.strong_induction_on with
  | _ n ih =>
    rw [Nat.toDigits_eq_if (by decide)] at h
    split at h
    · rename_i hlt
      rw [List.mem_singleton.mp h]
      exact hdigit n hlt
    · rename_i hge
      rcases List.mem_append.mp h with hfront | hlast
      · exact ih (n / 16) (by omega) hfront
      · rw [List.mem_singleton.mp hlast]
        exact hdigit (n % 16) (by omega)

/-- A backslash, and behind it nothing but some marks. -/
private def IsEscape (marks s : List Char) : Prop :=
  ∃ block, s = '\\' :: block ∧ ∀ c ∈ block, c ∈ marks

private theorem isEscape_unitEscape (unit : Nat) :
    IsEscape escapeMarks (unitEscape unit).toList := by
  refine ⟨'u' :: (hexDigits 4 unit).toList, by simp [unitEscape], ?_⟩
  intro c hmem
  simp only [hexDigits, List.mem_cons, String.toList_append, toList_pushn, List.mem_append,
    String.toList_ofList] at hmem
  rcases hmem with rfl | (hnone | hpad) | hdigit
  · decide
  · simp at hnone
  · rw [List.eq_of_mem_replicate hpad]
    decide
  · have hcode := mem_toDigits_sixteen hdigit
    simp [escapeMarks, hcode]

/-- A character is written as it stands, or by a short escape, or by its code. -/
private theorem writeChar_forms (c : Char) :
    writeChar c = c.toString ∨ IsEscape shortEscapeMarks (writeChar c).toList ∨
      IsCoded c ∧ IsEscape escapeMarks (writeChar c).toList := by
  have hshort (mark : Char) (hmark : mark ∈ shortEscapeMarks) :
      IsEscape shortEscapeMarks ['\\', mark] := ⟨[mark], rfl, by simpa using hmark⟩
  unfold writeChar
  split
  -- the seven characters with an escape of their own
  · exact .inr (.inl (hshort '"' (by decide)))
  · exact .inr (.inl (hshort '\\' (by decide)))
  · exact .inr (.inl (hshort 'n' (by decide)))
  · exact .inr (.inl (hshort 'r' (by decide)))
  · exact .inr (.inl (hshort 't' (by decide)))
  · exact .inr (.inl (hshort 'b' (by decide)))
  · exact .inr (.inl (hshort 'f' (by decide)))
  rename_i hquote hbackslash hn hr ht hb hf
  by_cases hprintable : 0x20 ≤ codePoint c ∧ codePoint c < 0x7F
  · left
    simp [hprintable]
  · have hcoded : IsCoded c := by
      refine ⟨?_, by omega⟩
      simp only [List.mem_cons, List.not_mem_nil, or_false, not_or]
      exact ⟨hn, hr, ht, hb, hf⟩
    refine .inr (.inr ⟨hcoded, ?_⟩)
    simp only [Bool.and_eq_true, decide_eq_true_eq, hprintable, if_false]
    split
    · exact isEscape_unitEscape _
    -- the two halves of a pair
    · have hpair := isEscape_unitEscape
      obtain ⟨high, hhigh, hhighMarks⟩ := hpair (0xD800 + (codePoint c - 0x10000) / 0x400)
      obtain ⟨low, hlow, hlowMarks⟩ := hpair (0xDC00 + (codePoint c - 0x10000) % 0x400)
      refine ⟨high ++ '\\' :: low, by simp [hhigh, hlow], ?_⟩
      simp only [List.forall_mem_append, List.forall_mem_cons]
      exact ⟨hhighMarks, by decide, hlowMarks⟩

/-! ## Words inside a text -/

/-- The characters that JSON sets around texts and members. -/
def punctuation : List Char := ['"', ',', ':', ' ', '[', ']', '{', '}']

/-- A word that JSON does not use by itself. -/
structure IsWord (needle : List Char) : Prop where
  /-- There is something to be found. -/
  notEmpty : needle ≠ []
  /-- Its characters are written as they stand. -/
  plain : ∀ c ∈ needle, writeChar c = c.toString
  /-- It is not cut by what stands between members. -/
  unpunctuated : ∀ c ∈ needle, c ∉ punctuation
  /-- It is not found in what is neither a text nor a number. -/
  notInLiteral : ∀ literal ∈ ["null", "true", "false"], ¬ needle <:+: literal.toList

theorem IsWord.notMem {needle : List Char} (h : IsWord needle) {c : Char}
    (hc : c ∈ punctuation) : c ∉ needle :=
  fun hmem => h.unpunctuated c hmem hc

/-- The conditions can be checked. -/
theorem IsWord.of_check {needle : List Char} (hempty : needle ≠ [])
    (hchars : (needle.all fun c => writeChar c == c.toString && !punctuation.contains c) = true)
    (hliteral : ∀ literal ∈ ["null", "true", "false"], ¬ needle <:+: literal.toList) :
    IsWord needle := by
  simp only [List.all_eq_true, Bool.and_eq_true, beq_iff_eq, Bool.not_eq_true',
    List.contains_eq_mem, decide_eq_false_iff_not] at hchars
  exact ⟨hempty, fun c hmem => (hchars c hmem).1, fun c hmem => (hchars c hmem).2, hliteral⟩

/-- The characters of a text as they are written between the quotes. -/
private def escaped (s : List Char) : List Char := s.flatMap fun c => (writeChar c).toList

private theorem escaped_cons (c : Char) (s : List Char) :
    escaped (c :: s) = (writeChar c).toList ++ escaped s := List.flatMap_cons

private theorem toList_writeText (s : String) :
    (writeText s).toList = '"' :: (escaped s.toList ++ ['"']) := by
  simp [writeText, escaped, String.toList_join, List.flatMap_def, Function.comp_def]

private theorem ne_backslash {c : Char} (h : writeChar c = c.toString) : c ≠ '\\' := by
  rintro rfl
  revert h
  decide

/-- A character that is written by an escape is not one that is written as it stands. -/
private theorem ne_of_isEscape {c plain : Char} {marks : List Char}
    (h : IsEscape marks (writeChar c).toList) (hplain : writeChar plain = plain.toString) :
    plain ≠ c := by
  rintro rfl
  obtain ⟨block, hblock, -⟩ := h
  have hsingle : [plain] = '\\' :: block := by simpa [hplain] using hblock
  exact ne_backslash hplain (List.cons.inj hsingle).1

section Words

variable {first : Char} {needle s : List Char}

/-- A word of plain characters begins a written text if it begins the text. -/
private theorem prefix_escaped_iff (hplain : ∀ c ∈ needle, writeChar c = c.toString) :
    needle <+: escaped s ↔ needle <+: s := by
  induction s generalizing needle with
  | nil => rfl
  | cons c rest ih =>
    cases needle with
    | nil => simp
    | cons first needle =>
      obtain ⟨hfirst, hneedle⟩ := List.forall_mem_cons.mp hplain
      -- an escape begins no word of plain characters, and what it stands for begins none either
      have hnever {marks : List Char} (h : IsEscape marks (writeChar c).toList) :
          first :: needle <+: escaped (c :: rest) ↔ first :: needle <+: c :: rest := by
        have hc := ne_of_isEscape h hfirst
        obtain ⟨block, hblock, -⟩ := h
        simp [escaped_cons, hblock, List.cons_prefix_cons, hc, ne_backslash hfirst]
      rcases writeChar_forms c with hself | hshort | ⟨-, hcode⟩
      · simp [escaped_cons, hself, List.cons_prefix_cons, ih hneedle]
      · exact hnever hshort
      · exact hnever hcode

/-- A word of plain characters is found in a written text if it is found in the text, and nowhere
else unless an escape has the character that the word begins with. -/
private theorem infix_escaped_iff (hplain : ∀ c ∈ first :: needle, writeChar c = c.toString)
    (hshort : first ∉ shortEscapeMarks)
    (hcoded : first ∉ escapeMarks ∨ ∀ c ∈ s, ¬ IsCoded c) :
    first :: needle <:+: escaped s ↔ first :: needle <:+: s := by
  -- along the text: each character is written as itself or by an escape
  induction s with
  | nil => rfl
  | cons c rest ih =>
    have hfirst := hplain first List.mem_cons_self
    have hrest : first ∉ escapeMarks ∨ ∀ c ∈ rest, ¬ IsCoded c :=
      hcoded.imp_right fun h => (List.forall_mem_cons.mp h).2
    -- behind an escape the search goes on, for the word does not begin inside it
    have hbehind {marks : List Char} (h : IsEscape marks (writeChar c).toList)
        (hmarks : first ∉ marks) :
        first :: needle <:+: escaped (c :: rest) ↔ first :: needle <:+: c :: rest := by
      have hc := ne_of_isEscape h hfirst
      obtain ⟨block, hblock, hmem⟩ := h
      have hskip : first ∉ '\\' :: block := by
        simp only [List.mem_cons, not_or]
        exact ⟨ne_backslash hfirst, fun hfound => hmarks (hmem first hfound)⟩
      rw [escaped_cons, hblock, cons_infix_append_iff hskip, ih hrest, List.infix_cons_iff]
      simp [List.cons_prefix_cons, hc]
    rcases writeChar_forms c with hself | hescape | ⟨hc, hescape⟩
    · have hcons : escaped (c :: rest) = c :: escaped rest := by simp [escaped_cons, hself]
      have hbegins : first :: needle <+: escaped (c :: rest) ↔ first :: needle <+: c :: rest :=
        prefix_escaped_iff hplain
      rw [hcons] at hbegins ⊢
      rw [List.infix_cons_iff, List.infix_cons_iff, hbegins, ih hrest]
    · exact hbehind hescape hshort
    · rcases hcoded with hmarks | hnone
      · exact hbehind hescape hmarks
      · exact absurd hc (hnone c List.mem_cons_self)

/-- What encloses a text cannot belong to a word. -/
private theorem infix_enclosed_iff {opening closing : Char} (hword : IsWord needle)
    (hopening : opening ∈ punctuation) (hclosing : closing ∈ punctuation) :
    needle <:+: opening :: (s ++ [closing]) ↔ needle <:+: s := by
  rw [← List.nil_append (opening :: _), infix_append_cons_iff (hword.notMem hopening),
    infix_append_cons_iff (hword.notMem hclosing)]
  simp [hword.notEmpty]

end Words

/-- A word is found in a written text exactly if it is found in the text, unless an escape has the
character that the word begins with. -/
theorem infix_writeText_iff {first : Char} {needle : List Char} (hword : IsWord (first :: needle))
    (hshort : first ∉ shortEscapeMarks) {s : String}
    (hcoded : first ∉ escapeMarks ∨ ∀ c ∈ s.toList, ¬ IsCoded c) :
    first :: needle <:+: (writeText s).toList ↔ first :: needle <:+: s.toList := by
  rw [toList_writeText, infix_enclosed_iff hword (by decide) (by decide)]
  exact infix_escaped_iff hword.plain hshort hcoded

/-- A word of plain characters is not lost when a text is written. -/
theorem infix_writeText {needle : List Char}
    (hplain : ∀ c ∈ needle, writeChar c = c.toString) {s : String} (h : needle <:+: s.toList) :
    needle <:+: (writeText s).toList := by
  -- the needle is written as itself wherever it stands
  have hself : escaped needle = needle := by
    induction needle with
    | nil => rfl
    | cons c rest ih =>
      obtain ⟨hc, hrest⟩ := List.forall_mem_cons.mp hplain
      have hrest' : escaped rest = rest := ih hrest ((List.suffix_cons c rest).isInfix.trans h)
      simp [escaped_cons, hc, hrest']
  obtain ⟨before, after, happend⟩ := h
  refine ⟨'"' :: escaped before, escaped after ++ ['"'], ?_⟩
  rw [toList_writeText, ← happend]
  simp only [escaped, List.flatMap_append] at hself ⊢
  simp [hself]

/-! ## Foreign characters -/

private theorem notMem_writeFloat {c : Char} (hc : IsForeign c) (x : Float) :
    c ∉ (writeFloat x).toList := by
  rw [writeFloat]
  split
  · exact hc.notMem_marks (by decide)
  · split <;> exact hc.notMem_marks (by decide)
  · exact hc.notMem_shortestText x

/-- No number of a value is written with a foreign character. -/
theorem notMem_of_mem_numerals {c : Char} (hc : IsForeign c) {value : Value} (h : IsJson value)
    {s : String} (hs : s ∈ numerals value) : c ∉ s.toList := by
  induction h with
  | null | bool | text => simp [numerals, gather, numeralOfLeaf] at hs
  | int n =>
    -- the numerals of a leaf are the one that it is written as
    obtain rfl : s = toString n := by simpa [numerals, gather, numeralOfLeaf] using hs
    exact hc.notMem_toString_int n
  | float x =>
    obtain rfl : s = writeFloat x := by simpa [numerals, gather, numeralOfLeaf] using hs
    exact notMem_writeFloat hc x
  | list items _ ih =>
    -- those of a tree are those of its parts
    simp only [numerals, gather_list, List.mem_flatMap] at hs
    obtain ⟨item, hitem, hs⟩ := hs
    exact ih item hitem hs
  | mapping entries _ _ ih =>
    simp only [numerals, gather_mapping, List.nil_append, List.mem_flatMap] at hs
    obtain ⟨entry, hentry, hs⟩ := hs
    exact ih entry hentry hs

/-! ## Words inside a value -/

section Values

variable {needle : List Char}

/-- Whether a value has a word in one of its texts, as they are written, or in a number. -/
private def Tells (needle : List Char) (value : Value) : Prop :=
  (∃ s ∈ words value, needle <:+: (writeText s).toList) ∨
    ∃ s ∈ numerals value, needle <:+: s.toList

private theorem exists_mem_flatMap {α : Type} {items : List α} {f : α → List String}
    {p : String → Prop} : (∃ s ∈ items.flatMap f, p s) ↔ ∃ item ∈ items, ∃ s ∈ f item, p s := by
  simp only [List.mem_flatMap]
  constructor
  · rintro ⟨s, ⟨item, hitem, hs⟩, hp⟩
    exact ⟨item, hitem, s, hs, hp⟩
  · rintro ⟨item, hitem, s, hs, hp⟩
    exact ⟨s, ⟨item, hitem, hs⟩, hp⟩

private theorem tells_list {items : List Value} :
    Tells needle (.list items) ↔ ∃ item ∈ items, Tells needle item := by
  simp only [Tells, words, numerals, gather_list, exists_mem_flatMap, ← exists_or, ← and_or_left]

private theorem tells_mapping {entries : Entries} :
    Tells needle (.mapping entries) ↔ ∃ entry ∈ entries,
      (∃ s ∈ wordOfKey entry.1, needle <:+: (writeText s).toList) ∨ Tells needle entry.2 := by
  simp only [Tells, words, numerals, gather_mapping, exists_mem_flatMap, List.mem_append,
    or_and_right, List.nil_append, ← exists_or, ← and_or_left, or_assoc]

/-- What stands between two texts cannot belong to a word. -/
private theorem infix_separated_iff (hword : IsWord needle) {mark : Char}
    (hmark : mark ∈ punctuation) {before after : List Char} :
    needle <:+: before ++ mark :: ' ' :: after ↔ needle <:+: before ∨ needle <:+: after := by
  rw [infix_append_cons_iff (hword.notMem hmark), ← List.nil_append (' ' :: after),
    infix_append_cons_iff (hword.notMem (by decide))]
  simp [hword.notEmpty]

private theorem infix_intercalate_iff (hword : IsWord needle) {parts : List String} :
    needle <:+: (String.intercalate ", " parts).toList ↔
      ∃ part ∈ parts, needle <:+: part.toList := by
  induction parts with
  | nil => simp [hword.notEmpty]
  | cons part rest ih =>
    cases rest with
    | nil => simp
    | cons next rest =>
      have hsplit : (String.intercalate ", " (part :: next :: rest)).toList =
          part.toList ++ ',' :: ' ' :: (String.intercalate ", " (next :: rest)).toList := by
        simp [String.intercalate_cons_cons, -String.toList_intercalate]
      -- a word has no comma in it, so it does not reach over one
      rw [hsplit, infix_separated_iff hword (by decide)]
      apply (or_congr_right ih).trans
      simp only [List.mem_cons, exists_eq_or_imp]

private theorem infix_enclose_iff (hword : IsWord needle) (opening closing : Char)
    (hopening : opening ∈ punctuation) (hclosing : closing ∈ punctuation) (parts : List String) :
    needle <:+: (enclose opening.toString closing.toString parts).toList ↔
      ∃ part ∈ parts, needle <:+: part.toList := by
  have hparts : (enclose opening.toString closing.toString parts).toList =
      opening :: ((String.intercalate ", " parts).toList ++ [closing]) := by simp [enclose]
  rw [hparts, infix_enclosed_iff hword hopening hclosing, infix_intercalate_iff hword]

private theorem infix_entry_iff (hword : IsWord needle) {key value : String} :
    needle <:+: (key ++ ": " ++ value).toList ↔
      needle <:+: key.toList ∨ needle <:+: value.toList := by
  rw [String.toList_append, String.toList_append, List.append_assoc]
  exact infix_separated_iff hword (by decide)

/-- A word is found in a written value exactly if it is found in one of its texts, as they are
written, or in one of its numbers. -/
theorem infix_write_iff (hword : IsWord needle) {value : Value} (h : IsJson value) :
    needle <:+: (write value).toList ↔
      (∃ s ∈ words value, needle <:+: (writeText s).toList) ∨
        ∃ s ∈ numerals value, needle <:+: s.toList := by
  show _ ↔ Tells needle value
  induction h with
  | null =>
    -- a word is no part of the three literals
    have hnull := hword.notInLiteral "null" (by decide)
    simpa [write, Tells, words, numerals, gather, wordOfLeaf, numeralOfLeaf] using hnull
  | bool b =>
    have htrue := hword.notInLiteral "true" (by decide)
    have hfalse := hword.notInLiteral "false" (by decide)
    cases b
    · simpa [write, Tells, words, numerals, gather, wordOfLeaf, numeralOfLeaf] using hfalse
    · simpa [write, Tells, words, numerals, gather, wordOfLeaf, numeralOfLeaf] using htrue
  | int | float | text =>
    simp [write, Tells, words, numerals, gather, wordOfLeaf, numeralOfLeaf]
  | list items _ ih =>
    -- brackets, commas and blanks stand in no word, so it lies within one item
    have hbrackets :=
      infix_enclose_iff hword '[' ']' (by decide) (by decide) (items.map write)
    rw [tells_list, write, writeItems_eq]
    apply hbrackets.trans
    simp only [List.mem_map, exists_exists_and_eq_and]
    exact exists_congr fun item => and_congr_right (ih item)
  | mapping entries hkeys _ ih =>
    have hbraces :=
      infix_enclose_iff hword '{' '}' (by decide) (by decide) (writeEntries entries)
    rw [tells_mapping, write]
    apply hbraces.trans
    simp only [writeEntries_eq, List.mem_map, exists_exists_and_eq_and, infix_entry_iff hword]
    refine exists_congr fun entry => and_congr_right fun hmem => ?_
    -- a key is a text, and the text is the one that it is written as
    obtain ⟨name, hname⟩ := hkeys entry hmem
    rw [ih entry hmem, hname]
    simp [keyText?, wordOfKey]

end Values

end Machining.Json
