import Machining.Proofs.Json.Faults
import Machining.Proofs.Result

/-!
# Where a value ends

A JSON text has a value in it and perhaps space around it.  The value is read from its own
characters: whatever follows them, it is read just the same, as long as it does not go on with them.

* `Spelling` says how the characters of a value begin and end.
* `Delimits` says of a reader that it takes off a spelling, and that what follows makes no
  difference.  There is one lemma for every reader, and `delimits_value` puts them together by
  induction on the nesting.
* Lists and mappings are read alike: `Rounds` is what their loops have in common, `Bracketed` what
  is common to the brackets around them.
* `exists_spelling_of_read` says so of whole documents: without the space around it, the text is
  read as the same value.
-/

namespace Machining.Json

open Machining.Document Machining.Numeric Machining.Text

/-! ## Spellings -/

/-- Whether a value may begin with a character. -/
def opensValue (c : Char) : Bool :=
  c.isDigit || ['"', '[', '{', 'n', 't', 'f', 'N', 'I', '-'].contains c

/-- Whether a value may end with a character. -/
def closesValue (c : Char) : Bool :=
  c.isDigit || ['"', ']', '}', 'l', 'e', 'N', 'y'].contains c

/-- How the characters of a value begin and end. -/
structure Spelling (core : List Char) : Prop where
  /-- The first one may begin a value. -/
  opens : ∃ c rest, core = c :: rest ∧ opensValue c = true
  /-- The last one may end a value. -/
  closes : ∃ front c, core = front ++ [c] ∧ closesValue c = true

/-- What follows a value without going on with it: neither a digit nor a mark of numbers. -/
def Follows (other : List Char) : Prop :=
  ∀ c ∈ other.head?, c.isDigit = false ∧ c ≠ '.' ∧ c ≠ 'e' ∧ c ≠ 'E'

/-- What is found in a text is found in the spelling in front of the rest, whatever follows it. -/
def Extent {α : Type} (read : Read α) (s : List Char) (found : α) (rest : List Char) : Prop :=
  ∃ core, s = core ++ rest ∧ Spelling core ∧
    ∀ other, Follows other → read (core ++ other) = .ok (found, other)

/-- A reader takes a spelling off a text, and what follows the spelling makes no difference. -/
def Delimits {α : Type} (read : Read α) : Prop :=
  ∀ s found rest, read s = .ok (found, rest) → Extent read s found rest

theorem follows_nil : Follows [] := by
  intro c hc
  cases hc

theorem follows_cons {c : Char} (h : c.isDigit = false ∧ c ≠ '.' ∧ c ≠ 'e' ∧ c ≠ 'E')
    (rest : List Char) : Follows (c :: rest) := by
  intro d hd
  cases hd
  exact h

/-! ## Space -/

/-- Space in front of a mark follows a value if the mark does. -/
theorem follows_space {space : List Char} (hspace : ∀ c ∈ space, isSpace c = true)
    {other : List Char} (h : Follows other) : Follows (space ++ other) := by
  cases space with
  | nil => exact h
  | cons c rest =>
    have hc : isSpace c = true := hspace c List.mem_cons_self
    simp only [isSpace, Bool.or_eq_true, beq_iff_eq] at hc
    apply follows_cons
    obtain ((rfl | rfl) | rfl) | rfl := hc <;> decide

/-- The space in front of a text, and what is behind it. -/
theorem exists_space (s : List Char) :
    ∃ space, s = space ++ skipSpace s ∧ ∀ c ∈ space, isSpace c = true :=
  ⟨s.takeWhile isSpace, List.takeWhile_append_dropWhile.symm,
    List.all_eq_true.mp List.all_takeWhile⟩

theorem skipSpace_space {space : List Char} (hspace : ∀ c ∈ space, isSpace c = true) {c : Char}
    (hc : isSpace c = false) (rest : List Char) : skipSpace (space ++ c :: rest) = c :: rest := by
  rw [skipSpace, List.dropWhile_append_of_pos hspace, List.dropWhile_cons_of_neg (by simp [hc])]

/-- Behind space there is none. -/
theorem isSpace_of_skipSpace {s rest : List Char} {c : Char} (h : skipSpace s = c :: rest) :
    isSpace c = false := by
  have hhead := List.head?_dropWhile_not isSpace s
  rw [skipSpace] at h
  rw [h] at hhead
  simpa using hhead

theorem isSpace_of_opensValue {c : Char} (h : opensValue c = true) : isSpace c = false := by
  refine Bool.eq_false_iff.mpr fun hspace => ?_
  simp only [isSpace, Bool.or_eq_true, beq_iff_eq] at hspace
  obtain ((rfl | rfl) | rfl) | rfl := hspace <;> revert h <;> decide

theorem Spelling.skipSpace_space {core : List Char} (h : Spelling core) {space : List Char}
    (hspace : ∀ c ∈ space, isSpace c = true) (other : List Char) :
    skipSpace (space ++ (core ++ other)) = core ++ other := by
  obtain ⟨c, rest, rfl, hc⟩ := h.opens
  exact Json.skipSpace_space hspace (isSpace_of_opensValue hc) (rest ++ other)

theorem Spelling.skipSpace_self {core : List Char} (h : Spelling core) :
    skipSpace core = core := by
  obtain ⟨c, rest, rfl, hc⟩ := h.opens
  exact List.dropWhile_cons_of_neg (by simp [isSpace_of_opensValue hc])

/-! ## Strings -/

theorem stringUnits_extent {opening : Nat} {units found : List Nat} {s rest : List Char}
    (h : stringUnits opening units s = .ok (found, rest)) :
    ∃ core, s = core ++ '"' :: rest ∧ ∀ opening' other,
      stringUnits opening' units (core ++ '"' :: other) = .ok (found, other) := by
  -- along the string, up to the closing quote; all other ends are faults
  fun_induction stringUnits opening units s with
  | case1 => cases h
  | case2 units rest =>
    cases h
    exact ⟨[], rfl, fun _ _ => rfl⟩
  | case3 => cases h
  | case4 units a b c d next rest unit hunit ih =>
    obtain ⟨core, hcore, hother⟩ := ih h
    refine ⟨'\\' :: 'u' :: a :: b :: c :: d :: core, by rw [hcore]; rfl, fun opening' other => ?_⟩
    -- at least the closing quote follows the four digits
    obtain ⟨after, tail, htail⟩ : ∃ after tail, core ++ '"' :: other = after :: tail :=
      List.exists_cons_of_ne_nil (by simp)
    have hread := hother opening' other
    simp only [List.cons_append, htail] at hread ⊢
    rw [stringUnits]
    simp only [hunit, hread]
  | case5 => cases h
  | case6 => cases h
  | case7 units c rest hfour hu plain hplain ih =>
    obtain ⟨core, hcore, hother⟩ := ih h
    refine ⟨'\\' :: c :: core, by rw [hcore]; rfl, fun opening' other => ?_⟩
    have hread := hother opening' other
    simp only [List.cons_append]
    rw [stringUnits]
    · simp only [hplain, hread]
    · exact fun _ _ _ _ _ _ hc _ => hu hc
    · exact hu
  | case8 => cases h
  | case9 => cases h
  | case10 units c rest hquote hlast hfour hu hescape hplain ih =>
    obtain ⟨core, hcore, hother⟩ := ih h
    refine ⟨c :: core, by rw [hcore]; rfl, fun opening' other => ?_⟩
    have hread := hother opening' other
    -- a backslash is followed by something, so it would have begun an escape
    have hnot : c ≠ '\\' := by
      intro hc
      cases rest with
      | nil => exact hlast hc rfl
      | cons d tail => exact hescape d tail hc rfl
    simp only [List.cons_append]
    rw [stringUnits]
    · simp only [if_neg hplain, hread]
    · exact hquote
    · exact fun hc _ => hnot hc
    · exact fun _ _ _ _ _ _ hc _ => hnot hc
    · exact fun _ hc _ => hnot hc
    · exact fun _ _ hc _ => hnot hc

theorem stringBody_extent {s rest : List Char} {found : String}
    (h : stringBody s = .ok (found, rest)) :
    ∃ core, s = core ++ '"' :: rest ∧
      ∀ other, stringBody (core ++ '"' :: other) = .ok (found, other) := by
  obtain ⟨⟨units, after⟩, hunits, heq⟩ := exists_of_map_eq_ok h
  obtain ⟨rfl, rfl⟩ := Prod.mk.inj heq
  obtain ⟨core, hcore, hother⟩ := stringUnits_extent hunits
  refine ⟨core, hcore, fun other => ?_⟩
  rw [stringBody, hother]
  rfl

/-! ## Numbers -/

/-- The digits in front, where no digit follows them. -/
theorem span_digits {digits other : List Char} (hdigits : ∀ c ∈ digits, c.isDigit = true)
    (hother : ∀ c ∈ other.head?, c.isDigit = false) :
    (digits ++ other).takeWhile Char.isDigit = digits ∧
      (digits ++ other).dropWhile Char.isDigit = other := by
  rw [List.takeWhile_append_of_pos hdigits, List.dropWhile_append_of_pos hdigits]
  cases other with
  | nil => simp
  | cons c rest =>
    have hc : ¬c.isDigit = true := by simp [hother c rfl]
    simp [hc]

/-- The last character of a text is a digit. -/
def EndsWithDigit (core : List Char) : Prop :=
  ∃ front c, core = front ++ [c] ∧ c.isDigit = true

theorem EndsWithDigit.append {core : List Char} (h : EndsWithDigit core) (front : List Char) :
    EndsWithDigit (front ++ core) := by
  obtain ⟨before, c, rfl, hc⟩ := h
  exact ⟨front ++ before, c, by rw [List.append_assoc], hc⟩

theorem endsWithDigit_of_digits {digits : List Char} (hdigits : ∀ c ∈ digits, c.isDigit = true)
    (hsome : digits ≠ []) : EndsWithDigit digits :=
  ⟨digits.dropLast, digits.getLast hsome, (List.dropLast_concat_getLast hsome).symm,
    hdigits _ (List.getLast_mem hsome)⟩

theorem splitWhole_extent (s : List Char) {other : List Char}
    (hother : ∀ c ∈ other.head?, c.isDigit = false) :
    splitWhole ((splitWhole s).1 ++ other) = ((splitWhole s).1, other) := by
  by_cases hzero : s.head? = some '0'
  · -- a zero stands alone, whatever follows it
    obtain ⟨rest, rfl⟩ := List.head?_eq_some_iff.mp hzero
    rfl
  · have hdigits := isDigit_of_mem_splitWhole s
    rw [splitWhole_of_ne_zero hzero] at hdigits ⊢
    obtain ⟨htake, hdrop⟩ := span_digits hdigits hother
    have hhead : (s.takeWhile Char.isDigit ++ other).head? ≠ some '0' := by
      rw [List.head?_append, List.head?_takeWhile, Ne, Option.or_eq_some_iff]
      rintro (h | ⟨-, h⟩)
      · exact hzero (Option.filter_eq_some_iff.mp h).1
      · exact absurd (hother '0' h) (by decide)
    rw [splitWhole_of_ne_zero hhead, htake, hdrop]

/-- A part of a number that may be missing: it begins with one of the marks and ends with a
digit. -/
def Part (marks core : List Char) : Prop :=
  core = [] ∨ (∃ mark ∈ marks, core.head? = some mark) ∧ EndsWithDigit core

/-- What is so of the marks of a part, and of the first character behind it, is so of the first
character. -/
theorem Part.head {marks core : List Char} (h : Part marks core) {other : List Char}
    {P : Char → Prop} (hmarks : ∀ c ∈ marks, P c) (hother : ∀ c ∈ other.head?, P c) :
    ∀ c ∈ (core ++ other).head?, P c := by
  obtain rfl | ⟨⟨mark, hmark, hhead⟩, -⟩ := h
  · exact hother
  · intro c hc
    rw [List.head?_append, hhead] at hc
    cases hc
    exact hmarks mark hmark

/-- A part leaves a digit at the end. -/
theorem Part.endsWithDigit {marks core : List Char} (h : Part marks core) {front : List Char}
    (hfront : EndsWithDigit front) : EndsWithDigit (front ++ core) := by
  obtain rfl | ⟨-, hcore⟩ := h
  · rwa [List.append_nil]
  · exact hcore.append front

theorem splitFraction_extent (s : List Char) :
    ∃ core, s = core ++ (splitFraction s).2 ∧ Part ['.'] core ∧
      ∀ other, (∀ c ∈ other.head?, c.isDigit = false ∧ c ≠ '.') →
        splitFraction (core ++ other) = ((splitFraction s).1, other) := by
  -- no fraction is found where none was: what follows does not begin with a point
  have hmissing : ∀ other : List Char, (∀ c ∈ other.head?, c.isDigit = false ∧ c ≠ '.') →
      splitFraction other = ([], other) := by
    intro other hother
    unfold splitFraction
    split
    · exact absurd rfl (hother '.' rfl).2
    · rfl
  unfold splitFraction
  split
  · rename_i rest
    dsimp only
    split
    · -- a point without digits belongs to what is left over
      exact ⟨[], rfl, Or.inl rfl, hmissing⟩
    · rename_i hsome
      have hdigits : ∀ c ∈ rest.takeWhile Char.isDigit, c.isDigit = true :=
        List.all_eq_true.mp List.all_takeWhile
      refine ⟨'.' :: rest.takeWhile Char.isDigit, ?_, Or.inr ⟨⟨'.', by simp, rfl⟩, ?_⟩, ?_⟩
      · exact congrArg _ List.takeWhile_append_dropWhile.symm
      · exact (endsWithDigit_of_digits hdigits (by simpa using hsome)).append ['.']
      · intro other hother
        obtain ⟨htake, hdrop⟩ := span_digits hdigits fun c hc => (hother c hc).1
        rw [List.cons_append]
        simp only [htake, hdrop, if_neg hsome]
  · exact ⟨[], rfl, Or.inl rfl, hmissing⟩

theorem splitSign_extent (s : List Char) :
    ∃ sign, s = sign ++ (splitSign s).2 ∧ ∀ c rest, c.isDigit = true →
      splitSign (sign ++ c :: rest) = ((splitSign s).1, c :: rest) := by
  unfold splitSign
  split
  · exact ⟨['-'], rfl, fun _ _ _ => rfl⟩
  · exact ⟨['+'], rfl, fun _ _ _ => rfl⟩
  · refine ⟨[], rfl, fun c rest hc => ?_⟩
    dsimp only [List.nil_append]
    split
    · exact absurd hc (by simp_all)
    · exact absurd hc (by simp_all)
    · rfl

theorem splitExponent_extent (s : List Char) :
    ∃ core, s = core ++ (splitExponent s).2 ∧ Part ['e', 'E'] core ∧
      ∀ other, Follows other → splitExponent (core ++ other) = ((splitExponent s).1, other) := by
  -- where no exponent stands, none is read, whatever follows
  have hmissing : ∀ other : List Char, Follows other → splitExponent other = (none, other) := by
    intro other hother
    unfold splitExponent
    split
    · rename_i mark rest
      have hmark := hother mark rfl
      rw [if_neg (by simp [hmark])]
    · rfl
  unfold splitExponent
  split
  · rename_i mark rest
    split
    · rename_i hmark
      dsimp only
      split
      · -- so does the mark of an exponent without digits
        exact ⟨[], rfl, Or.inl rfl, hmissing⟩
      · rename_i hsome
        -- the mark, a sign and digits: the exponent ends with its last digit
        obtain ⟨sign, hrest, hsign⟩ := splitSign_extent rest
        generalize splitSign rest = parts at hrest hsign hsome ⊢
        obtain ⟨negative, after⟩ := parts
        have hdigits : ∀ c ∈ after.takeWhile Char.isDigit, c.isDigit = true :=
          List.all_eq_true.mp List.all_takeWhile
        refine ⟨mark :: (sign ++ after.takeWhile Char.isDigit), ?_,
          Or.inr ⟨⟨mark, ?_, rfl⟩, ?_⟩, ?_⟩
        · simp [hrest]
        · simpa using hmark
        · have hlast := endsWithDigit_of_digits hdigits (by simpa using hsome)
          exact (hlast.append sign).append [mark]
        · intro other hother
          -- what follows is no digit, so the same digits are read
          obtain ⟨htake, hdrop⟩ := span_digits hdigits fun c hc => (hother c hc).1
          obtain ⟨d, more, hmore⟩ := List.exists_cons_of_ne_nil fun h =>
            hsome (List.isEmpty_iff.mpr h)
          have hd : d.isDigit = true := hdigits d (by rw [hmore]; exact List.mem_cons_self)
          rw [hmore] at htake hdrop
          simp only [hmore, List.cons_append, List.append_assoc, if_pos hmark, hsign d _ hd,
            htake, hdrop, List.isEmpty_cons, Bool.false_eq_true, if_false] at htake hdrop ⊢
    · exact ⟨[], rfl, Or.inl rfl, hmissing⟩
  · exact ⟨[], rfl, Or.inl rfl, hmissing⟩

/-- The number that its parts make, unless it has too many digits. -/
def numberOf? (negative : Bool) (whole fraction : List Char) (exponent : Option Int) :
    Option Value :=
  if fraction.isEmpty && exponent.isNone then
    if longestInteger < whole.length then none
    else some (.int (if negative then -(ofDigits whole : Int) else ofDigits whole))
  else
    some (.float (ofDecimalParts negative (ofDigits (whole ++ fraction))
      (exponent.getD 0 - fraction.length)))

/-- A number is read when its whole part, its fraction and its exponent make one. -/
theorem unsignedNumber_eq_ok_iff {s afterWhole afterFraction last : List Char}
    {whole fraction : List Char} {exponent : Option Int}
    (hwhole : splitWhole s = (whole, afterWhole))
    (hfraction : splitFraction afterWhole = (fraction, afterFraction))
    (hexponent : splitExponent afterFraction = (exponent, last))
    {start rest : List Char} {negative : Bool} {found : Value} :
    unsignedNumber start negative s = .ok (found, rest) ↔
      whole ≠ [] ∧ numberOf? negative whole fraction exponent = some found ∧ last = rest := by
  simp only [unsignedNumber, hwhole, hfraction, hexponent, numberOf?, ne_eq,
    ← List.isEmpty_iff (l := whole)]
  split_ifs <;> simp_all [complain]

/-- A number begins and ends with a digit. -/
theorem unsignedNumber_extent {start s rest : List Char} {negative : Bool} {found : Value}
    (h : unsignedNumber start negative s = .ok (found, rest)) :
    ∃ core, s = core ++ rest ∧ (∃ c tail, core = c :: tail ∧ c.isDigit = true) ∧
      EndsWithDigit core ∧
      ∀ start' other, Follows other →
        unsignedNumber start' negative (core ++ other) = .ok (found, other) := by
  -- the number is its whole part, its fraction and its exponent
  have hwhole := splitWhole_append s
  have hdigits := isDigit_of_mem_splitWhole s
  obtain ⟨point, hpoint, hpointPart, hfraction⟩ := splitFraction_extent (splitWhole s).2
  obtain ⟨mark, hmark, hmarkPart, hexponent⟩ :=
    splitExponent_extent (splitFraction (splitWhole s).2).2
  obtain ⟨hsome, hnumber, hrest⟩ :=
    (unsignedNumber_eq_ok_iff (Prod.eta _).symm (Prod.eta _).symm (Prod.eta _).symm).mp h
  obtain ⟨c, tail, hfirst⟩ := List.exists_cons_of_ne_nil hsome
  have hc : c.isDigit = true := hdigits c (by rw [hfirst]; exact List.mem_cons_self)
  refine ⟨(splitWhole s).1 ++ point ++ mark, ?_, ⟨c, tail ++ point ++ mark, ?_, hc⟩, ?_, ?_⟩
  · rw [List.append_assoc, List.append_assoc, ← hrest, ← hmark, ← hpoint, hwhole]
  · rw [hfirst, List.cons_append, List.cons_append]
  · exact hmarkPart.endsWithDigit
      (hpointPart.endsWithDigit (endsWithDigit_of_digits hdigits hsome))
  · intro start' other hother
    have hbehindFraction : ∀ c ∈ (mark ++ other).head?, c.isDigit = false ∧ c ≠ '.' :=
      hmarkPart.head (by simp) fun c hc => ⟨(hother c hc).1, (hother c hc).2.1⟩
    have hbehindWhole : ∀ c ∈ (point ++ (mark ++ other)).head?, c.isDigit = false :=
      hpointPart.head (by simp) fun c hc => (hbehindFraction c hc).1
    rw [List.append_assoc, List.append_assoc]
    exact (unsignedNumber_eq_ok_iff (splitWhole_extent s hbehindWhole)
      (hfraction _ hbehindFraction) (hexponent other hother)).mpr ⟨hsome, hnumber, rfl⟩

theorem scalar_of_minus {c : Char} (hc : c.isDigit = true) (rest : List Char) :
    scalar ('-' :: c :: rest) = unsignedNumber ('-' :: c :: rest) true (c :: rest) := by
  rw [scalar]
  intro after heq
  obtain ⟨rfl, -⟩ := List.cons.inj heq
  revert hc
  decide

/-- A word is read as its value, whatever follows. -/
theorem word_extent (word : List Char) {found : Value} (hopens : word.head?.any opensValue = true)
    (hcloses : word.getLast?.any closesValue = true)
    (hread : ∀ other, scalar (word ++ other) = .ok (found, other)) (rest : List Char) :
    Extent scalar (word ++ rest) found rest := by
  obtain ⟨c, hc, hopen⟩ := (Option.any_eq_true _ _).mp hopens
  obtain ⟨last, hlast, hclose⟩ := (Option.any_eq_true _ _).mp hcloses
  obtain ⟨tail, htail⟩ := List.head?_eq_some_iff.mp hc
  obtain ⟨front, hfront⟩ := List.getLast?_eq_some_iff.mp hlast
  exact ⟨word, rfl, ⟨⟨c, tail, htail, hopen⟩, ⟨front, last, hfront, hclose⟩⟩,
    fun other _ => hread other⟩

theorem delimits_scalar : Delimits scalar := by
  intro s found rest h
  -- the words first, then the numbers
  unfold scalar at h
  split at h
  · cases h
    exact word_extent ['n', 'u', 'l', 'l'] rfl rfl (fun _ => rfl) rest
  · cases h
    exact word_extent ['t', 'r', 'u', 'e'] rfl rfl (fun _ => rfl) rest
  · cases h
    exact word_extent ['f', 'a', 'l', 's', 'e'] rfl rfl (fun _ => rfl) rest
  · cases h
    exact word_extent ['N', 'a', 'N'] rfl rfl (fun _ => rfl) rest
  · cases h
    exact word_extent ['I', 'n', 'f', 'i', 'n', 'i', 't', 'y'] rfl rfl (fun _ => rfl) rest
  · cases h
    exact word_extent ['-', 'I', 'n', 'f', 'i', 'n', 'i', 't', 'y'] rfl rfl (fun _ => rfl) rest
  · -- a number with a sign
    obtain ⟨core, hcore, ⟨c, tail, rfl, hc⟩, ⟨front, last, hfront, hlast⟩, hother⟩ :=
      unsignedNumber_extent h
    have hspelling : Spelling ('-' :: c :: tail) :=
      ⟨⟨'-', c :: tail, rfl, rfl⟩,
        ⟨'-' :: front, last, congrArg _ hfront, by simp [closesValue, hlast]⟩⟩
    refine ⟨'-' :: c :: tail, congrArg _ hcore, hspelling, fun other hfollows => ?_⟩
    rw [List.cons_append, List.cons_append, scalar_of_minus hc]
    exact hother _ other hfollows
  · obtain ⟨core, hcore, ⟨c, tail, rfl, hc⟩, ⟨front, last, hfront, hlast⟩, hother⟩ :=
      unsignedNumber_extent h
    have hspelling : Spelling (c :: tail) :=
      ⟨⟨c, tail, rfl, by simp [opensValue, hc]⟩,
        ⟨front, last, hfront, by simp [closesValue, hlast]⟩⟩
    refine ⟨c :: tail, hcore, hspelling, fun other hfollows => ?_⟩
    rw [List.cons_append, scalar_of_isDigit hc]
    exact hother _ other hfollows

/-! ## Lists and mappings -/

/-- The marks between the parts of a list or a mapping. -/
def marks : List Char := [':', ',', ']', '}']

theorem follows_of_mem_marks {mark : Char} (h : mark ∈ marks) :
    mark.isDigit = false ∧ mark ≠ '.' ∧ mark ≠ 'e' ∧ mark ≠ 'E' := by
  simp only [marks, List.mem_cons, List.not_mem_nil, or_false] at h
  obtain rfl | rfl | rfl | rfl := h <;> decide

theorem isSpace_of_mem_marks {mark : Char} (h : mark ∈ marks) : isSpace mark = false := by
  simp only [marks, List.mem_cons, List.not_mem_nil, or_false] at h
  obtain rfl | rfl | rfl | rfl := h <;> decide

/-- One part and the mark behind it: neither the space around the part makes a difference nor what
follows the mark. -/
theorem Delimits.marked {α : Type} {read : Read α} (hread : Delimits read) {mark : Char}
    (hmark : mark ∈ marks) {s rest after : List Char} {found : α}
    (hfound : read (skipSpace s) = .ok (found, rest)) (hrest : skipSpace rest = mark :: after) :
    ∃ core, s = core ++ mark :: after ∧ ∀ other, ∃ rest',
      read (skipSpace (core ++ mark :: other)) = .ok (found, rest') ∧
        skipSpace rest' = mark :: other := by
  obtain ⟨core, hcore, hspelling, hother⟩ := hread _ _ _ hfound
  obtain ⟨front, hfront, hfrontSpace⟩ := exists_space s
  obtain ⟨back, hback, hbackSpace⟩ := exists_space rest
  refine ⟨front ++ core ++ back, ?_, fun other => ⟨back ++ mark :: other, ?_, ?_⟩⟩
  · rw [hrest] at hback
    rw [hfront, hcore, hback]
    simp only [List.append_assoc]
  · rw [List.append_assoc, List.append_assoc, hspelling.skipSpace_space hfrontSpace]
    have hfollows := follows_cons (follows_of_mem_marks hmark) other
    exact hother _ (follows_space hbackSpace hfollows)
  · exact Json.skipSpace_space hbackSpace (isSpace_of_mem_marks hmark) other

/-- How the parts between two brackets are read, one round after another: each part is added to
what has been found, and the mark behind it says whether there are more. -/
structure Rounds {α β γ : Type} (read : Read α) (closing : Char) (add : α → β → β) (made : β → γ)
    (loop : β → Nat → Read γ) : Prop where
  /-- The last round. -/
  last : ∀ {found part fuel s rest after}, read (skipSpace s) = .ok (part, rest) →
    skipSpace rest = closing :: after →
    loop found (fuel + 1) s = .ok (made (add part found), after)
  /-- Any other round. -/
  next : ∀ {found part fuel s rest after}, read (skipSpace s) = .ok (part, rest) →
    skipSpace rest = ',' :: after → loop found (fuel + 1) s = loop (add part found) fuel after
  /-- There are no other rounds. -/
  only : ∀ {found fuel s parts after}, loop found fuel s = .ok (parts, after) →
    ∃ k part rest behind, fuel = k + 1 ∧ read (skipSpace s) = .ok (part, rest) ∧
      (skipSpace rest = closing :: behind ∨ skipSpace rest = ',' :: behind)

/-- The rounds end with the closing bracket, and what follows that makes no difference. -/
theorem Rounds.extent {α β γ : Type} {read : Read α} {closing : Char} {add : α → β → β}
    {made : β → γ} {loop : β → Nat → Read γ} (hrounds : Rounds read closing add made loop)
    (hread : Delimits read) (hclosing : closing ∈ marks) {found : β} {fuel : Nat} {parts : γ}
    {s rest : List Char} (h : loop found fuel s = .ok (parts, rest)) :
    ∃ core, s = core ++ closing :: rest ∧ ∀ fuel' other, core.length < fuel' →
      loop found fuel' (core ++ closing :: other) = .ok (parts, other) := by
  -- on the rounds that were made; there are no more of them than characters
  induction fuel generalizing found s with
  | zero =>
    obtain ⟨k, part, behind, after, hk, -⟩ := hrounds.only h
    cases hk
  | succ fuel ih =>
    obtain ⟨k, part, behind, after, -, hpart, hlast | hnext⟩ := hrounds.only h
    · rw [hrounds.last hpart hlast] at h
      cases h
      obtain ⟨core, hcore, hother⟩ := hread.marked hclosing hpart hlast
      refine ⟨core, hcore, fun fuel' other hfuel => ?_⟩
      obtain ⟨rest', hagain, hskip⟩ := hother other
      obtain ⟨k, rfl⟩ := Nat.exists_eq_succ_of_ne_zero (Nat.ne_zero_of_lt hfuel)
      exact hrounds.last hagain hskip
    · -- the parts behind the comma
      rw [hrounds.next hpart hnext] at h
      obtain ⟨first, hfirst, hother⟩ := hread.marked (by decide : ',' ∈ marks) hpart hnext
      obtain ⟨core, hcore, hparts⟩ := ih h
      refine ⟨first ++ ',' :: core, by simp [hfirst, hcore], fun fuel' other hfuel => ?_⟩
      obtain ⟨rest', hagain, hskip⟩ := hother (core ++ closing :: other)
      obtain ⟨k, rfl⟩ := Nat.exists_eq_succ_of_ne_zero (Nat.ne_zero_of_lt hfuel)
      have hk : core.length < k := by
        simp only [List.length_append, List.length_cons] at hfuel
        omega
      rw [List.append_assoc, List.cons_append, hrounds.next hagain hskip]
      exact hparts k other hk

section Nested

variable {item : Read Value}

theorem rounds_items (item : Read Value) :
    Rounds item ']' List.cons List.reverse (items item) where
  last hread hrest := by simp only [items, hread, bind, Except.bind, hrest]
  next hread hrest := by simp only [items, hread, bind, Except.bind, hrest]
  only {found fuel s parts after} h := by
    cases fuel with
    | zero => cases h
    | succ fuel =>
      rw [items] at h
      obtain ⟨⟨part, rest⟩, hread, h⟩ := exists_of_bind_eq_ok h
      dsimp only at h
      split at h
      · rename_i behind hrest
        exact ⟨fuel, part, rest, behind, rfl, hread, Or.inl hrest⟩
      · rename_i behind hrest
        exact ⟨fuel, part, rest, behind, rfl, hread, Or.inr hrest⟩
      · cases h

theorem delimits_member (hitem : Delimits item) : Delimits (member item) := by
  intro s entry rest h
  unfold member at h
  split at h
  · rename_i body
    obtain ⟨⟨name, behind⟩, hname, h⟩ := exists_of_bind_eq_ok h
    dsimp only at h
    split at h
    · rename_i after hbehind
      obtain ⟨⟨value, last⟩, hvalue, h⟩ := exists_of_bind_eq_ok h
      cases h
      -- a name, a colon between blanks, and a value
      obtain ⟨key, hkey, hstring⟩ := stringBody_extent hname
      obtain ⟨back, hback, hbackSpace⟩ := exists_space behind
      obtain ⟨front, hfront, hfrontSpace⟩ := exists_space after
      obtain ⟨core, hcore, hspelling, hother⟩ := hitem _ _ _ hvalue
      obtain ⟨before, c, hlast, hclose⟩ := hspelling.closes
      refine ⟨'"' :: (key ++ '"' :: (back ++ ':' :: (front ++ core))), ?_, ⟨⟨'"', _, rfl, rfl⟩,
        ⟨'"' :: (key ++ '"' :: (back ++ ':' :: (front ++ before))), c, ?_, hclose⟩⟩,
        fun other hfollows => ?_⟩
      · rw [hkey, hback, hbehind, hfront, hcore]
        simp
      · simp [hlast]
      · simp only [List.cons_append, List.append_assoc, member, hstring, bind, Except.bind,
          Json.skipSpace_space hbackSpace (isSpace_of_mem_marks (by decide : ':' ∈ marks)),
          hspelling.skipSpace_space hfrontSpace, hother other hfollows]
        rfl
    · cases h
  · cases h

theorem rounds_members (item : Read Value) :
    Rounds (member item) '}' (fun entry found => Entries.put entry.1 entry.2 found) id
      (members item) where
  last hread hrest := by simp only [members, hread, bind, Except.bind, hrest, id]
  next hread hrest := by simp only [members, hread, bind, Except.bind, hrest]
  only {found fuel s parts after} h := by
    cases fuel with
    | zero => cases h
    | succ fuel =>
      rw [members] at h
      obtain ⟨⟨part, rest⟩, hread, h⟩ := exists_of_bind_eq_ok h
      dsimp only at h
      split at h
      · rename_i behind hrest
        exact ⟨fuel, part, rest, behind, rfl, hread, Or.inl hrest⟩
      · rename_i behind hrest
        exact ⟨fuel, part, rest, behind, rfl, hread, Or.inr hrest⟩
      · cases h

end Nested

/-! ## Values -/

section Values

variable {nesting : Nat} {tail rest : List Char} {found : Value}

theorem value_quote (nesting : Nat) (body : List Char) :
    value nesting ('"' :: body) =
      (stringBody body).map fun (text, after) => (.text text, after) := by
  cases nesting <;> rfl

theorem value_of_isScalar {c : Char} (hc : c ∉ ['"', '[', '{']) (nesting : Nat)
    (tail : List Char) : value nesting (c :: tail) = scalar (c :: tail) := by
  simp only [List.mem_cons, List.not_mem_nil, not_or, or_false] at hc
  unfold value
  split <;> simp_all

theorem extent_of_quote (h : value nesting ('"' :: tail) = .ok (found, rest)) :
    Extent (value nesting) ('"' :: tail) found rest := by
  rw [value_quote] at h
  obtain ⟨⟨text, after⟩, htext, heq⟩ := exists_of_map_eq_ok h
  cases heq
  obtain ⟨core, hcore, hother⟩ := stringBody_extent htext
  refine ⟨'"' :: (core ++ ['"']), by simp [hcore],
    ⟨⟨'"', _, rfl, rfl⟩, ⟨'"' :: core, '"', rfl, rfl⟩⟩, fun other _ => ?_⟩
  rw [List.cons_append, List.append_assoc, value_quote, List.singleton_append, hother]
  rfl

theorem extent_of_isScalar {c : Char} (hc : c ∉ ['"', '[', '{'])
    (h : value nesting (c :: tail) = .ok (found, rest)) :
    Extent (value nesting) (c :: tail) found rest := by
  rw [value_of_isScalar hc] at h
  obtain ⟨core, hcore, hspelling, hother⟩ := delimits_scalar _ _ _ h
  refine ⟨core, hcore, hspelling, fun other hfollows => ?_⟩
  obtain ⟨d, more, rfl, -⟩ := hspelling.opens
  obtain ⟨rfl, -⟩ := List.cons.inj hcore
  rw [List.cons_append, value_of_isScalar hc]
  exact hother other hfollows

/-- How a value between brackets is read: there is nothing between them, or there are parts. -/
structure Bracketed {α : Type} (read : Read Value) (opening closing : Char) (empty : Value)
    (between : Nat → Read α) (made : α → Value) : Prop where
  /-- The closing bracket follows at once. -/
  none : ∀ tail after, skipSpace tail = closing :: after →
    read (opening :: tail) = .ok (empty, after)
  /-- Something else follows. -/
  some : ∀ tail, (skipSpace tail).head? ≠ some closing → read (opening :: tail) =
    (between ((skipSpace tail).length + 1) (skipSpace tail)).map fun (found, after) =>
      (made found, after)

theorem bracketed_list (deeper : Nat) :
    Bracketed (value (deeper + 1)) '[' ']' (.list []) (items (value deeper) []) .list where
  none tail after h := by simp only [value, h]
  some tail h := by
    rw [value]
    split
    · rename_i hclosing
      exact absurd (congrArg List.head? hclosing) h
    · rfl

theorem bracketed_mapping (deeper : Nat) :
    Bracketed (value (deeper + 1)) '{' '}' (.mapping []) (members (value deeper) []) .mapping where
  none tail after h := by simp only [value, h]
  some tail h := by
    rw [value]
    split
    · rename_i hclosing
      exact absurd (congrArg List.head? hclosing) h
    · rfl

/-- A value between brackets ends with the closing one. -/
theorem Bracketed.extent {α : Type} {read : Read Value} {opening closing : Char} {empty : Value}
    {between : Nat → Read α} {made : α → Value}
    (hread : Bracketed read opening closing empty between made)
    (hopening : opensValue opening = true) (hclosing : closesValue closing = true)
    (hmark : closing ∈ marks)
    (hbetween : ∀ {fuel s parts rest}, between fuel s = .ok (parts, rest) →
      ∃ core, s = core ++ closing :: rest ∧ ∀ fuel' other, core.length < fuel' →
        between fuel' (core ++ closing :: other) = .ok (parts, other))
    (h : read (opening :: tail) = .ok (found, rest)) :
    Extent read (opening :: tail) found rest := by
  obtain ⟨space, htail, hspace⟩ := exists_space tail
  -- whatever stands between the brackets, the whole begins and ends as a value does
  have hspelling : ∀ core, Spelling (opening :: (space ++ (core ++ [closing]))) := fun core =>
    ⟨⟨opening, _, rfl, hopening⟩, ⟨opening :: (space ++ core), closing, by simp, hclosing⟩⟩
  by_cases hhead : (skipSpace tail).head? = Option.some closing
  · -- nothing between the brackets
    obtain ⟨after, hafter⟩ := List.head?_eq_some_iff.mp hhead
    rw [hread.none tail after hafter] at h
    cases h
    refine ⟨opening :: (space ++ ([] ++ [closing])), ?_, hspelling [], fun other _ => ?_⟩
    · rw [htail, hafter]
      simp
    · have hskip := skipSpace_space hspace (isSpace_of_mem_marks hmark) other
      simpa using hread.none _ other hskip
  · rw [hread.some tail hhead] at h
    obtain ⟨⟨parts, after⟩, hparts, heq⟩ := exists_of_map_eq_ok h
    cases heq
    obtain ⟨core, hcore, hother⟩ := hbetween hparts
    -- something stands there, and it does not begin with a blank
    obtain ⟨c, inside, rfl⟩ : ∃ c inside, core = c :: inside := by
      refine List.exists_cons_of_ne_nil fun hnil => hhead ?_
      rw [hcore, hnil]
      rfl
    have hc : isSpace c = false := isSpace_of_skipSpace hcore
    rw [hcore] at hhead
    refine ⟨opening :: (space ++ (c :: inside ++ [closing])), ?_, hspelling _, fun other _ => ?_⟩
    · rw [htail, hcore]
      simp
    · -- with another rest behind it, the same is read
      have hskip : skipSpace (space ++ (c :: inside ++ closing :: other)) =
          c :: inside ++ closing :: other := skipSpace_space hspace hc _
      have hsome := hread.some (space ++ (c :: inside ++ closing :: other)) (by rwa [hskip])
      have hfuel : (c :: inside).length < (c :: inside ++ closing :: other).length + 1 := by
        rw [List.length_append]
        omega
      have hwhole : opening :: (space ++ (c :: inside ++ [closing])) ++ other =
          opening :: (space ++ (c :: inside ++ closing :: other)) := by
        simp
      rw [hskip, hother _ other hfuel] at hsome
      rw [hwhole]
      exact hsome

end Values

/-- **A value is read from its own characters**, whatever stands around them. -/
theorem delimits_value (nesting : Nat) : Delimits (value nesting) := by
  -- the parts of a list or a mapping are read with one bracket less
  induction nesting with
  | zero =>
    rintro (- | ⟨c, tail⟩) found rest h
    · cases h
    · by_cases hc : c ∈ ['"', '[', '{']
      · simp only [List.mem_cons, List.not_mem_nil, or_false] at hc
        obtain rfl | rfl | rfl := hc
        · exact extent_of_quote h
        · cases h
        · cases h
      · exact extent_of_isScalar hc h
  | succ deeper ih =>
    rintro (- | ⟨c, tail⟩) found rest h
    · cases h
    · by_cases hc : c ∈ ['"', '[', '{']
      · simp only [List.mem_cons, List.not_mem_nil, or_false] at hc
        obtain rfl | rfl | rfl := hc
        · exact extent_of_quote h
        · exact (bracketed_list deeper).extent rfl rfl (by decide)
            ((rounds_items _).extent ih (by decide)) h
        · exact (bracketed_mapping deeper).extent rfl rfl (by decide)
            ((rounds_members _).extent (delimits_member ih) (by decide)) h
      · exact extent_of_isScalar hc h

/-! ## Documents -/

theorem Spelling.ne_byteOrderMark {core : List Char} (h : Spelling core) :
    core.head? ≠ some '\uFEFF' := by
  obtain ⟨c, rest, rfl, hc⟩ := h.opens
  rintro heq
  cases heq
  revert hc
  decide

theorem document_of_ok {nesting : Nat} {s : List Char} {found : Value}
    (h : document nesting s = .ok found) :
    ∃ rest, value nesting (skipSpace s) = .ok (found, rest) ∧ skipSpace rest = [] := by
  unfold document at h
  split at h
  · cases h
  · obtain ⟨⟨value, rest⟩, hvalue, h⟩ := exists_of_bind_eq_ok h
    dsimp only at h
    split at h
    · rename_i hrest
      cases h
      exact ⟨rest, hvalue, hrest⟩
    · cases h

/-- **A document is a value with space around it.**  Without the space it is read as the same
value. -/
theorem exists_spelling_of_read {s : String} {found : Value} (h : read s = .ok found) :
    ∃ front core back, s.toList = front ++ core ++ back ∧ (∀ c ∈ front, isSpace c = true) ∧
      (∀ c ∈ back, isSpace c = true) ∧ Spelling core ∧
      read (String.ofList core) = .ok found := by
  obtain ⟨rest, hvalue, hrest⟩ := document_of_ok (eq_ok_of_mapError_eq_ok h)
  -- blanks, the value as far as it reaches, and blanks again
  obtain ⟨front, hfront, hfrontSpace⟩ := exists_space s.toList
  obtain ⟨core, hcore, hspelling, hother⟩ := delimits_value _ _ _ _ hvalue
  refine ⟨front, core, rest, ?_, hfrontSpace, ?_, hspelling, ?_⟩
  · rw [List.append_assoc, ← hcore]
    exact hfront
  · simpa [skipSpace] using hrest
  · -- the value is read alike with nothing behind it
    have hread := hother [] follows_nil
    rw [List.append_nil] at hread
    rw [Json.read, String.toList_ofList, document, hspelling.skipSpace_self, hread]
    rw [if_neg hspelling.ne_byteOrderMark]
    rfl

end Machining.Json
