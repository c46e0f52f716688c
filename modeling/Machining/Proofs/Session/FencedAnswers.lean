import Machining.Proofs.Json.Extent
import Machining.Proofs.Session.UnusableAnswers

/-!
# Answers in a code fence

The analyzer may put its answer into a code fence, with or without the word for what is in it, and
blanks may stand around the fence and inside it.  None of that makes a difference, whatever stands
in the answer: its strings may hold fences themselves.

* `Bare` says of a text that it cannot be taken for what is around it.  A JSON value is bare.
* `unfence_of_bare` and `unfence_fenced`: a bare text is taken for itself, and it is what is found
  in a fence around it.
* `Analysis.fence_makes_no_difference`: a JSON text is read just the same in a fence.
-/

namespace Machining.Session

open Machining.Json Machining.Text

/-! ## Blanks -/

section Blanks

variable {blanks : List Char}

theorem trimLeft_blanks (h : ∀ c ∈ blanks, isBlank c = true) {c : Char} (hc : isBlank c = false)
    (rest : List Char) : trimLeft (blanks ++ c :: rest) = c :: rest := by
  rw [trimLeft, List.dropWhile_append_of_pos h, List.dropWhile_cons_of_neg (by simp [hc])]

theorem trimRight_blanks (h : ∀ c ∈ blanks, isBlank c = true) {c : Char} (hc : isBlank c = false)
    (front : List Char) : trimRight (front ++ [c] ++ blanks) = front ++ [c] := by
  have hreverse : ∀ d ∈ blanks.reverse, isBlank d = true := fun d hd => h d (List.mem_reverse.mp hd)
  have htrim := trimLeft_blanks hreverse hc front.reverse
  rw [trimLeft] at htrim
  simp [trimRight, htrim]

theorem isBlank_of_isSpace {c : Char} (h : isSpace c = true) : isBlank c = true := by
  simp only [isSpace, Bool.or_eq_true, beq_iff_eq] at h
  obtain ((rfl | rfl) | rfl) | rfl := h <;> decide

end Blanks

/-! ## Bare texts -/

/-- A text that cannot be taken for what is around it. -/
structure Bare (core : List Char) : Prop where
  /-- It begins neither with a blank nor like a fence nor like the word behind a fence. -/
  opens : ∃ c rest, core = c :: rest ∧ isBlank c = false ∧ c ∉ fence ∧ c ≠ 'j'
  /-- It does not end with a blank. -/
  closes : ∃ front c, core = front ++ [c] ∧ isBlank c = false

/-- A JSON value is bare. -/
theorem bare_of_spelling {core : List Char} (h : Spelling core) : Bare core where
  opens := by
    obtain ⟨c, rest, hcore, hc⟩ := h.opens
    refine ⟨c, rest, hcore, ?_⟩
    -- a value begins with a digit or with one of the marks, of which each is tried
    rcases Bool.or_eq_true_iff.mp hc with hdigit | hmark
    · have hfence : (fence.all fun mark => !mark.isDigit) = true := by decide
      refine ⟨isBlank_of_isDigit hdigit, fun hmem => ?_, ne_of_isDigit hdigit (by decide)⟩
      have hnot := List.all_eq_true.mp hfence c hmem
      rw [hdigit] at hnot
      contradiction
    · have hmarks : (['"', '[', '{', 'n', 't', 'f', 'N', 'I', '-'].all fun mark =>
          !isBlank mark && !fence.contains mark && mark != 'j') = true := by decide
      have hc := List.all_eq_true.mp hmarks c (List.contains_iff_mem.mp hmark)
      simpa [and_assoc] using hc
  closes := by
    obtain ⟨front, c, hcore, hc⟩ := h.closes
    refine ⟨front, c, hcore, ?_⟩
    rcases Bool.or_eq_true_iff.mp hc with hdigit | hmark
    · exact isBlank_of_isDigit hdigit
    · have hmarks : (['"', ']', '}', 'l', 'e', 'N', 'y'].all fun mark => !isBlank mark) = true := by
        decide
      simpa using List.all_eq_true.mp hmarks c (List.contains_iff_mem.mp hmark)

/-! ## Fences -/

/-- A text that is bare, but for blanks around it, is taken for itself. -/
theorem unfence_of_bare {core before : List Char} (hcore : Bare core)
    (hbefore : ∀ c ∈ before, isBlank c = true) (after : List Char) :
    unfence (before ++ core ++ after) = before ++ core ++ after := by
  obtain ⟨c, rest, rfl, hc, hfence, -⟩ := hcore.opens
  have hbody : trimLeft (before ++ c :: rest ++ after) = c :: (rest ++ after) := by
    rw [List.append_assoc]
    exact trimLeft_blanks hbefore hc (rest ++ after)
  exact unfence_eq_self (by rw [hbody, isPrefixOf_fence hfence])

/-- The words that may stand behind the mark that opens a code fence. -/
def tags : List (List Char) := [[], "json".toList]

/-- The word is dropped where it is, and nothing else is. -/
theorem dropWord_tag {tag : List Char} (htag : tag ∈ tags) {inside : List Char}
    (hinside : inside.head? ≠ some 'j') : dropWord "json".toList (tag ++ inside) = inside := by
  simp only [tags, List.mem_cons, List.not_mem_nil, or_false] at htag
  obtain rfl | rfl := htag
  · have hno : ¬"json".toList.isPrefixOf inside = true := by
      intro hbegin
      obtain ⟨rest, rfl⟩ := List.isPrefixOf_iff_prefix.mp hbegin
      exact hinside rfl
    exact if_neg hno
  · have hyes : "json".toList.isPrefixOf ("json".toList ++ inside) = true :=
      List.isPrefixOf_iff_prefix.mpr (List.prefix_append _ _)
    rw [dropWord, if_pos hyes, List.drop_left]

theorem unfence_eq {s rest inside : List Char} (hopen : trimLeft s = fence ++ rest)
    (hclose : trimChars (dropWord "json".toList rest) = inside ++ fence) :
    unfence s = trimRight inside := by
  have hbegin : fence.isPrefixOf (fence ++ rest) = true :=
    List.isPrefixOf_iff_prefix.mpr (List.prefix_append _ _)
  have hend : fence.isSuffixOf (inside ++ fence) = true :=
    List.isSuffixOf_iff_suffix.mpr (List.suffix_append _ _)
  have hcount : (inside ++ fence).length - fence.length = inside.length := by simp
  rw [unfence, hopen]
  simp only [hbegin, if_true, List.drop_left, hclose, hend, hcount, List.take_left]

theorem fence_eq : fence = ['`', '`', '`'] := rfl

/-- A bare text is what is found in a fence around it. -/
theorem unfence_fenced {core : List Char} (hcore : Bare core) {tag : List Char} (htag : tag ∈ tags)
    {before front back after : List Char} (hbefore : ∀ c ∈ before, isBlank c = true)
    (hfront : ∀ c ∈ front, isBlank c = true) (hback : ∀ c ∈ back, isBlank c = true)
    (hafter : ∀ c ∈ after, isBlank c = true) :
    unfence (before ++ (fence ++ (tag ++ (front ++ core ++ back ++ fence ++ after)))) = core := by
  obtain ⟨c, rest, hfirst, hc, -, hword⟩ := hcore.opens
  obtain ⟨start, last, hlast, hend⟩ := hcore.closes
  -- the fence is the first thing that is no blank
  have hopen : trimLeft (before ++ (fence ++ (tag ++ (front ++ core ++ back ++ fence ++ after)))) =
      fence ++ (tag ++ (front ++ core ++ back ++ fence ++ after)) := by
    rw [fence_eq]
    exact trimLeft_blanks hbefore (by decide) _
  have hinside : (front ++ core ++ back ++ fence ++ after).head? ≠ some 'j' := by
    cases front with
    | nil => simpa [hfirst] using hword
    | cons d more =>
      have hd : isBlank d = true := hfront d List.mem_cons_self
      rintro heq
      cases heq
      exact absurd hd (by decide)
  have hclose : trimChars (dropWord "json".toList
      (tag ++ (front ++ core ++ back ++ fence ++ after))) = core ++ back ++ fence := by
    rw [dropWord_tag htag hinside, trimChars]
    have hleft :
        trimLeft (front ++ core ++ back ++ fence ++ after) = core ++ back ++ fence ++ after := by
      rw [hfirst]
      simpa using trimLeft_blanks hfront hc (rest ++ back ++ fence ++ after)
    have hright := trimRight_blanks hafter (by decide : isBlank '`' = false)
      (core ++ back ++ ['`', '`'])
    rw [hleft, fence_eq]
    simpa using hright
  rw [unfence_eq hopen hclose, hlast]
  exact trimRight_blanks hback hend start

/-! ## Answers -/

/-- A text of nothing but blanks. -/
def IsBlanks (w : String) : Prop := ∀ c ∈ w.toList, isBlank c = true

instance (w : String) : Decidable (IsBlanks w) :=
  decidable_of_iff (w.toList.all isBlank = true) List.all_eq_true

namespace Analysis

/-- A JSON text is the value in it and blanks around that. -/
theorem exists_bare_of_read {t : String} {found : Document.Value} (ht : Json.read t = .ok found) :
    ∃ before core after, t.toList = before ++ core ++ after ∧ (∀ c ∈ before, isBlank c = true) ∧
      (∀ c ∈ after, isBlank c = true) ∧ Bare core ∧ Json.read (String.ofList core) = .ok found := by
  obtain ⟨before, core, after, htext, hbefore, hafter, hspelling, hread⟩ :=
    exists_spelling_of_read ht
  exact ⟨before, core, after, htext, fun c hc => isBlank_of_isSpace (hbefore c hc),
    fun c hc => isBlank_of_isSpace (hafter c hc), bare_of_spelling hspelling, hread⟩

theorem ofText_of_unfence {s : String} {inside : List Char} {found : Document.Value}
    (hinside : unfence s.toList = inside) (hread : Json.read (String.ofList inside) = .ok found) :
    ofText s = ofValue found := by
  rw [ofText, hinside, hread]

/-- **A code fence makes no difference.**  Whatever JSON the answer is, and whatever stands in its
strings: in a fence, with or without the word for JSON behind its opening mark and with any blanks
around it and inside it, it is read as the document that it is without one. -/
theorem fence_makes_no_difference {t : String} {found : Document.Value}
    (ht : Json.read t = .ok found) {before front back after : String} (hbefore : IsBlanks before)
    (hfront : IsBlanks front) (hback : IsBlanks back) (hafter : IsBlanks after) :
    read (.text t) = ofValue found ∧
      read (.text (before ++ "```json" ++ front ++ t ++ back ++ "```" ++ after)) =
        read (.text t) ∧
      read (.text (before ++ "```" ++ front ++ t ++ back ++ "```" ++ after)) = read (.text t) := by
  obtain ⟨lead, core, trail, htext, hlead, htrail, hbare, hread⟩ := exists_bare_of_read ht
  have hplain : read (.text t) = ofValue found := by
    have hself : unfence t.toList = t.toList := by
      rw [htext]
      exact unfence_of_bare hbare hlead trail
    rw [read, ofText_of_unfence hself]
    rwa [String.ofList_toList]
  -- the blanks of the text itself are blanks inside the fence
  have hinFront : ∀ c ∈ front.toList ++ lead, isBlank c = true := fun c hc =>
    (List.mem_append.mp hc).elim (hfront c) (hlead c)
  have hbehind : ∀ c ∈ trail ++ back.toList, isBlank c = true := fun c hc =>
    (List.mem_append.mp hc).elim (htrail c) (hback c)
  have hfenced : ∀ tag ∈ tags, ∀ s : String, s.toList = before.toList ++ (fence ++ (tag ++
      (front.toList ++ lead ++ core ++ (trail ++ back.toList) ++ fence ++ after.toList))) →
      read (.text s) = read (.text t) := by
    intro tag htag s hs
    have hcore := unfence_fenced hbare htag hbefore hinFront hbehind hafter
    rw [← hs] at hcore
    rw [hplain, read, ofText_of_unfence hcore hread]
  refine ⟨hplain, hfenced "json".toList (by decide) _ ?_, hfenced [] (by decide) _ ?_⟩
  · simp [htext, fence]
  · simp [htext, fence]

/-! ## A sample answer -/

/-- An answer that quotes a fenced answer in its explanation. -/
def quotingAnswer : String :=
  "\n\x7b\"operation\": \x7b\"type\": \"DRILL\", \"z_depth\": -10, \"feed_rate\": 200, " ++
  "\"spindle_speed\": 3000, \"tool_diameter\": 6, \"tool_type\": \"DRILL\", " ++
  "\"diameter\": 6\x7d, \"stock\": \x7b\"height\": 20\x7d, \"explanation\": \"```json\\n[]\\n```\"\x7d\t"

/-- What the answer explains. -/
def quotation : String := "```json\n[]\n```"

/-- The answer is a result, and it is the same one in a fence: the fence in its explanation is not
taken for the one around it. -/
theorem fence_makes_no_difference_of_quotation :
    ∃ result, result.explanation = quotation ∧ read (.text quotingAnswer) = .ok result ∧
      read (.text ("" ++ "```json" ++ "\u00a0" ++ quotingAnswer ++ "\n" ++ "```" ++ "\n ")) =
        .ok result ∧
      read (.text ("" ++ "```" ++ "\u00a0" ++ quotingAnswer ++ "\n" ++ "```" ++ "\n ")) =
        .ok result := by
  have hsample : ((Json.read quotingAnswer).toOption.any fun found =>
      (ofValue found).toOption.any fun result => result.explanation == quotation) = true := by
    decide +kernel
  obtain ⟨found, hread, hfound⟩ := exists_of_any_eq_true hsample
  obtain ⟨result, hresult, hexplanation⟩ := exists_of_any_eq_true hfound
  obtain ⟨hplain, htagged, huntagged⟩ := @fence_makes_no_difference quotingAnswer found hread
    "" "\u00a0" "\n" "\n " (by decide) (by decide) (by decide) (by decide)
  rw [hplain, hresult] at htagged huntagged
  exact ⟨result, beq_iff_eq.mp hexplanation, hplain.trans hresult, htagged, huntagged⟩

end Analysis

end Machining.Session
