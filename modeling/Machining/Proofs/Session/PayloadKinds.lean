import Machining.Proofs.Json.Occurrences
import Machining.Proofs.Json.Writable
import Machining.Session.Failure

/-!
# What a payload speaks of

A list or a mapping is searched in the form that it is written in, not part by part.  This module
compares the kind that is found with the kind that the contents speak of.

The two differ in one respect.  Neither `"quota"` nor `"JSON"` begins like anything that JSON adds,
so these are found where a key or a text has them.  The digits of `"429"` are found in escapes as
well: a text with the character of code `0429` is taken for one about a quota.

A payload that is nested too deep for the stack, or has a number of too many digits, is not searched
at all: it has no kind.

* `kindOfContents` is the kind that the keys, the texts and the numbers speak of.
* `holds_payloadText_iff`: a word is found in a payload exactly if it is found in a written text or
  in a number of it.
-/

namespace Machining.Session

open Machining.Document Machining.Json Machining.Text

/-! ## The contents of a payload -/

/-- Whether a payload is searched in its written form. -/
def isCompound : Value → Bool
  | .list _ | .mapping _ => true
  | _ => false

/-- Whether a key, a text or a number speaks of a quota. -/
def speaksOfQuota (payload : Value) : Bool :=
  (words payload ++ numerals payload).any fun s => holds s "429" || holds s "quota"

/-- Whether a key or a text speaks of JSON. -/
def speaksOfJson (payload : Value) : Bool := (words payload).any fun s => holds s "JSON"

/-- The kind that the contents of a payload speak of. -/
def kindOfContents (payload : Value) : FailureKind :=
  if speaksOfQuota payload then .quota else if speaksOfJson payload then .parse else .other

/-- Whether a key or a text has the number of a quota once it is written. -/
def writesQuotaCode (payload : Value) : Bool :=
  (words payload).any fun s => holds (writeText s) "429"

/-- A list or a mapping is searched as JSON. -/
private theorem payloadText_eq {payload : Value} (hcompound : isCompound payload = true)
    {room : Nat} : payloadText room payload = writeStrict payload room := by
  cases payload with
  | list | mapping => rfl
  | _ => cases hcompound

/-! ## Searching the written form -/

section Search

variable {payload : Value} {room : Nat} {text : String}

/-- A word is found in a payload exactly if it is found in one of its texts, as they are written,
or in one of its numbers. -/
theorem holds_payloadText_iff {needle : String} (hword : IsWord needle.toList)
    (hjson : IsJson payload) (hcompound : isCompound payload = true)
    (htext : payloadText room payload = .ok text) :
    holds text needle = true ↔
      (∃ s ∈ words payload, holds (writeText s) needle = true) ∨
        ∃ s ∈ numerals payload, holds s needle = true := by
  rw [payloadText_eq hcompound] at htext
  obtain ⟨hlevels, hlong⟩ := fits_of_writeStrict hjson htext
  -- writing moves entries only, so the texts and the numbers are those of the payload
  obtain ⟨moved, hmoved, hwritten⟩ := exists_writeStrict_of_fits hjson hlevels hlong
  obtain rfl : write moved = text := Except.ok.inj (hwritten.symm.trans htext)
  simp only [holds_iff, infix_write_iff hword (hmoved.isJson hjson), hmoved.perm_words.mem_iff,
    hmoved.perm_numerals.mem_iff]

private theorem isWord_code : IsWord "429".toList :=
  .of_check (by decide) (by decide) (by decide)

private theorem isWord_quota : IsWord "quota".toList :=
  .of_check (by decide) (by decide) (by decide)

private theorem isWord_json : IsWord "JSON".toList :=
  .of_check (by decide) (by decide) (by decide)

/-- No escape has the first letter of `"quota"`. -/
private theorem holds_writeText_quota (s : String) :
    holds (writeText s) "quota" = true ↔ holds s "quota" = true := by
  rw [holds_iff, holds_iff]
  exact infix_writeText_iff isWord_quota (by decide) (.inl (by decide))

/-- No escape has the first letter of `"JSON"`. -/
private theorem holds_writeText_json (s : String) :
    holds (writeText s) "JSON" = true ↔ holds s "JSON" = true := by
  rw [holds_iff, holds_iff]
  exact infix_writeText_iff isWord_json (by decide) (.inl (by decide))

/-- The escapes without a code have no digits. -/
private theorem holds_writeText_code {s : String} (h : ∀ c ∈ s.toList, ¬ IsCoded c) :
    holds (writeText s) "429" = true ↔ holds s "429" = true := by
  rw [holds_iff, holds_iff]
  exact infix_writeText_iff isWord_code (by decide) (.inr h)

/-- What speaks of a quota in a payload that is searched: its contents, or the code of an escape. -/
private theorem quota_of_payloadText (hjson : IsJson payload)
    (hcompound : isCompound payload = true) (htext : payloadText room payload = .ok text) :
    (holds text "429" || holds text "quota") =
      (writesQuotaCode payload || speaksOfQuota payload) := by
  -- escaping a text takes no digits away from it
  have hkept (s : String) (h : holds s "429" = true) : holds (writeText s) "429" = true :=
    holds_iff.mpr (infix_writeText isWord_code.plain (holds_iff.mp h))
  rw [Bool.eq_iff_iff, Bool.or_eq_true, Bool.or_eq_true,
    holds_payloadText_iff isWord_code hjson hcompound htext,
    holds_payloadText_iff isWord_quota hjson hcompound htext]
  simp only [holds_writeText_quota, writesQuotaCode, speaksOfQuota, List.any_append,
    List.any_eq_true, Bool.or_eq_true]
  -- a code may stand in a numeral or a text, the word in a text only
  constructor
  · rintro ((⟨s, hs, hcode⟩ | ⟨s, hs, hcode⟩) | ⟨s, hs, hquota⟩ | ⟨s, hs, hquota⟩)
    · exact .inl ⟨s, hs, hcode⟩
    · exact .inr (.inr ⟨s, hs, .inl hcode⟩)
    · exact .inr (.inl ⟨s, hs, .inr hquota⟩)
    · exact .inr (.inr ⟨s, hs, .inr hquota⟩)
  · rintro (⟨s, hs, hcode⟩ | ⟨s, hs, hcode | hquota⟩ | ⟨s, hs, hcode | hquota⟩)
    · exact .inl (.inl ⟨s, hs, hcode⟩)
    · exact .inl (.inl ⟨s, hs, hkept s hcode⟩)
    · exact .inr (.inl ⟨s, hs, hquota⟩)
    · exact .inl (.inr ⟨s, hs, hcode⟩)
    · exact .inr (.inr ⟨s, hs, hquota⟩)

/-- Only keys and texts speak of JSON: numbers have no such letters. -/
private theorem json_of_payloadText (hjson : IsJson payload)
    (hcompound : isCompound payload = true) (htext : payloadText room payload = .ok text) :
    holds text "JSON" = speaksOfJson payload := by
  have hforeign : Numeric.IsForeign 'J' := ⟨by decide, by decide⟩
  rw [Bool.eq_iff_iff, holds_payloadText_iff isWord_json hjson hcompound htext]
  simp only [holds_writeText_json, speaksOfJson, List.any_eq_true]
  constructor
  · rintro (htext | ⟨s, hs, hnumber⟩)
    · exact htext
    · have hletter : 'J' ∈ s.toList := (holds_iff.mp hnumber).subset (by decide)
      exact absurd hletter (notMem_of_mem_numerals hforeign hjson hs)
  · exact .inl

private theorem kindOfPayload_eq (hjson : IsJson payload) (hcompound : isCompound payload = true)
    (hlevels : payload.levels 0 ≤ room) (hlong : payload.isLong = false) :
    kindOfPayload room payload =
      .ok (if writesQuotaCode payload then .quota else kindOfContents payload) := by
  obtain ⟨moved, -, hwritten⟩ := exists_writeStrict_of_fits hjson hlevels hlong
  rw [← payloadText_eq hcompound] at hwritten
  rw [kindOfPayload, hwritten]
  refine congrArg Except.ok ?_
  rw [kindOfText, quota_of_payloadText hjson hcompound hwritten,
    json_of_payloadText hjson hcompound hwritten, kindOfContents]
  cases writesQuotaCode payload <;> simp

/-- Where a payload cannot be written, it is not searched. -/
private theorem exists_oversize (hjson : IsJson payload) (hcompound : isCompound payload = true)
    (h : room < payload.levels 0 ∨ payload.isLong = true) :
    ∃ error, kindOfPayload room payload = .error error ∧ Oversize room payload error := by
  rw [kindOfPayload, payloadText_eq hcompound]
  cases hwritten : writeStrict payload room with
  | error error => exact ⟨error, rfl, oversize_of_writeStrict hjson hwritten⟩
  | ok text =>
    obtain ⟨hlevels, hlong⟩ := fits_of_writeStrict hjson hwritten
    rcases h with hdeep | hlong'
    · exact absurd hlevels (Nat.not_le.mpr hdeep)
    · simp [hlong] at hlong'

/-- Where no character is written by its code, an escape adds no digits to what is said. -/
private theorem speaksOfQuota_of_writesQuotaCode
    (hplain : ∀ s ∈ words payload, ∀ c ∈ s.toList, ¬ IsCoded c)
    (h : writesQuotaCode payload = true) : speaksOfQuota payload = true := by
  obtain ⟨s, hs, hcode⟩ := List.any_eq_true.mp h
  refine List.any_eq_true.mpr ⟨s, List.mem_append_left _ hs, ?_⟩
  rw [(holds_writeText_code (hplain s hs)).mp hcode, Bool.true_or]

end Search

/-! ## Kinds -/

private theorem isCompound_of_reordered {payload other : Value} (h : Reordered payload other) :
    isCompound other = isCompound payload := by
  induction h with
  | refl => rfl
  | trans _ _ first second => exact second.trans first
  | entries | item | value => rfl

/-- The contents are the same in any order, and nothing else decides. -/
private theorem kindOfPayload_of_reordered {payload other : Value} (hjson : IsJson payload)
    (hcompound : isCompound payload = true) (h : Reordered payload other) (room : Nat) :
    (kindOfPayload room other).toOption = (kindOfPayload room payload).toOption := by
  have hjson' : IsJson other := h.isJson hjson
  have hcompound' : isCompound other = true := (isCompound_of_reordered h).trans hcompound
  -- the words and the numerals are the same, in another order
  have hwords (p : String → Bool) : (words other).any p = (words payload).any p :=
    h.perm_words.symm.any_eq
  have hnumerals (p : String → Bool) : (numerals other).any p = (numerals payload).any p :=
    h.perm_numerals.symm.any_eq
  have hcode : writesQuotaCode other = writesQuotaCode payload := hwords _
  have hjsonWord : speaksOfJson other = speaksOfJson payload := hwords _
  have hquota : speaksOfQuota other = speaksOfQuota payload := by
    simp only [speaksOfQuota, List.any_append, hwords, hnumerals]
  by_cases hfits : payload.levels 0 ≤ room ∧ payload.isLong = false
  · obtain ⟨hlevels, hlong⟩ := hfits
    rw [kindOfPayload_eq hjson hcompound hlevels hlong,
      kindOfPayload_eq hjson' hcompound' (h.levels_eq 0 ▸ hlevels) (h.isLong_eq ▸ hlong), hcode,
      kindOfContents, kindOfContents, hquota, hjsonWord]
  · -- both are refused, perhaps for different reasons
    have hlarge : room < payload.levels 0 ∨ payload.isLong = true := by
      rw [not_and_or, Nat.not_le, Bool.not_eq_false] at hfits
      exact hfits
    obtain ⟨_, herror, -⟩ := exists_oversize hjson hcompound hlarge
    rw [h.levels_eq 0, h.isLong_eq] at hlarge
    obtain ⟨_, herror', -⟩ := exists_oversize hjson' hcompound' hlarge
    rw [herror, herror']
    rfl

/-- Where a list or a mapping can be written, it has the kind that its keys, texts and numbers speak
of, whatever the depth they are found at, unless a character of a key or a text is written by a
code.  In general it counts as used up also where such a code, alone or with the characters beside
it, makes the number of a quota.  Where it is nested deeper than there is room on the stack, or has
a number of too many digits, no kind can be told.  The order of entries plays no part. -/
theorem payload_has_the_kind_of_its_contents {payload : Value} (hjson : IsJson payload)
    (hcompound : isCompound payload = true) (room : Nat) :
    (payload.levels 0 ≤ room → payload.isLong = false →
        ((∀ s ∈ words payload, ∀ c ∈ s.toList, ¬ IsCoded c) →
            kindOfPayload room payload = .ok (kindOfContents payload)) ∧
          kindOfPayload room payload =
            .ok (if writesQuotaCode payload then .quota else kindOfContents payload)) ∧
      (room < payload.levels 0 ∨ payload.isLong = true →
        ∃ error, kindOfPayload room payload = .error error ∧ Oversize room payload error) ∧
      ∀ other, Reordered payload other →
        (kindOfPayload room other).toOption = (kindOfPayload room payload).toOption := by
  refine ⟨fun hlevels hlong => ?_, exists_oversize hjson hcompound,
    fun other hother => kindOfPayload_of_reordered hjson hcompound hother room⟩
  have hkind := kindOfPayload_eq hjson hcompound hlevels hlong
  refine ⟨fun hplain => ?_, hkind⟩
  rw [hkind]
  split
  · rename_i hcode
    rw [kindOfContents, speaksOfQuota_of_writesQuotaCode hplain hcode, if_pos rfl]
  · rfl

theorem payload_has_the_kind_of_its_contents_of_code :
    IsJson (.list [.mapping [(.text "code", .int 429)]]) ∧
      kindOfPayload stackRoom (.list [.mapping [(.text "code", .int 429)]]) = .ok .quota := by
  have hjson : IsJson (.list [.mapping [(.text "code", .int 429)]]) := by
    apply IsJson.list
    rw [List.forall_mem_singleton]
    apply IsJson.mapping <;> rw [List.forall_mem_singleton]
    · exact ⟨"code", rfl⟩
    · exact .int 429
  refine ⟨hjson, ?_⟩
  -- no word of the payload has a character that is written as a code
  have hplain : ((words (.list [.mapping [(.text "code", .int 429)]])).all fun s =>
      s.toList.all fun c => !decide (IsCoded c)) = true := by decide
  simp only [List.all_eq_true, Bool.not_eq_true', decide_eq_false_iff_not] at hplain
  obtain ⟨hfits, -⟩ := payload_has_the_kind_of_its_contents hjson rfl stackRoom
  rw [(hfits (by decide) (by decide +kernel)).1 hplain]
  decide

/-- A message of one character, which has nothing to do with a quota. -/
def messageOfOneLetter : Value := .mapping [(.text "message", .text "\u0429")]

/-- The letter is written by its code, and the code has the number of a quota. -/
theorem letter_is_taken_for_a_quota :
    kindOfPayload stackRoom messageOfOneLetter = .ok .quota ∧
      kindOfContents messageOfOneLetter = .other := by
  have hjson : IsJson messageOfOneLetter := by
    apply IsJson.mapping <;> rw [List.forall_mem_singleton]
    · exact ⟨"message", rfl⟩
    · exact .text _
  constructor
  · rw [kindOfPayload_eq hjson rfl (by decide) (by decide)]
    decide
  · decide

end Machining.Session
