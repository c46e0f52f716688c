import Machining.Json.Writer
import Machining.Proofs.Document.Sizes
import Mathlib.Data.List.Perm.Basic
import Mathlib.Order.Nat

/-!
# What a document tells

Whatever the nesting of a document and the order of its entries, it tells the same things: the texts
and the numbers that are found in it.

* `IsJson` says what the documents that JSON has a form for are made of.
* `words` are the keys and the texts at any depth, `numerals` are its numbers as they are written.
* `Reordered` relates documents that differ only in the order of entries at any depth.
* `Reordered.perm_words` and `Reordered.perm_numerals`: such documents tell the same.
* `Reordered.levels_eq` and `Reordered.isLong_eq`: they are as deep, and have as long numbers.
-/

namespace Machining.Json

open Machining.Document

/-- The values that JSON has a form for. -/
inductive IsJson : Value → Prop where
  /-- The empty value. -/
  | null : IsJson .null
  /-- A truth value. -/
  | bool (b : Bool) : IsJson (.bool b)
  /-- A whole number. -/
  | int (n : Int) : IsJson (.int n)
  /-- A floating-point number. -/
  | float (x : Float) : IsJson (.float x)
  /-- A text. -/
  | text (s : String) : IsJson (.text s)
  /-- A list of such values. -/
  | list (items : List Value) (h : ∀ item ∈ items, IsJson item) : IsJson (.list items)
  /-- A mapping of texts to such values. -/
  | mapping (entries : Entries) (hkeys : ∀ entry ∈ entries, ∃ name, entry.1 = .text name)
      (hvalues : ∀ entry ∈ entries, IsJson entry.2) : IsJson (.mapping entries)

theorem isJson_nested {value : Value} (h : IsJson value) (depth : Nat) :
    IsJson (value.nested depth) := by
  induction depth with
  | zero => exact h
  | succ depth ih => exact .list _ (List.forall_mem_singleton.mpr ih)

/-! ## Keys, texts and numbers -/

section Gather

variable (ofKey : Key → List String) (ofLeaf : Value → List String)

mutual

/-- Everything that is taken from the keys and from the leaves of a value, at any depth. -/
def gather : Value → List String
  | .list items => gatherItems items
  | .mapping entries => gatherEntries entries
  | leaf => ofLeaf leaf

/-- What is gathered from the members of a list. -/
def gatherItems : List Value → List String
  | [] => []
  | item :: rest => gather item ++ gatherItems rest

/-- What is gathered from the entries of a mapping. -/
def gatherEntries : List (Key × Value) → List String
  | [] => []
  | (key, value) :: rest => ofKey key ++ gather value ++ gatherEntries rest

end

variable {ofKey : Key → List String} {ofLeaf : Value → List String}

theorem gather_list (items : List Value) :
    gather ofKey ofLeaf (.list items) = items.flatMap (gather ofKey ofLeaf) := by
  rw [gather]
  induction items with
  | nil => rfl
  | cons item rest ih => rw [gatherItems, ih, List.flatMap_cons]

theorem gather_mapping (entries : Entries) :
    gather ofKey ofLeaf (.mapping entries) =
      entries.flatMap fun entry => ofKey entry.1 ++ gather ofKey ofLeaf entry.2 := by
  rw [gather]
  induction entries with
  | nil => rfl
  | cons entry rest ih => rw [gatherEntries, ih, List.flatMap_cons]

end Gather

/-- The text that a key is. -/
def wordOfKey : Key → List String
  | .text s => [s]
  | _ => []

/-- The text that a leaf is. -/
def wordOfLeaf : Value → List String
  | .text s => [s]
  | _ => []

/-- The text of the number that a leaf is. -/
def numeralOfLeaf : Value → List String
  | .int n => [toString n]
  | .float x => [writeFloat x]
  | _ => []

/-- The keys and the texts in a value, at any depth. -/
def words : Value → List String := gather wordOfKey wordOfLeaf

/-- The numbers in a value, at any depth, as they are written. -/
def numerals : Value → List String := gather (fun _ => []) numeralOfLeaf

/-! ## The order of entries -/

/-- Documents that differ in the order of entries at most. -/
inductive Reordered : Value → Value → Prop where
  /-- Nothing is moved. -/
  | refl (value : Value) : Reordered value value
  /-- One change after another. -/
  | trans {a b c : Value} (first : Reordered a b) (second : Reordered b c) : Reordered a c
  /-- The entries of a mapping in another order. -/
  | entries {before after : Entries} (h : before.Perm after) :
      Reordered (.mapping before) (.mapping after)
  /-- A change inside a member of a list. -/
  | item {a b : Value} (before after : List Value) (h : Reordered a b) :
      Reordered (.list (before ++ a :: after)) (.list (before ++ b :: after))
  /-- A change inside a value of a mapping. -/
  | value {a b : Value} (before after : Entries) (key : Key) (h : Reordered a b) :
      Reordered (.mapping (before ++ (key, a) :: after)) (.mapping (before ++ (key, b) :: after))

namespace Reordered

variable {a b : Value}

theorem perm_gather (ofKey : Key → List String) (ofLeaf : Value → List String)
    (h : Reordered a b) : (gather ofKey ofLeaf a).Perm (gather ofKey ofLeaf b) := by
  induction h with
  | refl value => exact .refl _
  | trans _ _ first second => exact first.trans second
  | entries h =>
    rw [gather_mapping, gather_mapping]
    exact h.flatMap_right _
  | item before after _ ih =>
    simp only [gather_list, List.flatMap_append, List.flatMap_cons]
    exact .append_left _ (.append_right _ ih)
  | value before after key _ ih =>
    simp only [gather_mapping, List.flatMap_append, List.flatMap_cons]
    exact .append_left _ (.append_right _ (.append_left _ ih))

theorem perm_words (h : Reordered a b) : (words a).Perm (words b) :=
  h.perm_gather wordOfKey wordOfLeaf

theorem perm_numerals (h : Reordered a b) : (numerals a).Perm (numerals b) :=
  h.perm_gather (fun _ => []) numeralOfLeaf

/-- JSON has a form for a document in any order of its entries. -/
theorem isJson (h : Reordered a b) (ha : IsJson a) : IsJson b := by
  induction h with
  | refl value => exact ha
  | trans _ _ first second => exact second (first ha)
  -- the conditions are on each entry, whatever the order
  | entries h =>
    cases ha with
    | mapping _ hkeys hvalues =>
      apply IsJson.mapping
      · exact fun entry hmem => hkeys entry (h.mem_iff.mpr hmem)
      · exact fun entry hmem => hvalues entry (h.mem_iff.mpr hmem)
  -- one part is exchanged, and its neighbours stay
  | item before after _ ih =>
    cases ha with
    | list _ hitems =>
      apply IsJson.list
      simp only [List.forall_mem_append, List.forall_mem_cons] at hitems ⊢
      exact ⟨hitems.1, ih hitems.2.1, hitems.2.2⟩
  | value before after key _ ih =>
    cases ha with
    | mapping _ hkeys hvalues =>
      simp only [List.forall_mem_append, List.forall_mem_cons] at hkeys hvalues
      apply IsJson.mapping <;> simp only [List.forall_mem_append, List.forall_mem_cons]
      · exact hkeys
      · exact ⟨hvalues.1, ih hvalues.2.1, hvalues.2.2⟩

theorem levels_eq (leaf : Nat) (h : Reordered a b) : a.levels leaf = b.levels leaf := by
  induction h with
  | refl value => rfl
  | trans _ _ first second => exact first.trans second
  | entries h =>
    simp only [Value.levels, Nat.add_right_cancel_iff]
    -- what lies below a bound does not depend on the order
    refine eq_of_forall_ge_iff fun n => ?_
    simp only [Value.entriesLevels_le_iff, h.mem_iff]
  | item before after _ ih =>
    simp only [Value.levels, Nat.add_right_cancel_iff]
    refine eq_of_forall_ge_iff fun n => ?_
    simp only [Value.itemsLevels_le_iff, List.forall_mem_append, List.forall_mem_cons, ih]
  | value before after key _ ih =>
    simp only [Value.levels, Nat.add_right_cancel_iff]
    refine eq_of_forall_ge_iff fun n => ?_
    simp only [Value.entriesLevels_le_iff, List.forall_mem_append, List.forall_mem_cons, ih]

theorem isLong_eq (h : Reordered a b) : a.isLong = b.isLong := by
  induction h with
  | refl value => rfl
  | trans _ _ first second => exact first.trans second
  | entries h => simp only [Value.isLong, Value.anyLongEntry_eq_any, h.any_eq]
  | item before after _ ih =>
    simp only [Value.isLong, Value.anyLong_eq_any, List.any_append, List.any_cons, ih]
  | value before after key _ ih =>
    simp only [Value.isLong, Value.anyLongEntry_eq_any, List.any_append, List.any_cons, ih]

/-- Changes inside members of a list, behind members that stay. -/
theorem list_of_forall₂ (before : List Value) {items others : List Value}
    (h : List.Forall₂ Reordered items others) :
    Reordered (.list (before ++ items)) (.list (before ++ others)) := by
  induction h generalizing before with
  | nil => exact .refl _
  | @cons item other rest others hitem _ ih =>
    apply Reordered.trans (.item before rest hitem)
    simpa using ih (before ++ [other])

/-- Changes inside values of a mapping, behind entries that stay. -/
theorem mapping_of_forall₂ (before : Entries) {entries others : Entries}
    (h : List.Forall₂ (fun a b => a.1 = b.1 ∧ Reordered a.2 b.2) entries others) :
    Reordered (.mapping (before ++ entries)) (.mapping (before ++ others)) := by
  induction h generalizing before with
  | nil => exact .refl _
  | @cons entry other rest others hentry _ ih =>
    obtain ⟨key, value⟩ := entry
    obtain ⟨_, changed⟩ := other
    obtain ⟨rfl, hvalue⟩ := hentry
    apply Reordered.trans (.value before rest key hvalue)
    simpa using ih (before ++ [(key, changed)])

end Reordered

end Machining.Json
