import Machining.Json.Strict
import Machining.Proofs.Json.Contents
import Machining.Proofs.Result

/-!
# Which JSON documents can be written

Strict writing refuses some values: keys that have no order, keys or members that JSON has no form
for, values inside themselves, whole numbers of too many digits, and values that are nested too
deep.  Only the last two are met in values that JSON has a form for.

* `exists_writeStrict_of_fits`: what is neither too deep nor too long is written, after moving
  entries at most.
* `oversize_of_writeStrict`: what is refused is too deep or too long.
* `exists_writeStrict_iff` puts the two together.
-/

namespace Machining.Json

open Machining.Document Machining.Numeric

/-! ## Sorting by texts -/

section Sorting

variable {α : Type} {entries : List (Key × α)}

/-- Entries whose keys are texts. -/
def AreNamed (entries : List (Key × α)) : Prop := ∀ entry ∈ entries, ∃ name, entry.1 = .text name

theorem AreNamed.of_perm {others : List (Key × α)} (h : AreNamed entries)
    (hperm : others.Perm entries) : AreNamed others :=
  fun entry hmem => h entry (hperm.mem_iff.mp hmem)

/-- Two texts always have an order. -/
private theorem exists_before {a b : Key} (ha : ∃ name, a = .text name)
    (hb : ∃ name, b = .text name) : ∃ first, a.before b = .ok first := by
  obtain ⟨s, rfl⟩ := ha
  obtain ⟨t, rfl⟩ := hb
  exact ⟨_, rfl⟩

/-- The run in front is found, and no entry is lost. -/
private theorem exists_splitRun (falls : Bool) {last : Key × α}
    (hlast : ∃ name, last.1 = .text name) (found : List (Key × α)) (hentries : AreNamed entries) :
    ∃ run others, splitRun falls last found entries = .ok (run, others) ∧
      (run ++ others).Perm (last :: found ++ entries) := by
  -- along the entries: texts can be compared, so the search ends only where the run does
  induction entries generalizing last found with
  | nil => exact ⟨_, [], rfl, .refl _⟩
  | cons next rest ih =>
    obtain ⟨hnext, hrest⟩ := List.forall_mem_cons.mp hentries
    obtain ⟨first, hfirst⟩ := exists_before hnext hlast
    by_cases hfalls : first = falls
    · obtain ⟨run, others, hsplit, hperm⟩ := ih hnext (last :: found) hrest
      refine ⟨run, others, ?_, hperm.trans List.perm_middle.symm⟩
      simp [splitRun, hfirst, hfalls, bind, Except.bind, hsplit]
    · refine ⟨last :: found, next :: rest, ?_, .refl _⟩
      simp [splitRun, hfirst, hfalls, bind, Except.bind, pure, Except.pure]

private theorem exists_placeOf {key : Key} (hkey : ∃ name, key = .text name)
    (hentries : AreNamed entries) (low high : Nat) :
    ∃ position, placeOf key entries low high = .ok position := by
  fun_induction placeOf key entries low high with
  | case1 low high hlt middle hnone => exact ⟨low, rfl⟩
  | case2 low high hlt middle other value hsome ihlow ihhigh =>
    obtain ⟨first, hfirst⟩ := exists_before hkey (hentries _ (List.mem_of_getElem? hsome))
    simp only [hfirst, bind, Except.bind]
    cases first with
    | true => exact ihlow
    | false => exact ihhigh
  | case3 low high hge => exact ⟨low, rfl⟩

private theorem exists_insertSorted (hentries : AreNamed entries) {added : Key × α}
    (hadded : ∃ name, added.1 = .text name) :
    ∃ larger, insertSorted entries added = .ok larger ∧ larger.Perm (added :: entries) := by
  obtain ⟨position, hposition⟩ := exists_placeOf hadded hentries 0 entries.length
  refine ⟨entries.take position ++ added :: entries.drop position, ?_, ?_⟩
  · simp [insertSorted, hposition, bind, Except.bind, pure, Except.pure]
  · exact List.perm_middle.trans (.cons _ (.of_eq (List.take_append_drop position entries)))

private theorem exists_insertAll {others : List (Key × α)} (hothers : AreNamed others)
    (hentries : AreNamed entries) :
    ∃ larger, others.foldlM insertSorted entries = .ok larger ∧
      larger.Perm (entries ++ others) := by
  induction others generalizing entries with
  | nil => exact ⟨entries, rfl, by simp⟩
  | cons next rest ih =>
    obtain ⟨hnext, hrest⟩ := List.forall_mem_cons.mp hothers
    obtain ⟨larger, hlarger, hperm⟩ := exists_insertSorted hentries hnext
    have hnamed : AreNamed larger :=
      AreNamed.of_perm (List.forall_mem_cons.mpr ⟨hnext, hentries⟩) hperm
    obtain ⟨all, hall, hperm'⟩ := ih hrest hnamed
    refine ⟨all, by simp [List.foldlM_cons, hlarger, bind, Except.bind, hall], ?_⟩
    calc
      List.Perm all (larger ++ rest) := hperm'
      List.Perm _ (next :: entries ++ rest) := hperm.append_right rest
      List.Perm _ (entries ++ next :: rest) := List.perm_middle.symm

/-- Entries with texts as keys can be sorted, and none is lost. -/
theorem exists_sortedByKey (hentries : AreNamed entries) :
    ∃ sorted, sortedByKey entries = .ok sorted ∧ sorted.Perm entries := by
  match entries, hentries with
  | [], _ => exact ⟨[], rfl, .refl _⟩
  | [one], _ => exact ⟨[one], rfl, .refl _⟩
  | first :: second :: rest, hentries =>
    obtain ⟨hfirst, hothers⟩ := List.forall_mem_cons.mp hentries
    obtain ⟨hsecond, hrest⟩ := List.forall_mem_cons.mp hothers
    -- two entries at least: they tell whether the first run falls
    obtain ⟨falls, hfalls⟩ := exists_before hsecond hfirst
    obtain ⟨run, others, hsplit, hperm⟩ := exists_splitRun falls hsecond [first] hrest
    -- whichever way the run is turned, it has the same entries
    have hfront : (if falls then run else run.reverse).Perm run := by
      cases falls with
      | true => exact .refl _
      | false => exact run.reverse_perm
    have hall := (hfront.append_right others).trans (hperm.trans (.swap first second rest))
    -- so the names of all keys are there to compare when the others go in
    have hnamed : AreNamed ((if falls then run else run.reverse) ++ others) :=
      hentries.of_perm hall
    obtain ⟨hleft, hright⟩ := List.forall_mem_append.mp hnamed
    obtain ⟨sorted, hsorted, hperm'⟩ := exists_insertAll hright hleft
    refine ⟨sorted, ?_, hperm'.trans hall⟩
    simp [sortedByKey, hfalls, hsplit, bind, Except.bind, hsorted]

end Sorting

/-! ## Lists and mappings -/

/-- An entry as it is written. -/
def entryText (key : Key) (text : String) : String :=
  writeText ((keyText? key).getD "") ++ ": " ++ text

private theorem strictItems_eq_mapM (items : List Value) (room : Nat) :
    strictItems items room = items.mapM fun item => writeStrict item room := by
  induction items with
  | nil => rfl
  | cons item rest ih => rw [strictItems, ih, List.mapM_cons]

private theorem strictEntries_eq_map {entries : Entries} (h : AreNamed entries) (room : Nat) :
    strictEntries entries room = entries.map fun entry =>
      (entry.1, (writeStrict entry.2 room).map (entryText entry.1)) := by
  induction entries with
  | nil => rfl
  | cons entry rest ih =>
    obtain ⟨key, value⟩ := entry
    obtain ⟨⟨name, rfl⟩, hrest⟩ := List.forall_mem_cons.mp h
    rw [strictEntries, ih hrest, List.map_cons]
    cases writeStrict value room <;> rfl

/-- The entries of a mapping are sorted first, and then written one after another. -/
private theorem exists_entries_of_writeStrict {entries : Entries} (hnamed : AreNamed entries)
    (room : Nat) : ∃ moved : Entries, moved.Perm entries ∧
      writeStrict (.mapping entries) (room + 1) =
        (moved.mapM fun entry => (writeStrict entry.2 room).map (entryText entry.1)).map
          (enclose "\x7b" "\x7d") := by
  have hnamed' : AreNamed (strictEntries entries room) := by
    rw [strictEntries_eq_map hnamed]
    exact List.forall_mem_map.mpr hnamed
  obtain ⟨sorted, hsorted, hperm⟩ := exists_sortedByKey hnamed'
  rw [strictEntries_eq_map hnamed] at hperm
  obtain ⟨moved, rfl, hmoved⟩ := exists_map_of_perm_map hperm
  refine ⟨moved, hmoved, ?_⟩
  rw [writeStrict, hsorted]
  change (moved.map _).mapM (fun part : Key × Except StrictError String => part.2) >>= _ = _
  rw [List.mapM_map]
  exact (map_eq_pure_bind _ _).symm

/-- A list is neither too deep nor too long if no item is, where there is one level less. -/
private theorem fits_list_iff {items : List Value} {room : Nat} :
    (Value.list items).levels 0 ≤ room + 1 ∧ (Value.list items).isLong = false ↔
      ∀ item ∈ items, item.levels 0 ≤ room ∧ item.isLong = false := by
  rw [Value.levels, Nat.add_le_add_iff_right, Value.itemsLevels_le_iff, Value.isLong,
    Value.anyLong_eq_any, List.any_eq_false, ← forall₂_and]
  simp only [Bool.not_eq_true]

/-- A mapping is neither too deep nor too long if no value in it is, as texts are no long keys. -/
private theorem fits_mapping_iff {entries : Entries} {room : Nat} (hnamed : AreNamed entries) :
    (Value.mapping entries).levels 0 ≤ room + 1 ∧ (Value.mapping entries).isLong = false ↔
      ∀ entry ∈ entries, entry.2.levels 0 ≤ room ∧ entry.2.isLong = false := by
  rw [Value.levels, Nat.add_le_add_iff_right, Value.entriesLevels_le_iff, Value.isLong,
    Value.anyLongEntry_eq_any, List.any_eq_false, ← forall₂_and]
  refine forall₂_congr fun entry hmem => ?_
  obtain ⟨name, hname⟩ := hnamed entry hmem
  simp [hname, Key.isLong]

/-! ## What is written -/

/-- How a value is written that fits: as it is, after moving entries at most. -/
def Writes (room : Nat) (value moved : Value) : Prop :=
  Reordered value moved ∧ writeStrict value room = .ok (write moved)

private theorem exists_writes_list {items : List Value} {room : Nat}
    (h : ∀ item ∈ items, ∃ moved, Writes room item moved) :
    ∃ moved, Writes (room + 1) (.list items) moved := by
  obtain ⟨others, hothers⟩ := exists_forall₂_of_forall_mem h
  refine ⟨.list others, Reordered.list_of_forall₂ [] (hothers.imp fun _ _ h => h.1), ?_⟩
  have hparts : items.mapM (fun item => writeStrict item room) = .ok (others.map write) :=
    mapM_eq_ok_of_forall₂ (List.forall₂_map_right_iff.mpr (hothers.imp fun _ _ h => h.2))
  rw [writeStrict, strictItems_eq_mapM, hparts, write, writeItems_eq]
  rfl

private theorem exists_writes_mapping {entries : Entries} {room : Nat} (hnamed : AreNamed entries)
    (h : ∀ entry ∈ entries, ∃ moved, Writes room entry.2 moved) :
    ∃ moved, Writes (room + 1) (.mapping entries) moved := by
  obtain ⟨sorted, hperm, hwritten⟩ := exists_entries_of_writeStrict hnamed room
  -- the entries are moved first, and then what is inside their values
  have hinside : ∀ entry ∈ sorted, ∃ other : Key × Value,
      (entry.1 = other.1 ∧ Reordered entry.2 other.2) ∧
        (writeStrict entry.2 room).map (entryText entry.1) =
          .ok (entryText other.1 (write other.2)) := by
    intro entry hmem
    obtain ⟨moved, hmoved, htext⟩ := h entry (hperm.mem_iff.mp hmem)
    exact ⟨(entry.1, moved), ⟨rfl, hmoved⟩, by rw [htext]; rfl⟩
  obtain ⟨others, hothers⟩ := exists_forall₂_of_forall_mem hinside
  refine ⟨.mapping others, ?_, ?_⟩
  · apply Reordered.trans (.entries hperm.symm)
    exact Reordered.mapping_of_forall₂ [] (hothers.imp fun _ _ h => h.1)
  · have htexts := mapM_eq_ok_of_forall₂
      (List.forall₂_map_right_iff.mpr (hothers.imp fun _ _ h => h.2))
    rw [hwritten, htexts, write, writeEntries_eq]
    rfl

/-- What is neither too deep nor too long is written, after moving entries at most. -/
theorem exists_writeStrict_of_fits {value : Value} (h : IsJson value) {room : Nat}
    (hlevels : value.levels 0 ≤ room) (hlong : value.isLong = false) :
    ∃ moved, Reordered value moved ∧ writeStrict value room = .ok (write moved) := by
  -- along the value: with one level less there is room for what is inside
  induction h generalizing room with
  | null | bool | float | text => exact ⟨_, .refl _, by rw [writeStrict, write]⟩
  | int n =>
    have hshort : isLongInteger n = false := by simpa only [Value.isLong] using hlong
    exact ⟨.int n, .refl _, by simp only [writeStrict, strictInt, hshort, write]; rfl⟩
  | list items _ ih =>
    cases room with
    | zero => simp [Value.levels] at hlevels
    | succ room =>
      have hfits := fits_list_iff.mp ⟨hlevels, hlong⟩
      exact exists_writes_list fun item hmem => ih item hmem (hfits item hmem).1 (hfits item hmem).2
  | mapping entries hkeys _ ih =>
    cases room with
    | zero => simp [Value.levels] at hlevels
    | succ room =>
      have hfits := (fits_mapping_iff hkeys).mp ⟨hlevels, hlong⟩
      exact exists_writes_mapping hkeys fun entry hmem =>
        ih entry hmem (hfits entry hmem).1 (hfits entry hmem).2

/-! ## What is refused -/

/-- Why a value that JSON has a form for is not written. -/
inductive Oversize (room : Nat) (value : Value) : StrictError → Prop where
  /-- It is nested too deep. -/
  | deep (h : room < value.levels 0) : Oversize room value .tooDeep
  /-- There is a whole number of too many digits in it. -/
  | long (h : value.isLong = true) : Oversize room value (.size (.longInteger ⟨none⟩))

namespace Oversize

variable {room : Nat} {error : StrictError}

theorem list {item : Value} (h : Oversize room item error) {items : List Value}
    (hmem : item ∈ items) : Oversize (room + 1) (.list items) error := by
  cases h with
  | deep h =>
    refine .deep ?_
    rw [Value.levels, Nat.add_lt_add_iff_right]
    exact Nat.lt_of_lt_of_le h (Value.itemsLevels_le_iff.mp (Nat.le_refl _) item hmem)
  | long h =>
    refine .long ?_
    rw [Value.isLong, Value.anyLong_eq_any]
    exact List.any_eq_true.mpr ⟨item, hmem, h⟩

theorem mapping {entry : Key × Value} (h : Oversize room entry.2 error) {entries : Entries}
    (hmem : entry ∈ entries) : Oversize (room + 1) (.mapping entries) error := by
  cases h with
  | deep h =>
    refine .deep ?_
    rw [Value.levels, Nat.add_lt_add_iff_right]
    exact Nat.lt_of_lt_of_le h (Value.entriesLevels_le_iff.mp (Nat.le_refl _) entry hmem).2
  | long h =>
    refine .long ?_
    rw [Value.isLong, Value.anyLongEntry_eq_any]
    exact List.any_eq_true.mpr ⟨entry, hmem, by simp [h]⟩

end Oversize

/-- What is refused is too deep or too long. -/
theorem oversize_of_writeStrict {value : Value} (h : IsJson value) {room : Nat}
    {error : StrictError} (herror : writeStrict value room = .error error) :
    Oversize room value error := by
  -- along the value: what is refused is a number of its own, or lies inside
  induction h generalizing room with
  | null | bool | float | text => simp [writeStrict] at herror
  | int n =>
    simp only [writeStrict, strictInt] at herror
    split at herror
    · cases herror
      exact .long (by simpa only [Value.isLong])
    · cases herror
  | list items _ ih =>
    cases room with
    | zero =>
      cases herror
      exact .deep (by simp [Value.levels])
    | succ room =>
      rw [writeStrict, strictItems_eq_mapM] at herror
      obtain ⟨item, hmem, hitem⟩ := exists_of_mapM_eq_error (eq_error_of_map_eq_error herror)
      exact (ih item hmem hitem).list hmem
  | mapping entries hkeys _ ih =>
    cases room with
    | zero =>
      cases herror
      exact .deep (by simp [Value.levels])
    | succ room =>
      obtain ⟨sorted, hperm, hwritten⟩ := exists_entries_of_writeStrict hkeys room
      rw [hwritten] at herror
      obtain ⟨entry, hmem, hentry⟩ := exists_of_mapM_eq_error (eq_error_of_map_eq_error herror)
      have hmem' := hperm.mem_iff.mp hmem
      exact (ih entry hmem' (eq_error_of_map_eq_error hentry)).mapping hmem'

/-- What is written is neither too deep nor too long. -/
theorem fits_of_writeStrict {value : Value} (h : IsJson value) {room : Nat} {s : String}
    (hs : writeStrict value room = .ok s) : value.levels 0 ≤ room ∧ value.isLong = false := by
  -- along the value: whatever is inside has been written with one level less
  induction h generalizing room s with
  | null | bool | float | text => simp [Value.levels, Value.isLong]
  | int n =>
    simp only [writeStrict, strictInt] at hs
    split at hs
    -- a long number is not written
    · cases hs
    · simp_all [Value.levels, Value.isLong]
  | list items _ ih =>
    cases room with
    | zero => cases hs
    | succ room =>
      rw [writeStrict, strictItems_eq_mapM] at hs
      obtain ⟨parts, hparts, -⟩ := exists_of_map_eq_ok hs
      -- each item has been written with the level that the list leaves
      refine fits_list_iff.mpr fun item hmem => ?_
      obtain ⟨text, htext⟩ := exists_of_mapM_eq_ok hparts item hmem
      exact ih item hmem htext
  | mapping entries hkeys _ ih =>
    cases room with
    | zero => cases hs
    | succ room =>
      -- the entries are written sorted, which are the same entries
      obtain ⟨sorted, hperm, hwritten⟩ := exists_entries_of_writeStrict hkeys room
      rw [hwritten] at hs
      obtain ⟨parts, hparts, -⟩ := exists_of_map_eq_ok hs
      refine (fits_mapping_iff hkeys).mpr fun entry hmem => ?_
      obtain ⟨text, htext⟩ := exists_of_mapM_eq_ok hparts entry (hperm.mem_iff.mpr hmem)
      obtain ⟨inner, hinner, -⟩ := exists_of_map_eq_ok htext
      exact ih entry hmem hinner

/-- A value that JSON has a form for is written exactly if it is neither too deep nor too long. -/
theorem exists_writeStrict_iff {value : Value} (h : IsJson value) (room : Nat) :
    (∃ s, writeStrict value room = .ok s) ↔ value.levels 0 ≤ room ∧ value.isLong = false := by
  constructor
  · rintro ⟨s, hs⟩
    exact fits_of_writeStrict h hs
  · rintro ⟨hlevels, hlong⟩
    obtain ⟨moved, -, hwritten⟩ := exists_writeStrict_of_fits h hlevels hlong
    exact ⟨write moved, hwritten⟩

end Machining.Json
