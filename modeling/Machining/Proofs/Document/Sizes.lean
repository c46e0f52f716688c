import Machining.Document.Shown

/-!
# Values that are too large to be written

A value is written if there is room on the stack for its levels and it has no long number in it.
Otherwise it is refused, for a reason that it gives: a value that is refused as too deep has more
levels than there is room for, and one that is refused for a long number has one in it.
-/

namespace Machining.Document

namespace Key

theorem obstacle?_eq_none_iff (key : Key) : key.obstacle? = none ↔ key.isLong = false := by
  cases h : key.isLong <;> simp [obstacle?, h]

theorem of_obstacle?_eq_some {key : Key} {error : SizeError} (h : key.obstacle? = some error) :
    error = .longInteger ⟨none⟩ ∧ key.isLong = true := by
  simp only [obstacle?, Option.ite_none_right_eq_some, Option.some.injEq] at h
  exact ⟨h.2.symm, h.1⟩

end Key

namespace Value

/-! ## Levels -/

theorem one_le_levels (value : Value) : 1 ≤ value.levels 1 := by
  cases value with
  | set members => cases members <;> simp [levels]
  | _ => simp [levels]

theorem itemsLevels_le_iff {leaf n : Nat} {items : List Value} :
    itemsLevels leaf items ≤ n ↔ ∀ item ∈ items, item.levels leaf ≤ n := by
  induction items with
  | nil => simp [itemsLevels]
  | cons item rest ih => rw [itemsLevels, Nat.max_le, ih, List.forall_mem_cons]

theorem entriesLevels_le_iff {leaf n : Nat} {entries : Entries} :
    entriesLevels leaf entries ≤ n ↔ ∀ entry ∈ entries, leaf ≤ n ∧ entry.2.levels leaf ≤ n := by
  induction entries with
  | nil => simp [entriesLevels]
  | cons entry rest ih => rw [entriesLevels, Nat.max_le, Nat.max_le, ih, List.forall_mem_cons]

theorem anyLong_eq_any (items : List Value) : anyLong items = items.any isLong := by
  induction items with
  | nil => rfl
  | cons item rest ih => rw [anyLong, ih, List.any_cons]

theorem anyLongEntry_eq_any (entries : Entries) :
    anyLongEntry entries = entries.any fun entry => entry.1.isLong || entry.2.isLong := by
  induction entries with
  | nil => rfl
  | cons entry rest ih => rw [anyLongEntry, ih, List.any_cons]

/-- A value inside as many lists, one in another. -/
def nested (value : Value) : Nat → Value
  | 0 => value
  | depth + 1 => .list [nested value depth]

theorem levels_nested (leaf : Nat) (value : Value) (depth : Nat) :
    (value.nested depth).levels leaf = value.levels leaf + depth := by
  induction depth with
  | zero => rfl
  | succ depth ih => simp only [nested, levels, itemsLevels, ih, Nat.max_zero, Nat.add_assoc]

/-! ## What is not refused -/

mutual

/-- There is nothing that keeps a value from being written if there is room for its levels and it
has no long number in it. -/
theorem obstacle?_eq_none_iff : ∀ (value : Value) (room : Nat),
    value.obstacle? room = none ↔ value.levels 1 ≤ room ∧ value.isLong = false
  | value, 0 => by
    have := one_le_levels value
    simp only [obstacle?, reduceCtorEq, false_iff]
    omega
  | .list items, room + 1 => by
    simpa [obstacle?, levels, isLong] using itemsObstacle?_eq_none_iff items room
  | .tuple items, room + 1 => by
    simpa [obstacle?, levels, isLong] using itemsObstacle?_eq_none_iff items room
  | .mapping entries, room + 1 => by
    simpa [obstacle?, levels, isLong] using entriesObstacle?_eq_none_iff entries room
  | .set (member :: rest), room + 1 => by
    by_cases hroom : room < 2
    · simp only [obstacle?, if_pos hroom, levels, reduceCtorEq, false_iff]
      omega
    · have hlevels : 1 + 2 ≤ room + 1 := by omega
      simp only [obstacle?, if_neg hroom, levels, isLong, List.findSome?_eq_none_iff,
        Key.obstacle?_eq_none_iff, List.any_eq_false, Bool.not_eq_true, hlevels, true_and]
  | .int n, room + 1 => by
    simp [obstacle?, levels, isLong, Key.obstacle?_eq_none_iff, Key.isLong]
  | .null, _ + 1 | .bool _, _ + 1 | .float _, _ + 1 | .text _, _ + 1 | .bytes _, _ + 1
  | .date _, _ + 1 | .set [], _ + 1 | .again _, _ + 1 => by simp [obstacle?, levels, isLong]

theorem itemsObstacle?_eq_none_iff : ∀ (items : List Value) (room : Nat),
    itemsObstacle? items room = none ↔ itemsLevels 1 items ≤ room ∧ anyLong items = false
  | [], room => by simp [itemsObstacle?, itemsLevels, anyLong]
  | item :: rest, room => by
    simp only [itemsObstacle?, Option.or_eq_none_iff, obstacle?_eq_none_iff item room,
      itemsObstacle?_eq_none_iff rest room, itemsLevels, anyLong, Bool.or_eq_false_iff,
      Nat.max_le]
    exact and_and_and_comm

theorem entriesObstacle?_eq_none_iff : ∀ (entries : List (Key × Value)) (room : Nat),
    entriesObstacle? entries room = none ↔
      entriesLevels 1 entries ≤ room ∧ anyLongEntry entries = false
  | [], room => by simp [entriesObstacle?, entriesLevels, anyLongEntry]
  | (key, value) :: rest, 0 => by
    simp only [entriesObstacle?, entriesLevels, reduceCtorEq, false_iff]
    omega
  | (key, value) :: rest, room + 1 => by
    simp only [entriesObstacle?, Option.or_eq_none_iff, obstacle?_eq_none_iff value (room + 1),
      Key.obstacle?_eq_none_iff, entriesObstacle?_eq_none_iff rest (room + 1), entriesLevels,
      anyLongEntry, Bool.or_eq_false_iff, Nat.max_le]
    have := one_le_levels value
    -- where there is room for the value, there is room for its key
    grind

end

/-! ## Why a value is refused -/

/-- What the reason of a refusal says, of something that takes so many levels and perhaps has a long
number in it. -/
inductive Refusal (room levels : Nat) (hasLong : Bool) : SizeError → Prop where
  /-- It has a long number in it. -/
  | long (h : hasLong = true) : Refusal room levels hasLong (.longInteger ⟨none⟩)
  /-- There is less room than it has levels. -/
  | deep (h : room < levels) : Refusal room levels hasLong .tooDeep

theorem Refusal.mono {room levels more : Nat} {hasLong other : Bool} {error : SizeError}
    (h : Refusal room levels hasLong error) (hlevels : levels ≤ more)
    (hlong : hasLong = true → other = true) : Refusal room more other error := by
  cases h with
  | long h => exact .long (hlong h)
  | deep h => exact .deep (Nat.lt_of_lt_of_le h hlevels)

theorem Refusal.succ {room levels : Nat} {hasLong : Bool} {error : SizeError}
    (h : Refusal room levels hasLong error) : Refusal (room + 1) (levels + 1) hasLong error := by
  cases h with
  | long h => exact .long h
  | deep h => exact .deep (Nat.succ_lt_succ h)

theorem refusal_of_key {key : Key} {error : SizeError} (h : key.obstacle? = some error)
    (room levels : Nat) : Refusal room levels key.isLong error := by
  obtain ⟨rfl, hlong⟩ := Key.of_obstacle?_eq_some h
  exact .long hlong

mutual

/-- A value is refused for a reason. -/
theorem refusal_of_obstacle? : ∀ (value : Value) (room : Nat) (error : SizeError),
    value.obstacle? room = some error → Refusal room (value.levels 1) value.isLong error
  | value, 0 => by
    intro error h
    simp only [obstacle?, Option.some.injEq] at h
    subst h
    exact .deep (one_le_levels value)
  | .list items, room + 1 => by
    intro error h
    simp only [obstacle?] at h
    simpa only [levels, isLong] using (refusal_of_itemsObstacle? items room error h).succ
  | .tuple items, room + 1 => by
    intro error h
    simp only [obstacle?] at h
    simpa only [levels, isLong] using (refusal_of_itemsObstacle? items room error h).succ
  | .mapping entries, room + 1 => by
    intro error h
    simp only [obstacle?] at h
    simpa only [levels, isLong] using (refusal_of_entriesObstacle? entries room error h).succ
  | .set (member :: rest), room + 1 => by
    intro error h
    -- members of a set are keys, so only the level of the members themselves counts
    by_cases hroom : room < 2
    · simp only [obstacle?, if_pos hroom, Option.some.injEq] at h
      subst h
      refine .deep ?_
      simp only [levels]
      omega
    · simp only [obstacle?, if_neg hroom] at h
      obtain ⟨key, hkey, herror⟩ := List.exists_of_findSome?_eq_some h
      obtain ⟨rfl, hlong⟩ := Key.of_obstacle?_eq_some herror
      refine .long ?_
      simp only [isLong]
      exact List.any_eq_true.mpr ⟨key, hkey, hlong⟩
  | .int n, room + 1 => by
    intro error h
    simp only [obstacle?] at h
    simpa only [isLong, Key.isLong] using refusal_of_key h (room + 1) _
  | .null, _ + 1 | .bool _, _ + 1 | .float _, _ + 1
  | .text _, _ + 1 | .bytes _, _ + 1 | .date _, _ + 1
  | .set [], _ + 1 | .again _, _ + 1 => by simp [obstacle?]

theorem refusal_of_itemsObstacle? : ∀ (items : List Value) (room : Nat) (error : SizeError),
    itemsObstacle? items room = some error →
      Refusal room (itemsLevels 1 items) (anyLong items) error
  | [], room => by simp [itemsObstacle?]
  | item :: rest, room => by
    intro error h
    rw [itemsObstacle?, Option.or_eq_some_iff] at h
    simp only [itemsLevels, anyLong]
    rcases h with h | ⟨-, h⟩
    · exact (refusal_of_obstacle? item room error h).mono (Nat.le_max_left ..) (by simp +contextual)
    · exact (refusal_of_itemsObstacle? rest room error h).mono (Nat.le_max_right ..)
        (by simp +contextual)

theorem refusal_of_entriesObstacle? : ∀ (entries : List (Key × Value)) (room : Nat)
    (error : SizeError), entriesObstacle? entries room = some error →
      Refusal room (entriesLevels 1 entries) (anyLongEntry entries) error
  | [], room => by simp [entriesObstacle?]
  | (key, value) :: rest, 0 => by
    intro error h
    simp only [entriesObstacle?, Option.some.injEq] at h
    subst h
    refine .deep ?_
    simp only [entriesLevels]
    omega
  | (key, value) :: rest, room + 1 => by
    intro error h
    rw [entriesObstacle?, Option.or_eq_some_iff, Option.or_eq_some_iff] at h
    simp only [entriesLevels, anyLongEntry]
    rcases h with (h | ⟨-, h⟩) | ⟨-, h⟩
    · exact (refusal_of_key h (room + 1) 0).mono (Nat.zero_le _) (by simp +contextual)
    · exact (refusal_of_obstacle? value (room + 1) error h).mono (by omega) (by simp +contextual)
    · have hrest := refusal_of_entriesObstacle? rest (room + 1) error h
      exact hrest.mono (by omega) (by simp +contextual)

end

/-! ## Values as texts -/

/-- A value that can be written as a text where there is so much room. -/
def Fits (value : Value) (room : Nat) : Prop := value.levels 1 ≤ room ∧ value.isLong = false

theorem fits_text {room : Nat} (hroom : 0 < room) (s : String) : (text s).Fits room := by
  simp [Fits, levels, isLong, Nat.succ_le_of_lt hroom]

theorem shown?_eq_ok_iff {room : Nat} {value : Value} {s : String} :
    value.shown? room = .ok s ↔ value.Fits room ∧ value.shown = s := by
  rw [Fits, ← obstacle?_eq_none_iff, shown?]
  cases value.obstacle? room <;> simp

/-- A value becomes the text that it is on its own, if it can be written. -/
theorem plain?_eq_ok_iff {room : Nat} (hroom : 0 < room) {value : Value} {s : String} :
    value.plain? room = .ok s ↔ value.Fits room ∧ value.plain = s := by
  cases value with
  | text | date => simp [plain?, plain, Fits, levels, isLong, Nat.succ_le_of_lt hroom]
  | _ => exact shown?_eq_ok_iff

theorem refusal_of_shown? {room : Nat} {value : Value} {error : SizeError}
    (h : value.shown? room = .error error) :
    Refusal room (value.levels 1) value.isLong error := by
  refine refusal_of_obstacle? value room error ?_
  revert h
  cases hobstacle : value.obstacle? room <;> simp [shown?, hobstacle]

theorem refusal_of_plain? {room : Nat} {value : Value} {error : SizeError}
    (h : value.plain? room = .error error) :
    Refusal room (value.levels 1) value.isLong error := by
  cases value with
  | text | date => simp [plain?] at h
  | _ => exact refusal_of_shown? h

end Value

end Machining.Document
