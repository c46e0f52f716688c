import Mathlib.Data.List.Perm.Basic

/-!
# Results of computations that may fail

A computation that succeeds has succeeded in each of its parts.  These lemmas take it apart, so that
no proof has to open the functions that put results together.
-/

namespace Machining

variable {ε ε' α β : Type}

/-- What is made of a result was made of one that succeeded. -/
theorem exists_of_map_eq_ok {result : Except ε α} {f : α → β} {made : β}
    (h : result.map f = .ok made) : ∃ found, result = .ok found ∧ f found = made := by
  cases result with
  | error error => cases h
  | ok found => exact ⟨found, rfl, Except.ok.inj h⟩

/-- What is made of a failure is that failure. -/
theorem eq_error_of_map_eq_error {result : Except ε α} {f : α → β} {error : ε}
    (h : result.map f = .error error) : result = .error error := by
  cases result with
  | error other => exact congrArg Except.error (Except.error.inj h)
  | ok found => cases h

/-- What follows a result followed one that succeeded. -/
theorem exists_of_bind_eq_ok {result : Except ε α} {f : α → Except ε β} {made : β}
    (h : result >>= f = .ok made) : ∃ found, result = .ok found ∧ f found = .ok made := by
  cases result with
  | error error => cases h
  | ok found => exact ⟨found, rfl, h⟩

/-- Rewording failures does not touch what succeeds. -/
theorem eq_ok_of_mapError_eq_ok {result : Except ε α} {f : ε → ε'} {found : α}
    (h : result.mapError f = .ok found) : result = .ok found := by
  cases result with
  | error error => cases h
  | ok value => exact congrArg Except.ok (Except.ok.inj h)

/-- What passes a test is there. -/
theorem exists_of_any_eq_true {result : Except ε α} {test : α → Bool}
    (h : result.toOption.any test = true) : ∃ found, result = .ok found ∧ test found = true := by
  cases result with
  | error error => contradiction
  | ok found => exact ⟨found, rfl, h⟩

/-- Where there is something for every member, there is a list of it. -/
theorem exists_forall₂_of_forall_mem {R : α → β → Prop} {l : List α}
    (h : ∀ a ∈ l, ∃ b, R a b) : ∃ found, List.Forall₂ R l found := by
  induction l with
  | nil => exact ⟨[], .nil⟩
  | cons a rest ih =>
    obtain ⟨⟨b, hb⟩, hrest⟩ := List.forall_mem_cons.mp h
    obtain ⟨found, hfound⟩ := ih hrest
    exact ⟨b :: found, .cons hb hfound⟩

/-- Two lists have the same images if their members have. -/
theorem map_eq_map_of_forall₂ {γ : Type} {f : α → γ} {g : β → γ} {l : List α} {found : List β}
    (h : List.Forall₂ (fun a b => f a = g b) l found) : l.map f = found.map g := by
  induction h with
  | nil => rfl
  | cons hhead _ ih => rw [List.map_cons, List.map_cons, hhead, ih]

/-- The images of a list in another order are the images of that list in another order. -/
theorem exists_map_of_perm_map {f : α → β} {l : List α} {images : List β}
    (h : images.Perm (l.map f)) : ∃ moved : List α, moved.map f = images ∧ moved.Perm l := by
  have hsame : List.Forall₂ (fun b a => b = f a) (l.map f) l := by
    rw [List.forall₂_map_left_iff]
    exact List.forall₂_same.mpr fun _ _ => rfl
  obtain ⟨moved, himages, hmoved⟩ := List.perm_comp_forall₂ h hsame
  refine ⟨moved, ?_, hmoved⟩
  simpa using (map_eq_map_of_forall₂ (f := id) himages).symm

/-- A computation succeeds on a list if it succeeds on each member. -/
theorem mapM_eq_ok_of_forall₂ {f : α → Except ε β} {l : List α} {found : List β}
    (h : List.Forall₂ (fun a b => f a = .ok b) l found) : l.mapM f = .ok found := by
  induction h with
  | nil => rfl
  | cons hhead _ ih => rw [List.mapM_cons, hhead, ih]; rfl

/-- A computation that succeeds on a list succeeds on each member. -/
theorem exists_of_mapM_eq_ok {f : α → Except ε β} {l : List α} {found : List β}
    (h : l.mapM f = .ok found) : ∀ a ∈ l, ∃ b, f a = .ok b := by
  induction l generalizing found with
  | nil => simp
  | cons a rest ih =>
    rw [List.mapM_cons] at h
    obtain ⟨b, hb, h⟩ := exists_of_bind_eq_ok h
    obtain ⟨others, hothers, -⟩ := exists_of_bind_eq_ok h
    exact List.forall_mem_cons.mpr ⟨⟨b, hb⟩, ih hothers⟩

/-- A computation that fails on a list fails on a member. -/
theorem exists_of_mapM_eq_error {f : α → Except ε β} {l : List α} {error : ε}
    (h : l.mapM f = .error error) : ∃ a ∈ l, f a = .error error := by
  induction l with
  | nil => cases h
  | cons a rest ih =>
    rw [List.mapM_cons] at h
    -- the error is that of the first entry that has one
    cases hhead : f a with
    | error other =>
      rw [hhead] at h
      cases h
      exact ⟨a, List.mem_cons_self, hhead⟩
    | ok b =>
      rw [hhead] at h
      cases hrest : rest.mapM f with
      | ok found => rw [hrest] at h; cases h
      | error other =>
        rw [hrest] at h
        cases h
        obtain ⟨c, hmem, hc⟩ := ih hrest
        exact ⟨c, List.mem_cons_of_mem _ hmem, hc⟩

end Machining
