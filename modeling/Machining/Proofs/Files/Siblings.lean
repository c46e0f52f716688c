import Machining.Proofs.Files.Places
import Machining.Proofs.Text.Search

/-!
# Where a longer name leads

The new file that a file is written to has the name of that file with something behind it.  What is
put behind may hold slashes, as long as it goes on with single points only; the name then leads to
a directory, and no file can be opened there.  In every other case the longer name is one step, and
that step leads elsewhere.

* `Beside` is what is known of two such paths, and `beside_of_sibling` says so of them.
* `Beside.find?_of_notFound`: in a directory that is there, there is nothing to which there is no
  way.
-/

namespace Machining.Files.Path

open Machining.Text

/-- A name that is one step away from where it stands. -/
structure IsStep (name : String) : Prop where
  /-- It is a name. -/
  nonempty : name ≠ ""
  /-- It goes on. -/
  ne_point : name ≠ "."
  /-- It is one step. -/
  notMem : '/' ∉ name.toList

section Longer

variable {name suffix : String}

/-- What is put behind a step makes it neither empty nor a point. -/
theorem IsStep.append (h : IsStep name) (suffix : String) :
    name ++ suffix ≠ "" ∧ name ++ suffix ≠ "." := by
  -- the name is not empty, and if its first character is a point, there is more
  obtain ⟨c, rest, hname⟩ : ∃ c rest, name.toList = c :: rest := by
    refine List.exists_cons_of_ne_nil fun hnil => h.nonempty ?_
    exact String.toList_injective (by rw [hnil]; rfl)
  constructor
  · intro heq
    have hlist := congrArg String.toList heq
    simp [hname] at hlist
  · intro heq
    have hlist : c :: (rest ++ suffix.toList) = ['.'] := by
      simpa [hname] using congrArg String.toList heq
    obtain ⟨rfl, htail⟩ := List.cons.inj hlist
    obtain ⟨rfl, -⟩ := List.append_eq_nil_iff.mp htail
    exact h.ne_point (String.toList_injective hname)

end Longer

/-! ## Two paths -/

/-- How a path stands beside another one: it takes a step from the same directory, and perhaps
points, and it leads elsewhere or ends with a point. -/
structure Beside (target staging : Path) : Prop where
  /-- Both begin at the same place. -/
  start : staging.start = target.parent.start
  /-- The way is the same as far as the directory. -/
  steps : ∃ first points, staging.steps = target.parent.steps ++ first :: points ∧
    ∀ step ∈ points, step = "."
  /-- It leads elsewhere or to a directory. -/
  elsewhere : staging.place ≠ target.place ∨ ∃ steps, staging.steps = steps ++ ["."]

open Machining.Files.Tree

variable {tree : Tree} {place : Path}

theorem foldl_behind_points {points : List String} (h : ∀ step ∈ points, step = ".") :
    points.foldl behind place = place := by
  induction points with
  | nil => rfl
  | cons step points ih =>
    rw [List.foldl_cons, h step List.mem_cons_self, behind, if_pos rfl]
    exact ih fun other hother => h other (List.mem_cons_of_mem _ hother)

theorem foldlM_enter_points {points : List String} (h : ∀ step ∈ points, step = ".")
    (hdirectory : tree.find? place = some .directory) :
    points.foldlM tree.enter place = .ok place := by
  induction points with
  | nil => rfl
  | cons step points ih =>
    have hstep : tree.enter place step = .ok place :=
      enter_of_directory (by rw [h step List.mem_cons_self]; rfl) hdirectory
    rw [List.foldlM_cons, hstep]
    exact ih fun other hother => h other (List.mem_cons_of_mem _ hother)

theorem placeIn_ne_notFound (directory : Path) (name : String) :
    placeIn directory name ≠ .error .notFound := by
  unfold placeIn
  split
  · simp
  · split
    · simp
    · split <;> simp

/-- Where nothing is missing on the way, a missing path is one at which nothing lies. -/
theorem enter_eq_notFound {directory : Path} {name : String}
    (h : tree.enter directory name = .error .notFound) :
    tree.find? (directory.behind name) = none := by
  unfold enter at h
  -- not to be found is only what a look at the tree can say
  cases hplace : placeIn directory name with
  | error problem =>
    rw [hplace] at h
    cases h
    exact absurd hplace (placeIn_ne_notFound directory name)
  | ok found =>
    obtain rfl := placeIn_eq_ok hplace
    rw [hplace] at h
    dsimp only [bind, Except.bind] at h
    split at h
    · cases h
    · cases h
    · assumption

/-- Beside a path in a directory, nothing lies where there is no way. -/
theorem Beside.find?_of_notFound {target staging : Path} (h : Beside target staging)
    (hparent : tree.HasDirectory target.parent)
    (hmissing : tree.locate staging = .error .notFound) : tree.find? staging.place = none := by
  obtain ⟨first, points, hsteps, hpoints⟩ := h.steps
  have hsize := size_of_locate hmissing (by simp)
  have henter : target.parent.steps.foldlM tree.enter staging.start = .ok target.parent.place := by
    rw [h.start]
    exact foldlM_enter_of_directory hparent.1 hparent.2
  have hplace : staging.place = target.parent.place.behind first := by
    rw [place, hsteps, List.foldl_append, List.foldl_cons, foldl_behind_points hpoints, h.start]
    rfl
  rw [hplace]
  rcases List.eq_nil_or_concat' points with rfl | ⟨more, last, rfl⟩
  · -- a single step behind a directory
    rw [locate_of_steps hsteps hsize, henter] at hmissing
    exact absurd hmissing (placeIn_ne_notFound _ _)
  · have hlast : last = "." := hpoints last (by simp)
    have hmore : ∀ step ∈ more, step = "." := fun step hstep =>
      hpoints step (List.mem_append_left _ hstep)
    rw [← List.cons_append, ← List.append_assoc, hlast] at hsteps
    rw [locate_of_steps hsteps hsize, List.foldlM_append, henter] at hmissing
    -- the step may be missing; the points behind it are not
    cases hfirst : tree.enter target.parent.place first with
    | error problem =>
      have hstep : (first :: more).foldlM tree.enter target.parent.place = .error problem := by
        rw [List.foldlM_cons, hfirst]
        rfl
      change ((first :: more).foldlM tree.enter target.parent.place >>= _) = _ at hmissing
      rw [hstep] at hmissing
      cases hmissing
      exact enter_eq_notFound hfirst
    | ok found =>
      have hfound := (enter_eq_ok hfirst).2
      have hstep : (first :: more).foldlM tree.enter target.parent.place = .ok found := by
        rw [List.foldlM_cons, hfirst]
        exact foldlM_enter_points hmore hfound
      change ((first :: more).foldlM tree.enter target.parent.place >>= _) = _ at hmissing
      rw [hstep] at hmissing
      exact absurd hmissing (placeIn_ne_notFound found ".")

/-- Where a file may be opened, the path leads elsewhere. -/
theorem Beside.ne_of_free {target staging : Path} (h : Beside target staging)
    (hplace : tree.locate staging = .ok staging.place)
    (hfree : tree.find? staging.place ≠ some .directory) : staging.place ≠ target.place := by
  rcases h.elsewhere with hne | ⟨steps, hsteps⟩
  · exact hne
  · exact absurd (find?_of_point hsteps hplace) hfree

end Machining.Files.Path
