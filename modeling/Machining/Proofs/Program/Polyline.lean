import Mathlib.Analysis.Convex.Basic
import Mathlib.Analysis.Convex.Segment
import Mathlib.Analysis.Normed.Module.Convex
import Mathlib.LinearAlgebra.Complex.Module
import Mathlib.Data.List.Destutter
import Mathlib.Data.List.Infix
import Machining.Proofs.Program.Path

/-!
# Straight ways

Most cutting moves run straight, from one place to the next.  This module says where such moves
stop, and which points of the plane they pass.

* `stops` lists the places that moves lead to.  A list of targets without the moves that would lead
  nowhere (`visited`) is the list with repeated neighbours removed (`destutter_eq_visited`).
* `polyline` is the set of all points on the straight ways along a list of points.  On paper it
  loses nothing where a move is left out (`exists_kept`), and where its points are printed it moves
  by one unit of the last decimal place at most (`exists_near_printed`).
-/

namespace Machining.Program

open Machining.Numeric Machining.Job

/-! ## Stops -/

/-- The places that the moves in the plane lead to, one after another. -/
def stops (here : Place) : List Move → List Place
  | [] => []
  | step :: rest =>
    if step.isPlanar then step.goesTo here :: stops (step.goesTo here) rest else stops here rest

theorem Move.goesTo_of_isPlanar_eq_false {step : Move} (h : step.isPlanar = false) (here : Place) :
    step.goesTo here = here := by
  cases step <;> first | rfl | cases h

theorem stops_append (here : Place) (first second : List Move) :
    stops here (first ++ second) = stops here first ++ stops (arrive here first) second := by
  induction first generalizing here with
  | nil => rfl
  | cons step rest ih =>
    have harrive : arrive here (step :: rest) = arrive (step.goesTo here) rest := rfl
    rw [List.cons_append, stops, stops, harrive]
    split
    · rw [ih, List.cons_append]
    · -- a move up or down is no stop, but neither does it change the place
      rename_i hplanar
      rw [Move.goesTo_of_isPlanar_eq_false (Bool.eq_false_of_not_eq_true hplanar), ih]

/-- Rounds that each lead back to where they begin. -/
theorem stops_flatMap {α : Type} {here : Place} {f : α → List Move} (rounds : List α)
    (h : ∀ x ∈ rounds, arrive here (f x) = here) :
    stops here (rounds.flatMap f) = rounds.flatMap fun x => stops here (f x) := by
  induction rounds with
  | nil => rfl
  | cons x rest ih =>
    rw [List.flatMap_cons, List.flatMap_cons, stops_append, h x List.mem_cons_self,
      ih fun y hy => h y (List.mem_cons_of_mem x hy)]

theorem stops_map_cutTo (here : Place) (places : List Place) :
    stops here (places.map Move.cutTo) = places := by
  induction places generalizing here with
  | nil => rfl
  | cons place rest ih => exact congrArg (place :: ·) (ih place)

theorem stops_filter_isPlanar (here : Place) (moves : List Move) :
    stops here (moves.filter Move.isPlanar) = stops here moves := by
  induction moves generalizing here with
  | nil => rfl
  | cons step rest ih =>
    rw [List.filter_cons]
    split
    · rename_i hplanar
      rw [stops, stops, if_pos hplanar, if_pos hplanar, ih]
    · rename_i hplanar
      rw [stops, if_neg hplanar, ih]

/-! ## Moves that lead nowhere -/

theorem visited_cons_self (current : Place) (rest : List Place) :
    visited current (current :: rest) = visited current rest :=
  if_pos rfl

theorem visited_cons_of_ne {current place : Place} (h : place ≠ current) (rest : List Place) :
    visited current (place :: rest) = place :: visited place rest :=
  if_neg h

/-- Leaving out moves that lead nowhere is removing repeated neighbours. -/
theorem destutter'_eq_visited (current : Place) (places : List Place) :
    places.destutter' (· ≠ ·) current = current :: visited current places := by
  induction places generalizing current with
  | nil => rfl
  | cons place rest ih =>
    by_cases hplace : place = current
    · rw [hplace, List.destutter'_cons_neg _ (not_not.mpr rfl), visited_cons_self, ih]
    · rw [List.destutter'_cons_pos _ (Ne.symm hplace), visited_cons_of_ne hplace, ih]

theorem destutter_eq_visited (current : Place) (places : List Place) :
    (current :: places).destutter (· ≠ ·) = current :: visited current places :=
  destutter'_eq_visited current places

/-- Behind a target the moves go on from there, whether it was left out or not. -/
theorem visited_append_cons (current last : Place) (first second : List Place) :
    visited current (first ++ last :: second) =
      visited current (first ++ [last]) ++ visited last second := by
  -- the place that the moves start from changes only where one of them is kept
  induction first generalizing current with
  | nil =>
    by_cases hlast : last = current
    · rw [hlast, List.nil_append, List.nil_append, visited_cons_self, visited_cons_self]
      rfl
    · rw [List.nil_append, List.nil_append, visited_cons_of_ne hlast, visited_cons_of_ne hlast]
      rfl
  | cons place rest ih =>
    rw [List.cons_append, List.cons_append]
    by_cases hplace : place = current
    · rw [hplace, visited_cons_self, visited_cons_self, ih]
    · rw [visited_cons_of_ne hplace, visited_cons_of_ne hplace, ih, List.cons_append]

/-- Rounds of targets that each end where they begin. -/
theorem visited_flatMap {α : Type} {current : Place} {f : α → List Place} (rounds : List α) :
    visited current (rounds.flatMap fun x => f x ++ [current]) =
      rounds.flatMap fun x => visited current (f x ++ [current]) := by
  induction rounds with
  | nil => rfl
  | cons x rest ih =>
    rw [List.flatMap_cons, List.flatMap_cons, List.append_assoc, List.singleton_append,
      visited_append_cons, ih]

theorem arrive_visited (current last : Place) (places : List Place) :
    arrive current ((visited current (places ++ [last])).map Move.cutTo) = last := by
  induction places generalizing current with
  | nil =>
    -- a place where the tool stands already is left out, and it ends there all the same
    by_cases hlast : last = current
    · rw [hlast, List.nil_append, visited_cons_self]
      rfl
    · rw [List.nil_append, visited_cons_of_ne hlast]
      rfl
  | cons place rest ih =>
    rw [List.cons_append]
    by_cases hplace : place = current
    · rw [hplace, visited_cons_self, ih]
    · rw [visited_cons_of_ne hplace]
      exact ih place

/-- No target is missed. -/
theorem mem_visited {place : Place} {places : List Place} (current : Place) (h : place ∈ places) :
    place ∈ current :: visited current places := by
  induction places generalizing current with
  | nil => cases h
  | cons next rest ih =>
    -- left out is only the place where the tool stands
    by_cases hnext : next = current
    · rw [hnext] at h ⊢
      rw [visited_cons_self]
      rcases List.mem_cons.mp h with rfl | hrest
      · exact List.mem_cons_self
      · exact ih current hrest
    · rw [visited_cons_of_ne hnext]
      rcases List.mem_cons.mp h with rfl | hrest
      · exact List.mem_cons_of_mem current List.mem_cons_self
      · exact List.mem_cons_of_mem current (ih next hrest)

/-! ## Points on straight ways -/

theorem mem_segment_of_mem_Icc (base direction : ℂ) {s t r : ℝ} (h : r ∈ Set.Icc s t) :
    base + r • direction ∈ segment ℝ (base + s • direction) (base + t • direction) := by
  rw [← segment_eq_Icc (h.1.trans h.2)] at h
  obtain ⟨u, v, hu, hv, huv, rfl⟩ := h
  refine ⟨u, v, hu, hv, huv, ?_⟩
  calc u • (base + s • direction) + v • (base + t • direction)
      = (u + v) • base + (u • s + v • t) • direction := by module
    _ = base + (u • s + v • t) • direction := by rw [huv, one_smul]

theorem norm_sub_along_re (p : ℂ) (x : ℝ) : ‖p - ⟨x, p.im⟩‖ = |p.re - x| := by
  have hreal : p - ⟨x, p.im⟩ = ((p.re - x : ℝ) : ℂ) := by
    apply Complex.ext <;> simp
  rw [hreal, Complex.norm_real, Real.norm_eq_abs]

theorem norm_sub_along_im (p : ℂ) (y : ℝ) : ‖p - ⟨p.re, y⟩‖ = |p.im - y| := by
  have himaginary : p - ⟨p.re, y⟩ = ((p.im - y : ℝ) : ℂ) * Complex.I := by
    apply Complex.ext <;> simp
  rw [himaginary, norm_mul, Complex.norm_I, mul_one, Complex.norm_real, Real.norm_eq_abs]

theorem mem_segment_re {x low high y : ℝ} (h : x ∈ Set.Icc low high) :
    (⟨x, y⟩ : ℂ) ∈ segment ℝ ⟨low, y⟩ ⟨high, y⟩ := by
  have hline (r : ℝ) : (⟨r, y⟩ : ℂ) = ⟨0, y⟩ + r • (1 : ℂ) := by
    apply Complex.ext <;> simp
  rw [hline x, hline low, hline high]
  exact mem_segment_of_mem_Icc _ _ h

theorem mem_segment_im {x y low high : ℝ} (h : y ∈ Set.Icc low high) :
    (⟨x, y⟩ : ℂ) ∈ segment ℝ ⟨x, low⟩ ⟨x, high⟩ := by
  have hline (r : ℝ) : (⟨x, r⟩ : ℂ) = ⟨x, 0⟩ + r • Complex.I := by
    apply Complex.ext <;> simp
  rw [hline y, hline low, hline high]
  exact mem_segment_of_mem_Icc _ _ h

/-- The points of a list, and all points on the straight ways from each of them to the next. -/
def polyline (points : List ℂ) : Set ℂ :=
  {p | p ∈ points ∨ ∃ a b, [a, b] <:+: points ∧ p ∈ segment ℝ a b}

section Polyline

variable {a b p : ℂ} {points : List ℂ}

theorem mem_polyline_of_mem (h : p ∈ points) : p ∈ polyline points := Or.inl h

theorem segment_subset_polyline (h : [a, b] <:+: points) : segment ℝ a b ⊆ polyline points :=
  fun _ hp => Or.inr ⟨a, b, h, hp⟩

theorem polyline_mono {part : List ℂ} (h : part <:+: points) : polyline part ⊆ polyline points := by
  rintro p (hp | ⟨a, b, hpair, hp⟩)
  · exact mem_polyline_of_mem (h.subset hp)
  · exact segment_subset_polyline (hpair.trans h) hp

theorem polyline_singleton (p : ℂ) : polyline [p] = {p} := by
  ext q
  constructor
  · rintro (hq | ⟨a, b, hpair, -⟩)
    · exact List.mem_singleton.mp hq
    · exact absurd hpair.length_le (Nat.not_succ_le_self 1)
  · exact fun hq => mem_polyline_of_mem (List.mem_singleton.mpr hq)

/-- In front of other points a point adds the way to the first of them. -/
theorem polyline_cons_cons (a b : ℂ) (rest : List ℂ) :
    polyline (a :: b :: rest) = segment ℝ a b ∪ polyline (b :: rest) := by
  ext p
  constructor
  · rintro (hp | ⟨c, d, hpair, hp⟩)
    -- the first point is the end of the first way
    · rcases List.mem_cons.mp hp with rfl | hp
      · exact Or.inl (left_mem_segment ℝ p b)
      · exact Or.inr (mem_polyline_of_mem hp)
    · rcases List.infix_cons_iff.mp hpair with hfirst | hrest
      · obtain ⟨rfl, hsecond⟩ := List.cons_prefix_cons.mp hfirst
        obtain ⟨rfl, -⟩ := List.cons_prefix_cons.mp hsecond
        exact Or.inl hp
      · exact Or.inr (segment_subset_polyline hrest hp)
  · rintro (hp | hp)
    · exact segment_subset_polyline ⟨[], rest, rfl⟩ hp
    · exact polyline_mono (List.infix_cons List.infix_rfl) hp

/-- The points that are no further from a middle than this along each of the axes. -/
theorem convex_box (middle : ℂ) (a b : ℝ) :
    Convex ℝ {p : ℂ | |p.re - middle.re| ≤ a ∧ |p.im - middle.im| ≤ b} := by
  have hre : Convex ℝ {p : ℂ | |p.re - middle.re| ≤ a} :=
    (convex_closedBall middle.re a).linear_preimage Complex.reLm
  have him : Convex ℝ {p : ℂ | |p.im - middle.im| ≤ b} :=
    (convex_closedBall middle.im b).linear_preimage Complex.imLm
  exact hre.inter him

/-- Where all points of a list lie in a convex set, so do the ways between them. -/
theorem polyline_subset_of_convex {s : Set ℂ} (hs : Convex ℝ s) (h : ∀ p ∈ points, p ∈ s) :
    polyline points ⊆ s := by
  rintro p (hp | ⟨a, b, hpair, hp⟩)
  · exact h p hp
  · have ha : a ∈ s := h a (hpair.subset List.mem_cons_self)
    have hb : b ∈ s := h b (hpair.subset (List.mem_cons_of_mem a List.mem_cons_self))
    exact hs.segment_subset ha hb hp

end Polyline

/-! ## Printed points -/

theorem printedPoint_eq_of_place_eq {settings : Settings ℝ} {a b : Point ℝ}
    (h : settings.place a = settings.place b) :
    settings.printedPoint a = settings.printedPoint b := by
  have hpoint := congrArg Place.point? h
  rw [point?_place, point?_place] at hpoint
  exact Option.some.inj hpoint

/-- Of the positions that moves are aimed at, some are left out, and on paper the ways along the
others pass the same points. -/
theorem exists_kept (settings : Settings ℝ) (start : Point ℝ) (points : List (Point ℝ)) :
    ∃ kept, kept.Sublist points ∧
      visited (settings.place start) (points.map settings.place) = kept.map settings.place ∧
      polyline ((start :: points).map settings.printedPoint) ⊆
        polyline ((start :: kept).map settings.printedPoint) := by
  induction points generalizing start with
  | nil => exact ⟨[], List.Sublist.refl [], rfl, le_rfl⟩
  | cons next rest ih =>
    rw [List.map_cons, List.map_cons, List.map_cons, polyline_cons_cons]
    by_cases hplace : settings.place next = settings.place start
    · -- a move that would lead nowhere
      obtain ⟨kept, hkept, hvisited, hways⟩ := ih start
      refine ⟨kept, hkept.cons next, by rw [hplace, visited_cons_self, hvisited], ?_⟩
      rw [printedPoint_eq_of_place_eq hplace, segment_same]
      apply Set.union_subset
      · exact Set.singleton_subset_iff.mpr (mem_polyline_of_mem List.mem_cons_self)
      · exact hways
    · obtain ⟨kept, hkept, hvisited, hways⟩ := ih next
      refine ⟨next :: kept, hkept.cons_cons next, ?_, ?_⟩
      · rw [visited_cons_of_ne hplace, hvisited, List.map_cons]
      · rw [List.map_cons, List.map_cons, polyline_cons_cons]
        exact Set.union_subset_union_right _ hways

/-- **Printing hardly moves a straight way.**  Every point on the ways between some positions is
within one unit of the last decimal place of the ways between them as they are printed. -/
theorem exists_near_printed (settings : Settings ℝ) {points : List (Point ℝ)} {p : ℂ}
    (h : p ∈ polyline (points.map Point.toComplex)) :
    ∃ q ∈ polyline (points.map settings.printedPoint),
      ‖p - q‖ ≤ 1 / 10 ^ settings.coordinatePlaces := by
  have hprint (point : Point ℝ) :
      ‖point.toComplex - settings.printedPoint point‖ ≤ 1 / 10 ^ settings.coordinatePlaces := by
    rw [norm_sub_rev]
    exact norm_printedPoint_sub_le settings point
  rcases h with hp | ⟨a, b, hpair, hp⟩
  · obtain ⟨point, hmem, rfl⟩ := List.mem_map.mp hp
    exact ⟨_, mem_polyline_of_mem (List.mem_map_of_mem hmem), hprint point⟩
  · obtain ⟨pair, hpart, hab⟩ := List.infix_map_iff.mp hpair
    obtain ⟨start, finish, rfl⟩ : ∃ start finish, pair = [start, finish] :=
      List.length_eq_two.mp (by simpa using (congrArg List.length hab).symm)
    cases hab
    -- the same fraction of the printed way
    obtain ⟨u, v, hu, hv, huv, rfl⟩ := hp
    refine ⟨u • settings.printedPoint start + v • settings.printedPoint finish,
      segment_subset_polyline (hpart.map _) ⟨u, v, hu, hv, huv, rfl⟩, ?_⟩
    calc ‖u • start.toComplex + v • finish.toComplex -
          (u • settings.printedPoint start + v • settings.printedPoint finish)‖
        = ‖u • (start.toComplex - settings.printedPoint start) +
            v • (finish.toComplex - settings.printedPoint finish)‖ := by
          rw [smul_sub, smul_sub, add_sub_add_comm]
      _ ≤ u * ‖start.toComplex - settings.printedPoint start‖ +
            v * ‖finish.toComplex - settings.printedPoint finish‖ := by
          refine (norm_add_le _ _).trans_eq ?_
          rw [norm_smul, norm_smul, Real.norm_of_nonneg hu, Real.norm_of_nonneg hv]
      _ ≤ u * (1 / 10 ^ settings.coordinatePlaces) + v * (1 / 10 ^ settings.coordinatePlaces) := by
          gcongr
          · exact hprint start
          · exact hprint finish
      _ = 1 / 10 ^ settings.coordinatePlaces := by rw [← add_mul, huv, one_mul]

end Machining.Program
