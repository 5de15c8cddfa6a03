/-
# Theory.Extrema — a running minimum that starts outside the list

A scan for the smallest element starts from a bound and replaces it by every smaller element it meets.
It ends with the smallest of the bound and the elements, which is the smallest element as soon as one
of them is not above the bound (`isLeast_foldl_min`).  `isLeast_scan` and `isGreatest_scan` are for a
scan over some of the elements of a list and over a value of each.
-/
import Mathlib.Order.Bounds.Basic
import Mathlib.Order.MinMax

namespace TizerVision.Theory

set_option autoImplicit false

variable {R : Type*} [LinearOrder R]

/-- The scan ends with the smallest of its bound and the elements. -/
theorem isLeast_insert_foldl_min (bound : R) (xs : List R) :
    IsLeast (insert bound {x | x ∈ xs}) (xs.foldl min bound) := by
  induction xs generalizing bound with
  | nil => simp [IsLeast]
  | cons x xs ih =>
      obtain ⟨member, below⟩ := ih (min bound x)
      refine ⟨?_, ?_⟩
      · rcases member with start | later
        · rw [List.foldl_cons, start]
          rcases min_choice bound x with same | same
          · rw [same]
            exact Set.mem_insert _ _
          · rw [same]
            exact Set.mem_insert_of_mem _ List.mem_cons_self
        · exact Set.mem_insert_of_mem _ (List.mem_cons_of_mem _ later)
      · rintro y (rfl | found)
        · exact (below (Set.mem_insert _ _)).trans (min_le_left _ _)
        · rcases List.mem_cons.1 found with rfl | later
          · exact (below (Set.mem_insert _ _)).trans (min_le_right _ _)
          · exact below (Set.mem_insert_of_mem _ later)

theorem isGreatest_insert_foldl_max (bound : R) (xs : List R) :
    IsGreatest (insert bound {x | x ∈ xs}) (xs.foldl max bound) :=
  isLeast_insert_foldl_min (R := Rᵒᵈ) bound xs

/-- The scan finds the smallest element if some element is not above the bound. -/
theorem isLeast_foldl_min {bound x : R} {xs : List R} (found : x ∈ xs) (low : x ≤ bound) :
    IsLeast {x | x ∈ xs} (xs.foldl min bound) := by
  obtain ⟨member, below⟩ := isLeast_insert_foldl_min bound xs
  refine ⟨?_, fun y other => below (Set.mem_insert_of_mem _ other)⟩
  rcases member with start | inside
  · -- the scan has stayed at its bound, which then is that element
    have above : xs.foldl min bound ≤ x := below (Set.mem_insert_of_mem _ found)
    have same : x = xs.foldl min bound := le_antisymm (low.trans_eq start.symm) above
    rwa [same] at found
  · exact inside

/-- A scan over the values `f x` of the elements with `p x`. -/
theorem isLeast_scan {α : Type*} {p : α → Prop} [DecidablePred p] {f : α → R} {bound : R} {a : α}
    {xs : List α} (found : a ∈ xs) (selected : p a) (low : f a ≤ bound) :
    IsLeast {r | ∃ x ∈ xs, p x ∧ f x = r}
      (xs.foldl (fun m x => if p x then min m (f x) else m) bound) := by
  have filtered : xs.foldl (fun m x => if p x then min m (f x) else m) bound =
      ((xs.filter fun x => p x).map f).foldl min bound := by
    rw [List.foldl_map, List.foldl_filter]
    simp only [decide_eq_true_eq]
  have values : {r | ∃ x ∈ xs, p x ∧ f x = r} = {r | r ∈ (xs.filter fun x => p x).map f} := by
    ext r
    simp [and_assoc]
  rw [filtered, values]
  have member : f a ∈ (xs.filter fun x => p x).map f := by
    exact List.mem_map_of_mem (List.mem_filter.2 ⟨found, by simpa using selected⟩)
  exact isLeast_foldl_min member low

/-- The scan for the largest value. -/
theorem isGreatest_scan {α : Type*} {p : α → Prop} [DecidablePred p] {f : α → R} {bound : R} {a : α}
    {xs : List α} (found : a ∈ xs) (selected : p a) (high : bound ≤ f a) :
    IsGreatest {r | ∃ x ∈ xs, p x ∧ f x = r}
      (xs.foldl (fun m x => if p x then max m (f x) else m) bound) :=
  isLeast_scan (R := Rᵒᵈ) (f := f) found selected high

end TizerVision.Theory
