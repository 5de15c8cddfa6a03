/-
# Winding.Scale — when the position on the calibration scale is right

`get_distance_left` interpolates between the two nearest lines.  The lines next to a point are not always
the nearest two: where a gap is narrower than the one beside it, both nearest lines can lie on one side.

* `two_nearest_lines` — the loop ends with the two nearest lines, the first of several as near.
* `scale_position_iff` — for a point between two lines, the value is the linear one exactly when the point
  is on one of them or no outer neighbour comes before the farther of them.
* `scale_exact_iff_equal_gaps` — all points of a calibration are read right exactly when its gaps are equal.
* `right_edge_line_num_iff` — shifting the position to the right end of the scale and back keeps its
  line number unless the shift has a fraction that the position does not carry over.
-/
import TizerVision.Winding.Position
import Mathlib.Data.List.GetD
import Mathlib.Tactic.ByContra
import Mathlib.Tactic.FieldSimp
import Mathlib.Tactic.Linarith
import Mathlib.Tactic.Ring
import Mathlib.Tactic.Positivity

namespace TizerVision.Winding

open TizerVision.Theory
open TizerVision.Calibration (Line linesRead linesRead_flatMap)

set_option autoImplicit false

/-- A calibration with vertical lines from left to right. -/
structure VerticalScale where
  lines : List (Line ℚ)
  two : 2 ≤ lines.length
  vertical : ∀ line ∈ lines, line.bottomX = line.topX
  increasing : (lines.map Line.topX).Pairwise (· < ·)

namespace VerticalScale

variable (scale : VerticalScale)

/-- The vector the calibration is read as. -/
def points : List ℚ := scale.lines.flatMap Line.values

/-- The number of lines. -/
def size : Nat := scale.lines.length

/-- The column of line `k`. -/
def column (k : Nat) : ℚ := (scale.lines.map Line.topX).getD k 0

/-- The point is between line `i` and the next. -/
structure Between (i : Nat) (x : ℚ) : Prop where
  next : i + 1 < scale.size
  left : scale.column i ≤ x
  right : x ≤ scale.column (i + 1)

/-- The linear position of a point between line `i` and the next. -/
def position (i : Nat) (x : ℚ) : ℚ :=
  i + (x - scale.column i) / (scale.column (i + 1) - scale.column i)

theorem column_eq {k : Nat} {line : Line ℚ} (found : scale.lines[k]? = some line) :
    scale.column k = line.topX := by
  rw [column, List.getD_eq_getElem?_getD, List.getElem?_map, found]
  rfl

theorem column_lt {j k : Nat} (less : j < k) (below : k < scale.size) :
    scale.column j < scale.column k := by
  have increasing := scale.increasing
  rw [List.pairwise_iff_getElem] at increasing
  have bound : k < (scale.lines.map Line.topX).length := by rwa [List.length_map]
  have ordered := increasing j k (less.trans bound) bound less
  rwa [column, column, List.getD_eq_getElem _ _ (less.trans bound), List.getD_eq_getElem _ _ bound]

theorem column_le {j k : Nat} (less : j ≤ k) (below : k < scale.size) :
    scale.column j ≤ scale.column k := by
  rcases less.lt_or_eq with less | rfl
  · exact (scale.column_lt less below).le
  · exact le_rfl

/-- The distances of a point from the lines. -/
def distance (x : ℚ) (k : Nat) : ℚ := |x - scale.column k|

variable {scale} {i : Nat} {x : ℚ}

theorem Between.distance_left (between : scale.Between i x) {k : Nat} (before : k ≤ i) :
    scale.distance x k = x - scale.column k := by
  have bound := scale.column_le before ((Nat.lt_succ_self i).trans between.next)
  exact abs_of_nonneg (sub_nonneg.2 (bound.trans between.left))

theorem Between.distance_right (between : scale.Between i x) {k : Nat} (after : i + 1 ≤ k)
    (below : k < scale.size) : scale.distance x k = scale.column k - x := by
  have bound := scale.column_le after below
  rw [distance, abs_sub_comm]
  exact abs_of_nonneg (sub_nonneg.2 (between.right.trans bound))

/-- The distances fall up to the point and rise behind it. -/
theorem Between.valley (between : scale.Between i x) : Valley (scale.distance x) scale.size i where
  inside := between.next
  falls := by
    intro j k less before
    have ordered := scale.column_lt less (before.trans_lt ((Nat.lt_succ_self i).trans between.next))
    rw [between.distance_left before, between.distance_left (less.le.trans before)]
    linarith
  rises := by
    intro j k after less below
    have ordered := scale.column_lt less below
    rw [between.distance_right after (less.trans below),
      between.distance_right (after.trans less.le) below]
    linarith

variable (scale i x) in
/-- No line outside the two next to the point comes before the farther of them: line `i - 1` is farther
than line `i + 1`, and line `i + 2` is not nearer than line `i`. -/
def NextNearest : Prop :=
  (i = 0 ∨ scale.column (i + 1) - x < x - scale.column (i - 1)) ∧
    (i + 2 = scale.size ∨ x - scale.column i ≤ scale.column (i + 2) - x)

theorem Between.nextNearest_iff (between : scale.Between i x) :
    scale.NextNearest i x ↔
      (∀ j, j + 1 = i → scale.distance x (i + 1) < scale.distance x j) ∧
        (i + 2 < scale.size → scale.distance x i ≤ scale.distance x (i + 2)) := by
  have next := between.next
  rw [between.distance_left le_rfl, between.distance_right le_rfl next, NextNearest]
  refine and_congr ⟨?_, ?_⟩ ⟨?_, ?_⟩
  · rintro (rfl | less) j before
    · omega
    · obtain rfl : j = i - 1 := by omega
      rwa [between.distance_left (Nat.sub_le i 1)]
  · intro outer
    by_cases first : i = 0
    · exact .inl first
    · have less := outer (i - 1) (by omega)
      rw [between.distance_left (Nat.sub_le i 1)] at less
      exact .inr less
  · rintro (last | less) inside
    · omega
    · rwa [between.distance_right (by omega) inside]
  · intro outer
    by_cases last : i + 2 = scale.size
    · exact .inl last
    · have inside : i + 2 < scale.size := by omega
      have less := outer inside
      rw [between.distance_right (by omega) inside] at less
      exact .inr less

/-- The linear position grows with the column. -/
theorem Between.position_lt {j : Nat} {x' : ℚ} (between : scale.Between i x)
    (between' : scale.Between j x') (less : x < x') : scale.position i x < scale.position j x' := by
  have gap := sub_pos.2 (scale.column_lt (Nat.lt_succ_self i) between.next)
  have gap' := sub_pos.2 (scale.column_lt (Nat.lt_succ_self j) between'.next)
  have start : 0 ≤ (x' - scale.column j) / (scale.column (j + 1) - scale.column j) :=
    div_nonneg (sub_nonneg.2 between'.left) gap'.le
  have stop : (x - scale.column i) / (scale.column (i + 1) - scale.column i) ≤ 1 :=
    (div_le_one gap).2 (sub_le_sub_right between.right _)
  rw [position, position]
  rcases Nat.lt_trichotomy i j with before | rfl | after
  · have numbers : (i : ℚ) + 1 ≤ j := by exact_mod_cast before
    by_cases ends : x = scale.column (i + 1)
    · -- then the second point is not the start of its gap, or its gap starts later
      by_cases starts : x' = scale.column j
      · have later : i + 1 < j := by
          by_contra same
          obtain rfl : j = i + 1 := by omega
          exact less.ne (ends.trans starts.symm)
        have numbers : (i : ℚ) + 1 + 1 ≤ j := by exact_mod_cast later
        linarith
      · have positive : 0 < (x' - scale.column j) / (scale.column (j + 1) - scale.column j) :=
          div_pos (sub_pos.2 (lt_of_le_of_ne between'.left (Ne.symm starts))) gap'
        linarith
    · have stop : (x - scale.column i) / (scale.column (i + 1) - scale.column i) < 1 :=
        (div_lt_one gap).2 (sub_lt_sub_right (lt_of_le_of_ne between.right ends) _)
      linarith
  · have fractions := div_lt_div_of_pos_right (sub_lt_sub_right less (scale.column i)) gap
    linarith
  · -- the gaps are ordered as the points
    have ordered := scale.column_le (show j + 1 ≤ i from after) ((Nat.lt_succ_self i).trans between.next)
    exact absurd (between'.right.trans (ordered.trans between.left)) (not_le.2 less)

end VerticalScale

/-! ## The value for the two nearest lines -/

/-- Two parts of a distance, one taken away and one added, are the same only if it is zero. -/
theorem parts_apart_iff {k d a b : ℚ} (nonneg : 0 ≤ d) (a_pos : 0 < a) (b_pos : 0 < b) :
    k - d / a = k + d / b ↔ d = 0 := by
  constructor
  · intro same
    have taken : 0 ≤ d / a := div_nonneg nonneg a_pos.le
    have added : 0 ≤ d / b := div_nonneg nonneg b_pos.le
    have zero : d / a = 0 := by linarith
    rcases div_eq_zero_iff.1 zero with on | flat
    · exact on
    · exact absurd flat a_pos.ne'
  · rintro rfl
    simp

section Value

open VerticalScale

variable {scale : VerticalScale} {i : Nat} {x : ℚ} (between : scale.Between i x)

include between

theorem gap_pos : 0 < scale.column (i + 1) - scale.column i :=
  sub_pos.2 (scale.column_lt (Nat.lt_succ_self i) between.next)

/-- Between the lines next to the point the value is the linear one. -/
theorem positionBetween_bottom {a b : Nat} (bottom : a = i ∧ b = i + 1 ∨ a = i + 1 ∧ b = i) :
    positionBetween ⟨a, scale.distance x a, b, scale.distance x b⟩ = some (scale.position i x) := by
  have gap := gap_pos between
  have left := between.distance_left (le_refl i)
  have right := between.distance_right (le_refl (i + 1)) between.next
  -- both formulas count down from the line behind the point
  have value : ((i + 1 : Nat) : ℚ) -
      (scale.column (i + 1) - x) / (scale.column (i + 1) - scale.column i) = scale.position i x := by
    rw [position]
    field_simp
    push_cast
    ring
  rcases bottom with ⟨rfl, rfl⟩ | ⟨rfl, rfl⟩
  · have sum : x - scale.column a + (scale.column (a + 1) - x) =
        scale.column (a + 1) - scale.column a := by ring
    rw [positionBetween, left, right, sum, if_neg gap.ne', if_neg (by simp), ← value]
    rfl
  · have sum : scale.column (b + 1) - x + (x - scale.column b) =
        scale.column (b + 1) - scale.column b := by ring
    rw [positionBetween, left, right, sum, if_neg gap.ne', if_pos (by simp), ← value]
    rfl

/-- With both lines on the left the value is right only on the nearer of them. -/
theorem positionBetween_left_iff {b : Nat} (outer : b + 1 = i) :
    positionBetween ⟨i, scale.distance x i, b, scale.distance x b⟩ = some (scale.position i x) ↔
      x = scale.column i := by
  have gap := gap_pos between
  have ordered := scale.column_lt (show b < i by omega) ((Nat.lt_succ_self i).trans between.next)
  have nonneg := sub_nonneg.2 between.left
  have sum : 0 < x - scale.column i + (x - scale.column b) := by linarith
  rw [positionBetween, between.distance_left (le_refl i), between.distance_left (by omega),
    if_neg sum.ne', if_pos (by simp only; omega), position, Option.some.injEq]
  simp only [Int.cast_natCast]
  rw [parts_apart_iff nonneg sum gap, sub_eq_zero]

/-- With both lines on the right as well. -/
theorem positionBetween_right_iff (next : i + 2 < scale.size) :
    positionBetween ⟨(i + 1 : Nat), scale.distance x (i + 1), (i + 2 : Nat),
      scale.distance x (i + 2)⟩ = some (scale.position i x) ↔ x = scale.column (i + 1) := by
  have gap := gap_pos between
  have ordered := scale.column_lt (Nat.lt_succ_self (i + 1)) next
  have nonneg := sub_nonneg.2 between.right
  have sum : 0 < scale.column (i + 1) - x + (scale.column (i + 2) - x) := by linarith
  have value : scale.position i x =
      i + 1 - (scale.column (i + 1) - x) / (scale.column (i + 1) - scale.column i) := by
    rw [position]
    field_simp
    ring
  have found : ((i + 2 : Nat) : ℚ) - (scale.column (i + 2) - x) /
      (scale.column (i + 1) - x + (scale.column (i + 2) - x)) =
        i + 1 + (scale.column (i + 1) - x) /
          (scale.column (i + 1) - x + (scale.column (i + 2) - x)) := by
    have nonzero := sum.ne'
    field_simp
    push_cast
    ring
  rw [positionBetween, between.distance_right (le_refl (i + 1)) between.next,
    between.distance_right (by omega) next, if_neg sum.ne', if_neg (by simp only; omega),
    Option.some.injEq]
  simp only [Int.cast_natCast]
  rw [found, value, eq_comm, parts_apart_iff nonneg gap sum, sub_eq_zero, eq_comm]

end Value

/-! ## The function -/

/-- What is assumed of `DistancePl`: the distance from a vertical line is that of the columns. -/
def MeasuresColumns (distancePl : DistancePl) : Prop :=
  ∀ y x top bottom column, distancePl y x top column bottom column = some |x - column|

/-- `DistancePl` for vertical lines. -/
def columnDistance : DistancePl := fun _ x _ column _ _ => some |x - column|

/-- The loop over the lines is the scan of the distances. -/
theorem nearestLines_eq_scan {distancePl : DistancePl} (bound : ℚ) {x y : ℚ} {d : Nat → ℚ}
    (lines : List (Line ℚ)) (i : Nat)
    (measured : ∀ k line, lines[k]? = some line →
      distancePl y x line.topY line.topX line.bottomY line.bottomX = some (d (i + k))) :
    nearestLines distancePl x y i (Nearest.scan bound d i) lines =
      .ok (Nearest.scan bound d (i + lines.length)) := by
  induction lines generalizing i with
  | nil => rfl
  | cons line lines ih =>
      have rest := ih (i + 1) fun k other found => by
        rw [measured (k + 1) other found]
        congr 2
        omega
      rw [nearestLines, measured 0 line rfl]
      show nearestLines distancePl x y (i + 1) (Nearest.scan bound d (i + 1)) lines = _
      rw [rest, List.length_cons]
      congr 2
      omega

/-- The loop kept lines `a` and `b` of these distances: `a` is the first at the smallest, `b` is at the
smallest of the others. -/
structure TwoNearest (d : List ℚ) (kept : Nearest ℚ) (a b : Fin d.length) : Prop where
  first : kept.first = (a : Nat)
  firstKey : kept.firstKey = d.get a
  smallest : ∀ k, d.get a ≤ d.get k
  leftmost : ∀ k < a, d.get a < d.get k
  second : kept.second = (b : Nat)
  secondKey : kept.secondKey = d.get b
  other : b ≠ a
  smallestOther : ∀ k ≠ a, d.get b ≤ d.get k

/-- The scan of a list of keys, in terms of the list. -/
theorem twoNearest_scan {bound : ℚ} {d : List ℚ} (enough : 2 ≤ d.length)
    (low : ∀ e ∈ d, e < bound) :
    ∃ a b, TwoNearest d (Nearest.scan bound (fun k => d.getD k 0) d.length) a b := by
  have key : ∀ k : Fin d.length, d.getD k 0 = d.get k := fun k => List.getD_eq_getElem d 0 k.2
  obtain ⟨a, b, two, scanned⟩ := scan_spec (d := fun k => d.getD k 0) enough fun k below => by
    rw [key ⟨k, below⟩]
    exact low _ (List.get_mem d ⟨k, below⟩)
  have first : ∀ k : Fin d.length, (k : Nat) ≠ a →
      d.get ⟨a, two.first_lt⟩ < d.get k ∨ d.get ⟨a, two.first_lt⟩ = d.get k ∧ a < k := by
    intro k other
    have before := two.first k k.2 other
    rwa [Precedes, key k, key ⟨a, two.first_lt⟩] at before
  refine ⟨⟨a, two.first_lt⟩, ⟨b, two.second_lt⟩, ?_⟩
  rw [scanned]
  refine ⟨rfl, key ⟨a, two.first_lt⟩, fun k => ?_, fun k earlier => ?_, rfl, key ⟨b, two.second_lt⟩,
    fun same => two.ne (congrArg Fin.val same).symm, fun k other => ?_⟩
  · by_cases same : (k : Nat) = a
    · obtain rfl : k = ⟨a, two.first_lt⟩ := Fin.ext same
      exact le_rfl
    · rcases first k same with less | ⟨equal, -⟩
      · exact less.le
      · exact equal.le
  · have before : (k : Nat) < a := earlier
    rcases first k before.ne with less | ⟨-, later⟩
    · exact less
    · omega
  · by_cases same : (k : Nat) = b
    · obtain rfl : k = ⟨b, two.second_lt⟩ := Fin.ext same
      exact le_rfl
    · have after := (two.second k k.2 (fun first => other (Fin.ext first)) same).le
      rwa [key k, key ⟨b, two.second_lt⟩] at after

/-- **The two nearest lines.**  For every list of distances below `MAX_BATTERY_WIDTH`, two at least, the
loop of `get_distance_left` over the lines at these distances ends with the first line at the smallest
distance and a line at the smallest of the other distances, and the position is taken between them. -/
theorem two_nearest_lines (distancePl : DistancePl) (maxBatteryWidth : ℚ) {points : List ℚ}
    {lines : List (Line ℚ)} (read : linesRead points = some lines) (x y : ℚ) {d : List ℚ}
    (measured : lines.map (fun line =>
      distancePl y x line.topY line.topX line.bottomY line.bottomX) = d.map some)
    (enough : 2 ≤ d.length) (low : ∀ e ∈ d, e < maxBatteryWidth) :
    ∃ kept, nearestLines distancePl x y 0 ⟨-1, maxBatteryWidth, -1, maxBatteryWidth⟩ lines = .ok kept ∧
      (∃ a b, TwoNearest d kept a b) ∧
      getDistanceLeft distancePl maxBatteryWidth false points x y = .ok (positionBetween kept) := by
  have count : lines.length = d.length := by simpa using congrArg List.length measured
  have loop : nearestLines distancePl x y 0 ⟨-1, maxBatteryWidth, -1, maxBatteryWidth⟩ lines =
      .ok (Nearest.scan maxBatteryWidth (fun k => d.getD k 0) d.length) := by
    rw [← count, ← Nat.zero_add lines.length]
    apply nearestLines_eq_scan
    intro k line found
    have key := congrArg (fun keys => keys[k]?) measured
    simp only [List.getElem?_map, found, Option.map_some] at key
    obtain ⟨e, at_k, same⟩ := Option.map_eq_some_iff.1 key.symm
    rw [Nat.zero_add, List.getD_eq_getElem?_getD, at_k, ← same]
    rfl
  refine ⟨_, loop, twoNearest_scan enough low, ?_⟩
  rw [getDistanceLeft, read]
  simp [loop]

/-- Three lines out of order, the first two as far from the point. -/
theorem two_nearest_lines_tied :
    ∃ kept, nearestLines columnDistance 2 0 0 ⟨-1, 2000, -1, 2000⟩
        [⟨0, 0, 0, 100⟩, ⟨4, 0, 4, 100⟩, ⟨1, 0, 1, 100⟩] = .ok kept ∧
      (∃ a b, TwoNearest [2, 2, 1] kept a b) ∧
      getDistanceLeft columnDistance 2000 false [0, 0, 0, 100, 4, 0, 4, 100, 1, 0, 1, 100] 2 0 =
        .ok (positionBetween kept) :=
  two_nearest_lines columnDistance 2000 rfl 2 0 (by norm_num [columnDistance])
    (by decide) (by norm_num)

/-- The value of `get_distance_left` at a point between line `i` and the next is the linear one; its
assertion is on. -/
def ReadsScale (distancePl : DistancePl) (bound : ℚ) (scale : VerticalScale) (i : Nat) (x y : ℚ) :
    Prop :=
  getDistanceLeft distancePl bound true scale.points x y = .ok (some (scale.position i x))

section Function

open VerticalScale

variable {distancePl : DistancePl} (assumed : MeasuresColumns distancePl) {bound : ℚ}
  {scale : VerticalScale} {i : Nat} {x : ℚ} (y : ℚ)

include assumed

theorem nearestLines_scale :
    nearestLines distancePl x y 0 ⟨-1, bound, -1, bound⟩ scale.lines =
      .ok (Nearest.scan bound (scale.distance x) scale.size) := by
  have measured : ∀ k line, scale.lines[k]? = some line →
      distancePl y x line.topY line.topX line.bottomY line.bottomX =
        some (scale.distance x (0 + k)) := by
    intro k line found
    rw [scale.vertical line (List.mem_of_getElem? found), assumed, distance, Nat.zero_add,
      scale.column_eq found]
  have loop := nearestLines_eq_scan bound scale.lines 0 measured
  rw [Nat.zero_add] at loop
  exact loop

/-- **The assertion passes**, and the value is that of the first two lines of the scan. -/
theorem getDistanceLeft_scale (between : scale.Between i x)
    (near : ∀ k < scale.size, scale.distance x k < bound) :
    ∃ a b, FirstTwo (scale.distance x) scale.size a b ∧
      getDistanceLeft distancePl bound true scale.points x y =
        .ok (positionBetween ⟨a, scale.distance x a, b, scale.distance x b⟩) := by
  obtain ⟨a, b, two, scanned⟩ := scan_spec (n := scale.size) scale.two near
  have some_line : scale.lines ≠ [] := by
    intro none
    have two := scale.two
    rw [none] at two
    simp at two
  have adjacent : |((a : Nat) : Int) - (b : Nat)| = 1 := by
    rw [abs_eq zero_le_one]
    rcases between.valley.second_eq two with ⟨rfl, rfl | outer⟩ | ⟨rfl, rfl | rfl⟩ <;> omega
  refine ⟨a, b, two, ?_⟩
  rw [getDistanceLeft, points, linesRead_flatMap some_line]
  simp only [nearestLines_scale assumed, scanned]
  exact if_neg fun failed => failed.2 adjacent

/-- **The position is the linear one, exactly when.** -/
theorem readsScale_iff (between : scale.Between i x)
    (near : ∀ k < scale.size, scale.distance x k < bound) :
    ReadsScale distancePl bound scale i x y ↔
      x = scale.column i ∨ x = scale.column (i + 1) ∨ scale.NextNearest i x := by
  obtain ⟨a, b, two, computed⟩ := getDistanceLeft_scale assumed y between near
  have bottom := between.valley.bottom_iff two
  rw [ReadsScale, computed, Except.ok.injEq]
  have ordered := gap_pos between
  rw [← between.nextNearest_iff] at bottom
  rcases between.valley.second_eq two with ⟨rfl, rfl | outer⟩ | ⟨rfl, rfl | rfl⟩
  · exact iff_of_true (positionBetween_bottom between (.inl ⟨rfl, rfl⟩))
      (.inr (.inr (bottom.1 (.inl ⟨rfl, rfl⟩))))
  · rw [positionBetween_left_iff between outer]
    refine ⟨.inl, ?_⟩
    rintro (on | on | nearest)
    · exact on
    · -- on line `a + 1` that line would come first
      have first := (two.first (a + 1) between.next (by omega)).le
      rw [between.distance_left le_rfl, between.distance_right le_rfl between.next] at first
      linarith
    · rcases bottom.2 nearest with ⟨-, next⟩ | ⟨same, -⟩ <;> omega
  · exact iff_of_true (positionBetween_bottom between (.inr ⟨rfl, rfl⟩))
      (.inr (.inr (bottom.1 (.inr ⟨rfl, rfl⟩))))
  · rw [positionBetween_right_iff between two.second_lt]
    refine ⟨fun on => .inr (.inl on), ?_⟩
    rintro (on | on | nearest)
    · have first := (two.first i ((Nat.lt_succ_self i).trans between.next) (by omega)).le
      rw [between.distance_left le_rfl, between.distance_right le_rfl between.next] at first
      linarith
    · exact on
    · rcases bottom.2 nearest with ⟨same, -⟩ | ⟨-, next⟩ <;> omega

end Function

/-- **The position on the scale.**  For vertical lines from left to right, and for a point between line
`i` and the next with all lines nearer than `MAX_BATTERY_WIDTH`: the assertion of `get_distance_left`
passes and its value is the linear position exactly when the point is on one of the two lines, or line
`i - 1` is farther than line `i + 1` and line `i + 2` not nearer than line `i`.  The linear position grows
strictly with the column. -/
theorem scale_position_iff {distancePl : DistancePl} (assumed : MeasuresColumns distancePl)
    (maxBatteryWidth : ℚ) (scale : VerticalScale) :
    (∀ i x y, scale.Between i x → (∀ k < scale.size, scale.distance x k < maxBatteryWidth) →
      (ReadsScale distancePl maxBatteryWidth scale i x y ↔
        x = scale.column i ∨ x = scale.column (i + 1) ∨
          (i = 0 ∨ scale.column (i + 1) - x < x - scale.column (i - 1)) ∧
            (i + 2 = scale.size ∨ x - scale.column i ≤ scale.column (i + 2) - x))) ∧
      ∀ i j x x', scale.Between i x → scale.Between j x' → x < x' →
        scale.position i x < scale.position j x' := by
  refine ⟨fun i x y between near => ?_, fun i j x x' between between' less => ?_⟩
  · exact readsScale_iff assumed y between near
  · exact between.position_lt between' less

/-- Three vertical lines. -/
def threeLines (a b c : ℚ) (first : a < b) (second : b < c) : VerticalScale where
  lines := [⟨a, 0, a, 100⟩, ⟨b, 0, b, 100⟩, ⟨c, 0, c, 100⟩]
  two := by simp
  vertical := by simp
  increasing := by simp [first, second, first.trans second]

theorem scale_position_half :
    ReadsScale columnDistance 2000 (threeLines 0 1 2 (by decide) (by decide)) 0 (1 / 2) 0 := by
  have between : (threeLines 0 1 2 (by decide) (by decide)).Between 0 (1 / 2) :=
    ⟨by decide, by decide +kernel, by decide +kernel⟩
  refine ((scale_position_iff (fun _ _ _ _ _ => rfl) 2000 _).1 0 (1 / 2) 0 between ?_).2
    (.inr (.inr ⟨.inl rfl, .inr ?_⟩))
  · decide +kernel
  · decide +kernel

/-- **Both nearest lines on one side.**  Between the lines 1 and 2 of the columns 0, 1 and 10 the point 2
is nearest to the lines 0 and 1: its position comes out as 2/3, left of line 1. -/
theorem point_read_left_of_its_line :
    ¬ ∀ (scale : VerticalScale) (i : Nat) (x y : ℚ), scale.Between i x →
      (∀ k < scale.size, scale.distance x k < 2000) → ReadsScale columnDistance 2000 scale i x y := by
  intro always
  have between : (threeLines 0 1 10 (by norm_num) (by norm_num)).Between 1 2 :=
    ⟨by decide, by decide +kernel, by decide +kernel⟩
  have read := always (threeLines 0 1 10 (by norm_num) (by norm_num)) 1 2 0 between (by decide +kernel)
  have computed : getDistanceLeft columnDistance 2000 true
      (threeLines 0 1 10 (by norm_num) (by norm_num)).points 2 0 = .ok (some (2 / 3)) := by
    decide +kernel
  rw [ReadsScale, computed] at read
  revert read
  decide +kernel

/-! ## A whole calibration -/

theorem near_of_span {scale : VerticalScale} {bound : ℚ}
    (span : scale.column (scale.size - 1) - scale.column 0 < bound) {i : Nat} {x : ℚ}
    (between : scale.Between i x) : ∀ k < scale.size, scale.distance x k < bound := by
  intro k below
  have next := between.next
  have first := scale.column_le (Nat.zero_le i) ((Nat.lt_succ_self i).trans next)
  have last := scale.column_le (show i + 1 ≤ scale.size - 1 by omega) (by omega)
  refine lt_of_le_of_lt ?_ span
  rcases Nat.lt_or_ge i k with after | before
  · have bound := scale.column_le (show k ≤ scale.size - 1 by omega) (by omega)
    rw [between.distance_right after below]
    linarith [between.left]
  · have bound := scale.column_le (Nat.zero_le k) below
    rw [between.distance_left before]
    linarith [between.right]

section Gaps

variable {distancePl : DistancePl} (assumed : MeasuresColumns distancePl) {bound : ℚ}
  {scale : VerticalScale} (span : scale.column (scale.size - 1) - scale.column 0 < bound)

include assumed span

/-- Shortly behind a line that ends a narrower gap, both nearest lines are before the point. -/
theorem exists_misread_of_narrow {i : Nat} (inside : i + 2 < scale.size)
    (narrow : scale.column (i + 1) - scale.column i < scale.column (i + 2) - scale.column (i + 1)) :
    ∃ x, scale.Between (i + 1) x ∧ ¬ ReadsScale distancePl bound scale (i + 1) x 0 := by
  have first := scale.column_lt (Nat.lt_succ_self i) (show i + 1 < scale.size by omega)
  set x := (scale.column (i + 1) + (scale.column i + scale.column (i + 2)) / 2) / 2 with point
  have between : scale.Between (i + 1) x := ⟨inside, by linarith, by linarith⟩
  refine ⟨x, between, fun reads => ?_⟩
  rcases (readsScale_iff assumed 0 between (near_of_span span between)).1 reads with
    on | on | ⟨left | left, -⟩
  · linarith
  · linarith
  · omega
  · rw [Nat.add_sub_cancel] at left
    linarith

/-- Shortly before a line that starts a narrower gap, both nearest lines are behind the point. -/
theorem exists_misread_of_wide {i : Nat} (inside : i + 2 < scale.size)
    (wide : scale.column (i + 2) - scale.column (i + 1) < scale.column (i + 1) - scale.column i) :
    ∃ x, scale.Between i x ∧ ¬ ReadsScale distancePl bound scale i x 0 := by
  have second := scale.column_lt (Nat.lt_succ_self (i + 1)) inside
  set x := (scale.column (i + 1) + (scale.column i + scale.column (i + 2)) / 2) / 2 with point
  have between : scale.Between i x := ⟨by omega, by linarith, by linarith⟩
  refine ⟨x, between, fun reads => ?_⟩
  rcases (readsScale_iff assumed 0 between (near_of_span span between)).1 reads with
    on | on | ⟨-, right | right⟩
  · linarith
  · linarith
  · omega
  · linarith

/-- With equal gaps every point is read right. -/
theorem readsScale_of_equal_gaps
    (equal : ∀ i, i + 2 < scale.size → scale.column (i + 1) - scale.column i =
      scale.column (i + 2) - scale.column (i + 1)) {i : Nat} {x : ℚ} (y : ℚ)
    (between : scale.Between i x) : ReadsScale distancePl bound scale i x y := by
  refine (readsScale_iff assumed y between (near_of_span span between)).2 ?_
  by_cases on : x = scale.column i
  · exact .inl on
  · have behind := lt_of_le_of_ne between.left (Ne.symm on)
    refine .inr (.inr ⟨?_, ?_⟩)
    · cases i with
      | zero => exact .inl rfl
      | succ i =>
          have gaps := equal i between.next
          right
          rw [Nat.add_sub_cancel]
          linarith
    · by_cases last : i + 2 = scale.size
      · exact .inl last
      · have next := between.next
        have gaps := equal i (by omega)
        right
        linarith [between.right]

/-- **All points of a calibration are read right exactly when its gaps are equal.** -/
theorem scale_exact_iff_equal_gaps :
    (∀ i x y, scale.Between i x → ReadsScale distancePl bound scale i x y) ↔
      ∀ i, i + 2 < scale.size → scale.column (i + 1) - scale.column i =
        scale.column (i + 2) - scale.column (i + 1) := by
  constructor
  · intro reads i inside
    rcases lt_trichotomy (scale.column (i + 1) - scale.column i)
      (scale.column (i + 2) - scale.column (i + 1)) with narrow | same | wide
    · obtain ⟨x, between, misread⟩ := exists_misread_of_narrow assumed span inside narrow
      exact absurd (reads _ x 0 between) misread
    · exact same
    · obtain ⟨x, between, misread⟩ := exists_misread_of_wide assumed span inside wide
      exact absurd (reads _ x 0 between) misread
  · intro equal i x y between
    exact readsScale_of_equal_gaps assumed span equal y between

end Gaps

/-! ## The line number of the right edge -/

/-- The number of calibration lines is whole, or it is a number of hundredths. -/
theorem fract_getCalibrationLineNumFloat (lineNum : Int) :
    Int.fract (getCalibrationLineNumFloat lineNum) =
      if lineNum > 99999 then ((lineNum % 100 : Int) : ℚ) / 100 else 0 := by
  unfold getCalibrationLineNumFloat
  split
  · have parts : (lineNum : ℚ) / 100 = ((lineNum % 100 : Int) : ℚ) / 100 + (lineNum / 100 : Int) := by
      have whole : (lineNum : ℚ) = ((lineNum % 100 + 100 * (lineNum / 100) : Int) : ℚ) := by
        rw [Int.emod_add_mul_ediv]
      rw [whole]
      push_cast
      ring
    have low : (0 : ℚ) ≤ ((lineNum % 100 : Int) : ℚ) := by
      exact_mod_cast Int.emod_nonneg lineNum (by decide)
    have high : ((lineNum % 100 : Int) : ℚ) < 100 := by
      exact_mod_cast Int.emod_lt_of_pos lineNum (by decide)
    rw [parts, Int.fract_add_intCast, Int.fract_eq_self]
    exact ⟨by linarith, by linarith⟩
  · exact Int.fract_intCast lineNum

/-- The floor of a shifted number, whether the fractions carry or not. -/
theorem floor_shift (p c : ℚ) (total : Nat) :
    ⌊p + c - total⌋ = ⌊p⌋ + ⌊c⌋ - total + if 1 ≤ Int.fract p + Int.fract c then 1 else 0 := by
  have low := Int.fract_nonneg c
  have high := Int.fract_lt_one c
  have lowP := Int.fract_nonneg p
  have highP := Int.fract_lt_one p
  have wholeP := Int.floor_add_fract p
  have wholeC := Int.floor_add_fract c
  rw [Int.floor_eq_iff]
  split <;> push_cast <;> constructor <;> linarith

/-- Rounding down a whole number that is not negative, or a fraction below it, towards zero. -/
theorem truncate_sub_fract {n : Int} (nonneg : 0 ≤ n) {f : ℚ} (low : 0 < f) (high : f < 1) :
    truncate (n - f) = n ↔ n = 0 := by
  by_cases zero : n = 0
  · refine iff_of_true ?_ zero
    rw [zero, truncate, if_neg (by push_cast; linarith), Int.ceil_eq_iff]
    push_cast
    constructor <;> linarith
  · refine iff_of_false (fun same => ?_) zero
    have one : (1 : ℚ) ≤ n := by exact_mod_cast (by omega : 1 ≤ n)
    rw [truncate, if_pos (by linarith), Int.floor_eq_iff] at same
    linarith [same.1]

/-- **Shifting there and back.**  For `p ≥ 0`, flooring after a shift by `c`, shifting back and truncating
gives the floor of `p` exactly when the shift is whole, `p` is below 1, or the fractions carry. -/
theorem truncate_shift_iff {p : ℚ} (nonneg : 0 ≤ p) (c : ℚ) (total : Nat) :
    truncate ((⌊p + c - total⌋ : ℚ) + total - c) = ⌊p⌋ ↔
      Int.fract c = 0 ∨ p < 1 ∨ 1 ≤ Int.fract p + Int.fract c := by
  have low := Int.fract_nonneg c
  have high := Int.fract_lt_one c
  have wholeC := Int.floor_add_fract c
  have start : 0 ≤ ⌊p⌋ := Int.floor_nonneg.2 nonneg
  have start' : (0 : ℚ) ≤ ⌊p⌋ := by exact_mod_cast start
  rw [floor_shift]
  by_cases carry : 1 ≤ Int.fract p + Int.fract c
  · -- the floor of `p` and the rest of the fraction of the shift
    have highP := Int.fract_lt_one p
    refine iff_of_true ?_ (.inr (.inr carry))
    rw [if_pos carry, truncate, if_pos (by push_cast; linarith), Int.floor_eq_iff]
    push_cast
    constructor <;> linarith
  · have value : ((⌊p⌋ + ⌊c⌋ - total + 0 : Int) : ℚ) + total - c = ⌊p⌋ - Int.fract c := by
      push_cast
      linarith
    rw [if_neg carry, value]
    by_cases whole : Int.fract c = 0
    · refine iff_of_true ?_ (.inl whole)
      rw [whole, sub_zero, truncate, if_pos start', Int.floor_intCast]
    · have small : ⌊p⌋ = 0 ↔ p < 1 :=
        ⟨fun zero => (Int.floor_eq_zero_iff.1 zero).2, fun less => Int.floor_eq_zero_iff.2 ⟨nonneg, less⟩⟩
      rw [truncate_sub_fract start (lt_of_le_of_ne low (Ne.symm whole)) high, small]
      simp [whole, carry]

section RightEdge

variable (consts : Constants) (asserts : Bool) (image : Image) (this : RollingPostionData)

/-- `measure_battery_width` gets as far as the right edge, and `get_distance_left` returns `p` for it. -/
structure MeasuresRightEdge (p : ℚ) : Prop where
  left : ∃ roi l, getRollingROI this.calibrationLinesPoints consts.roiLeftStartLineNum
      consts.roiLeftEndLineNum = .ok roi ∧
    edgeAnswer consts asserts image this.calibrationLinesPoints this.calibrationLineNum .left roi =
      .ok l
  right : ∃ roi rows, getRollingROI this.calibrationLinesPoints
      (totalLineNum this.calibrationLinesPoints + consts.roiRightStartLineNum)
      (totalLineNum this.calibrationLinesPoints + consts.roiRightEndLineNum) = .ok roi ∧
    image.edges .right roi = some rows ∧
    getDistanceLeft image.distancePl consts.maxBatteryWidth asserts this.calibrationLinesPoints
      (edgePoint .right rows).1 (edgePoint .right rows).2 = .ok (some p)

variable {consts asserts image this} {p : ℚ}

/-- What is stored then: the position is shifted by the number of lines, floored, shifted back and
truncated. -/
theorem wp_measureBatteryWidth_rightEdge (measures : MeasuresRightEdge consts asserts image this p)
    {P : Int → Prop} :
    wp (measureBatteryWidth consts asserts image) (fun _ after => P after.rightEdgeLineNum)
        (fun _ _ => False) this ↔
      P (truncate ((⌊p + getCalibrationLineNumFloat this.calibrationLineNum -
          totalLineNum this.calibrationLinesPoints⌋ : ℚ) +
        totalLineNum this.calibrationLinesPoints -
          getCalibrationLineNumFloat this.calibrationLineNum)) := by
  obtain ⟨leftRoi, l, leftLines, leftSeen⟩ := measures.left
  obtain ⟨rightRoi, rows, rightLines, rightRows, position⟩ := measures.right
  have rightSeen : edgeAnswer consts asserts image this.calibrationLinesPoints
      this.calibrationLineNum .right rightRoi =
        .ok (some (p + getCalibrationLineNumFloat this.calibrationLineNum -
          totalLineNum this.calibrationLinesPoints)) := by
    simp only [edgeAnswer, rightRows, getDistanceRight, position]
    rfl
  unfold measureBatteryWidth setLeftEdge setRightEdge
  simp only [wp_catchAll, wp_bind, wp_get, leftLines, wp_lift_ok, wp_getRollingEdgeVertical, leftSeen,
    wp_modify, rightLines, rightSeen, wp_pure, toInt, Option.map_some]

end RightEdge

/-- **The line number of the right edge.**  Whenever `get_distance_left` returns `p ≥ 0` for the right
edge, `measure_battery_width` stores the floor of `p` exactly when the number of calibration lines is not
counted in hundredths or is a whole number of them, `p` is below 1, or the fractions of `p` and of the
number carry. -/
theorem right_edge_line_num_iff {consts : Constants} {asserts : Bool} {image : Image}
    {this : RollingPostionData} {p : ℚ} (measures : MeasuresRightEdge consts asserts image this p)
    (nonneg : 0 ≤ p) :
    wp (measureBatteryWidth consts asserts image) (fun _ after => after.rightEdgeLineNum = ⌊p⌋)
        (fun _ _ => False) this ↔
      this.calibrationLineNum ≤ 99999 ∨ 100 ∣ this.calibrationLineNum ∨ p < 1 ∨
        1 ≤ Int.fract p + ((this.calibrationLineNum % 100 : Int) : ℚ) / 100 := by
  rw [wp_measureBatteryWidth_rightEdge measures (P := fun stored => stored = ⌊p⌋),
    truncate_shift_iff nonneg, fract_getCalibrationLineNumFloat]
  by_cases hundredths : this.calibrationLineNum > 99999
  · rw [if_pos hundredths, div_eq_zero_iff]
    have whole : ((this.calibrationLineNum % 100 : Int) : ℚ) = 0 ∨ (100 : ℚ) = 0 ↔
        100 ∣ this.calibrationLineNum := by
      rw [Int.dvd_iff_emod_eq_zero]
      simp
    rw [whole]
    simp [not_le.2 hundredths]
  · rw [if_neg hundredths]
    simp [not_lt.1 hundredths]

/-- Three vertical lines, the edges looked for between the first and between the last two. -/
def sampleConstants : Constants where
  maxBatteryWidth := 2000
  roiLeftStartLineNum := 0
  roiLeftEndLineNum := 1
  roiRightStartLineNum := -2
  roiRightEndLineNum := -1
  leftEarToEdgeMin := 0
  leftEarToEdgeMax := 1
  rightEarToEdgeMin := 1
  rightEarToEdgeMax := 2

/-- A winding from column 5 to column 12. -/
def sampleImage : Image where
  loaded := true
  edges direct _ := match direct with
    | .left => some [some (50, 5)]
    | .right => some [some (50, 12)]
  distancePl := columnDistance
  ear _ _ := true
  undefinedToInt := 0

/-- Lines at the columns 0, 10 and 20. -/
def samplePoints : List ℚ := [0, 0, 0, 100, 10, 0, 10, 100, 20, 0, 20, 100]

def sampleObject (lineNum : Int) : RollingPostionData where
  calibrationLinesPoints := samplePoints
  calibrationLineNum := lineNum
  leftEdgeX := some 0
  rightEdgeX := some 0
  leftEdgeLineNum := 0
  rightEdgeLineNum := 0
  batteryWidth := none
  isRollingOk := false

/-- The right edge is at 6/5, whatever the number of lines. -/
theorem sampleObject_measures (lineNum : Int) :
    MeasuresRightEdge sampleConstants true sampleImage (sampleObject lineNum) (6 / 5) := by
  have leftRoi : getRollingROI samplePoints 0 1 = .ok ⟨0, 10, 0, 100⟩ := by decide +kernel
  have rightRoi : getRollingROI samplePoints
      (totalLineNum samplePoints + sampleConstants.roiRightStartLineNum)
      (totalLineNum samplePoints + sampleConstants.roiRightEndLineNum) = .ok ⟨10, 20, 0, 100⟩ := by
    decide +kernel
  have left : getDistanceLeft columnDistance 2000 true samplePoints
      (edgePoint .left [some (50, 5)]).1 (edgePoint .left [some (50, 5)]).2 = .ok (some (1 / 2)) := by
    decide +kernel
  have right : getDistanceLeft columnDistance 2000 true samplePoints
      (edgePoint .right [some (50, 12)]).1 (edgePoint .right [some (50, 12)]).2 =
        .ok (some (6 / 5)) := by
    decide +kernel
  refine ⟨⟨_, some (1 / 2), leftRoi, ?_⟩, ⟨_, _, rightRoi, rfl, right⟩⟩
  simp only [edgeAnswer, sampleImage, sampleConstants, sampleObject, left]

theorem right_edge_line_num_forty :
    wp (measureBatteryWidth sampleConstants true sampleImage)
      (fun _ after => after.rightEdgeLineNum = ⌊(6 / 5 : ℚ)⌋) (fun _ _ => False) (sampleObject 40) :=
  (right_edge_line_num_iff (sampleObject_measures 40) (by norm_num)).2 (.inl (by decide))

/-- **One line off.**  With 1000.5 calibration lines the right edge at 6/5 is stored as line 0. -/
theorem right_edge_stored_as_line_before :
    ¬ ∀ (this : RollingPostionData) (p : ℚ), 0 ≤ p →
      MeasuresRightEdge sampleConstants true sampleImage this p →
      wp (measureBatteryWidth sampleConstants true sampleImage)
        (fun _ after => after.rightEdgeLineNum = ⌊p⌋) (fun _ _ => False) this := by
  intro always
  have stored := always (sampleObject 100050) (6 / 5) (by norm_num) (sampleObject_measures 100050)
  rw [wp_measureBatteryWidth_rightEdge (sampleObject_measures 100050)
    (P := fun stored => stored = ⌊(6 / 5 : ℚ)⌋)] at stored
  revert stored
  decide +kernel

end TizerVision.Winding
