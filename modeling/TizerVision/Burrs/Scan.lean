/-
# Burrs.Scan — the rows a burr search measures and the positions it reports

Three functions move a measure object down the image in steps of two rows and keep the column of the edge
in an array: `actionTaichi` and `action` of `halconWorker`, and `doMeasured` of the DLL, which is a second
copy of `actionTaichi`.  The loop counts from 1, the array from 0.

* `scanRows_eq` — the rows measured are 2, 4, and so on up to twice the number of scan lines.
* `scans_alike_iff` — they are inside the image, and the two Taichi copies measure the same rows, exactly
  when the height is odd and the width is the height or one less.
* `burr_positions_measured_iff` — the reported positions were measured exactly when each burr has the same
  column in the row above the one its column is from.
-/
import Mathlib.Algebra.Order.Field.Rat
import Mathlib.Data.List.Basic

namespace TizerVision.Burrs

set_option autoImplicit false

/-! ## The rows -/

/-- The functions that scan an image. -/
inductive Scanner where
  | actionTaichi
  | action
  | doMeasured
deriving DecidableEq, Repr

/-- `hv_MeasureStartRow` and `hv_MeasureLength2`, alike in all three. -/
def measureStartRow : Nat := 0

def measureLength2 : Nat := 1

/-- `hv_FindEdgeNum`: half the height in the service, half the width in the DLL. -/
def findEdgeNum (scanner : Scanner) (width height : Nat) : Nat :=
  match scanner with
  | .actionTaichi => height / measureLength2 / 2
  | .action => height / measureLength2 / 2
  | .doMeasured => width / measureLength2 / 2

theorem findEdgeNum_actionTaichi (width height : Nat) :
    findEdgeNum .actionTaichi width height = height / 2 := by
  rw [findEdgeNum, measureLength2, Nat.div_one]

theorem findEdgeNum_doMeasured (width height : Nat) :
    findEdgeNum .doMeasured width height = width / 2 := by
  rw [findEdgeNum, measureLength2, Nat.div_one]

/-- The loop over `hv_Index`, with the rows the measure object has been moved to; `Continue` includes the
end value, and the loop ends when the array is full. -/
def scanLoop (endVal size : Nat) : Nat → Nat → List Nat → List Nat
  | 0, _, rows => rows
  | fuel + 1, index, rows =>
      if index ≤ endVal then
        let rows := rows ++ [measureStartRow + 2 * measureLength2 * index]
        if rows.length ≥ size then rows else scanLoop endVal size fuel (index + 1) rows
      else rows

/-- The rows measured with `hv_FindEdgeNum` scan lines; the array has that size. -/
def scanRows (findEdgeNum : Nat) : List Nat := scanLoop findEdgeNum findEdgeNum findEdgeNum 1 []

/-- Turn `k` of the loop has measured the rows before it. -/
theorem scanLoop_eq (n : Nat) (fuel k : Nat) (inside : k ≤ n) (enough : fuel = n - k) :
    scanLoop n n fuel (k + 1) ((List.range k).map fun j => 2 * (j + 1)) =
      (List.range n).map fun j => 2 * (j + 1) := by
  induction fuel generalizing k with
  | zero =>
      obtain rfl : k = n := by omega
      rfl
  | succ fuel ih =>
      have rows : ((List.range k).map fun j => 2 * (j + 1)) ++
          [measureStartRow + 2 * measureLength2 * (k + 1)] =
            (List.range (k + 1)).map fun j => 2 * (j + 1) := by
        rw [List.range_succ, List.map_append]
        simp [measureStartRow, measureLength2]
      rw [scanLoop, if_pos (by omega), rows]
      simp only [List.length_map, List.length_range]
      split
      · rw [show k + 1 = n by omega]
      · exact ih (k + 1) (by omega) (by omega)

/-- **The rows measured.** -/
theorem scanRows_eq (n : Nat) : scanRows n = (List.range n).map fun k => 2 * (k + 1) :=
  scanLoop_eq n n 0 (Nat.zero_le n) rfl

theorem mem_scanRows {n row : Nat} : row ∈ scanRows n ↔ ∃ k, 1 ≤ k ∧ k ≤ n ∧ row = 2 * k := by
  rw [scanRows_eq, List.mem_map]
  constructor
  · rintro ⟨k, below, rfl⟩
    rw [List.mem_range] at below
    exact ⟨k + 1, by omega, by omega, rfl⟩
  · rintro ⟨k, positive, inside, rfl⟩
    exact ⟨k - 1, List.mem_range.2 (by omega), by omega⟩

/-- A row the measure object is placed in: the one it is generated in, and those it is moved to. -/
def PlacedIn (scanner : Scanner) (width height row : Nat) : Prop :=
  row = measureStartRow ∨ row ∈ scanRows (findEdgeNum scanner width height)

/-- The scans of an image stay inside it, and the two Taichi copies measure the same rows. -/
structure ScansAlike (width height : Nat) : Prop where
  inside : ∀ scanner row, PlacedIn scanner width height row → row < height
  alike : ∀ row, row ∈ scanRows (findEdgeNum .actionTaichi width height) ↔
    row ∈ scanRows (findEdgeNum .doMeasured width height)

/-- Two scans measure the same rows only with the same number of scan lines. -/
theorem le_of_scanRows_subset {m n : Nat} (subset : ∀ row, row ∈ scanRows m → row ∈ scanRows n) :
    m ≤ n := by
  by_cases none : m = 0
  · omega
  · have last := subset (2 * m) (mem_scanRows.2 ⟨m, by omega, le_rfl, rfl⟩)
    obtain ⟨k, -, inside, same⟩ := mem_scanRows.1 last
    omega

/-- **Scan rows.**  For every size of the measured image: all rows the three functions place the measure
object in are inside the image, and `actionTaichi` and `doMeasured` measure the same rows, exactly when the
height is odd and the width is the height or one less. -/
theorem scans_alike_iff (width height : Nat) :
    ScansAlike width height ↔ height % 2 = 1 ∧ (width = height ∨ width + 1 = height) := by
  constructor
  · rintro ⟨inside, alike⟩
    rw [findEdgeNum_actionTaichi, findEdgeNum_doMeasured] at alike
    have odd : height % 2 = 1 := by
      have first := inside .actionTaichi 0 (.inl rfl)
      by_cases short : height / 2 = 0
      · omega
      · have last := inside .actionTaichi (2 * (height / 2))
          (.inr (by rw [findEdgeNum_actionTaichi]; exact mem_scanRows.2 ⟨_, by omega, le_rfl, rfl⟩))
        omega
    have less := le_of_scanRows_subset fun row => (alike row).1
    have more := le_of_scanRows_subset fun row => (alike row).2
    exact ⟨odd, by omega⟩
  · rintro ⟨odd, near⟩
    have halves : width / 2 = height / 2 := by omega
    have lines : ∀ scanner, findEdgeNum scanner width height = height / 2 := by
      intro scanner
      cases scanner
      · exact findEdgeNum_actionTaichi width height
      · exact findEdgeNum_actionTaichi width height
      · rw [findEdgeNum_doMeasured, halves]
    refine ⟨?_, fun row => by rw [lines, lines]⟩
    rintro scanner row (rfl | measured)
    · rw [measureStartRow]
      omega
    · rw [lines scanner] at measured
      obtain ⟨k, -, inside, rfl⟩ := mem_scanRows.1 measured
      omega

/-- **The last row of an even image** is outside it: row 4 of an image of height 4. -/
theorem even_height_scanned_outside :
    ¬ ∀ width height : Nat, 4 ≤ height → ScansAlike width height := by
  intro always
  have inside := (always 4 4 le_rfl).inside .actionTaichi 4 (.inr (by decide))
  exact absurd inside (by decide)

/-! ## The array -/

/-- What `MeasurePos` answers in each row: nothing, or the row of the edge and the integer part of its
column. -/
abbrev Edges := Nat → Option (ℚ × Int)

/-- The edge column found in a row: `hv_RowEdge > 0` is asked first. -/
def foundAt (edges : Edges) (row : Nat) : Option Int :=
  match edges row with
  | some (rowEdge, column) => if rowEdge > 0 then some column else none
  | none => none

/-- `left` after the scan: the column found in each row, or 0; behind its end is other memory. -/
def leftArray (edges : Edges) (memory : Nat → Int) (findEdgeNum : Nat) (k : Nat) : Int :=
  match (scanRows findEdgeNum)[k]? with
  | some row => (foundAt edges row).getD 0
  | none => memory k

/-- Element `k` is from row `2 * k + 2`. -/
theorem leftArray_eq {edges : Edges} {memory : Nat → Int} {n k : Nat} (inside : k < n) :
    leftArray edges memory n k = (foundAt edges (2 * k + 2)).getD 0 := by
  have row : (scanRows n)[k]? = some (2 * (k + 1)) := by
    rw [scanRows_eq, List.getElem?_map, List.getElem?_range inside]
    rfl
  rw [leftArray, row]
  rfl

/-! ## The windows -/

/-- `step` -/
def step : Nat := 100

/-- The starts of the windows, from `i` on. -/
def windowsFrom (n : Nat) : Nat → Nat → List Nat
  | 0, _ => []
  | fuel + 1, i => if i < n then i :: windowsFrom n fuel (i + step - 1) else []

/-- `for (int i = 0; i < n; i = i + step - 1)` -/
def windows (n : Nat) : List Nat := windowsFrom n n 0

theorem mem_windowsFrom {n fuel start i : Nat} :
    i ∈ windowsFrom n fuel start ↔ ∃ w < fuel, i = start + 99 * w ∧ i < n := by
  induction fuel generalizing start with
  | zero => simp [windowsFrom]
  | succ fuel ih =>
      rw [windowsFrom]
      split
      · rename_i below
        rw [List.mem_cons, ih]
        constructor
        · rintro (rfl | ⟨w, less, rfl, inside⟩)
          · exact ⟨0, by omega, by omega, below⟩
          · rw [step] at inside ⊢
            exact ⟨w + 1, by omega, by omega, inside⟩
        · rintro ⟨w, less, rfl, inside⟩
          cases w with
          | zero => exact .inl rfl
          | succ w => exact .inr ⟨w, by omega, by rw [step]; omega, inside⟩
      · rename_i beyond
        constructor
        · intro none
          cases none
        · rintro ⟨w, -, rfl, inside⟩
          omega

/-- **The windows** start at the multiples of 99. -/
theorem mem_windows {n i : Nat} : i ∈ windows n ↔ ∃ w, i = 99 * w ∧ 99 * w < n := by
  rw [windows, mem_windowsFrom]
  constructor
  · rintro ⟨w, -, rfl, inside⟩
    exact ⟨w, by omega, by omega⟩
  · rintro ⟨w, rfl, inside⟩
    exact ⟨w, by omega, by omega, inside⟩

/-! ## The burrs of the Taichi search -/

/-- What is used of `BaseFunctions`: an array, its size and a window to an index, negative for none, or to
an average. -/
structure Helpers where
  findInflection : (Nat → Int) → Nat → Nat → Nat → Int
  getArrayAverage : (Nat → Int) → Nat → Nat → Nat → Int

/-- What is assumed of `findInflection`: an index it returns is one of the array, inside the window. -/
def Helpers.FindsInside (helpers : Helpers) : Prop :=
  ∀ array n start stop, 0 ≤ helpers.findInflection array n start stop →
    start ≤ (helpers.findInflection array n start stop).toNat ∧
      (helpers.findInflection array n start stop).toNat < stop ∧
      (helpers.findInflection array n start stop).toNat < n

/-- The arguments of `insertBurrSorted`. -/
structure Burr where
  x : Int
  y : Int
  length : ℚ
deriving DecidableEq, Repr

/-- `adjustDis` with `doAdjust` false, as all calls have it. -/
def adjustDis (value : Int) (zoom : ℚ) : ℚ := value * zoom

section Taichi

variable (helpers : Helpers) (limit : Int) (zoom : ℚ)

/-- One window of the search. -/
def taichiWindow (n : Nat) (left : Nat → Int) (inserted : List Burr) (i : Nat) : List Burr :=
  let inflection := helpers.findInflection left n i (i + step)
  if inflection < 0 then inserted
  else
    let leftAvg := helpers.getArrayAverage left n i (i + step)
    if left inflection.toNat - limit > leftAvg then
      inserted ++ [⟨left inflection.toNat, inflection * 2,
        adjustDis (left inflection.toNat - leftAvg) zoom⟩]
    else inserted

/-- The burrs inserted for an array of `n` columns. -/
def taichiBurrs (n : Nat) (left : Nat → Int) : List Burr :=
  (windows n).foldl (taichiWindow helpers limit zoom n left) []

variable (width height : Nat) (edges : Edges) (memory : Nat → Int)

/-- The burrs `actionTaichi` inserts for an image of the given size. -/
def actionTaichiBurrs : List Burr :=
  taichiBurrs helpers limit zoom (findEdgeNum .actionTaichi width height)
    (leftArray edges memory (findEdgeNum .actionTaichi width height))

/-- The burrs `doMeasured` inserts. -/
def doMeasuredBurrs : List Burr :=
  taichiBurrs helpers limit zoom (findEdgeNum .doMeasured width height)
    (leftArray edges memory (findEdgeNum .doMeasured width height))

/-- Each burr is where an edge was found: its row was measured, and its column is the one found there. -/
def MeasuredAt (n : Nat) (burrs : List Burr) : Prop :=
  ∀ burr ∈ burrs, ∃ row ∈ scanRows n, (row : Int) = burr.y ∧ foundAt edges row = some burr.x

/-- In the window that starts at `i`, a burr is seen at index `k`. -/
def SeenAt (n : Nat) (left : Nat → Int) (i k : Nat) : Prop :=
  helpers.findInflection left n i (i + step) = k ∧
    left k - limit > helpers.getArrayAverage left n i (i + step)

variable {helpers limit zoom}

/-- One window adds the burr seen in it. -/
theorem mem_taichiWindow {n : Nat} {left : Nat → Int} {inserted : List Burr} {i : Nat} {burr : Burr} :
    burr ∈ taichiWindow helpers limit zoom n left inserted i ↔
      burr ∈ inserted ∨ ∃ k, SeenAt helpers limit n left i k ∧
        burr = ⟨left k, 2 * k, adjustDis (left k - helpers.getArrayAverage left n i (i + step)) zoom⟩ := by
  unfold taichiWindow SeenAt
  by_cases none : helpers.findInflection left n i (i + step) < 0
  · rw [if_pos none]
    constructor
    · exact .inl
    · rintro (earlier | ⟨k, ⟨found, -⟩, -⟩)
      · exact earlier
      · omega
  · obtain ⟨k, found⟩ := Int.eq_ofNat_of_zero_le (not_lt.1 none)
    rw [if_neg none, found, Int.toNat_natCast]
    by_cases seen : left k - limit > helpers.getArrayAverage left n i (i + step)
    · rw [if_pos seen, List.mem_append, List.mem_singleton, Int.mul_comm]
      refine or_congr_right ⟨fun same => ⟨k, ⟨rfl, seen⟩, same⟩, ?_⟩
      rintro ⟨other, ⟨same, -⟩, rfl⟩
      obtain rfl : k = other := by omega
      rfl
    · rw [if_neg seen]
      constructor
      · exact .inl
      · rintro (earlier | ⟨other, ⟨same, above⟩, -⟩)
        · exact earlier
        · obtain rfl : k = other := by omega
          exact absurd above seen

/-- The burrs inserted are those seen in the windows. -/
theorem mem_taichiBurrs {n : Nat} {left : Nat → Int} {burr : Burr} :
    burr ∈ taichiBurrs helpers limit zoom n left ↔
      ∃ i ∈ windows n, ∃ k, SeenAt helpers limit n left i k ∧
        burr = ⟨left k, 2 * k, adjustDis (left k - helpers.getArrayAverage left n i (i + step)) zoom⟩ := by
  have folded : ∀ (starts : List Nat) (inserted : List Burr),
      burr ∈ starts.foldl (taichiWindow helpers limit zoom n left) inserted ↔
        burr ∈ inserted ∨ ∃ i ∈ starts, ∃ k, SeenAt helpers limit n left i k ∧
          burr = ⟨left k, 2 * k,
            adjustDis (left k - helpers.getArrayAverage left n i (i + step)) zoom⟩ := by
    intro starts
    induction starts with
    | nil => simp
    | cons i starts ih =>
        intro inserted
        rw [List.foldl_cons, ih, mem_taichiWindow, or_assoc, List.exists_mem_cons_iff]
  rw [taichiBurrs, folded]
  simp

/-- **What is reported was measured, exactly when** the column of each burr is also found in the row above
the one it is from. -/
theorem measuredAt_iff (inside : helpers.FindsInside) (n : Nat) :
    MeasuredAt edges n (taichiBurrs helpers limit zoom n (leftArray edges memory n)) ↔
      ∀ w k, 99 * w < n → SeenAt helpers limit n (leftArray edges memory n) (99 * w) k →
        1 ≤ k ∧ foundAt edges (2 * k) = some ((foundAt edges (2 * k + 2)).getD 0) := by
  have bound : ∀ {i k}, SeenAt helpers limit n (leftArray edges memory n) i k → k < n := by
    rintro i k ⟨found, -⟩
    have index := inside (leftArray edges memory n) n i (i + step)
    rw [found, Int.toNat_natCast] at index
    exact (index (Int.natCast_nonneg k)).2.2
  constructor
  · intro measured w k starts seen
    obtain ⟨row, placed, atRow, found⟩ := measured _
      (mem_taichiBurrs.2 ⟨99 * w, mem_windows.2 ⟨w, rfl, starts⟩, k, seen, rfl⟩)
    obtain ⟨line, positive, -, rfl⟩ := mem_scanRows.1 placed
    obtain rfl : line = k := by
      simp only at atRow
      omega
    rw [leftArray_eq (bound seen)] at found
    exact ⟨positive, found⟩
  · intro condition burr inserted
    obtain ⟨i, visited, k, seen, rfl⟩ := mem_taichiBurrs.1 inserted
    obtain ⟨w, rfl, starts⟩ := mem_windows.1 visited
    obtain ⟨positive, found⟩ := condition w k starts seen
    have below := bound seen
    refine ⟨2 * k, mem_scanRows.2 ⟨k, positive, by omega, rfl⟩, by simp, ?_⟩
    rw [leftArray_eq below]
    exact found

/-- **Reported positions.**  If `findInflection` returns indices inside its window: for every image the
burrs of `actionTaichi`, and likewise those of `doMeasured`, are at rows that were measured and at the
columns found there, exactly when each burr, seen at index `k` of the array, has `k ≥ 1` and the column
found in row `2 * k` is the one the array has from row `2 * k + 2`. -/
theorem burr_positions_measured_iff (inside : helpers.FindsInside) :
    (MeasuredAt edges (findEdgeNum .actionTaichi width height)
        (actionTaichiBurrs helpers limit zoom width height edges memory) ↔
      ∀ w k, 99 * w < height / 2 →
        SeenAt helpers limit (height / 2) (leftArray edges memory (height / 2)) (99 * w) k →
          1 ≤ k ∧ foundAt edges (2 * k) = some ((foundAt edges (2 * k + 2)).getD 0)) ∧
      (MeasuredAt edges (findEdgeNum .doMeasured width height)
        (doMeasuredBurrs helpers limit zoom width height edges memory) ↔
      ∀ w k, 99 * w < width / 2 →
        SeenAt helpers limit (width / 2) (leftArray edges memory (width / 2)) (99 * w) k →
          1 ≤ k ∧ foundAt edges (2 * k) = some ((foundAt edges (2 * k + 2)).getD 0)) := by
  rw [actionTaichiBurrs, doMeasuredBurrs, findEdgeNum_actionTaichi, findEdgeNum_doMeasured]
  exact ⟨measuredAt_iff edges memory inside _, measuredAt_iff edges memory inside _⟩

end Taichi

/-- The second element of a window if there is one, and an average of 0. -/
def secondElement : Helpers where
  findInflection _ n start stop := if start + 1 < n ∧ start + 1 < stop then start + 1 else -1
  getArrayAverage _ _ _ _ := 0

theorem secondElement_findsInside : secondElement.FindsInside := by
  intro array n start stop found
  simp only [secondElement] at found ⊢
  split at found
  · rename_i below
    rw [if_pos below]
    omega
  · omega

/-- A straight edge at column 60, in an image of 7 rows. -/
theorem straight_edge_measured :
    MeasuredAt (fun _ => some (1, 60)) (findEdgeNum .actionTaichi 7 7)
      (actionTaichiBurrs secondElement 10 1 7 7 (fun _ => some (1, 60)) fun _ => 0) := by
  refine (burr_positions_measured_iff 7 7 (fun _ => some (1, 60)) (fun _ => 0)
    secondElement_findsInside).1.2 fun w k _ seen => ?_
  have index := seen.1
  simp only [secondElement] at index
  refine ⟨?_, rfl⟩
  split at index <;> omega

/-- A burr in row 4 only. -/
def burrInRowFour : Edges := fun row => if row = 4 then some (4, 100) else some (1, 10)

/-- **The burr of row 4 is reported for row 2.**  Its column is 100; in row 2 the edge is at 10. -/
theorem burr_reported_two_rows_above :
    ¬ ∀ edges : Edges, MeasuredAt edges (findEdgeNum .actionTaichi 7 7)
      (actionTaichiBurrs secondElement 10 1 7 7 edges fun _ => 0) := by
  intro always
  obtain ⟨row, -, atRow, found⟩ := always burrInRowFour ⟨100, 2, 100⟩ (by decide +kernel)
  obtain rfl : row = 2 := by
    simp only at atRow
    omega
  revert found
  decide +kernel

end TizerVision.Burrs
