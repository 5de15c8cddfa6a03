/-
# Calibration.Points — the calibration points as one program writes and another reads them

`calibrationWorker` finds the bars of a calibration image and writes eight numbers a bar, one a line:
the line through the left ends of its top and bottom rows, then the line through the right ends.
`CalibrationDataHelper` reads all numbers of the file back, and `get_distance_left` takes them in
groups of four.  The two share no description of the file.

* `calibration_reads_back_iff` — the groups are the two lines of each bar that was processed, in order,
  exactly when at least one bar was.
* `empty_file_overruns` — with no bar processed the reader's bound `size() - 3` wraps round.

The operators of Halcon are parameters (`Halcon`), and `Halcon.Documented` names what is assumed of
them.
-/
import Mathlib.Algebra.Order.Ring.Int
import TizerVision.Theory.Extrema
import Mathlib.Data.List.Sort

namespace TizerVision.Calibration

open TizerVision.Theory

set_option autoImplicit false

/-! ## Contours and bars -/

structure Point (R : Type) where
  row : R
  col : R
deriving DecidableEq, Repr

variable {R φ τ : Type} [LinearOrder R] [Zero R]

/-- The points of a contour: there is one, and the columns are those of the image. -/
structure Contour (width : R) where
  points : List (Point R)
  nonempty : points ≠ []
  inside : ∀ p ∈ points, 0 ≤ p.col ∧ p.col < width

/-- A region of the image: its left column, and its contour unless a Halcon call made for it throws. -/
structure Bar (width : R) where
  column1 : R
  contour : Option (Contour width)

/-- `TupleSelect`: the elements at the given positions. -/
def tupleSelect {α : Type} (xs : List α) (indices : List Nat) : List α := indices.filterMap (xs[·]?)

/-- The operators of Halcon the writer calls, with `none` for a call that throws. -/
structure Halcon (width : R) where
  tupleSortIndex : List R → List Nat
  tupleMin : List R → Option R
  tupleMax : List R → Option R
  /-- on `column1`, with one value for both bounds -/
  selectShape : List (Bar width) → R → List (Bar width)
  /-- `GenContourRegionXld` and `GetContourXld` for the regions selected -/
  contourOf : List (Bar width) → Option (Contour width)

/-- What is assumed of them.  Of several regions the contour may be any. -/
structure Halcon.Documented {width : R} (halcon : Halcon width) : Prop where
  tupleSortIndex_perm : ∀ xs, (halcon.tupleSortIndex xs).Perm (List.range xs.length)
  tupleSortIndex_sorted : ∀ xs, (tupleSelect xs (halcon.tupleSortIndex xs)).Pairwise (· ≤ ·)
  tupleMin_isLeast : ∀ xs, xs ≠ [] → ∃ x, halcon.tupleMin xs = some x ∧ IsLeast {y | y ∈ xs} x
  tupleMax_isGreatest : ∀ xs, xs ≠ [] → ∃ x, halcon.tupleMax xs = some x ∧ IsGreatest {y | y ∈ xs} x
  selectShape_eq : ∀ bars c, halcon.selectShape bars c = bars.filter fun bar => bar.column1 = c
  contourOf_single : ∀ bar, halcon.contourOf [bar] = bar.contour

/-! ## The writer -/

/-- `ColLeftTop`, `ColLeftBottom`, `ColRightTop` and `ColRightBottom`. -/
structure Columns (R : Type) where
  leftTop : R
  leftBottom : R
  rightTop : R
  rightBottom : R

/-- One turn of the loop over the contour. -/
def scanTurn (rowMin rowMax : R) (k : Columns R) (p : Point R) : Columns R where
  leftTop := if p.row = rowMin ∧ k.leftTop > p.col then p.col else k.leftTop
  rightTop := if p.row = rowMin ∧ k.rightTop < p.col then p.col else k.rightTop
  leftBottom := if p.row = rowMax ∧ k.leftBottom > p.col then p.col else k.leftBottom
  rightBottom := if p.row = rowMax ∧ k.rightBottom < p.col then p.col else k.rightBottom

/-- The corners of a bar. -/
structure Corners (R : Type) extends Columns R where
  top : R
  bottom : R

/-- The contour sorted by rows, its extreme rows, and the loop over its points. -/
def cornersOf {width : R} (halcon : Halcon width) (contour : Contour width) : Option (Corners R) := do
  let indicesXld := halcon.tupleSortIndex (contour.points.map Point.row)
  let sorted := tupleSelect contour.points indicesXld
  let rowMin ← halcon.tupleMin (sorted.map Point.row)
  let rowMax ← halcon.tupleMax (sorted.map Point.row)
  some ⟨sorted.foldl (scanTurn rowMin rowMax) ⟨width, width, 0, 0⟩, rowMin, rowMax⟩

/-- The text helpers: a number as a line, and back. -/
structure TextHelpers (φ τ : Type) where
  f2str : φ → τ
  chars2Float : τ → φ
  chars2Float_f2str : ∀ x, chars2Float (f2str x) = x

/-- The eight numbers of a bar. -/
def Corners.values (toFloat : R → φ) (k : Corners R) : List φ :=
  [toFloat k.leftTop, toFloat k.top, toFloat k.leftBottom, toFloat k.bottom,
    toFloat k.rightTop, toFloat k.top, toFloat k.rightBottom, toFloat k.bottom]

/-- The left columns, sorted. -/
def sortedColumns {width : R} (halcon : Halcon width) (bars : List (Bar width)) : List R :=
  tupleSelect (bars.map Bar.column1) (halcon.tupleSortIndex (bars.map Bar.column1))

/-- One turn of the loop of `calibrationWorker`; whatever throws is caught and the file stays. -/
def writeBar {width : R} (halcon : Halcon width) (texts : TextHelpers φ τ) (toFloat : R → φ)
    (bars : List (Bar width)) (file : List τ) (c : R) : List τ :=
  match (halcon.contourOf (halcon.selectShape bars c)).bind (cornersOf halcon) with
  | some k => file ++ (k.values toFloat).map texts.f2str
  | none => file

/-- The points file `calibrationWorker` leaves. -/
def calibrationWorker {width : R} (halcon : Halcon width) (texts : TextHelpers φ τ)
    (toFloat : R → φ) (bars : List (Bar width)) : List τ :=
  (sortedColumns halcon bars).foldl (writeBar halcon texts toFloat bars) []

/-! ## The reader -/

/-- `points_file_read` -/
def pointsFileRead (texts : TextHelpers φ τ) (file : List τ) : List φ :=
  file.foldl (fun allValues words => allValues ++ [texts.chars2Float words]) []

/-- A calibration line. -/
structure Line (φ : Type) where
  topX : φ
  topY : φ
  bottomX : φ
  bottomY : φ
deriving DecidableEq, Repr

/-- `calibration_lines_points_.size() - 3`, in `size_t`. -/
def sizeMinusThree (size : Nat) : Nat := if 3 ≤ size then size - 3 else 2 ^ 64 + size - 3

/-- The four elements at `4 * i`, `none` when one is out of range. -/
def lineAt (points : List φ) (i : Nat) : Option (Line φ) := do
  let topX ← points[4 * i]?
  let topY ← points[4 * i + 1]?
  let bottomX ← points[4 * i + 2]?
  let bottomY ← points[4 * i + 3]?
  some ⟨topX, topY, bottomX, bottomY⟩

/-- The loop of `get_distance_left` from `i` on: the lines it visits, `none` when it reads outside the
vector.  It visits fewer lines than there are elements. -/
def visitLines (points : List φ) : Nat → Nat → Option (List (Line φ))
  | 0, _ => none
  | fuel + 1, i =>
      if 4 * i < sizeMinusThree points.length then do
        let line ← lineAt points i
        let rest ← visitLines points fuel (i + 1)
        some (line :: rest)
      else some []

/-- The lines `get_distance_left` works with. -/
def linesRead (points : List φ) : Option (List (Line φ)) := visitLines points (points.length + 1) 0

/-! ## What the file is for -/

/-- The corners of a contour: its extreme rows, and the extreme columns of each. -/
structure Corners.Describes {width : R} (k : Corners R) (contour : Contour width) : Prop where
  top : IsLeast {row | ∃ p ∈ contour.points, p.row = row} k.top
  bottom : IsGreatest {row | ∃ p ∈ contour.points, p.row = row} k.bottom
  leftTop : IsLeast {col | ⟨k.top, col⟩ ∈ contour.points} k.leftTop
  rightTop : IsGreatest {col | ⟨k.top, col⟩ ∈ contour.points} k.rightTop
  leftBottom : IsLeast {col | ⟨k.bottom, col⟩ ∈ contour.points} k.leftBottom
  rightBottom : IsGreatest {col | ⟨k.bottom, col⟩ ∈ contour.points} k.rightBottom

/-- The left and the right line of a bar. -/
def Corners.lines (toFloat : R → φ) (k : Corners R) : List (Line φ) :=
  [⟨toFloat k.leftTop, toFloat k.top, toFloat k.leftBottom, toFloat k.bottom⟩,
    ⟨toFloat k.rightTop, toFloat k.top, toFloat k.rightBottom, toFloat k.bottom⟩]

/-- The contours the bars were processed with, by increasing left column. -/
def processed {width : R} (halcon : Halcon width) (bars : List (Bar width)) : List (Contour width) :=
  (sortedColumns halcon bars).filterMap fun c => halcon.contourOf (halcon.selectShape bars c)

/-- The reader works with the two lines of each processed contour, in order. -/
def ReadsBack {width : R} (halcon : Halcon width) (texts : TextHelpers φ τ) (toFloat : R → φ)
    (bars : List (Bar width)) : Prop :=
  ∃ corners : List (Corners R), List.Forall₂ Corners.Describes corners (processed halcon bars) ∧
    linesRead (pointsFileRead texts (calibrationWorker halcon texts toFloat bars)) =
      some (corners.flatMap (Corners.lines toFloat))

/-! ## Sorting -/

/-- Every element is selected once. -/
theorem tupleSelect_perm {α : Type} {xs : List α} {indices : List Nat}
    (every : indices.Perm (List.range xs.length)) : (tupleSelect xs indices).Perm xs := by
  have all : (List.range xs.length).filterMap (xs[·]?) = xs := by
    clear every
    induction xs with
    | nil => rfl
    | cons x xs ih => simpa [List.range_succ_eq_map, List.filterMap_map, Function.comp_def] using ih
  exact (every.filterMap (xs[·]?)).trans (.of_eq all)

/-- The sorted columns are the columns in order, however Halcon sorts. -/
theorem sortedColumns_eq {width : R} {halcon : Halcon width} (documented : halcon.Documented)
    (bars : List (Bar width)) :
    sortedColumns halcon bars = (bars.map Bar.column1).mergeSort fun c d => decide (c ≤ d) := by
  refine List.Perm.eq_of_pairwise (fun _ _ _ _ => le_antisymm)
    (documented.tupleSortIndex_sorted _) (List.pairwise_mergeSort' (· ≤ ·) _) ?_
  exact (tupleSelect_perm (documented.tupleSortIndex_perm _)).trans (List.mergeSort_perm _ _).symm

/-! ## The scan of a contour -/

/-- What a turn of the loop does to a left column, and to a right one. -/
def leftTurn (row left : R) (p : Point R) : R := if p.row = row then min left p.col else left

def rightTurn (row right : R) (p : Point R) : R := if p.row = row then max right p.col else right

omit [Zero R] in
theorem leftTurn_eq (row left : R) (p : Point R) :
    leftTurn row left p = if p.row = row ∧ left > p.col then p.col else left := by
  unfold leftTurn
  by_cases here : p.row = row
  · by_cases less : left > p.col
    · simp [here, less, less.le]
    · simp [here, less, not_lt.1 less]
  · simp [here]

omit [Zero R] in
theorem rightTurn_eq (row right : R) (p : Point R) :
    rightTurn row right p = if p.row = row ∧ right < p.col then p.col else right := by
  unfold rightTurn
  by_cases here : p.row = row
  · by_cases more : right < p.col
    · simp [here, more, more.le]
    · simp [here, more, not_lt.1 more]
  · simp [here]

omit [Zero R] in
/-- The loop finds the four columns independently of each other. -/
theorem foldl_scanTurn (rowMin rowMax : R) (points : List (Point R)) (k : Columns R) :
    points.foldl (scanTurn rowMin rowMax) k =
      ⟨points.foldl (leftTurn rowMin) k.leftTop, points.foldl (leftTurn rowMax) k.leftBottom,
        points.foldl (rightTurn rowMin) k.rightTop, points.foldl (rightTurn rowMax) k.rightBottom⟩ := by
  induction points generalizing k with
  | nil => rfl
  | cons p points ih =>
      have turn : scanTurn rowMin rowMax k p =
          ⟨leftTurn rowMin k.leftTop p, leftTurn rowMax k.leftBottom p,
            rightTurn rowMin k.rightTop p, rightTurn rowMax k.rightBottom p⟩ := by
        simp only [scanTurn, leftTurn_eq, rightTurn_eq]
      rw [List.foldl_cons, turn, ih]
      rfl

omit [LinearOrder R] [Zero R] in
/-- The columns of one row of a contour. -/
theorem columns_eq (points : List (Point R)) (row : R) :
    {col | ∃ p ∈ points, p.row = row ∧ p.col = col} = {col | ⟨row, col⟩ ∈ points} := by
  ext col
  constructor
  · rintro ⟨p, found, rfl, rfl⟩
    exact found
  · intro found
    exact ⟨_, found, rfl, rfl⟩

/-- The left end of a row that has a point: the scan starts at the width of the image. -/
theorem isLeast_leftTurn {width : R} (contour : Contour width) {points : List (Point R)}
    (same : ∀ p, p ∈ points ↔ p ∈ contour.points) {row col : R} (found : ⟨row, col⟩ ∈ points) :
    IsLeast {col | ⟨row, col⟩ ∈ contour.points} (points.foldl (leftTurn row) width) := by
  have low : col ≤ width := (contour.inside _ ((same _).1 found)).2.le
  have least := isLeast_scan (p := fun q => q.row = row) (f := Point.col) found rfl low
  rw [columns_eq] at least
  simp only [same] at least
  exact least

/-- The right end: the scan starts at 0. -/
theorem isGreatest_rightTurn {width : R} (contour : Contour width) {points : List (Point R)}
    (same : ∀ p, p ∈ points ↔ p ∈ contour.points) {row col : R} (found : ⟨row, col⟩ ∈ points) :
    IsGreatest {col | ⟨row, col⟩ ∈ contour.points} (points.foldl (rightTurn row) 0) := by
  have high : 0 ≤ col := (contour.inside _ ((same _).1 found)).1
  have greatest := isGreatest_scan (p := fun q => q.row = row) (f := Point.col) found rfl high
  rw [columns_eq] at greatest
  simp only [same] at greatest
  exact greatest

/-- **The scan finds the corners of the contour.** -/
theorem cornersOf_describes {width : R} {halcon : Halcon width} (documented : halcon.Documented)
    (contour : Contour width) : ∃ k, cornersOf halcon contour = some k ∧ k.Describes contour := by
  set sorted := tupleSelect contour.points (halcon.tupleSortIndex (contour.points.map Point.row))
    with sortedDef
  have every := documented.tupleSortIndex_perm (contour.points.map Point.row)
  rw [List.length_map] at every
  have same : ∀ p, p ∈ sorted ↔ p ∈ contour.points := fun p => (tupleSelect_perm every).mem_iff
  have some_row : sorted.map Point.row ≠ [] := by
    obtain ⟨p, found⟩ := List.exists_mem_of_ne_nil _ contour.nonempty
    exact List.ne_nil_of_mem (List.mem_map_of_mem ((same p).2 found))
  obtain ⟨rowMin, minComputed, least⟩ := documented.tupleMin_isLeast _ some_row
  obtain ⟨rowMax, maxComputed, greatest⟩ := documented.tupleMax_isGreatest _ some_row
  have rows : {row | row ∈ sorted.map Point.row} = {row | ∃ p ∈ contour.points, p.row = row} := by
    ext row
    simp [same]
  have top := rows ▸ least
  have bottom := rows ▸ greatest
  obtain ⟨⟨_, topCol⟩, topFound, rfl⟩ := top.1
  obtain ⟨⟨_, bottomCol⟩, bottomFound, rfl⟩ := bottom.1
  rw [← same] at topFound bottomFound
  refine ⟨_, by simp only [cornersOf, ← sortedDef, minComputed, maxComputed]; rfl, ?_⟩
  rw [foldl_scanTurn]
  exact {
    top := top
    bottom := bottom
    leftTop := isLeast_leftTurn contour same topFound
    rightTop := isGreatest_rightTurn contour same topFound
    leftBottom := isLeast_leftTurn contour same bottomFound
    rightBottom := isGreatest_rightTurn contour same bottomFound }

/-! ## The file -/

/-- The corners of the processed contours. -/
def processedCorners {width : R} (halcon : Halcon width) (bars : List (Bar width)) :
    List (Corners R) :=
  (processed halcon bars).filterMap (cornersOf halcon)

theorem describes_filterMap {width : R} {halcon : Halcon width} (documented : halcon.Documented)
    (contours : List (Contour width)) :
    List.Forall₂ Corners.Describes (contours.filterMap (cornersOf halcon)) contours := by
  induction contours with
  | nil => exact .nil
  | cons contour contours ih =>
      obtain ⟨k, computed, describes⟩ := cornersOf_describes documented contour
      rw [List.filterMap_cons, computed]
      exact .cons describes ih

section File

variable {width : R} (halcon : Halcon width) (texts : TextHelpers φ τ) (toFloat : R → φ)
  (bars : List (Bar width))

/-- The loop of the writer appends the numbers of the bars that are processed. -/
theorem foldl_writeBar (columns : List R) (file : List τ) :
    columns.foldl (writeBar halcon texts toFloat bars) file =
      file ++ (((columns.filterMap fun c => halcon.contourOf (halcon.selectShape bars c)).filterMap
        (cornersOf halcon)).flatMap (Corners.values toFloat)).map texts.f2str := by
  induction columns generalizing file with
  | nil => simp
  | cons c columns ih =>
      rw [List.foldl_cons, ih, writeBar]
      cases found : halcon.contourOf (halcon.selectShape bars c) with
      | none => simp [found]
      | some contour =>
          cases computed : cornersOf halcon contour with
          | none => simp [found, computed]
          | some k => simp [found, computed]

omit [LinearOrder R] [Zero R] in
/-- The reader appends a number for each line. -/
theorem pointsFileRead_eq (file : List τ) :
    pointsFileRead texts file = file.map texts.chars2Float := by
  have appended : ∀ values : List φ,
      file.foldl (fun allValues words => allValues ++ [texts.chars2Float words]) values =
        values ++ file.map texts.chars2Float := by
    induction file with
    | nil => simp
    | cons words file ih =>
        intro values
        rw [List.foldl_cons, ih]
        simp
  exact appended []

/-- **What is read is what was written.** -/
theorem read_written : pointsFileRead texts (calibrationWorker halcon texts toFloat bars) =
    (processedCorners halcon bars).flatMap (Corners.values toFloat) := by
  rw [calibrationWorker, foldl_writeBar, pointsFileRead_eq, List.nil_append, List.map_map]
  have inverse : texts.chars2Float ∘ texts.f2str = id := funext texts.chars2Float_f2str
  rw [inverse, List.map_id]
  rfl

end File

/-! ## The groups of four -/

/-- The four numbers of a line. -/
def Line.values (line : Line φ) : List φ := [line.topX, line.topY, line.bottomX, line.bottomY]

omit [LinearOrder R] [Zero R] in
theorem values_eq_lines (toFloat : R → φ) (corners : List (Corners R)) :
    corners.flatMap (Corners.values toFloat) =
      (corners.flatMap (Corners.lines toFloat)).flatMap Line.values := by
  induction corners with
  | nil => rfl
  | cons k corners ih => simp [ih, Corners.values, Corners.lines, Line.values]

theorem length_flatMap_values (lines : List (Line φ)) :
    (lines.flatMap Line.values).length = 4 * lines.length := by
  induction lines with
  | nil => rfl
  | cons line lines ih =>
      rw [List.flatMap_cons, List.length_append, ih, List.length_cons]
      simp only [Line.values, List.length_cons, List.length_nil]
      omega

/-- The elements at `4 * i` are those of line `i`. -/
theorem lineAt_flatMap (lines : List (Line φ)) (i : Nat) :
    lineAt (lines.flatMap Line.values) i = lines[i]? := by
  induction lines generalizing i with
  | nil => simp [lineAt]
  | cons line lines ih =>
      cases i with
      | zero => simp [lineAt, Line.values]
      | succ i =>
          have shifted : lineAt ((line :: lines).flatMap Line.values) (i + 1) =
              lineAt (lines.flatMap Line.values) i := by
            simp [lineAt, Line.values, Nat.mul_add]
          rw [shifted, ih, List.getElem?_cons_succ]

/-- With at least one line in the vector the loop visits the lines and stops at the end. -/
theorem visitLines_flatMap {lines : List (Line φ)} (some_line : lines ≠ []) (fuel i : Nat)
    (inside : i ≤ lines.length) (enough : lines.length - i < fuel) :
    visitLines (lines.flatMap Line.values) fuel i = some (lines.drop i) := by
  have positive : 0 < lines.length := List.length_pos_iff.2 some_line
  have bound : sizeMinusThree (lines.flatMap Line.values).length = 4 * lines.length - 3 := by
    rw [length_flatMap_values]
    exact if_pos (by omega)
  induction fuel generalizing i with
  | zero => omega
  | succ fuel ih =>
      rw [visitLines, bound]
      by_cases last : i = lines.length
      · rw [if_neg (by omega), last, List.drop_length]
      · have below : i < lines.length := by omega
        rw [if_pos (by omega), lineAt_flatMap, List.getElem?_eq_getElem below,
          ih (i + 1) (by omega) (by omega), List.drop_eq_getElem_cons below]
        rfl

/-- **The groups of four are the lines written**, if there is one. -/
theorem linesRead_flatMap {lines : List (Line φ)} (some_line : lines ≠ []) :
    linesRead (lines.flatMap Line.values) = some lines := by
  rw [linesRead, visitLines_flatMap some_line _ _ (Nat.zero_le _), List.drop_zero]
  rw [length_flatMap_values]
  omega

/-- With nothing in the vector the bound of the loop wraps and the first access is out of range. -/
theorem linesRead_nil : linesRead ([] : List φ) = none := by
  simp [linesRead, visitLines, sizeMinusThree, lineAt]

/-! ## Writer and reader -/

section Agreement

variable {width : R} {halcon : Halcon width} (documented : halcon.Documented)
  (texts : TextHelpers φ τ) (toFloat : R → φ) (bars : List (Bar width))

/-- A bar with its own left column is the only one that has it. -/
theorem filter_column_of_nodup {bars : List (Bar width)} (distinct : (bars.map Bar.column1).Nodup)
    {bar : Bar width} (found : bar ∈ bars) :
    bars.filter (fun other => other.column1 = bar.column1) = [bar] := by
  induction bars with
  | nil => cases found
  | cons first rest ih =>
      rw [List.map_cons, List.nodup_cons] at distinct
      obtain ⟨fresh, distinct⟩ := distinct
      rcases List.mem_cons.1 found with rfl | later
      · have others : rest.filter (fun other => other.column1 = bar.column1) = [] := by
          refine List.filter_eq_nil_iff.2 fun other member same => fresh ?_
          rw [← of_decide_eq_true same]
          exact List.mem_map_of_mem member
        simpa using others
      · have other : first.column1 ≠ bar.column1 := by
          intro same
          rw [same] at fresh
          exact fresh (List.mem_map_of_mem later)
        have rest := ih distinct later
        simpa [other] using rest

include documented

/-- Bars with different left columns are processed one by one, from left to right. -/
theorem processed_of_nodup (distinct : (bars.map Bar.column1).Nodup) : processed halcon bars =
    (bars.mergeSort fun a b => decide (a.column1 ≤ b.column1)).filterMap Bar.contour := by
  have columns : (bars.mergeSort fun a b => decide (a.column1 ≤ b.column1)).map Bar.column1 =
      (bars.map Bar.column1).mergeSort fun c d => decide (c ≤ d) := List.map_mergeSort fun _ _ _ _ => rfl
  rw [processed, sortedColumns_eq documented, ← columns, List.filterMap_map]
  refine List.filterMap_congr fun bar member => ?_
  have found : bar ∈ bars := List.mem_mergeSort.1 member
  rw [Function.comp_apply, documented.selectShape_eq, filter_column_of_nodup distinct found,
    documented.contourOf_single]

theorem readsBack_of_processed (some_bar : processed halcon bars ≠ []) :
    ReadsBack halcon texts toFloat bars := by
  have describes := describes_filterMap documented (processed halcon bars)
  refine ⟨processedCorners halcon bars, describes, ?_⟩
  rw [read_written, values_eq_lines]
  refine linesRead_flatMap fun empty => some_bar ?_
  cases shape : processedCorners halcon bars with
  | nil =>
      have count := describes.length_eq
      rw [← processedCorners, shape] at count
      exact List.length_eq_zero_iff.1 count.symm
  | cons k corners =>
      rw [shape] at empty
      simp [Corners.lines] at empty

omit documented in
theorem not_readsBack_of_none (none : processed halcon bars = []) :
    ¬ ReadsBack halcon texts toFloat bars := by
  rintro ⟨corners, -, computed⟩
  rw [read_written, processedCorners, none] at computed
  simp [linesRead_nil] at computed

/-- **Writer and reader agree as soon as one bar is processed.**  For operators that do what is
documented and every list of bars, each with a contour inside the image or with a call that throws:
the groups of four the reader works with are, bar by bar from left to right, the line of the smallest
columns and the line of the largest columns of the extreme rows of each processed contour, exactly
when some bar is processed; and the processed contours of bars with different left columns are the
contours of those bars that do not throw, in that order. -/
theorem calibration_reads_back_iff :
    (ReadsBack halcon texts toFloat bars ↔ processed halcon bars ≠ []) ∧
      ((bars.map Bar.column1).Nodup → processed halcon bars =
        (bars.mergeSort fun a b => decide (a.column1 ≤ b.column1)).filterMap Bar.contour) := by
  refine ⟨⟨fun reads none => ?_, readsBack_of_processed documented texts toFloat bars⟩,
    processed_of_nodup documented bars⟩
  exact not_readsBack_of_none texts toFloat bars none reads

end Agreement

/-! ## Operators that do what is documented -/

/-- Halcon for whole columns; of several regions it gives the contour of the first. -/
def sampleHalcon (width : Int) : Halcon width where
  tupleSortIndex xs := (List.range xs.length).insertionSort fun i j => xs.getD i 0 ≤ xs.getD j 0
  tupleMin
    | [] => none
    | x :: xs => some (xs.foldl min x)
  tupleMax
    | [] => none
    | x :: xs => some (xs.foldl max x)
  selectShape bars c := bars.filter fun bar => bar.column1 = c
  contourOf bars := bars.head?.bind Bar.contour

theorem sampleHalcon_documented (width : Int) : (sampleHalcon width).Documented where
  tupleSortIndex_perm xs := List.perm_insertionSort _ _
  tupleSortIndex_sorted xs := by
    have total : Std.Total fun i j : Nat => xs.getD i 0 ≤ xs.getD j 0 := ⟨fun _ _ => le_total _ _⟩
    have trans : IsTrans Nat fun i j => xs.getD i 0 ≤ xs.getD j 0 := ⟨fun _ _ _ => le_trans⟩
    refine List.pairwise_filterMap.2 ((List.pairwise_insertionSort _ _).imp ?_)
    intro i j below x atI y atJ
    rwa [List.getD_eq_getElem?_getD, List.getD_eq_getElem?_getD, atI, atJ] at below
  tupleMin_isLeast xs some_element := by
    obtain ⟨first, rest, rfl⟩ := List.exists_cons_of_ne_nil some_element
    refine ⟨_, rfl, ?_⟩
    simpa [Set.insert_def] using isLeast_insert_foldl_min first rest
  tupleMax_isGreatest xs some_element := by
    obtain ⟨first, rest, rfl⟩ := List.exists_cons_of_ne_nil some_element
    refine ⟨_, rfl, ?_⟩
    simpa [Set.insert_def] using isGreatest_insert_foldl_max first rest
  selectShape_eq _ _ := rfl
  contourOf_single _ := rfl

/-- Lines that are the numbers. -/
def plainText : TextHelpers Int Int := ⟨id, id, fun _ => rfl⟩

/-- A bar of two rows. -/
def twoRows : Contour (640 : Int) :=
  ⟨[⟨5, 12⟩, ⟨5, 20⟩, ⟨90, 14⟩, ⟨90, 22⟩], by decide, by decide⟩

/-- One of two bars throws, and the lines of the other are read. -/
theorem calibration_reads_back_two_bars :
    ReadsBack (sampleHalcon 640) plainText id [⟨40, none⟩, ⟨12, some twoRows⟩] ∧
      processed (sampleHalcon 640) [⟨40, none⟩, ⟨12, some twoRows⟩] = [twoRows] := by
  obtain ⟨reads, processes⟩ := calibration_reads_back_iff (sampleHalcon_documented 640) plainText id
    [⟨40, none⟩, ⟨12, some twoRows⟩]
  have one := processes (by decide)
  have sorted : ([⟨40, none⟩, ⟨12, some twoRows⟩] : List (Bar (640 : Int))).mergeSort
      (fun a b => decide (a.column1 ≤ b.column1)) = [⟨12, some twoRows⟩, ⟨40, none⟩] := by
    simp [List.mergeSort]
  rw [sorted] at one
  refine ⟨reads.2 ?_, one⟩
  rw [one]
  exact List.cons_ne_nil _ _

/-- **An empty file is read out of range.**  The only bar found throws: nothing is written, and the
reader does not stop at its first access. -/
theorem empty_file_overruns :
    ¬ ∀ bars : List (Bar (640 : Int)), ReadsBack (sampleHalcon 640) plainText id bars := by
  intro always
  refine not_readsBack_of_none plainText id [⟨12, none⟩] ?_ (always _)
  rfl

end TizerVision.Calibration
