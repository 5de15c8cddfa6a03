/-
# Winding.Position — the edges and the ears of a winding on the calibration scale

`RollingPostionData` reads the calibration lines of the winding station as one vector of numbers, four a
line, measures the left and the right edge of a winding in units of lines, and looks at the windows next
to the edges for ears.  This module embeds its functions from `get_distance_left` to the constructor.

An access to the vector is not checked in the source; here an index outside it ends the run with
`Trouble.outOfRange`.  What the operators of Halcon answer is an input (`Image`), and so are the constants
of the headers under `hds/` (`Constants`).  A `float` is an exact rational, or `none` for a quotient of
zeros.  Line numbers are integers without a bound: an `int` only overflows for indeterminate ones.
-/
import TizerVision.Calibration.Points
import TizerVision.Winding.CalibrationData
import TizerVision.Theory.Nearest
import TizerVision.Theory.Hoare
import Mathlib.Data.Rat.Floor

namespace TizerVision.Winding

open TizerVision.Theory
open TizerVision.Calibration (Line linesRead)

set_option autoImplicit false

/-- What the sources use of the headers under `hds/`. -/
structure Constants where
  maxBatteryWidth : ℚ
  roiLeftStartLineNum : Int
  roiLeftEndLineNum : Int
  roiRightStartLineNum : Int
  roiRightEndLineNum : Int
  leftEarToEdgeMin : Int
  leftEarToEdgeMax : Int
  rightEarToEdgeMin : Int
  rightEarToEdgeMax : Int

/-- How a function ends that does not return: an exception, a failed `assert`, or an access outside the
vector, after which nothing is known. -/
inductive Trouble where
  | exception
  | assertion
  | outOfRange
deriving DecidableEq, Repr

/-- `DistancePl` of a point and the line through two points, rows first; `none` when it raises. -/
abbrev DistancePl := ℚ → ℚ → ℚ → ℚ → ℚ → ℚ → Option ℚ

/-! ## The position of a point -/

section Scale

variable (distancePl : DistancePl) (maxBatteryWidth : ℚ)

/-- The loop of `get_distance_left` over the lines, from line `i` on. -/
def nearestLines (x y : ℚ) : Nat → Nearest ℚ → List (Line ℚ) → Except Trouble (Nearest ℚ)
  | _, kept, [] => .ok kept
  | i, kept, line :: lines =>
      match distancePl y x line.topY line.topX line.bottomY line.bottomX with
      | some distance => nearestLines x y (i + 1) (kept.turn i distance) lines
      | none => .error .exception

/-- The value `get_distance_left` returns for the two nearest lines. -/
def positionBetween (kept : Nearest ℚ) : Option ℚ :=
  if kept.firstKey + kept.secondKey = 0 then none
  else if kept.first > kept.second then
    some (kept.first - kept.firstKey / (kept.firstKey + kept.secondKey))
  else some (kept.second - kept.secondKey / (kept.firstKey + kept.secondKey))

/-- `get_distance_left`, with or without its assertion.  The lines are read before the loop: an access
out of range is one to the first line, which is read before the first call of `DistancePl`. -/
def getDistanceLeft (asserts : Bool) (points : List ℚ) (x y : ℚ) : Except Trouble (Option ℚ) :=
  match linesRead points with
  | none => .error .outOfRange
  | some lines =>
      match nearestLines distancePl x y 0 ⟨-1, maxBatteryWidth, -1, maxBatteryWidth⟩ lines with
      | .error trouble => .error trouble
      | .ok kept =>
          if asserts ∧ |kept.first - kept.second| ≠ 1 then .error .assertion
          else .ok (positionBetween kept)

/-- `get_calibration_line_num_float` -/
def getCalibrationLineNumFloat (calibrationLineNum : Int) : ℚ :=
  if calibrationLineNum > 99999 then calibrationLineNum / 100 else calibrationLineNum

/-- `total_line_num` -/
def totalLineNum (points : List ℚ) : Nat := points.length / 4

def getDistanceRight (asserts : Bool) (points : List ℚ) (calibrationLineNum : Int) (x y : ℚ) :
    Except Trouble (Option ℚ) :=
  (getDistanceLeft distancePl maxBatteryWidth asserts points x y).map fun left =>
    left.map fun p => p + getCalibrationLineNumFloat calibrationLineNum - totalLineNum points

end Scale

/-! ## The region between two lines -/

/-- `min_x`, `max_x`, `min_y` and `max_y`. -/
structure Roi where
  minX : ℚ
  maxX : ℚ
  minY : ℚ
  maxY : ℚ
deriving DecidableEq, Repr

/-- `calibration_lines_points_[index]`; a negative index is a large one as `size_t`. -/
def element (points : List ℚ) (index : Int) : Except Trouble ℚ :=
  if index < 0 then .error .outOfRange
  else
    match points[index.toNat]? with
    | some value => .ok value
    | none => .error .outOfRange

def getRollingROI (points : List ℚ) (minLineNum maxLineNum : Int) : Except Trouble Roi := do
  let minLineIdx := minLineNum * 4
  let maxLineIdx := maxLineNum * 4
  let topMinX ← element points minLineIdx
  let bottomMinX ← element points (minLineIdx + 2)
  let topMaxX ← element points maxLineIdx
  let bottomMaxX ← element points (maxLineIdx + 2)
  let minY ← element points (minLineIdx + 1)
  let maxY ← element points (minLineIdx + 3)
  return ⟨min topMinX bottomMinX, max topMaxX bottomMaxX, minY, maxY⟩

/-! ## The object -/

/-- `eWidthLocateDirect` -/
inductive WidthLocateDirect where
  | left
  | right
deriving DecidableEq, Repr

/-- What the operators answer on the image of one object. -/
structure Image where
  /-- whether `ReadImage` succeeds -/
  loaded : Bool
  /-- the edge `MeasurePos` finds in each row of the region, row and column, if any; `none` when an
  operator of `getRollingEdgeVertical` raises -/
  edges : WidthLocateDirect → Roi → Option (List (Option (ℚ × ℚ)))
  distancePl : DistancePl
  /-- what the caller of `check_battery_ear` reads for a window at the left or the right edge: its
  answer, or anything when an operator raises and control reaches the end without a `return` -/
  ear : WidthLocateDirect → Int → Bool
  /-- what the conversion to `int` gives for the quotient of two zeros -/
  undefinedToInt : Int

structure RollingPostionData where
  calibrationLinesPoints : List ℚ
  calibrationLineNum : Int
  leftEdgeX : Option ℚ
  rightEdgeX : Option ℚ
  leftEdgeLineNum : Int
  rightEdgeLineNum : Int
  batteryWidth : Option ℚ
  isRollingOk : Bool

/-- The functions of the object. -/
abbrev Positioning := EStateM Trouble RollingPostionData

/-- A function of the vector alone. -/
def lift {α : Type} : Except Trouble α → Positioning α
  | .ok a => pure a
  | .error trouble => throw trouble

/-- `try { ... } catch (...) { ... }`, which catches exceptions only. -/
def catchAll {α : Type} (body handler : Positioning α) : Positioning α :=
  tryCatch body fun
    | .exception => handler
    | trouble => throw trouble

section Rules

variable {α : Type} {Q : α → RollingPostionData → Prop} {E : Trouble → RollingPostionData → Prop}
  {this : RollingPostionData}

@[simp] theorem wp_lift_ok {a : α} : wp (lift (.ok a)) Q E this ↔ Q a this := Iff.rfl

@[simp] theorem wp_lift_error {trouble : Trouble} :
    wp (lift (.error trouble)) Q E this ↔ E trouble this := Iff.rfl

@[simp] theorem wp_catchAll {body handler : Positioning α} :
    wp (catchAll body handler) Q E this ↔
      wp body Q (fun trouble after =>
        if trouble = .exception then wp handler Q E after else E trouble after) this := by
  rw [catchAll, wp_tryCatch]
  refine iff_of_eq (congrArg (fun E => wp body Q E this) ?_)
  funext trouble after
  cases trouble <;> rfl

end Rules

/-- `hv_MinColumn`, `hv_MinRow`, `hv_MaxColumn` and `hv_MaxRow`. -/
structure Extremes where
  minColumn : ℚ
  minRow : ℚ
  maxColumn : ℚ
  maxRow : ℚ

/-- One row of the search for an edge. -/
def Extremes.turn (kept : Extremes) : Option (ℚ × ℚ) → Extremes
  | none => kept
  | some (row, column) =>
      let kept := if kept.minColumn > column ∧ column > 0
        then { kept with minColumn := column, minRow := row } else kept
      if kept.maxColumn < column ∧ column > 0
        then { kept with maxColumn := column, maxRow := row } else kept

/-- Where `getRollingEdgeVertical` sees the edge, column first. -/
def edgePoint (direct : WidthLocateDirect) (rows : List (Option (ℚ × ℚ))) : ℚ × ℚ :=
  let found := rows.foldl Extremes.turn ⟨99999, 0, 0, 0⟩
  match direct with
  | .left => (found.minColumn, found.minRow)
  | .right => (found.maxColumn, found.maxRow)

variable (consts : Constants) (asserts : Bool) (image : Image)

def getRollingEdgeVertical (direct : WidthLocateDirect) (roi : Roi) : Positioning (Option ℚ) := do
  match image.edges direct roi with
  | none => throw .exception
  | some rows =>
      let (x, y) := edgePoint direct rows
      let this ← get
      let distance := match direct with
        | .left =>
            getDistanceLeft image.distancePl consts.maxBatteryWidth asserts
              this.calibrationLinesPoints x y
        | .right =>
            getDistanceRight image.distancePl consts.maxBatteryWidth asserts
              this.calibrationLinesPoints this.calibrationLineNum x y
      catchAll (lift distance) (return some 0)

/-- What `getRollingEdgeVertical` answers in a region, for the vector and the number of lines. -/
def edgeAnswer (points : List ℚ) (lineNum : Int) (direct : WidthLocateDirect) (roi : Roi) :
    Except Trouble (Option ℚ) :=
  match image.edges direct roi with
  | none => .error .exception
  | some rows =>
      let (x, y) := edgePoint direct rows
      let distance := match direct with
        | .left => getDistanceLeft image.distancePl consts.maxBatteryWidth asserts points x y
        | .right => getDistanceRight image.distancePl consts.maxBatteryWidth asserts points lineNum x y
      match distance with
      | .error .exception => .ok (some 0)
      | distance => distance

/-- `getRollingEdgeVertical` changes nothing. -/
theorem wp_getRollingEdgeVertical {Q : Option ℚ → RollingPostionData → Prop}
    {E : Trouble → RollingPostionData → Prop} {this : RollingPostionData}
    (direct : WidthLocateDirect) (roi : Roi) :
    wp (getRollingEdgeVertical consts asserts image direct roi) Q E this ↔
      wp (lift (edgeAnswer consts asserts image this.calibrationLinesPoints
        this.calibrationLineNum direct roi)) Q E this := by
  unfold getRollingEdgeVertical edgeAnswer
  cases image.edges direct roi with
  | none => rfl
  | some rows =>
      simp only [wp_bind, wp_get, wp_catchAll]
      generalize (match direct with
        | .left => getDistanceLeft image.distancePl consts.maxBatteryWidth asserts
            this.calibrationLinesPoints (edgePoint direct rows).1 (edgePoint direct rows).2
        | .right => getDistanceRight image.distancePl consts.maxBatteryWidth asserts
            this.calibrationLinesPoints this.calibrationLineNum (edgePoint direct rows).1
            (edgePoint direct rows).2) = distance
      cases distance with
      | ok x => rfl
      | error trouble => cases trouble <;> simp

/-- The conversion to `int`, towards zero. -/
def truncate (q : ℚ) : Int := if 0 ≤ q then ⌊q⌋ else ⌈q⌉

def toInt : Option ℚ → Int
  | some q => truncate q
  | none => image.undefinedToInt

def setLeftEdge (leftEdgeX : Option ℚ) : Positioning Unit :=
  modify fun this =>
    { this with
      leftEdgeX := leftEdgeX
      leftEdgeLineNum := toInt image (leftEdgeX.map fun q => (⌊q⌋ : ℚ)) }

/-- The right edge is counted from the right end of the scale, its line number from the left. -/
def setRightEdge (rightEdgeX : Option ℚ) : Positioning Unit :=
  modify fun this =>
    { this with
      rightEdgeX := rightEdgeX
      rightEdgeLineNum := toInt image (rightEdgeX.map fun q =>
        (⌊q⌋ : ℚ) + totalLineNum this.calibrationLinesPoints -
          getCalibrationLineNumFloat this.calibrationLineNum) }

def measureBatteryWidth : Positioning (Option ℚ) :=
  catchAll
    (do
      let points := (← get).calibrationLinesPoints
      let roi ← lift (getRollingROI points consts.roiLeftStartLineNum consts.roiLeftEndLineNum)
      let left ← getRollingEdgeVertical consts asserts image .left roi
      setLeftEdge image left
      let roi ← lift (getRollingROI points (totalLineNum points + consts.roiRightStartLineNum)
        (totalLineNum points + consts.roiRightEndLineNum))
      let right ← getRollingEdgeVertical consts asserts image .right roi
      setRightEdge image right
      return left.bind fun l => right.map fun r => r - l)
    (return some 0)

/-- `check_battery_ear`; the region it computes goes to the operators, which give the answer. -/
def checkBatteryEar (answer : Bool) (leftLineNum rightLineNum : Int) : Positioning Bool := do
  let points := (← get).calibrationLinesPoints
  let _ ← lift (getRollingROI points leftLineNum rightLineNum)
  return answer

/-- `for (int i = from; i < from + count; ++i) if (!check(i)) return false;` -/
def checkEach (check : Int → Positioning Bool) : Nat → Int → Positioning Bool
  | 0, _ => pure true
  | count + 1, i => do
      if ← check i then
        checkEach check count (i + 1)
      else
        return false

/-- `check_battery_ears`; nothing is left to catch for it. -/
def checkBatteryEars : Positioning Bool := do
  let this ← get
  let leftOk ← checkEach
    (fun i => checkBatteryEar (image.ear .left i) (this.leftEdgeLineNum + i)
      (this.leftEdgeLineNum + i + 2))
    (consts.leftEarToEdgeMax - consts.leftEarToEdgeMin).toNat consts.leftEarToEdgeMin
  if leftOk then
    checkEach
      (fun j => checkBatteryEar (image.ear .right j) (this.rightEdgeLineNum - j)
        (this.rightEdgeLineNum - j + 2))
      (consts.rightEarToEdgeMax - consts.rightEarToEdgeMin).toNat consts.rightEarToEdgeMin
  else
    return false

/-- `initial_calibration_lines`: a reader of its own, asked for the values and then for the line number,
which is indeterminate when no line of the info file has been read. -/
def initialCalibrationLines {τ : Type} (files : CalibrationFiles ℚ τ)
    (first second : CalibrationDataHelper.Attempt) (indeterminate : Int) : List ℚ × Int :=
  let (values, helper) := CalibrationDataHelper.fresh.getCalibrationValues files first
  let (lineNum, _) := helper.getCalibrationInfo files second
  (values, lineNum.getD indeterminate)

/-- The constructor, with the calibration it reads.  The members it does not initialise keep what is in
memory. -/
def construct (calibration : List ℚ × Int) : Positioning Unit := do
  modify fun this => { this with
    calibrationLinesPoints := calibration.1
    calibrationLineNum := calibration.2
    leftEdgeX := some 0
    rightEdgeX := some 0 }
  -- load_image
  if !image.loaded then throw .exception
  let width ← measureBatteryWidth consts asserts image
  modify fun this => { this with batteryWidth := width }
  let ok ← checkBatteryEars consts image
  modify fun this => { this with isRollingOk := ok }

end TizerVision.Winding
