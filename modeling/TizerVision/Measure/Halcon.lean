/-
# Measure.Halcon — the measuring object of XySizeMeasureHalcon and its searches

`XySizeMeasureHalcon` keeps one status word, `_result_status`, that its searches overwrite: 2 while a
measurement has failed, 1 for a part out of tolerance or a doubtful corner, 0 for a good part.  This
module embeds the functions that write it: `search_corner_circle`, the two halves of `get_result` in
the calibration mode the program is compiled for, and `measure_image_by_zf`.

Halcon's operators are not part of the sources.  What they answer on the images of one call is an
input (`LeftView`, `RightView`, `SizeView`): a value, or the exception they raise.  Distances and
sizes are exact rationals.  The headers under `hds/` are not part of the sources either; what is
used of them is the parameter `Headers`.
-/
import Mathlib.Algebra.Order.Field.Rat
import Mathlib.Algebra.Order.Group.Unbundled.Abs

namespace TizerVision.Measure

set_option autoImplicit false

/-! ## The surroundings -/

/-- The dimensions a part is configured with. -/
inductive Dimension where
  | w | l | h | h1 | lh | w1 | w2
deriving DecidableEq, Repr

/-- The camera positions the sources name. -/
inductive CameraPosition where
  | leftTop | leftBottom | right | rightTop | rightBottom
deriving DecidableEq, Repr

/-- What the sources use of the headers under `hds/`: the conversions of `BaseFunctions`, the
numbers of the enumeration `CameraPosition`, and `xinyu_calc_std` with one setter and one getter
for each dimension. -/
structure Headers where
  str2d : String → ℚ
  d2str : ℚ → String
  str2Int : String → Int
  int2Str : Int → String
  str2Int_zero : str2Int "0" = 0
  positionCode : CameraPosition → Int
  CalcStd : Type
  calcStd : CalcStd
  setValue : Dimension → ℚ → ℚ → CalcStd → CalcStd
  getValue : Dimension → CalcStd → ℚ × ℚ
  getValue_setValue : ∀ d e v a std,
    getValue d (setValue e v a std) = if d = e then (v, a) else getValue d std

/-- What leaves a function: a Halcon exception, or the one of `vector::at`. -/
inductive Thrown where
  | hException
  | outOfRange
deriving DecidableEq, Repr

/-- The texts `halconActionWithImageList` puts into its JSON, with the status it ends with. -/
structure Report where
  id : Int
  W : String
  L : String
  H : String
  LH : String
  W1 : String
  W2 : String
  H1 : String
  RA1 : String
  RA2 : String
  RB1 : String
  RB2 : String
  RB3 : String
  RB4 : String
  msg : Int
deriving DecidableEq, Repr

structure State where
  /-- `_result_status` -/
  resultStatus : Int
  /-- `_job_id` -/
  jobId : Int
  /-- `g_image_saved_count` -/
  imageSavedCount : Nat
  /-- what the coming calls of `rand()` return -/
  rand : Nat → Nat
  /-- the image files written so far -/
  written : List String
  /-- the `result_status` of the current call, once it has been assigned -/
  outStatus : Option Int
  /-- the `out` of the current call, once it has been written -/
  out : Option Report

/-- The program as it is started; `rand()` is seeded with the time and may return anything. -/
def State.init (rand : Nat → Nat) : State where
  resultStatus := 0
  jobId := 0
  imageSavedCount := 0
  rand := rand
  written := []
  outStatus := none
  out := none

abbrev Halcon := EStateM Thrown State

def setResultStatus (v : Int) : Halcon Unit := modify fun s => { s with resultStatus := v }

def getResultStatus : Halcon Int := return (← get).resultStatus

def rand : Halcon Nat := modifyGet fun s => (s.rand 0, { s with rand := fun n => s.rand (n + 1) })

/-- An operator of Halcon: its answer, or the exception it raises. -/
def operator {α : Type} : Option α → Halcon α
  | some a => pure a
  | none => throw .hException

/-- `WriteImage`, which raises an exception when the file cannot be written. -/
def writeImage (written : Bool) (fileName : String) : Halcon Unit :=
  if written then modify fun s => { s with written := s.written ++ [fileName] }
  else throw .hException

/-- `XINYU_IMAGE_MEASURE_RESULT_FAIL` and `XINYU_IMAGE_MEASURE_RESULT_SUCCESS`. -/
inductive MeasureResult where
  | fail
  | success
deriving DecidableEq, Repr

/-! ## One corner -/

/-- A circle fitted to a contour, with its distance from the region. -/
structure Arc where
  row : ℚ
  column : ℚ
  radius : ℚ
  startPhi : ℚ
  endPhi : ℚ
  distanceMin : ℚ
deriving DecidableEq, Repr

/-- A contour: its `cont_approx`, and the circle fitted when that is positive. -/
structure Contour where
  attrib : ℚ
  fit : Option Arc
deriving DecidableEq, Repr

/-- What the operators answer to one `search_corner_circle`. -/
structure CornerView where
  /-- `GetImageSize`, outside the `try` -/
  imageSize : Option (Int × Int)
  /-- the contours of the region, or an operator before the loop that raises -/
  contours : Option (List (Option Contour))
  /-- whether the image of a doubtful corner can be written -/
  writeImage : Bool
deriving DecidableEq, Repr

/-- `row_corner`, `column_corner` and `radius_corner` during the search; the last may be an empty
tuple. -/
structure Guess where
  row : ℚ
  column : ℚ
  radius : Option ℚ
deriving DecidableEq, Repr

/-- The same three after a search that succeeded. -/
structure Corner where
  row : ℚ
  column : ℚ
  radius : ℚ
deriving DecidableEq, Repr

/-- The position-specific condition under which an arc replaces the corner found so far. -/
def CameraPosition.Accepts (position : CameraPosition) (minPhi maxPhi : ℚ) (found : Guess)
    (arc : Arc) : Prop :=
  match position with
  | .leftTop =>
      arc.row + arc.column < found.row + found.column ∧ arc.startPhi > minPhi ∧
        arc.endPhi < maxPhi ∧ arc.radius < 120
  | .leftBottom => arc.distanceMin < 10 ∧ arc.radius > 70 ∧ arc.endPhi < 1.2 * 3.1415
  | .rightTop => arc.radius > 45 ∧ arc.radius < 120
  | .rightBottom => arc.radius > 45 ∧ arc.radius < 120
  | .right => False

instance (position : CameraPosition) (minPhi maxPhi : ℚ) (found : Guess) (arc : Arc) :
    Decidable (position.Accepts minPhi maxPhi found arc) :=
  match position with
  | .leftTop => inferInstanceAs (Decidable (_ ∧ _))
  | .leftBottom => inferInstanceAs (Decidable (_ ∧ _))
  | .rightTop => inferInstanceAs (Decidable (_ ∧ _))
  | .rightBottom => inferInstanceAs (Decidable (_ ∧ _))
  | .right => inferInstanceAs (Decidable False)

/-- One turn of the loop over the contours. -/
def tryContour (position : CameraPosition) (minPhi maxPhi : ℚ) (found : Guess)
    (selected : Option Contour) : Halcon Guess := do
  let contour ← operator selected
  if contour.attrib > 0 then
    let arc ← operator contour.fit
    if position.Accepts minPhi maxPhi found arc then
      return ⟨arc.row, arc.column, some arc.radius⟩
  return found

/-- `78.0 + (double)(rand() % 99) / 100.0` -/
def standInRadius : Halcon ℚ := return 78 + ((← rand) % 99 : Nat) / 100

variable (hds : Headers)

/-- The two tests of `d_radius_c` at the end of `search_corner_circle`. -/
def judgeRadius (position : CameraPosition) (written : Bool) (dRadius radius : ℚ) : Halcon ℚ := do
  if dRadius < 70 ∨ dRadius > 99 then
    setResultStatus 1
    let jobId := (← get).jobId
    writeImage written
      ("D:/Images/err_" ++ toString jobId ++ "_" ++ toString (hds.positionCode position) ++ ".jpg")
  if dRadius < 20 ∨ dRadius > 220 then
    let radius ← standInRadius
    setResultStatus 1
    return radius
  else
    return radius

/-- `search_corner_circle`; `none` is `XINYU_IMAGE_MEASURE_RESULT_FAIL`, after which no caller reads
the corner. -/
def searchCornerCircle (position : CameraPosition) (minPhi maxPhi : ℚ) (start : Guess)
    (view : CornerView) : Halcon (Option Corner) := do
  let _ ← operator view.imageSize
  tryCatch
    (do
      let contours ← operator view.contours
      let found ← contours.foldlM (tryContour position minPhi maxPhi) start
      let radius ← match found.radius with
        | some radius => pure radius
        | none => standInRadius
      -- the `d_radius_c` assigned in the inner `try` is a new variable: the outer one keeps its 0
      let radius ← judgeRadius hds position view.writeImage 0 radius
      return some ⟨found.row, found.column, radius⟩)
    fun _ => do
      setResultStatus 2
      return none

/-! ## Both sides of the part -/

/-- The ear of the part: the region's area, its inner rectangle, and the height of that. -/
structure EarView where
  area : ℚ
  x1 : ℚ
  y1 : ℚ
  x2 : ℚ
  y2 : ℚ
  distance : ℚ
deriving DecidableEq, Repr

/-- What `search_rect` sees: the number of regions and their bounding box. -/
structure RectView where
  objNum : Int
  row1 : ℚ
  col1 : ℚ
  row2 : ℚ
  col2 : ℚ
deriving DecidableEq, Repr

/-- `search_rect`: its `try` encloses every operator, so that an exception is a failed search. -/
def searchRect : Option RectView → Option RectView
  | none => none
  | some view => if view.objNum < 1 then none else some view

/-- What the operators answer to `measure_image_left_by_const_calib_value`. -/
structure LeftView where
  imageSize : Option (Int × Int)
  /-- the ear, inside a `try` -/
  ear : Option EarView
  heriz : Option RectView
  vert : Option RectView
  /-- the second `DistancePp`, outside every `try` -/
  distanceH : Option ℚ
  leftTop : CornerView
  leftBottom : CornerView
deriving DecidableEq, Repr

/-- What the operators answer to `measure_image_right_by_const_calib_value`. -/
structure RightView where
  /-- whether `RotateImage` succeeds -/
  rotateImage : Bool
  imageSize : Option (Int × Int)
  vert : Option RectView
  rightTop : CornerView
  rightBottom : CornerView
deriving DecidableEq, Repr

/-- `CALIB_TRANS_VALUE` -/
def calibTransValue : ℚ := 29.2

/-- `MUTLI_CAMERA_CALIB_ADJ_X` -/
def mutliCameraCalibAdjX : ℚ := 400

/-- The reference parameters of `measure_image_left_by_const_calib_value`. -/
structure LeftSize where
  widthLeftPart : ℚ
  w : ℚ
  w1 : ℚ
  h : ℚ
  h1 : ℚ
  raT : ℚ
  raB : ℚ
  rbLt : ℚ
  rbLb : ℚ
deriving DecidableEq, Repr

/-- The reference parameters of `measure_image_right_by_const_calib_value`. -/
structure RightSize where
  l : ℚ
  rbRt : ℚ
  rbRb : ℚ
deriving DecidableEq, Repr

def measureImageLeftByConstCalibValue (view : LeftView) : Halcon (Option LeftSize) := do
  let (width, height) ← operator view.imageSize
  let some ear := view.ear | return none
  if ear.area < 100 then
    return none
  let w1 := ear.distance / calibTransValue
  let some heriz := searchRect view.heriz | return none
  let some vert := searchRect view.vert | return none
  let distanceH ← operator view.distanceH
  let h := distanceH / calibTransValue
  let some lt ← searchCornerCircle hds .leftTop (0.4 * 3.1415) (1.1 * 3.1415)
    ⟨height, width, none⟩ view.leftTop | return none
  let rbLt := lt.radius / calibTransValue
  let some lb ← searchCornerCircle hds .leftBottom 3.1415 (1.5 * 3.1415)
    ⟨lt.row, lt.column, none⟩ view.leftBottom | return none
  let rbLb := lb.radius / calibTransValue
  let w := |heriz.row2 - heriz.row1| / calibTransValue
  let earRightX := max ear.x1 ear.x2
  let h1 := |earRightX - lt.column| / calibTransValue - rbLt
  return some ⟨width - vert.col1, w, w1, h, h1, rbLt * 0.92, rbLb * 0.92, rbLt, rbLb⟩

def measureImageRightByConstCalibValue (widthLeftPart : ℚ) (view : RightView) :
    Halcon (Option RightSize) := do
  operator (if view.rotateImage then some () else none)
  let (w, h) ← operator view.imageSize
  let some vert := searchRect view.vert | return none
  let some rt ← searchCornerCircle hds .rightTop 0 (0.6 * 3.1415) ⟨h, w, some 0⟩ view.rightTop
    | return none
  let rbRt := rt.radius / calibTransValue
  let some rb ← searchCornerCircle hds .rightBottom (1.4 * 3.1415) (2.0 * 3.1415) ⟨0, 0, some 0⟩
    view.rightBottom | return none
  let rbRb := rb.radius / calibTransValue
  return some ⟨(vert.col2 + widthLeftPart + mutliCameraCalibAdjX) / calibTransValue, rbRt, rbRb⟩

/-- `get_result` with `CURRENT_CALIB_MODE` as it is defined.  After both sides have been measured
control reaches the end of the function without a `return`; `fallOff` is what the caller then reads.
The measured values go to the caller's variables, which it overwrites without reading. -/
def getResult (left : LeftView) (right : RightView) (fallOff : MeasureResult) :
    Halcon MeasureResult := do
  let some size ← measureImageLeftByConstCalibValue hds left | return .fail
  let some _ ← measureImageRightByConstCalibValue hds size.widthLeftPart right | return .fail
  return fallOff

/-! ## The measurement with `MeasureSize` -/

/-- `FSIZE`, as far as it is read. -/
structure FSIZE where
  W : ℚ
  L : ℚ
  H : ℚ
  H1 : ℚ
  W1 : ℚ
  W2 : ℚ
deriving DecidableEq, Repr

/-- What the methods of `MeasureSize` return on the images of one call. -/
structure SizeView where
  calcCamera0 : Option Int
  calcCamera2 : Option Int
  calcSize : Option (Int × FSIZE)
deriving DecidableEq, Repr

/-- `measure_image_by_zf`; `none` is `XINYU_IMAGE_MEASURE_RESULT_FAIL`. -/
def measureImageByZf (view : SizeView) : Halcon (Option FSIZE) := do
  setResultStatus 2
  if 0 ≠ (← operator view.calcCamera0) then
    return none
  if 0 ≠ (← operator view.calcCamera2) then
    return none
  let (code, size) ← operator view.calcSize
  if 0 ≠ code then
    return none
  setResultStatus 0
  return some size

end TizerVision.Measure
