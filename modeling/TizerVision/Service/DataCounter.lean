/-
# Service.DataCounter — burrs counted by length class, a row for each hour

`DataCounter::write` is called once for every image of every camera.  It counts the burrs of the
image into the five counters of the camera; when the clock has left the hour of `m_date` it inserts a
row with the camera's counters, takes the time anew and clears these counters; last it inserts the
lengths of the image into the detail table.  The counters are per camera, `m_date` is not.

`write_same_hour` and `write_other_hour` say what one call does.
-/
import Mathlib.Data.List.Count
import Mathlib.Logic.Function.Basic

namespace TizerVision.Service

set_option autoImplicit false

/-! ## Lengths and times -/

/-- The five length classes. -/
inductive Level where
  | low
  | mid
  | high
  | uph
  | top
deriving DecidableEq, Repr

/-- `FLOAT_BURR_LEVEL_LOW`, `_MID`, `_HIGH` and `_UPH`. -/
structure Thresholds (δ : Type) where
  low : δ
  mid : δ
  high : δ
  uph : δ

/-- The part of `BurrsPainter` the counter reads. -/
structure BurrsPainter (δ : Type) where
  burrsNum : Nat
  getDistance : Nat → δ

/-- `struct tm` as `setDate` leaves it: the year and the month as written. -/
structure Tm where
  year : Nat
  mon : Nat
  mday : Nat
  hour : Nat
  min : Nat
deriving DecidableEq, Repr

variable {κ δ : Type} [DecidableEq κ] [LT δ] [DecidableLT δ]

/-- The distances the counting loop reads. -/
def BurrsPainter.distances (bp : BurrsPainter δ) : List δ :=
  (List.range bp.burrsNum).map bp.getDistance

/-- The `else if` chain of the counting loop. -/
def levelOf (t : Thresholds δ) (distance : δ) : Level :=
  if distance < t.low then .low
  else if distance < t.mid then .mid
  else if distance < t.high then .high
  else if distance < t.uph then .uph
  else .top

/-- `isChangeDate`, with the time it reads. -/
def isChangeDate (mDate p : Tm) : Bool :=
  if p.year = mDate.year ∧ p.mon = mDate.mon ∧ p.mday = mDate.mday ∧ p.hour = mDate.hour then false
  else true

/-! ## The counter -/

/-- A row of `TB_BURR_COUNT_LOG`, and the index of the camera it was inserted for. -/
structure Row (κ : Type) where
  cameraIdx : κ
  number : Level → Nat
  burrType : String
  logTime : Tm

/-- A row of `TB_BURR_COUNT_DETAIL`. -/
structure Detail (δ : Type) where
  burr : Fin 5 → δ
  burrType : String
  logTime : Tm

structure DataCounter (κ δ : Type) where
  /-- `m_LowBurrNumber` to `m_TopBurrNumber` -/
  number : κ → Level → Nat
  mDate : Tm
  rows : List (Row κ)
  details : List (Detail δ)

/-- One call of `write`: its arguments, the clock when it is called, when `isChangeDate` reads it and
when `setDate` does, and whether each of the two inserts stores its row or throws. -/
structure Write (κ δ : Type) where
  bp : BurrsPainter δ
  cameraIdx : κ
  cameraName : String
  called : Tm
  checked : Tm
  marked : Tm
  rowStored : Bool
  detailStored : Bool

/-- The constructor. -/
def DataCounter.init (now : Tm) : DataCounter κ δ := ⟨fun _ _ => 0, now, [], []⟩

/-- One of the ten `++`. -/
def DataCounter.increment (s : DataCounter κ δ) (c : κ) (level : Level) : DataCounter κ δ :=
  let raised := Function.update (s.number c) level (s.number c level + 1)
  { s with number := Function.update s.number c raised }

/-- The counting loop. -/
def DataCounter.countBurrs (t : Thresholds δ) (c : κ) (distances : List δ) (s : DataCounter κ δ) :
    DataCounter κ δ :=
  distances.foldl (fun s distance => s.increment c (levelOf t distance)) s

/-- `writeToMysql`; an insert that throws is caught. -/
def DataCounter.writeToMysql (s : DataCounter κ δ) (c : κ) (cameraName : String)
    (rowStored : Bool) : DataCounter κ δ :=
  if rowStored then { s with rows := s.rows ++ [⟨c, s.number c, cameraName, s.mDate⟩] } else s

def DataCounter.setDate (s : DataCounter κ δ) (now : Tm) : DataCounter κ δ := { s with mDate := now }

def DataCounter.clearCameraData (s : DataCounter κ δ) (c : κ) : DataCounter κ δ :=
  { s with number := Function.update s.number c fun _ => 0 }

/-- `writeDetail`; an insert that throws is caught. -/
def DataCounter.writeDetail [Zero δ] (s : DataCounter κ δ) (bp : BurrsPainter δ)
    (cameraName : String) (detailStored : Bool) : DataCounter κ δ :=
  let burrLen (i : Fin 5) : δ := if 0 < bp.getDistance i then bp.getDistance i else 0
  if detailStored then { s with details := s.details ++ [⟨burrLen, cameraName, s.mDate⟩] } else s

/-- What `write` does when the hour has changed. -/
def DataCounter.turnHour (s : DataCounter κ δ) (w : Write κ δ) : DataCounter κ δ :=
  ((s.writeToMysql w.cameraIdx w.cameraName w.rowStored).setDate w.marked).clearCameraData
    w.cameraIdx

def DataCounter.write [Zero δ] (t : Thresholds δ) (s : DataCounter κ δ) (w : Write κ δ) :
    DataCounter κ δ :=
  let counted := s.countBurrs t w.cameraIdx w.bp.distances
  let kept := if isChangeDate counted.mDate w.checked then counted.turnHour w else counted
  kept.writeDetail w.bp w.cameraName w.detailStored

/-! ## What one call does -/

/-- The burrs of one class in one call. -/
def Write.burrs (t : Thresholds δ) (w : Write κ δ) (level : Level) : Nat :=
  (w.bp.distances.map (levelOf t)).count level

omit [DecidableEq κ] in
theorem Write.burrs_eq_zero {t : Thresholds δ} {w : Write κ δ} (none : w.bp.distances = [])
    (level : Level) : w.burrs t level = 0 := by
  simp [Write.burrs, none]

omit [LT δ] [DecidableLT δ] in
theorem increment_number (s : DataCounter κ δ) (c d : κ) (level other : Level) :
    (s.increment c level).number d other =
      s.number d other + if d = c ∧ other = level then 1 else 0 := by
  unfold DataCounter.increment
  by_cases camera : d = c
  · subst camera
    by_cases same : other = level
    · subst same
      simp
    · simp [same]
  · simp [camera]

/-- The loop adds the number of its burrs in each class, and only counts. -/
theorem countBurrs_number (t : Thresholds δ) (c d : κ) (distances : List δ) (level : Level)
    (s : DataCounter κ δ) : (s.countBurrs t c distances).number d level =
      s.number d level + if d = c then (distances.map (levelOf t)).count level else 0 := by
  induction distances generalizing s with
  | nil => simp [DataCounter.countBurrs]
  | cons distance distances ih =>
      have tail := ih (s.increment c (levelOf t distance))
      rw [increment_number] at tail
      refine tail.trans ?_
      by_cases camera : d = c
      · by_cases same : level = levelOf t distance
        · simp [camera, same]
          omega
        · simp [camera, same, Ne.symm same]
      · simp [camera]

theorem countBurrs_same (t : Thresholds δ) (c : κ) (distances : List δ) (s : DataCounter κ δ) :
    (s.countBurrs t c distances).mDate = s.mDate ∧ (s.countBurrs t c distances).rows = s.rows := by
  induction distances generalizing s with
  | nil => exact ⟨rfl, rfl⟩
  | cons distance distances ih => exact ih (s.increment c (levelOf t distance))

omit [DecidableEq κ] in
theorem writeDetail_same [Zero δ] (s : DataCounter κ δ) (bp : BurrsPainter δ) (cameraName : String)
    (detailStored : Bool) :
    (s.writeDetail bp cameraName detailStored).number = s.number ∧
      (s.writeDetail bp cameraName detailStored).mDate = s.mDate ∧
      (s.writeDetail bp cameraName detailStored).rows = s.rows := by
  unfold DataCounter.writeDetail
  cases detailStored with
  | false => exact ⟨rfl, rfl, rfl⟩
  | true => exact ⟨rfl, rfl, rfl⟩

section Write

variable [Zero δ] (t : Thresholds δ) (s : DataCounter κ δ) (w : Write κ δ)

/-- The counter of a class once the burrs of the call are counted. -/
def DataCounter.counted (level : Level) : Nat := s.number w.cameraIdx level + w.burrs t level

/-- A call in the hour of `m_date` counts. -/
theorem write_same_hour (same : isChangeDate s.mDate w.checked = false) :
    (∀ c level, (s.write t w).number c level =
        if c = w.cameraIdx then s.counted t w level else s.number c level) ∧
      (s.write t w).mDate = s.mDate ∧ (s.write t w).rows = s.rows := by
  obtain ⟨date, rows⟩ := countBurrs_same t w.cameraIdx w.bp.distances s
  have kept : s.write t w = (s.countBurrs t w.cameraIdx w.bp.distances).writeDetail w.bp
      w.cameraName w.detailStored := by
    simp only [DataCounter.write, date, same, Bool.false_eq_true, if_false]
  obtain ⟨detailNumber, detailDate, detailRows⟩ := writeDetail_same
    (s.countBurrs t w.cameraIdx w.bp.distances) w.bp w.cameraName w.detailStored
  rw [kept, detailNumber, detailDate, detailRows]
  refine ⟨fun c level => ?_, date, rows⟩
  rw [countBurrs_number]
  by_cases camera : c = w.cameraIdx
  · simp [camera, DataCounter.counted, Write.burrs]
  · simp [camera]

/-- A call outside the hour of `m_date` inserts a row with everything counted for the camera, its own
burrs included, under the old `m_date`, and clears the counters whether the row was stored or not. -/
theorem write_other_hour (changed : isChangeDate s.mDate w.checked = true) :
    (∀ c level, (s.write t w).number c level =
        if c = w.cameraIdx then 0 else s.number c level) ∧
      (s.write t w).mDate = w.marked ∧
      (s.write t w).rows = s.rows ++
        if w.rowStored then [⟨w.cameraIdx, s.counted t w, w.cameraName, s.mDate⟩] else [] := by
  obtain ⟨date, rows⟩ := countBurrs_same t w.cameraIdx w.bp.distances s
  have counted : (s.countBurrs t w.cameraIdx w.bp.distances).number w.cameraIdx =
      s.counted t w := by
    funext level
    rw [countBurrs_number, if_pos rfl]
    rfl
  have turned : s.write t w = ((s.countBurrs t w.cameraIdx w.bp.distances).turnHour w).writeDetail
      w.bp w.cameraName w.detailStored := by
    simp only [DataCounter.write, date, changed, if_true]
  obtain ⟨detailNumber, detailDate, detailRows⟩ := writeDetail_same
    ((s.countBurrs t w.cameraIdx w.bp.distances).turnHour w) w.bp w.cameraName w.detailStored
  rw [turned, detailNumber, detailDate, detailRows]
  unfold DataCounter.turnHour DataCounter.writeToMysql
  refine ⟨fun c level => ?_, rfl, ?_⟩
  · by_cases camera : c = w.cameraIdx
    · simp [DataCounter.clearCameraData, camera]
    · cases w.rowStored <;>
        simp [DataCounter.clearCameraData, DataCounter.setDate, camera, countBurrs_number]
  · cases w.rowStored with
    | false => simp [DataCounter.clearCameraData, DataCounter.setDate, rows]
    | true => simp [DataCounter.clearCameraData, DataCounter.setDate, rows, counted, date]

end Write

end TizerVision.Service
