/-
# Service.Conservation — which burr counts are lost

A ledger of the burrs: what was passed to `write` for a camera is in the rows stored for it, or in its
live counter, or lost (`ledger`).  Counts are lost by a call that finds the hour changed and whose
insert throws, since the counters are cleared all the same (`write_ledger`); so nothing is lost
exactly when every such call finds nothing to insert (`conserved_iff`).
-/
import Mathlib.Algebra.Order.Ring.Int
import TizerVision.Service.DataCounter
import Mathlib.Algebra.BigOperators.Group.List.Basic

namespace TizerVision.Service

set_option autoImplicit false

variable {κ δ : Type} [DecidableEq κ] [LT δ] [DecidableLT δ] [Zero δ] (t : Thresholds δ)

/-! ## The ledger -/

/-- The sum of a class over the rows stored for a camera. -/
def storedIn (rows : List (Row κ)) (c : κ) (level : Level) : Nat :=
  ((rows.filter fun row => row.cameraIdx = c).map fun row => row.number level).sum

omit [Zero δ] in
/-- The burrs of a class passed for a camera. -/
def passed (ws : List (Write κ δ)) (c : κ) (level : Level) : Nat :=
  ((ws.filter fun w => w.cameraIdx = c).map fun w => w.burrs t level).sum

/-- The calls of `write`, one after the other. -/
def DataCounter.writeAll (s : DataCounter κ δ) (ws : List (Write κ δ)) : DataCounter κ δ :=
  ws.foldl (fun s w => s.write t w) s

/-- No count is lost. -/
def Conserved (now : Tm) (ws : List (Write κ δ)) : Prop :=
  ∀ c level, storedIn ((DataCounter.init now).writeAll t ws).rows c level +
    ((DataCounter.init now).writeAll t ws).number c level = passed t ws c level

/-- What one call loses. -/
def DataCounter.loss (s : DataCounter κ δ) (w : Write κ δ) (c : κ) (level : Level) : Nat :=
  if (isChangeDate s.mDate w.checked = true ∧ w.rowStored = false) ∧ c = w.cameraIdx then
    s.counted t w level
  else 0

/-- What the calls lose. -/
def DataCounter.lost (c : κ) (level : Level) : DataCounter κ δ → List (Write κ δ) → Nat
  | _, [] => 0
  | s, w :: ws => s.loss t w c level + lost c level (s.write t w) ws

omit [LT δ] [DecidableLT δ] [Zero δ] in
theorem storedIn_append (rows more : List (Row κ)) (c : κ) (level : Level) :
    storedIn (rows ++ more) c level = storedIn rows c level + storedIn more c level := by
  simp [storedIn]

/-- One call: what it is passed is stored, counted or lost. -/
theorem write_ledger (s : DataCounter κ δ) (w : Write κ δ) (c : κ) (level : Level) :
    storedIn (s.write t w).rows c level + (s.write t w).number c level + s.loss t w c level =
      storedIn s.rows c level + s.number c level + passed t [w] c level := by
  cases changed : isChangeDate s.mDate w.checked with
  | false =>
      obtain ⟨number, -, rows⟩ := write_same_hour t s w changed
      rw [number, rows]
      by_cases camera : c = w.cameraIdx
      · simp [camera, passed, DataCounter.loss, DataCounter.counted, changed]
        omega
      · simp [camera, Ne.symm camera, passed, DataCounter.loss]
  | true =>
      obtain ⟨number, -, rows⟩ := write_other_hour t s w changed
      rw [number, rows, storedIn_append]
      by_cases camera : c = w.cameraIdx
      · cases stored : w.rowStored with
        | false =>
            simp [camera, passed, storedIn, DataCounter.loss, DataCounter.counted, changed, stored]
            omega
        | true =>
            simp [camera, passed, storedIn, DataCounter.loss, DataCounter.counted, stored]
            omega
      · cases w.rowStored <;> simp [camera, Ne.symm camera, passed, storedIn, DataCounter.loss]

omit [Zero δ] in
theorem passed_cons (w : Write κ δ) (ws : List (Write κ δ)) (c : κ) (level : Level) :
    passed t (w :: ws) c level = passed t [w] c level + passed t ws c level := by
  by_cases camera : w.cameraIdx = c
  · simp [passed, camera]
  · simp [passed, camera]

/-- **The ledger.**  What is passed is stored, counted or lost. -/
theorem ledger (s : DataCounter κ δ) (ws : List (Write κ δ)) (c : κ) (level : Level) :
    storedIn (s.writeAll t ws).rows c level + (s.writeAll t ws).number c level +
        s.lost t c level ws =
      storedIn s.rows c level + s.number c level + passed t ws c level := by
  induction ws generalizing s with
  | nil => simp [DataCounter.writeAll, DataCounter.lost, passed]
  | cons w ws ih =>
      have first := write_ledger t s w c level
      have rest := ih (s.write t w)
      have split := passed_cons t w ws c level
      show storedIn ((s.write t w).writeAll t ws).rows c level +
        ((s.write t w).writeAll t ws).number c level +
          (s.loss t w c level + (s.write t w).lost t c level ws) = _
      omega

/-! ## When nothing is lost -/

/-- A call whose insert throws in a new hour has nothing to insert. -/
def DataCounter.LosesNothing (s : DataCounter κ δ) (w : Write κ δ) : Prop :=
  isChangeDate s.mDate w.checked = true → w.rowStored = false →
    w.bp.distances = [] ∧ ∀ level, s.number w.cameraIdx level = 0

omit [DecidableEq κ] [Zero δ] in
/-- An image without burrs in any class is one without burrs. -/
theorem distances_eq_nil {w : Write κ δ} (none : ∀ level, w.burrs t level = 0) :
    w.bp.distances = [] := by
  cases found : w.bp.distances with
  | nil => rfl
  | cons distance distances =>
      have zero := none (levelOf t distance)
      simp [Write.burrs, found] at zero

omit [Zero δ] in
theorem loss_eq_zero_iff (s : DataCounter κ δ) (w : Write κ δ) :
    (∀ c level, s.loss t w c level = 0) ↔ s.LosesNothing w := by
  constructor
  · intro zero changed refused
    have none : ∀ level, s.number w.cameraIdx level + w.burrs t level = 0 := by
      intro level
      simpa [DataCounter.loss, DataCounter.counted, changed, refused] using zero w.cameraIdx level
    refine ⟨distances_eq_nil t fun level => ?_, fun level => ?_⟩
    · exact Nat.eq_zero_of_add_eq_zero_left (none level)
    · exact Nat.eq_zero_of_add_eq_zero_right (none level)
  · intro keeps c level
    unfold DataCounter.loss
    split
    case isTrue turned =>
      obtain ⟨empty, zero⟩ := keeps turned.1.1 turned.1.2
      rw [DataCounter.counted, zero, Write.burrs_eq_zero empty]
    case isFalse => rfl

/-- The calls lose nothing exactly when no call does. -/
theorem lost_eq_zero_iff (s : DataCounter κ δ) (ws : List (Write κ δ)) :
    (∀ c level, s.lost t c level ws = 0) ↔
      ∀ n w, ws[n]? = some w → (s.writeAll t (ws.take n)).LosesNothing w := by
  induction ws generalizing s with
  | nil => simp [DataCounter.lost]
  | cons w ws ih =>
      have first := loss_eq_zero_iff t s w
      have rest := ih (s.write t w)
      constructor
      · intro zero n v found
        cases n with
        | zero =>
            obtain rfl : w = v := by simpa using found
            exact first.1 fun c level => Nat.eq_zero_of_add_eq_zero_right (zero c level)
        | succ n =>
            exact rest.1 (fun c level => Nat.eq_zero_of_add_eq_zero_left (zero c level)) n v
              (by simpa using found)
      · intro keeps c level
        have head := first.2 (keeps 0 w rfl) c level
        have tail := rest.2 (fun n v found => keeps (n + 1) v (by simpa using found)) c level
        exact Nat.add_eq_zero_iff.2 ⟨head, tail⟩

/-- **When no count is lost.**  For every sequence of calls and every pattern of inserts that store or
throw, stored rows and live counters add up to what was passed, for each camera and class, exactly
when each call that finds the hour changed and whose insert throws has no burrs of its own and finds
the counters of its camera at zero. -/
theorem conserved_iff (now : Tm) (ws : List (Write κ δ)) :
    Conserved t now ws ↔ ∀ n w, ws[n]? = some w →
      ((DataCounter.init now).writeAll t (ws.take n)).LosesNothing w := by
  rw [← lost_eq_zero_iff]
  refine forall_congr' fun c => forall_congr' fun level => ?_
  have balance := ledger t (DataCounter.init now) ws c level
  have start : storedIn (DataCounter.init now : DataCounter κ δ).rows c level +
      (DataCounter.init now : DataCounter κ δ).number c level = 0 := rfl
  omega

/-! ## An insert that throws -/

/-- Lengths up to 1, 2, 3 and 4, in the unit of the lengths. -/
def unitLevels : Thresholds Nat := ⟨1, 2, 3, 4⟩

/-- A call for one image, on a day of which only the hour is told; the clock stands still meanwhile. -/
def hourlyWrite (distances : List Nat) (cameraIdx : Fin 2) (hour : Nat) (rowStored : Bool) :
    Write (Fin 2) Nat where
  bp := ⟨distances.length, fun i => distances.getD i 0⟩
  cameraIdx := cameraIdx
  cameraName := "taichi"
  called := ⟨2021, 5, 24, hour, 0⟩
  checked := ⟨2021, 5, 24, hour, 0⟩
  marked := ⟨2021, 5, 24, hour, 0⟩
  rowStored := rowStored
  detailStored := true

/-- **Counts are lost.**  One burr is reported at 10 o'clock; at 11 the insert throws and the counter
is cleared. -/
theorem throwing_insert_loses :
    ¬ ∀ ws : List (Write (Fin 2) Nat), Conserved unitLevels ⟨2021, 5, 24, 10, 0⟩ ws := by
  intro always
  have balance := always [hourlyWrite [3] 0 10 true, hourlyWrite [] 0 11 false] 0 .uph
  exact absurd balance (by decide)

end TizerVision.Service
