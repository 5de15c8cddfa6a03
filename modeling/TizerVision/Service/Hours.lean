/-
# Service.Hours — whose burrs a row counts

Each row of `TB_BURR_COUNT_LOG` should count the burrs one camera reported in one hour, and every hour
in which a camera reported a burr should get its row.  The first call in a new hour breaks the first:
its burrs are counted before the hour is looked at, and go into the row of the old hour
(`new_hour_counted_into_old`).  It breaks the second for the other cameras: it moves `m_date` on for
all of them and inserts a row for its own camera only.

* `hourly_exact` — both hold in every run in which a call that finds the hour changed brings no burrs
  of the new hour and finds the counters of the other cameras at zero.
* `hasty_write_breaks` — after such a run, a call that does not meet this breaks one of them, at once
  or with the next call of the camera that was passed over.
-/
import TizerVision.Service.Conservation
import TizerVision.Theory.Run
import Mathlib.Data.Prod.Lex

namespace TizerVision.Service

open TizerVision.Theory

set_option autoImplicit false

/-! ## Hours -/

/-- An hour of a day, ordered by time. -/
abbrev Hour := ℕ ×ₗ ℕ ×ₗ ℕ ×ₗ ℕ

def Tm.inHour (time : Tm) : Hour := toLex (time.year, toLex (time.mon, toLex (time.mday, time.hour)))

theorem isChangeDate_iff (mDate p : Tm) :
    isChangeDate mDate p = true ↔ p.inHour ≠ mDate.inHour := by
  have same : p.inHour = mDate.inHour ↔
      p.year = mDate.year ∧ p.mon = mDate.mon ∧ p.mday = mDate.mday ∧ p.hour = mDate.hour := by
    simp [Tm.inHour, Prod.ext_iff]
  rw [Ne, same, isChangeDate]
  split
  case isTrue equal => simp [equal]
  case isFalse differ => simp [differ]

variable {κ δ : Type} [DecidableEq κ] [LT δ] [DecidableLT δ]

/-- The burrs of a class reported for a camera while the clock was in an hour. -/
def reported (t : Thresholds δ) (ws : List (Write κ δ)) (c : κ) (hour : Hour) (level : Level) : Nat :=
  passed t (ws.filter fun w => w.called.inHour = hour) c level

/-- What the rows are for. -/
structure HourlyExact (t : Thresholds δ) (ws : List (Write κ δ)) (rows : List (Row κ)) : Prop where
  /-- A row holds the burrs of its camera and its hour. -/
  exact_rows : ∀ row ∈ rows, ∀ level,
    row.number level = reported t ws row.cameraIdx row.logTime.inHour level
  /-- An hour with a burr has its row once the camera has written in a later hour. -/
  row_of_burr : ∀ w ∈ ws, ∀ hour < w.called.inHour, ∀ level,
    reported t ws w.cameraIdx hour level ≠ 0 →
      ∃ row ∈ rows, row.cameraIdx = w.cameraIdx ∧ row.logTime.inHour = hour

/-! ## Runs of the counter -/

/-- The counter, and the hour of the last reading of the clock. -/
structure Clocked (κ δ : Type) where
  counter : DataCounter κ δ
  clock : Hour

def Clocked.init (now : Tm) : Clocked κ δ := ⟨.init now, now.inHour⟩

def Clocked.step [Zero δ] (t : Thresholds δ) (s : Clocked κ δ) (w : Write κ δ) :
    Option (Clocked κ δ) :=
  some ⟨s.counter.write t w, w.marked.inHour⟩

/-- The clock does not go back and the insert of the row succeeds. -/
structure Regular (s : Clocked κ δ) (w : Write κ δ) : Prop where
  called : s.clock ≤ w.called.inHour
  checked : w.called.inHour ≤ w.checked.inHour
  marked : w.checked.inHour ≤ w.marked.inHour
  stored : w.rowStored = true

/-- A call that finds the hour changed brings no burrs of a new hour, and no other camera has burrs
counted. -/
def TurnsClean (s : Clocked κ δ) (w : Write κ δ) : Prop :=
  w.checked.inHour ≠ s.counter.mDate.inHour →
    (w.bp.distances = [] ∨ w.called.inHour = s.counter.mDate.inHour) ∧
      ∀ c, c ≠ w.cameraIdx → ∀ level, s.counter.number c level = 0

/-- A regular call that turns the hour clean. -/
def Orderly (s : Clocked κ δ) (w : Write κ δ) : Prop := Regular s w ∧ TurnsClean s w

theorem reported_snoc (t : Thresholds δ) (ws : List (Write κ δ)) (w : Write κ δ) (c : κ)
    (hour : Hour) (level : Level) : reported t (ws ++ [w]) c hour level =
      reported t ws c hour level +
        if w.called.inHour = hour ∧ w.cameraIdx = c then w.burrs t level else 0 := by
  unfold reported passed
  by_cases now : w.called.inHour = hour
  · by_cases camera : w.cameraIdx = c
    · simp [List.filter_append, now, camera]
    · simp [List.filter_append, now, camera]
  · simp [List.filter_append, now]

/-- Nothing is reported in an hour in which nobody calls. -/
theorem reported_eq_zero (t : Thresholds δ) {ws : List (Write κ δ)} {hour : Hour}
    (none : ∀ w ∈ ws, w.called.inHour ≠ hour) (c : κ) (level : Level) :
    reported t ws c hour level = 0 := by
  have empty : ws.filter (fun w => w.called.inHour = hour) = [] := by
    simpa [List.filter_eq_nil_iff] using none
  simp [reported, passed, empty]

/-- The invariant: the counters hold the hour of `m_date`, and the rows the hours before it. -/
structure Booked (t : Thresholds δ) (ws : List (Write κ δ)) (s : Clocked κ δ) : Prop where
  live : ∀ c level, s.counter.number c level = reported t ws c s.counter.mDate.inHour level
  earlier : ∀ row ∈ s.counter.rows, row.logTime.inHour < s.counter.mDate.inHour
  rows : ∀ row ∈ s.counter.rows, ∀ level,
    row.number level = reported t ws row.cameraIdx row.logTime.inHour level
  complete : ∀ c, ∀ hour < s.counter.mDate.inHour, ∀ level, reported t ws c hour level ≠ 0 →
    ∃ row ∈ s.counter.rows, row.cameraIdx = c ∧ row.logTime.inHour = hour
  calls : ∀ w ∈ ws, w.called.inHour ≤ s.counter.mDate.inHour
  clock : s.counter.mDate.inHour ≤ s.clock

theorem booked_init (t : Thresholds δ) (now : Tm) :
    Booked t ([] : List (Write κ δ)) (Clocked.init now) where
  live _ _ := rfl
  earlier _ member := by cases member
  rows _ member := by cases member
  complete _ _ _ _ some := absurd rfl some
  calls _ member := by cases member
  clock := le_rfl

theorem Booked.hourlyExact {t : Thresholds δ} {ws : List (Write κ δ)} {s : Clocked κ δ}
    (booked : Booked t ws s) : HourlyExact t ws s.counter.rows where
  exact_rows := booked.rows
  row_of_burr w member hour before :=
    booked.complete w.cameraIdx hour (lt_of_lt_of_le before (booked.calls w member))

section Step

variable {t : Thresholds δ} {ws : List (Write κ δ)} {s : Clocked κ δ} {w : Write κ δ}

/-- A call that finds the hour changed leaves the clock in a later one. -/
theorem Booked.later (booked : Booked t ws s) (regular : Regular s w)
    (turned : w.checked.inHour ≠ s.counter.mDate.inHour) :
    s.counter.mDate.inHour < w.marked.inHour := by
  have since : s.counter.mDate.inHour ≤ w.checked.inHour :=
    (booked.clock.trans regular.called).trans regular.checked
  exact lt_of_lt_of_le (lt_of_le_of_ne since turned.symm) regular.marked

/-- The burrs of a call that turns the hour clean belong to the old hour. -/
theorem reported_turn {old : Hour} (noneNew : w.bp.distances = [] ∨ w.called.inHour = old) (c : κ)
    (hour : Hour) (level : Level) : reported t (ws ++ [w]) c hour level =
      reported t ws c hour level +
        if old = hour ∧ w.cameraIdx = c then w.burrs t level else 0 := by
  rw [reported_snoc]
  rcases noneNew with empty | rfl
  · simp [Write.burrs_eq_zero empty]
  · rfl

/-- It adds nothing to the hours before. -/
theorem reported_past {old hour : Hour} (noneNew : w.bp.distances = [] ∨ w.called.inHour = old) (c : κ)
    (before : hour < old) (level : Level) :
    reported t (ws ++ [w]) c hour level = reported t ws c hour level := by
  simp [reported_turn noneNew, ne_of_gt before]

/-- Nothing is reported for the hours after. -/
theorem Booked.reported_future (booked : Booked t ws s)
    (noneNew : w.bp.distances = [] ∨ w.called.inHour = s.counter.mDate.inHour) (c : κ) {hour : Hour}
    (after : s.counter.mDate.inHour < hour) (level : Level) :
    reported t (ws ++ [w]) c hour level = 0 := by
  have silent : reported t ws c hour level = 0 := by
    refine reported_eq_zero t (fun v member => ?_) c level
    exact ne_of_lt (lt_of_le_of_lt (booked.calls v member) after)
  simp [reported_turn noneNew, silent, ne_of_lt after]

/-- The row of the old hour and the rows before it are all that is needed when the hour turns clean. -/
theorem Booked.row_of_turn (booked : Booked t ws s)
    (noneNew : w.bp.distances = [] ∨ w.called.inHour = s.counter.mDate.inHour)
    (othersZero : ∀ c, c ≠ w.cameraIdx → ∀ level, s.counter.number c level = 0) {c : κ} {hour : Hour}
    {level : Level} (some : reported t (ws ++ [w]) c hour level ≠ 0) :
    (c = w.cameraIdx ∧ hour = s.counter.mDate.inHour) ∨
      ∃ row ∈ s.counter.rows, row.cameraIdx = c ∧ row.logTime.inHour = hour := by
  rcases lt_trichotomy hour s.counter.mDate.inHour with earlier | now | after
  · rw [reported_past noneNew c earlier] at some
    exact .inr (booked.complete c hour earlier level some)
  · refine .inl ⟨?_, now⟩
    by_contra other
    rw [reported_turn noneNew, now, ← booked.live, othersZero c other] at some
    simp [Ne.symm other] at some
  · exact absurd (booked.reported_future noneNew c after level) some

variable [Zero δ]

/-- A call before the hour turns. -/
theorem booked_same_hour (booked : Booked t ws s) (regular : Regular s w)
    (same : w.checked.inHour = s.counter.mDate.inHour) :
    Booked t (ws ++ [w]) ⟨s.counter.write t w, w.marked.inHour⟩ := by
  have unchanged : isChangeDate s.counter.mDate w.checked = false := by
    rw [← Bool.not_eq_true, isChangeDate_iff]
    exact not_not.2 same
  obtain ⟨number, date, rows⟩ := write_same_hour t s.counter w unchanged
  have now : w.called.inHour = s.counter.mDate.inHour :=
    le_antisymm (same ▸ regular.checked) (booked.clock.trans regular.called)
  constructor
  · intro c level
    simp only [date]
    rw [reported_snoc, number, booked.live]
    by_cases camera : c = w.cameraIdx
    · simp [camera, now, DataCounter.counted, booked.live]
    · simp [camera, Ne.symm camera]
  · simpa only [date, rows] using booked.earlier
  · simp only [rows]
    intro row member level
    rw [reported_past (.inr now) _ (booked.earlier row member)]
    exact booked.rows row member level
  · simp only [date, rows]
    intro c hour before level some
    rw [reported_past (.inr now) c before] at some
    exact booked.complete c hour before level some
  · simp only [date]
    intro v member
    rcases List.mem_append.1 member with old | new
    · exact booked.calls v old
    · rw [List.mem_singleton.1 new, now]
  · show (s.counter.write t w).mDate.inHour ≤ w.marked.inHour
    rw [date, ← same]
    exact regular.marked

/-- The call that turns the hour. -/
theorem booked_other_hour (booked : Booked t ws s) (regular : Regular s w)
    (turned : w.checked.inHour ≠ s.counter.mDate.inHour) (clean : TurnsClean s w) :
    Booked t (ws ++ [w]) ⟨s.counter.write t w, w.marked.inHour⟩ := by
  obtain ⟨number, date, rows⟩ :=
    write_other_hour t s.counter w ((isChangeDate_iff _ _).2 turned)
  rw [if_pos regular.stored] at rows
  obtain ⟨noneNew, othersZero⟩ := clean turned
  have later := booked.later regular turned
  constructor
  · intro c level
    simp only [date]
    rw [booked.reported_future noneNew c later, number]
    split
    case isTrue => rfl
    case isFalse other => exact othersZero c other level
  · simp only [date, rows]
    intro row member
    rcases List.mem_append.1 member with old | new
    · exact (booked.earlier row old).trans later
    · rw [List.mem_singleton.1 new]
      exact later
  · simp only [rows]
    intro row member level
    rcases List.mem_append.1 member with old | new
    · rw [reported_past noneNew _ (booked.earlier row old)]
      exact booked.rows row old level
    · rw [List.mem_singleton.1 new, reported_turn noneNew, ← booked.live, if_pos ⟨rfl, rfl⟩]
      rfl
  · simp only [date, rows]
    intro c hour before level some
    rcases booked.row_of_turn noneNew othersZero some with ⟨rfl, rfl⟩ | ⟨row, member, is_row⟩
    · exact ⟨_, List.mem_append_right _ (List.mem_singleton_self _), rfl, rfl⟩
    · exact ⟨row, List.mem_append_left _ member, is_row⟩
  · simp only [date]
    intro v member
    rcases List.mem_append.1 member with old | new
    · exact (booked.calls v old).trans later.le
    · rw [List.mem_singleton.1 new]
      exact regular.checked.trans regular.marked
  · simp only [date]
    exact le_rfl

end Step

section Runs

variable [Zero δ] (t : Thresholds δ)

theorem booked_step (past : List (Write κ δ)) (s : Clocked κ δ) (w : Write κ δ) (s' : Clocked κ δ)
    (booked : Booked t past s) (met : Orderly s w) (taken : s.step t w = some s') :
    Booked t (past ++ [w]) s' := by
  cases taken
  by_cases turned : w.checked.inHour = s.counter.mDate.inHour
  · exact booked_same_hour booked met.1 turned
  · exact booked_other_hour booked met.1 turned met.2

theorem booked_run {now : Tm} {ws : List (Write κ δ)} {s : Clocked κ δ}
    (run : Run (Clocked.step t) Orderly (Clocked.init now) ws s) : Booked t ws s :=
  run.invariant_trace (booked_step t) (booked_init t now)

/-- **Rows count the burrs of their hour while the hour turns clean.**  For every sequence of calls
with a clock that does not go back and inserts that succeed: if every call that finds the hour changed
was made in the old hour or has no burrs, and finds the counters of all other cameras at zero, then
each row holds exactly the burrs of its camera and hour, and once a camera has written in a later hour
each earlier hour in which it reported a burr has a row. -/
theorem hourly_exact (now : Tm) (ws : List (Write κ δ)) (s : Clocked κ δ)
    (run : Run (Clocked.step t) Orderly (Clocked.init now) ws s) :
    HourlyExact t ws s.counter.rows :=
  (booked_run t run).hourlyExact

end Runs

/-- A burr at 10 o'clock, and a call of the same camera without burrs at 11. -/
theorem hourly_exact_next_hour : ∃ s, Run (Clocked.step unitLevels) Orderly
    (Clocked.init ⟨2021, 5, 24, 10, 0⟩) [hourlyWrite [3] 0 10 true, hourlyWrite [] 0 11 true] s ∧
    s.counter.rows.length = 1 ∧
      HourlyExact unitLevels [hourlyWrite [3] 0 10 true, hourlyWrite [] 0 11 true]
        s.counter.rows := by
  have first : Orderly (Clocked.init ⟨2021, 5, 24, 10, 0⟩) (hourlyWrite [3] 0 10 true) :=
    ⟨⟨le_rfl, le_rfl, le_rfl, rfl⟩, fun turned => absurd rfl turned⟩
  have second : Orderly ⟨(DataCounter.init ⟨2021, 5, 24, 10, 0⟩).write unitLevels
      (hourlyWrite [3] 0 10 true), Tm.inHour ⟨2021, 5, 24, 10, 0⟩⟩ (hourlyWrite [] 0 11 true) := by
    refine ⟨⟨by decide, le_rfl, le_rfl, rfl⟩, fun _ => ⟨.inl rfl, fun c other level => ?_⟩⟩
    have zero : ¬ c = (hourlyWrite [3] 0 10 true).cameraIdx := other
    rw [(write_same_hour unitLevels (.init ⟨2021, 5, 24, 10, 0⟩) _ (by decide)).1, if_neg zero]
    rfl
  have run : Run (Clocked.step unitLevels) Orderly (Clocked.init ⟨2021, 5, 24, 10, 0⟩)
      [hourlyWrite [3] 0 10 true, hourlyWrite [] 0 11 true] _ :=
    .cons first rfl (.cons second rfl (.nil _))
  exact ⟨_, run, rfl, hourly_exact _ _ _ _ run⟩

/-! ## Calls that do not turn the hour clean -/

/-- A call of the new hour with a burr. -/
theorem new_burr_breaks [Zero δ] {t : Thresholds δ} {ws : List (Write κ δ)} {s : Clocked κ δ}
    {w : Write κ δ} (booked : Booked t ws s) (regular : Regular s w)
    (turned : w.checked.inHour ≠ s.counter.mDate.inHour) (some : w.bp.distances ≠ [])
    (new : w.called.inHour ≠ s.counter.mDate.inHour) :
    ¬ HourlyExact t (ws ++ [w]) (s.counter.write t w).rows := by
  intro hourly
  obtain ⟨-, -, rows⟩ := write_other_hour t s.counter w ((isChangeDate_iff _ _).2 turned)
  rw [if_pos regular.stored] at rows
  refine some (distances_eq_nil t fun level => ?_)
  have held : s.counter.counted t w level =
      reported t (ws ++ [w]) w.cameraIdx s.counter.mDate.inHour level :=
    hourly.exact_rows ⟨w.cameraIdx, s.counter.counted t w, w.cameraName, s.counter.mDate⟩
      (by simp [rows]) level
  rw [reported_snoc, DataCounter.counted, booked.live] at held
  simpa [new] using held

/-- The next call of a camera whose burrs of the old hour were passed over. -/
theorem passed_over_breaks [Zero δ] {t : Thresholds δ} {ws : List (Write κ δ)} {s : Clocked κ δ}
    {w : Write κ δ} {c : κ} {level : Level} (booked : Booked t ws s) (regular : Regular s w)
    (turned : w.checked.inHour ≠ s.counter.mDate.inHour) (other : c ≠ w.cameraIdx)
    (counted : s.counter.number c level ≠ 0) :
    ∃ v s', Run (Clocked.step t) Regular ⟨s.counter.write t w, w.marked.inHour⟩ [v] s' ∧
      ¬ HourlyExact t (ws ++ [w] ++ [v]) s'.counter.rows := by
  obtain ⟨-, date, rows⟩ := write_other_hour t s.counter w ((isChangeDate_iff _ _).2 turned)
  have later := booked.later regular turned
  let v : Write κ δ := { w with
    bp := ⟨0, w.bp.getDistance⟩, cameraIdx := c, called := w.marked, checked := w.marked }
  have sameHour : isChangeDate (s.counter.write t w).mDate v.checked = false := by
    rw [← Bool.not_eq_true, isChangeDate_iff, date]
    exact not_not.2 rfl
  obtain ⟨-, -, rowsKept⟩ := write_same_hour t (s.counter.write t w) v sameHour
  refine ⟨v, _, .cons ⟨le_rfl, le_rfl, le_rfl, regular.stored⟩ rfl (.nil _), fun hourly => ?_⟩
  have reportedThen : reported t (ws ++ [w] ++ [v]) c s.counter.mDate.inHour level ≠ 0 := by
    rw [reported_snoc, reported_snoc, ← booked.live]
    omega
  obtain ⟨row, member, camera, hour⟩ := hourly.row_of_burr v
    (List.mem_append_right _ (List.mem_singleton_self _)) _ later level reportedThen
  simp only [rowsKept, rows, regular.stored, if_true] at member
  rcases List.mem_append.1 member with old | new
  · exact absurd hour (ne_of_lt (booked.earlier row old))
  · rw [List.mem_singleton.1 new] at camera
    exact other camera.symm

/-- **A new hour's burr is counted into the old hour.**  The first call at 11 o'clock brings a burr;
the row it inserts is stamped 10 o'clock. -/
theorem new_hour_counted_into_old :
    ¬ ∀ (ws : List (Write (Fin 2) Nat)) (s : Clocked (Fin 2) Nat),
      Run (Clocked.step unitLevels) Regular (Clocked.init ⟨2021, 5, 24, 10, 0⟩) ws s →
        HourlyExact unitLevels ws s.counter.rows := by
  intro always
  have regular : Regular (Clocked.init ⟨2021, 5, 24, 10, 0⟩) (hourlyWrite [3] 0 11 true) :=
    ⟨by decide, le_rfl, le_rfl, rfl⟩
  have hourly := always [hourlyWrite [3] 0 11 true] _ (.cons regular rfl (.nil _))
  exact new_burr_breaks (booked_init unitLevels _) regular (by decide) (by decide) (by decide) hourly

/-- **The condition is not idle.**  After a run that met it, a regular call that does not turn the
hour clean breaks the rows, at once or with one more regular call. -/
theorem hasty_write_breaks [Zero δ] {t : Thresholds δ} {now : Tm} {ws : List (Write κ δ)}
    {s : Clocked κ δ} {w : Write κ δ}
    (run : Run (Clocked.step t) Orderly (Clocked.init now) ws s) (regular : Regular s w)
    (hasty : ¬ TurnsClean s w) :
    ∃ vs s', Run (Clocked.step t) Regular ⟨s.counter.write t w, w.marked.inHour⟩ vs s' ∧
      ¬ HourlyExact t (ws ++ [w] ++ vs) s'.counter.rows := by
  have booked := booked_run t run
  unfold TurnsClean at hasty
  push Not at hasty
  obtain ⟨turned, unclean⟩ := hasty
  by_cases own : w.bp.distances = [] ∨ w.called.inHour = s.counter.mDate.inHour
  · obtain ⟨c, other, level, counted⟩ := unclean own
    obtain ⟨v, s', next, broken⟩ := passed_over_breaks booked regular turned other counted
    exact ⟨[v], s', next, broken⟩
  · push Not at own
    refine ⟨[], _, .nil _, ?_⟩
    rw [List.append_nil]
    exact new_burr_breaks booked regular turned own.1 own.2

end TizerVision.Service
