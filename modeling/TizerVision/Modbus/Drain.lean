/-
# Modbus.Drain — waiting until the output queue is empty

After a write both `WriteQuery` and `TxRxRawData` ask for the length of the output queue until it is 0
or the time is over.  The loops differ in their comparison with the clock.  That of `WriteQuery` is the
wrong way round: it goes on while the deadline is past, and so does not wait at all before it is.

* `drain_empties` — a loop that goes on until the queue is empty ends with an empty queue.
* `raw_drain_empties` — the loop of `TxRxRawData` goes on until then.
* `write_query_waits_iff` — `WriteQuery` reports a queue that empties in time only if it was empty at
  once, or if the deadline is beyond the range of the clock.
-/
import Mathlib.Order.Monotone.Basic
import TizerVision.Modbus.Serial
import TizerVision.Theory.Polling

namespace TizerVision.Modbus

set_option autoImplicit false

open Theory

/-! ## The loops -/

/-- What `timeGetTime` and `ClearCommError` answer in one turn. -/
structure DrainTurn where
  now : DWORD
  cbOutQue : DWORD
deriving DecidableEq, Repr

/-- `while (goesOn(::timeGetTime())&&(cstStatus.cbOutQue>0)) ::ClearCommError(..)` -/
def drainTurn (goesOn : DWORD → Bool) (cbOutQue : DWORD) (t : DrainTurn) : Turn DWORD DWORD :=
  if goesOn t.now && decide (cbOutQue > 0) then .again t.cbOutQue else .stop cbOutQue

/-- `(dwStart+dwTime_Out) >::timeGetTime()`, of both loops of `TxRxRawData` -/
def timeLeft (dwStart dwTime_Out now : DWORD) : Bool := decide (dwStart + dwTime_Out > now)

/-- `dwTimeOut <::timeGetTime()`, of `WriteQuery` -/
def pastDeadline (dwTimeOut now : DWORD) : Bool := decide (dwTimeOut < now)

/-- `WriteQuery`, with its answer once it has returned: `start` is read from the clock for the deadline,
`cbOutQue` by the first `ClearCommError`. -/
def writeQuery (m : LocalModbus) (writeFile : Bool) (start cbOutQue : DWORD)
    (turns : List DrainTurn) : Option Bool :=
  if writeFile then
    (poll (drainTurn (pastDeadline (start + m.timeOut))) cbOutQue turns).map (· == 0)
  else some false

section Loops

variable {goesOn : DWORD → Bool} {turns : Nat → DrainTurn} {q r : DWORD}

/-- The queue the `k`-th `ClearCommError` reports. -/
def observed (q : DWORD) (turns : Nat → DrainTurn) : Nat → DWORD
  | 0 => q
  | k + 1 => (turns k).cbOutQue

theorem stops_of_empty : Stops (drainTurn goesOn) 0 turns r ↔ r = 0 :=
  stops_stop_iff (by simp [drainTurn])

/-- A loop that may not go on ends with the queue it has seen. -/
theorem stops_of_not_goesOn (ended : goesOn (turns 0).now = false) :
    Stops (drainTurn goesOn) q turns r ↔ r = q :=
  stops_stop_iff (by simp [drainTurn, ended])

/-- **A loop that goes on until the queue is empty ends with an empty queue.** -/
theorem drain_empties {k : Nat} (empty : observed q turns k = 0)
    (goes : ∀ j < k, goesOn (turns j).now = true) : Stops (drainTurn goesOn) q turns 0 := by
  induction k generalizing q turns with
  | zero =>
      obtain rfl : q = 0 := empty
      exact stops_of_empty.2 rfl
  | succ k ih =>
      by_cases now : q = 0
      · subst now
        exact stops_of_empty.2 rfl
      · have again : drainTurn goesOn q (turns 0) = .again (turns 0).cbOutQue := by
          simpa [drainTurn, goes 0 (Nat.succ_pos k)] using now
        rw [stops_again_iff again]
        refine ih ?_ fun j below => goes (j + 1) (Nat.succ_lt_succ below)
        cases k with
        | zero => exact empty
        | succ k => exact empty

end Loops

/-! ## A trace of the clock and the queue -/

/-- The time of the write, of the calls of `ClearCommError` and of the readings of the clock that follow
it, and the queue each call reports.  The clock does not wrap. -/
structure DrainTrace where
  written : Nat
  call : Nat → Nat
  /-- The first reading is for the deadline. -/
  clock : Nat → Nat
  cbOutQue : Nat → DWORD
  written_le_call : written ≤ call 0
  call_le_start : call 0 ≤ clock 0
  clock_mono : Monotone clock
  clock_le_call : ∀ k, clock (k + 1) ≤ call (k + 1)
  call_le_clock : ∀ k, call (k + 1) ≤ clock (k + 2)
  fits : ∀ k, clock k < 2 ^ 32

namespace DrainTrace

variable (trace : DrainTrace)

def start : DWORD := BitVec.ofNat 32 (trace.clock 0)

def turns (k : Nat) : DrainTurn := ⟨BitVec.ofNat 32 (trace.clock (k + 1)), trace.cbOutQue (k + 1)⟩

/-- The queue is empty at a call made within `timeOut` after the write. -/
def DrainsWithin (timeOut : DWORD) : Prop :=
  ∃ k, trace.cbOutQue k = 0 ∧ trace.call k ≤ trace.written + timeOut.toNat

/-- `WriteQuery` returns this after a write that succeeded. -/
def WriteQueryReturns (m : LocalModbus) (answer : Bool) : Prop :=
  ∃ n, writeQuery m true trace.start (trace.cbOutQue 0) ((List.range n).map trace.turns) = some answer

/-- `WriteQuery` returns TRUE if the queue empties in time. -/
def Waits (m : LocalModbus) : Prop :=
  trace.DrainsWithin m.timeOut → trace.WriteQueryReturns m true

variable {trace} {m : LocalModbus}

theorem toNat_start : trace.start.toNat = trace.clock 0 := by
  rw [start, BitVec.toNat_ofNat, Nat.mod_eq_of_lt (trace.fits 0)]

theorem toNat_now (k : Nat) : (trace.turns k).now.toNat = trace.clock (k + 1) := by
  rw [turns, BitVec.toNat_ofNat, Nat.mod_eq_of_lt (trace.fits (k + 1))]

theorem observed_turns (k : Nat) : observed (trace.cbOutQue 0) trace.turns k = trace.cbOutQue k := by
  cases k with
  | zero => rfl
  | succ k => rfl

/-- The clock is read for a turn before its call is made. -/
theorem clock_le_call_of_lt {j k : Nat} (before : j < k) : trace.clock (j + 1) ≤ trace.call k := by
  obtain ⟨i, rfl⟩ : ∃ i, k = i + 1 := ⟨k - 1, by omega⟩
  exact (trace.clock_mono before).trans (trace.clock_le_call i)

theorem written_le_start : trace.written ≤ trace.clock 0 :=
  trace.written_le_call.trans trace.call_le_start

theorem writeQueryReturns_iff {answer : Bool} :
    trace.WriteQueryReturns m answer ↔
      ∃ q, Stops (drainTurn (pastDeadline (trace.start + m.timeOut))) (trace.cbOutQue 0) trace.turns q ∧
        (q == 0) = answer := by
  unfold WriteQueryReturns Stops
  simp only [writeQuery, if_true, Option.map_eq_some_iff]
  constructor
  · rintro ⟨n, q, stops, is⟩
    exact ⟨q, ⟨n, stops⟩, is⟩
  · rintro ⟨q, ⟨n, stops⟩, is⟩
    exact ⟨n, q, stops, is⟩

/-- **The loop of `TxRxRawData` waits** for a queue that empties before the deadline. -/
theorem raw_drain_empties {dwTime_Out : DWORD} {k : Nat} (empty : trace.cbOutQue k = 0)
    (in_time : trace.call k < trace.written + dwTime_Out.toNat)
    (in_range : trace.clock 0 + dwTime_Out.toNat < 2 ^ 32) :
    Stops (drainTurn (timeLeft trace.start dwTime_Out)) (trace.cbOutQue 0) trace.turns 0 := by
  refine drain_empties ((observed_turns k).trans empty) fun j below => ?_
  have read : trace.clock (j + 1) ≤ trace.call k := clock_le_call_of_lt below
  have before := trace.written_le_start
  rw [timeLeft, decide_eq_true_iff, gt_iff_lt, BitVec.lt_def, BitVec.toNat_add, toNat_now, toNat_start,
    Nat.mod_eq_of_lt in_range]
  omega

/-- Before a deadline in the range of the clock, `WriteQuery` gives up at once. -/
theorem gives_up {k : Nat} (later : 0 < k) (in_time : trace.call k ≤ trace.written + m.timeOut.toNat)
    (in_range : trace.clock 0 + m.timeOut.toNat < 2 ^ 32) :
    pastDeadline (trace.start + m.timeOut) (trace.turns 0).now = false := by
  have read : trace.clock (0 + 1) ≤ trace.call k := clock_le_call_of_lt later
  have before := trace.written_le_start
  rw [pastDeadline, decide_eq_false_iff_not, BitVec.lt_def, BitVec.toNat_add, toNat_now, toNat_start,
    Nat.mod_eq_of_lt in_range]
  omega

/-- A deadline beyond the range of the clock is past from the beginning. -/
theorem goes_on (beyond : 2 ^ 32 ≤ trace.clock 0 + m.timeOut.toNat) (j : Nat) :
    pastDeadline (trace.start + m.timeOut) (trace.turns j).now = true := by
  have bound := m.timeOut.isLt
  have fits := trace.fits 0
  have mono : trace.clock 0 ≤ trace.clock (j + 1) := trace.clock_mono (Nat.zero_le _)
  rw [pastDeadline, decide_eq_true_iff, BitVec.lt_def, BitVec.toNat_add, toNat_now, toNat_start]
  omega

end DrainTrace

/-- **When `WriteQuery` waits.** -/
theorem write_query_waits_iff (m : LocalModbus) (trace : DrainTrace) :
    trace.Waits m ↔ (trace.DrainsWithin m.timeOut →
      trace.cbOutQue 0 = 0 ∨ 2 ^ 32 ≤ trace.clock 0 + m.timeOut.toNat) := by
  refine forall_congr' fun drains => ?_
  obtain ⟨k, empty, in_time⟩ := drains
  rw [DrainTrace.writeQueryReturns_iff]
  constructor
  · rintro ⟨q, stops, is_empty⟩
    by_cases beyond : 2 ^ 32 ≤ trace.clock 0 + m.timeOut.toNat
    · exact .inr beyond
    · left
      cases k with
      | zero => exact empty
      | succ k =>
          have ended := DrainTrace.gives_up (Nat.succ_pos k) in_time (Nat.lt_of_not_le beyond)
          rw [← (stops_of_not_goesOn ended).1 stops]
          exact beq_iff_eq.1 is_empty
  · rintro (at_once | beyond)
    · rw [at_once]
      exact ⟨0, stops_of_empty.2 rfl, rfl⟩
    · exact ⟨0, drain_empties ((DrainTrace.observed_turns k).trans empty)
        fun j _ => DrainTrace.goes_on beyond j, rfl⟩

/-- Five bytes are queued at the first call and none at the second, a millisecond later. -/
def DrainTrace.emptiesNext : DrainTrace where
  written := 0
  call k := min k 1
  clock k := min k 1
  cbOutQue k := if k = 0 then 5 else 0
  written_le_call := Nat.le_refl _
  call_le_start := Nat.le_refl _
  clock_mono _ _ le := by simp only; omega
  clock_le_call _ := Nat.le_refl _
  call_le_clock _ := by omega
  fits _ := by omega

/-- `WriteQuery` returns FALSE, 999 ms before the timeout of the constructor. -/
theorem drained_query_refused : ¬ DrainTrace.emptiesNext.Waits .init := by
  intro waits
  obtain ⟨q, stops, is_empty⟩ := DrainTrace.writeQueryReturns_iff.1 (waits ⟨1, rfl, by decide⟩)
  rw [stops_of_not_goesOn (by decide)] at stops
  rw [stops] at is_empty
  revert is_empty
  decide

end TizerVision.Modbus
