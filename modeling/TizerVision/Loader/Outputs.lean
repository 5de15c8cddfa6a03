/-
# Loader.Outputs — the two PLC outputs and the log lock of the consumer thread

After each verdict `thd_call_halcon_camera_array_with_delegate` raises the NG or the OK output, reads
the time under `log_mtx`, lowers the output and pushes the result to redis.  Nothing looks at what
`write_plc_bool` answers, nothing releases the lock when the time cannot be read, and the inner
handler of the loop catches `std::exception` only.

* `systemTime_fails_leaves_ng` — a failing `GetSystemTime` ends the thread with the output raised and
  the lock held.
* `restored_iff_restores` — the outputs and the lock are restored throughout exactly when every pair
  the thread processes reads the time and lowers what it raised.
-/
import TizerVision.Theory.Hoare
import TizerVision.Theory.Run
import Mathlib.Logic.Function.Basic
import Mathlib.Data.List.Basic

namespace TizerVision.Loader

open TizerVision.Theory

set_option autoImplicit false

/-! ## The calls of the loop and what they can do -/

/-- What a call can throw: `HException` is not a `std::exception`. -/
inductive Thrown where
  | stdException
  | hException
deriving DecidableEq, Repr

/-- `ng_addr` and `ok_addr`. -/
inductive Output where
  /-- `"w100.07"` -/
  | ng
  /-- `"w100.09"` -/
  | ok
deriving DecidableEq, Repr

/-- A call of `write_plc_bool`: whether the PLC took the value, and how the call ends. -/
structure Written where
  taken : Bool
  answer : Except Thrown Bool

/-- One image pair: how each call made for it ends. -/
structure Pair where
  /-- `func_call_halcon`, with the `result_status` it gives -/
  resultStatus : Except Thrown Int
  raise : Written
  /-- `HalconCpp::GetSystemTime` -/
  systemTime : Option Thrown
  lower : Written
  /-- `ll.lPush(REDIS_WRITE_KEY, ..)` -/
  push : Option Thrown

/-- The outputs as the PLC has them, the lock, and the pulses with the status they were emitted
for. -/
structure Lines where
  output : Output → Bool
  logMtxHeld : Bool
  pulses : List (Output × Int)

/-- Why the body of the loop does not come to its end. -/
inductive Fault where
  | threw (e : Thrown)
  /-- `log_mtx.lock()` by the thread that holds it -/
  | deadlock
deriving DecidableEq, Repr

abbrev Body := EStateM Fault Lines

/-! ## The loop -/

/-- A call that only matters by what it throws. -/
def callOut : Option Thrown → Body Unit
  | none => pure ()
  | some e => throw (.threw e)

/-- The outputs after a write. -/
def Lines.written (s : Lines) (addr : Output) (value : Bool) (written : Written) : Lines :=
  { s with output := if written.taken then Function.update s.output addr value else s.output }

/-- `write_plc_func(addr, value, false)`; the answer is dropped. -/
def writePlc (addr : Output) (value : Bool) (written : Written) : Body Unit := do
  modify fun s => s.written addr value written
  match written.answer with
  | .ok _ => pure ()
  | .error e => throw (.threw e)

/-- `log_mtx.lock()` -/
def lockLog : Body Unit := do
  let s ← get
  if s.logMtxHeld then throw .deadlock else modify fun s => { s with logMtxHeld := true }

/-- `log_mtx.lock(); update_current_msec(..); GetSystemTime(..); log_mtx.unlock();` -/
def noteTime (systemTime : Option Thrown) : Body Unit := do
  lockLog
  callOut systemTime
  modify fun s => { s with logMtxHeld := false }

/-- A pulse is begun. -/
def Lines.noted (s : Lines) (addr : Output) (status : Int) : Lines :=
  { s with pulses := s.pulses ++ [(addr, status)] }

/-- One pulse: raise the output, note the time under the lock, lower the output. -/
def pulse (addr : Output) (status : Int) (p : Pair) : Body Unit := do
  modify fun s => s.noted addr status
  writePlc addr true p.raise
  noteTime p.systemTime
  writePlc addr false p.lower

/-- The output of a verdict, if it has one. -/
def outputOf (status : Int) : Option Output :=
  if status = 1 ∨ status = 2 then some .ng else if status = 0 then some .ok else none

/-- The two branches on `result_status`. -/
def signal (status : Int) (p : Pair) : Body Unit :=
  match outputOf status with
  | some addr => pulse addr status p
  | none => pure ()

/-- The inner `try` block for one pair. -/
def processPair (p : Pair) : Body Unit :=
  match p.resultStatus with
  | .error e => throw (.threw e)
  | .ok status => do
      signal status p
      callOut p.push

/-- Where the thread is between two pairs. -/
inductive Phase where
  | loopHead
  | ended
  | blocked
deriving DecidableEq, Repr

structure Consumer where
  phase : Phase
  lines : Lines

def Consumer.init : Consumer := ⟨.loopHead, ⟨fun _ => false, false, []⟩⟩

/-- The two handlers: the inner one goes on with the loop, the outer one ends the thread. -/
def phaseAfter : Fault → Phase
  | .threw .stdException => .loopHead
  | .threw .hException => .ended
  | .deadlock => .blocked

/-- One turn of the loop that finds a pair; a thread that is not at the head finds none. -/
def Consumer.consume (c : Consumer) (p : Pair) : Consumer :=
  match c.phase with
  | .loopHead =>
      match (processPair p).run c.lines with
      | .ok _ lines => ⟨.loopHead, lines⟩
      | .error fault lines => ⟨phaseAfter fault, lines⟩
  | _ => c

def Consumer.consumeAll (c : Consumer) (pairs : List Pair) : Consumer := pairs.foldl .consume c

/-! ## What is restored -/

/-- Both outputs are low, the lock is free, and OK pulses stand for the status 0. -/
structure Lines.Restored (s : Lines) : Prop where
  low : ∀ addr, s.output addr = false
  free : s.logMtxHeld = false
  okPulses : ∀ status, (Output.ok, status) ∈ s.pulses → status = 0

/-- At the head of the loop and after the end of the thread everything is restored. -/
def Consumer.Restored (c : Consumer) : Prop := c.phase ≠ .blocked → c.lines.Restored

/-- The calls made for the pair lower what they raise and give the lock back: there is no pulse, or
the raising call throws without effect, or the time is read and a raised output is lowered. -/
def Pair.Restores (p : Pair) : Prop :=
  match p.resultStatus with
  | .error _ => True
  | .ok status =>
      outputOf status = none ∨
        match p.raise.answer with
        | .error _ => p.raise.taken = false
        | .ok _ => p.systemTime = none ∧ (p.raise.taken = true → p.lower.taken = true)

/-! ## One pair -/

section Calls

variable {Q : Unit → Lines → Prop} {E : Fault → Lines → Prop} {s : Lines} {p : Pair}

theorem wp_writePlc {addr : Output} {value : Bool} {written : Written} :
    wp (writePlc addr value written) Q E s ↔
      match written.answer with
      | .ok _ => Q () (s.written addr value written)
      | .error e => E (.threw e) (s.written addr value written) := by
  rw [writePlc, wp_bind, wp_modify]
  cases written.answer with
  | ok answer => exact Iff.rfl
  | error e => exact Iff.rfl

theorem wp_callOut {outcome : Option Thrown} :
    wp (callOut outcome) Q E s ↔
      match outcome with
      | none => Q () s
      | some e => E (.threw e) s := by
  cases outcome with
  | none => exact Iff.rfl
  | some e => exact Iff.rfl

/-- Reading the time gives the lock back, unless the reading throws. -/
theorem wp_noteTime {systemTime : Option Thrown} (free : s.logMtxHeld = false) :
    wp (noteTime systemTime) Q E s ↔
      match systemTime with
      | none => Q () s
      | some e => E (.threw e) { s with logMtxHeld := true } := by
  have unlocked : ¬ s.logMtxHeld = true := by simp [free]
  rw [noteTime, wp_bind, lockLog, wp_bind, wp_get, wp_ite, if_neg unlocked, wp_modify, wp_bind,
    wp_callOut]
  cases systemTime with
  | some e => exact Iff.rfl
  | none =>
      have same : { s with logMtxHeld := false } = s := by rw [← free]
      show Q () { s with logMtxHeld := false } ↔ Q () s
      rw [same]

end Calls

/-- The status a pulse of the OK output stands for. -/
theorem outputOf_eq_ok {status : Int} (pulsed : outputOf status = some .ok) : status = 0 := by
  unfold outputOf at pulsed
  split at pulsed
  · cases pulsed
  · split at pulsed
    · assumption
    · cases pulsed

theorem Lines.Restored.noted {s : Lines} {addr : Output} {status : Int} (restored : s.Restored)
    (pulsed : outputOf status = some addr) : (s.noted addr status).Restored where
  low := restored.low
  free := restored.free
  okPulses other member := by
    rcases List.mem_append.1 member with old | new
    · exact restored.okPulses other old
    · obtain ⟨rfl, rfl⟩ := Prod.mk.inj (List.mem_singleton.1 new)
      exact outputOf_eq_ok pulsed

@[simp] theorem Lines.written_output (s : Lines) (addr other : Output) (value : Bool)
    (written : Written) : (s.written addr value written).output other =
      if written.taken = true ∧ other = addr then value else s.output other := by
  unfold Lines.written
  cases written.taken with
  | false => simp
  | true => simp [Function.update_apply]

/-- Raising over low outputs leaves them low exactly when the PLC did not take the value. -/
theorem Lines.Restored.raised_iff {s : Lines} {addr : Output} {written : Written}
    (restored : s.Restored) : (s.written addr true written).Restored ↔ written.taken = false := by
  constructor
  · intro after
    simpa [restored.low addr] using after.low addr
  · intro refused
    refine ⟨fun other => ?_, restored.free, restored.okPulses⟩
    simp [refused, restored.low other]

/-- Raised and lowered again. -/
theorem Lines.Restored.lowered_iff {s : Lines} {addr : Output} {raise lower : Written}
    (restored : s.Restored) : ((s.written addr true raise).written addr false lower).Restored ↔
      (raise.taken = true → lower.taken = true) := by
  constructor
  · intro after taken
    have low := after.low addr
    simpa [taken] using low
  · intro pairing
    refine ⟨fun other => ?_, restored.free, restored.okPulses⟩
    rw [Lines.written_output, Lines.written_output, restored.low other]
    by_cases same : other = addr
    · cases taken : raise.taken with
      | false => simp
      | true => simp [same, pairing taken]
    · simp [same]

/-- A lock that is held is not restored. -/
theorem Lines.not_restored_of_held {s : Lines} (held : s.logMtxHeld = true) : ¬ s.Restored := by
  intro restored
  rw [restored.free] at held
  cases held

/-- How a pulse from restored lines ends: not in a deadlock, and restored exactly under the
condition on its three calls. -/
theorem pulse_restored_iff {s : Lines} {addr : Output} {status : Int} {p : Pair}
    (restored : s.Restored) (pulsed : outputOf status = some addr)
    (verdict : p.resultStatus = .ok status) :
    wp (pulse addr status p) (fun _ s' => s'.Restored ↔ p.Restores)
      (fun fault s' => fault ≠ .deadlock ∧ (s'.Restored ↔ p.Restores)) s := by
  have noted := restored.noted pulsed
  have condition : p.Restores ↔
      match p.raise.answer with
      | .error _ => p.raise.taken = false
      | .ok _ => p.systemTime = none ∧ (p.raise.taken = true → p.lower.taken = true) := by
    simp [Pair.Restores, verdict, pulsed]
  rw [pulse, wp_bind, wp_modify, wp_bind, wp_writePlc]
  cases raised : p.raise.answer with
  | error e =>
      rw [raised] at condition
      exact ⟨by simp, noted.raised_iff.trans condition.symm⟩
  | ok answer =>
      rw [raised] at condition
      have free : ((s.noted addr status).written addr true p.raise).logMtxHeld = false := noted.free
      show wp (noteTime p.systemTime >>= fun _ => writePlc addr false p.lower) _ _ _
      rw [wp_bind, wp_noteTime free]
      cases time : p.systemTime with
      | some e =>
          -- the exception leaves the lock held
          refine ⟨by simp, iff_of_false (Lines.not_restored_of_held rfl) ?_⟩
          simp [condition, time]
      | none =>
          have ends : (((s.noted addr status).written addr true p.raise).written addr false
              p.lower).Restored ↔ p.Restores := by
            rw [noted.lowered_iff, condition]
            simp [time]
          show wp (writePlc addr false p.lower) _ _ _
          rw [wp_writePlc]
          cases p.lower.answer with
          | ok answer => exact ends
          | error e => exact ⟨by simp, ends⟩

/-- **One pair.**  From restored lines the body does not block, and it ends with the lines restored
exactly when the calls made for the pair restore them. -/
theorem processPair_restored_iff {s : Lines} {p : Pair} (restored : s.Restored) :
    wp (processPair p) (fun _ s' => s'.Restored ↔ p.Restores)
      (fun fault s' => fault ≠ .deadlock ∧ (s'.Restored ↔ p.Restores)) s := by
  unfold processPair
  cases verdict : p.resultStatus with
  | error e => exact ⟨by simp, iff_of_true restored (by simp [Pair.Restores, verdict])⟩
  | ok status =>
      have pushed : ∀ s' : Lines, (s'.Restored ↔ p.Restores) →
          wp (callOut p.push) (fun _ s' => s'.Restored ↔ p.Restores)
            (fun fault s' => fault ≠ .deadlock ∧ (s'.Restored ↔ p.Restores)) s' := by
        intro s' ends
        rw [wp_callOut]
        cases p.push with
        | none => exact ends
        | some e => exact ⟨by simp, ends⟩
      show wp (signal status p >>= fun _ => callOut p.push) _ _ _
      rw [wp_bind, signal]
      cases pulsed : outputOf status with
      | none => exact pushed s (iff_of_true restored (by simp [Pair.Restores, verdict, pulsed]))
      | some addr => exact wp_imp (pulse_restored_iff restored pulsed verdict) fun _ => pushed

/-! ## The run of the thread -/

/-- The state of a thread that is not blocked and has everything restored. -/
structure Consumer.Sound (c : Consumer) : Prop where
  running : c.phase ≠ .blocked
  lines : c.lines.Restored

theorem sound_init : Consumer.init.Sound :=
  ⟨by decide, fun _ => rfl, rfl, fun _ member => by cases member⟩

/-- A turn of the loop keeps the thread sound exactly when the pair restores. -/
theorem Consumer.Sound.consume_iff {c : Consumer} {p : Pair} (sound : c.Sound)
    (waiting : c.phase = .loopHead) :
    (c.consume p).phase ≠ .blocked ∧ ((c.consume p).lines.Restored ↔ p.Restores) := by
  have ends := processPair_restored_iff (p := p) sound.lines
  unfold wp at ends
  unfold Consumer.consume
  rw [waiting]
  cases ran : (processPair p).run c.lines with
  | ok _ lines =>
      rw [ran] at ends
      exact ⟨by simp, ends⟩
  | error fault lines =>
      rw [ran] at ends
      refine ⟨?_, ends.2⟩
      cases fault with
      | threw e => cases e <;> simp [phaseAfter]
      | deadlock => exact absurd rfl ends.1

/-- A thread that has ended stays as it is. -/
theorem Consumer.consume_of_not_loopHead {c : Consumer} {p : Pair} (gone : c.phase ≠ .loopHead) :
    c.consume p = c := by
  unfold Consumer.consume
  split
  · exact absurd ‹_› gone
  · rfl

/-- A pair the thread gets to restores. -/
def Consumer.Meets (c : Consumer) (p : Pair) : Prop := c.phase = .loopHead → p.Restores

theorem Consumer.Sound.restored_iff {c : Consumer} {p : Pair} (sound : c.Sound) :
    (c.consume p).Restored ↔ c.Meets p := by
  by_cases waiting : c.phase = .loopHead
  · obtain ⟨running, ends⟩ := sound.consume_iff (p := p) waiting
    simp [Consumer.Restored, Consumer.Meets, running, waiting, ends]
  · rw [Consumer.consume_of_not_loopHead waiting]
    exact iff_of_true (fun _ => sound.lines) fun found => absurd found waiting

theorem Consumer.Sound.consume {c : Consumer} {p : Pair} (sound : c.Sound) (meets : c.Meets p) :
    (c.consume p).Sound := by
  by_cases waiting : c.phase = .loopHead
  · obtain ⟨running, ends⟩ := sound.consume_iff (p := p) waiting
    exact ⟨running, ends.2 (meets waiting)⟩
  · rwa [Consumer.consume_of_not_loopHead waiting]

/-- **The outputs and the lock are restored exactly when every processed pair restores them.**  For
every sequence of pairs and every way the calls can end, the thread is at the head of its loop or has
ended with both outputs low, the lock free and OK pulses for the status 0 only, throughout, exactly
when for each pair it gets to no output is pulsed, or the raising write throws without reaching the
PLC, or the time is read and a raised output is lowered by its second write. -/
theorem restored_iff_restores (pairs : List Pair) :
    (∀ n, (Consumer.init.consumeAll (pairs.take n)).Restored) ↔
      ∀ n p, pairs[n]? = some p →
        (Consumer.init.consumeAll (pairs.take n)).phase = .loopHead → p.Restores := by
  refine forall_prefix_iff (J := Consumer.Sound) (P := Consumer.Restored) (M := Consumer.Meets)
    (fun c sound _ => sound.lines) ?_ ?_ pairs sound_init
  · intro c p sound
    exact sound.restored_iff
  · intro c p sound meets
    exact sound.consume meets

/-- A pair with an NG verdict for which Halcon cannot read the time. -/
def untimedNg : Pair :=
  ⟨.ok 1, ⟨true, .ok true⟩, some .hException, ⟨true, .ok true⟩, none⟩

/-- **A failing `GetSystemTime` leaves the output raised and the lock held.** -/
theorem systemTime_fails_leaves_ng :
    (Consumer.init.consume untimedNg).phase = .ended ∧
      (Consumer.init.consume untimedNg).lines.output .ng = true ∧
      (Consumer.init.consume untimedNg).lines.logMtxHeld = true ∧
      ¬ ∀ (pairs : List Pair), (Consumer.init.consumeAll pairs).Restored := by
  refine ⟨rfl, rfl, rfl, fun always => ?_⟩
  have restored := always [untimedNg] (by decide)
  exact absurd (restored.low .ng) (by decide)

end TizerVision.Loader
