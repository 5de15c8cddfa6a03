/-
# Modbus.RawData — TxRxRawData

`TxRxRawData` writes bytes, waits until they have left, and reads bytes one by one until the time is
over or the buffer is full.  With a timeout of its own it first replaces the timeouts of the port, and
puts them back at the end of the exit without an error.  On the exits after a failed write or read the
replaced timeouts stay (`raw_timeouts_restored_iff`).

Its loops compare `start + timeout` with a clock that wraps, as does `ReadResponseASCII`.  The
comparison is right iff the clock and the sum have wrapped alike (`tick_wrap_iff`).
-/
import Mathlib.Tactic.ByContra
import TizerVision.Modbus.AsciiLine
import TizerVision.Modbus.Drain

namespace TizerVision.Modbus

set_option autoImplicit false

open Theory

/-! ## The call -/

/-- What `ReadFile` and `timeGetTime` answer in one turn of the read loop. -/
structure RawRead where
  read : Ascii.ReadFile
  now : DWORD
deriving DecidableEq, Repr

/-- What the Windows calls of one `TxRxRawData` answer. -/
structure RawCalls where
  getCommTimeouts : Bool
  /-- `SetCommTimeouts` with the timeouts of `SetTimeouts(NULL)` -/
  setDefault : Bool
  writeFile : Bool
  /-- The first `cbOutQue`, and the clock before the loop that waits for the queue. -/
  cbOutQue : DWORD
  drainStart : DWORD
  drain : List DrainTurn
  /-- The clock before the read loop. -/
  readStart : DWORD
  reads : List RawRead
  /-- `SetCommTimeouts` with the timeouts of before -/
  setBack : Bool
deriving DecidableEq, Repr

/-- The object, and what the caller and the port are given. -/
structure RawState where
  modbus : LocalModbus
  wNumOfBytesRead : WORD
  /-- `pRespBuffer` up to `dwRead` -/
  response : List BYTE
  /-- The buffers handed to `WriteFile`. -/
  handed : List (List BYTE)
deriving DecidableEq, Repr

/-- How a call ends other than by `return(ERR_OK)`. -/
inductive RawExit where
  /-- `goto TxRxErrorRawData` -/
  | failed (wError : WORD)
  /-- It has not returned. -/
  | running
deriving DecidableEq, Repr

abbrev Raw := EStateM RawExit RawState

def demand (wError : WORD) (holds : Bool) : Raw Unit :=
  if holds then pure () else throw (.failed wError)

/-- The result of a loop. -/
def await {α : Type} : Option α → Raw α
  | some a => pure a
  | none => throw .running

/-- The timeouts of the port: the driver's until others are set. -/
def LocalModbus.inForce (driver : CommTimeouts) (m : LocalModbus) : Option CommTimeouts :=
  m.hComHandle.map fun port => port.timeouts.getD driver

/-- `SetTimeouts`, with the answer of `SetCommTimeouts` -/
def LocalModbus.setTimeouts (m : LocalModbus) (set : Bool) (timeouts : CommTimeouts) : LocalModbus :=
  if set then
    { m with hComHandle := m.hComHandle.map fun port => { port with timeouts := some timeouts } }
  else m

/-- The timeouts are read and replaced if the caller has a timeout. -/
def replaceTimeouts (driver : CommTimeouts) (calls : RawCalls) (dwTimeOut : DWORD) :
    Raw (Option CommTimeouts) :=
  if dwTimeOut ≠ 0 then do
    demand ERR_NOT_INT calls.getCommTimeouts
    let s ← get
    modify fun s => { s with modbus := s.modbus.setTimeouts calls.setDefault .default }
    pure (s.modbus.inForce driver)
  else pure none

/-- One turn of the read loop -/
def rawTurn (dwStart dwTime_Out : DWORD) (wMaxBufferSize : WORD) (response : List BYTE)
    (t : RawRead) : Turn (List BYTE) (Bool × List BYTE) :=
  let loopEnd := fun (response : List BYTE) =>
    if timeLeft dwStart dwTime_Out t.now && decide (response.length < wMaxBufferSize.toNat) then
      .again response
    else .stop (true, response)
  match t.read with
  | .fails => .stop (false, response)
  | .nothing => loopEnd response
  | .byte b => loopEnd (response ++ [b])

/-- The loop that waits for the queue -/
def rawDrain (calls : RawCalls) (dwTime_Out : DWORD) : Option DWORD :=
  poll (drainTurn (timeLeft calls.drainStart dwTime_Out)) calls.cbOutQue calls.drain

/-- The write and both loops. -/
def exchangeRaw (calls : RawCalls) (data : List BYTE) (wMaxBufferSize : WORD) (dwTime_Out : DWORD) :
    Raw Unit := do
  modify fun s => { s with handed := s.handed ++ [data] }
  demand ERR_WR_PORT calls.writeFile
  let _ ← await (rawDrain calls dwTime_Out)
  let result ← await (poll (rawTurn calls.readStart dwTime_Out wMaxBufferSize) [] calls.reads)
  modify fun s => { s with response := result.2 }
  demand ERR_RD_PORT result.1
  modify fun s => { s with wNumOfBytesRead := BitVec.ofNat 16 result.2.length }

/-- The timeouts that were replaced are put back. -/
def putBackTimeouts (calls : RawCalls) : Option CommTimeouts → Raw Unit
  | some cto => do
      modify fun s => { s with modbus := s.modbus.setTimeouts calls.setBack cto }
      demand ERR_NOT_INT calls.setBack
  | none => pure ()

/-- `TxRxRawData` -/
def txRxRawData (driver : CommTimeouts) (calls : RawCalls) (data : List BYTE) (wMaxBufferSize : WORD)
    (dwTimeOut : DWORD) : Raw WORD := do
  modify fun s => { s with wNumOfBytesRead := 0 }
  let s ← get
  demand ERR_NOT_INT s.modbus.hComHandle.isSome
  let saved ← replaceTimeouts driver calls dwTimeOut
  exchangeRaw calls data wMaxBufferSize (if dwTimeOut ≠ 0 then dwTimeOut else s.modbus.timeOut)
  putBackTimeouts calls saved
  pure ERR_OK

/-- The code it returns and what it leaves, once it has returned. -/
def rawResult (driver : CommTimeouts) (calls : RawCalls) (data : List BYTE) (wMaxBufferSize : WORD)
    (dwTimeOut : DWORD) (s : RawState) : Option (WORD × RawState) :=
  match (txRxRawData driver calls data wMaxBufferSize dwTimeOut).run s with
  | .ok wError t => some (wError, t)
  | .error (.failed wError) t => some (wError, t)
  | .error .running _ => none

/-! ## The write and the reads -/

section Exchange

variable {s : RawState} {calls : RawCalls} {dwTime_Out : DWORD} {wMaxBufferSize : WORD}

theorem wp_demand {wError : WORD} {holds : Bool} {Q : Unit → RawState → Prop}
    {E : RawExit → RawState → Prop} :
    wp (demand wError holds) Q E s ↔ if holds then Q () s else E (.failed wError) s := by
  rw [demand, wp_ite]
  rfl

theorem wp_await_some {α : Type} {a : α} {Q : α → RawState → Prop} {E : RawExit → RawState → Prop} :
    wp (await (some a)) Q E s ↔ Q a s := Iff.rfl

/-- The reads that are made. -/
def readsMade (calls : RawCalls) (wMaxBufferSize : WORD) (dwTime_Out : DWORD) : List RawRead :=
  match rawDrain calls dwTime_Out with
  | some _ => taken (rawTurn calls.readStart dwTime_Out wMaxBufferSize) [] calls.reads
  | none => []

/-- The write and every read that is made succeed. -/
def PortServes (calls : RawCalls) (wMaxBufferSize : WORD) (dwTime_Out : DWORD) : Prop :=
  calls.writeFile = true ∧ ∀ r ∈ readsMade calls wMaxBufferSize dwTime_Out, r.read ≠ .fails

instance : Decidable (PortServes calls wMaxBufferSize dwTime_Out) :=
  inferInstanceAs (Decidable (_ ∧ _))

/-- The loop ends with FALSE in the turn whose read fails. -/
theorem read_fails_iff (dwStart : DWORD) (response : List BYTE) (t : RawRead) :
    t.read = .fails ↔
      ∃ r, rawTurn dwStart dwTime_Out wMaxBufferSize response t = .stop r ∧ r.1 = false := by
  unfold rawTurn
  cases t.read with
  | fails => simp
  | nothing =>
      simp only [reduceCtorEq, false_iff]
      split <;> simp
  | byte b =>
      simp only [reduceCtorEq, false_iff]
      split <;> simp

/-- Once the queue is empty, the port serves the reads iff the loop does not end with FALSE. -/
theorem portServes_iff (written : calls.writeFile = true) {q : DWORD}
    (drained : rawDrain calls dwTime_Out = some q) :
    PortServes calls wMaxBufferSize dwTime_Out ↔
      ¬ ∃ r, poll (rawTurn calls.readStart dwTime_Out wMaxBufferSize) [] calls.reads = some r ∧
        r.1 = false := by
  rw [← exists_taken_iff (read_fails_iff calls.readStart), PortServes, readsMade, drained]
  simp [written]

/-- **The write and both loops** leave the object alone, and fail iff the port does not serve. -/
theorem wp_exchangeRaw (data : List BYTE) :
    wp (exchangeRaw calls data wMaxBufferSize dwTime_Out)
      (fun _ t => t.modbus = s.modbus ∧ PortServes calls wMaxBufferSize dwTime_Out)
      (fun e t => t.modbus = s.modbus ∧
        (e = .running ↔ PortServes calls wMaxBufferSize dwTime_Out)) s := by
  rw [exchangeRaw, wp_bind, wp_modify, wp_bind, wp_demand]
  by_cases written : calls.writeFile = true
  · rw [if_pos written, wp_bind]
    cases drained : rawDrain calls dwTime_Out with
    | none => exact ⟨rfl, by simp [PortServes, written, readsMade, drained]⟩
    | some q =>
        have serves : PortServes calls wMaxBufferSize dwTime_Out ↔ _ :=
          portServes_iff written drained
        rw [wp_await_some, wp_bind]
        cases ended : poll (rawTurn calls.readStart dwTime_Out wMaxBufferSize) [] calls.reads with
        | none =>
            rw [ended] at serves
            exact ⟨rfl, by simp [serves]⟩
        | some result =>
            rw [ended] at serves
            rw [wp_await_some, wp_bind, wp_modify, wp_bind, wp_demand]
            cases answer : result.1 with
            | false => exact ⟨rfl, by simp [serves, answer]⟩
            | true => exact ⟨rfl, by simp [serves, answer]⟩
  · rw [if_neg written]
    exact ⟨rfl, by simp [PortServes, written]⟩

end Exchange

/-! ## The timeouts of the port -/

/-- When the call returns, the port has the timeouts it had before. -/
def RestoresTimeouts (driver : CommTimeouts) (calls : RawCalls) (data : List BYTE)
    (wMaxBufferSize : WORD) (dwTimeOut : DWORD) (s : RawState) : Prop :=
  ∀ wError t, rawResult driver calls data wMaxBufferSize dwTimeOut s = some (wError, t) →
    t.modbus.inForce driver = s.modbus.inForce driver

section Timeouts

variable {driver : CommTimeouts} {calls : RawCalls} {data : List BYTE} {wMaxBufferSize : WORD}
  {dwTimeOut : DWORD} {s : RawState}

theorem restoresTimeouts_iff_wp :
    RestoresTimeouts driver calls data wMaxBufferSize dwTimeOut s ↔
      wp (txRxRawData driver calls data wMaxBufferSize dwTimeOut)
        (fun _ t => t.modbus.inForce driver = s.modbus.inForce driver)
        (fun e t => e ≠ .running → t.modbus.inForce driver = s.modbus.inForce driver) s := by
  unfold RestoresTimeouts rawResult wp
  cases (txRxRawData driver calls data wMaxBufferSize dwTimeOut).run s with
  | ok wError t => simp
  | error e t => cases e <;> simp

@[simp] theorem inForce_setTimeouts (m : LocalModbus) (timeouts : CommTimeouts) :
    (m.setTimeouts true timeouts).inForce driver = m.hComHandle.map fun _ => timeouts := by
  simp [LocalModbus.setTimeouts, LocalModbus.inForce]
  rfl

/-- Nothing is replaced, or it is replaced by what was there, or the call reaches its end. -/
def TimeoutsSafe (driver : CommTimeouts) (calls : RawCalls) (wMaxBufferSize : WORD)
    (dwTimeOut : DWORD) (s : RawState) : Prop :=
  s.modbus.hComHandle = none ∨ dwTimeOut = 0 ∨ calls.getCommTimeouts = false ∨
    s.modbus.inForce driver = some .default ∨ PortServes calls wMaxBufferSize dwTimeOut

instance : Decidable (TimeoutsSafe driver calls wMaxBufferSize dwTimeOut s) :=
  inferInstanceAs (Decidable (_ ∨ _))

theorem wp_replaceTimeouts {Q : Option CommTimeouts → RawState → Prop}
    {E : RawExit → RawState → Prop} (set : calls.setDefault = true) :
    wp (replaceTimeouts driver calls dwTimeOut) Q E s ↔
      if dwTimeOut = 0 then Q none s
      else if calls.getCommTimeouts then
        Q (s.modbus.inForce driver) { s with modbus := s.modbus.setTimeouts true .default }
      else E (.failed ERR_NOT_INT) s := by
  rw [replaceTimeouts, wp_ite]
  by_cases own : dwTimeOut = 0
  · rw [if_pos own, if_neg (not_not_intro own)]
    rfl
  · rw [if_neg own, if_pos own, wp_bind, wp_demand, set]
    rfl

/-- What the rest of the call does with the timeouts, where they were replaced. -/
theorem wp_after_replaced {port : SerialPort} {cto : CommTimeouts} {dwTime_Out : DWORD} {X : Prop}
    (opened : s.modbus.hComHandle = some port) (set_back : calls.setBack = true)
    (served : PortServes calls wMaxBufferSize dwTime_Out → X)
    (failed : ¬ PortServes calls wMaxBufferSize dwTime_Out →
      (s.modbus.inForce driver = some cto ↔ X)) :
    wp (do exchangeRaw calls data wMaxBufferSize dwTime_Out
           putBackTimeouts calls (some cto)
           pure ERR_OK)
      (fun _ t => t.modbus.inForce driver = some cto ↔ X)
      (fun e t => (e ≠ .running → t.modbus.inForce driver = some cto) ↔ X) s := by
  rw [wp_bind]
  apply wp_mono (wp_exchangeRaw data)
  · rintro _ t ⟨same, serves⟩
    rw [putBackTimeouts, wp_bind, wp_bind, wp_modify, wp_demand, if_pos set_back, set_back, wp_pure,
      inForce_setTimeouts, same, opened]
    exact iff_of_true rfl (served serves)
  · rintro e t ⟨same, running⟩
    rw [same]
    by_cases serves : PortServes calls wMaxBufferSize dwTime_Out
    · exact iff_of_true (fun ended => absurd (running.2 serves) ended) (served serves)
    · have ended : e ≠ .running := fun still => serves (running.1 still)
      rw [forall_prop_of_true ended]
      exact failed serves

/-- **When the timeouts are put back**, if `SetCommTimeouts` succeeds. -/
theorem raw_timeouts_restored_iff (driver : CommTimeouts) (calls : RawCalls) (data : List BYTE)
    (wMaxBufferSize : WORD) (dwTimeOut : DWORD) (s : RawState) (set : calls.setDefault = true)
    (set_back : calls.setBack = true) :
    RestoresTimeouts driver calls data wMaxBufferSize dwTimeOut s ↔
      TimeoutsSafe driver calls wMaxBufferSize dwTimeOut s := by
  rw [restoresTimeouts_iff_wp]
  apply wp_iff_of_ends
  rw [txRxRawData, wp_bind, wp_modify, wp_bind, wp_get, wp_bind, wp_demand]
  cases opened : s.modbus.hComHandle with
  | none => exact iff_of_true (fun _ => rfl) (.inl opened)
  | some port =>
      show wp _ _ _ _
      rw [wp_bind, wp_replaceTimeouts set]
      by_cases own : dwTimeOut = 0
      · -- the timeouts are not touched
        have safe : TimeoutsSafe driver calls wMaxBufferSize dwTimeOut s := .inr (.inl own)
        rw [if_pos own, wp_bind]
        apply wp_mono (wp_exchangeRaw data)
        · rintro _ t ⟨same, -⟩
          exact iff_of_true (congrArg _ same) safe
        · rintro e t ⟨same, -⟩
          exact iff_of_true (fun _ => congrArg _ same) safe
      · rw [if_neg own, if_pos own]
        by_cases got : calls.getCommTimeouts = true
        · rw [if_pos got]
          have before : s.modbus.inForce driver = some (port.timeouts.getD driver) := by
            rw [LocalModbus.inForce, opened]
            rfl
          have replaced : (s.modbus.setTimeouts true .default).hComHandle =
              some { port with timeouts := some .default } := by
            simp [LocalModbus.setTimeouts, opened]
          simp only [before]
          refine wp_after_replaced replaced set_back (fun serves => ?_) fun fails => ?_
          · exact .inr (.inr (.inr (.inr serves)))
          · simp only [inForce_setTimeouts, TimeoutsSafe, before, opened, own, got, fails]
            simp [eq_comm]
        · rw [if_neg got]
          exact iff_of_true (fun _ => rfl) (.inr (.inr (.inl (Bool.eq_false_iff.2 got))))

/-- Two bytes are asked for with a timeout of 50 ms on a port just opened in RTU mode; each read gives
one. -/
def RawCalls.twoBytes : RawCalls where
  getCommTimeouts := true
  setDefault := true
  writeFile := true
  cbOutQue := 0
  drainStart := 100
  drain := [⟨100, 0⟩]
  readStart := 100
  reads := [⟨.byte 1, 101⟩, ⟨.byte 2, 102⟩]
  setBack := true

/-- A port with the timeouts of RTU mode, and a caller whose buffer is empty. -/
def RawState.rtuPort : RawState where
  modbus := { LocalModbus.init with hComHandle := some ⟨2, none, some ⟨4, 1, 1000, 4, 1000⟩⟩ }
  wNumOfBytesRead := 0
  response := []
  handed := []

theorem timeouts_restored_two_bytes :
    RestoresTimeouts .default .twoBytes [65] 2 50 .rtuPort :=
  (raw_timeouts_restored_iff .default .twoBytes [65] 2 50 .rtuPort rfl rfl).2 (by decide)

/-- The second read fails, and the port keeps the timeouts of the call. -/
theorem timeouts_kept_by_failed_read :
    ¬ RestoresTimeouts .default
      { RawCalls.twoBytes with reads := [⟨.byte 1, 101⟩, ⟨.fails, 102⟩] } [65] 2 50 .rtuPort := by
  intro restores
  have kept := restores ERR_RD_PORT ⟨RawState.rtuPort.modbus.setTimeouts true .default, 0, [1], [[65]]⟩
    (by decide)
  revert kept
  decide

end Timeouts

/-! ## The clock wraps -/

/-- With bytes in the queue, the loop that waits for it goes on at `now`. -/
def DrainGoesOn (dwStart dwTime_Out now : DWORD) : Prop :=
  ∀ cbOutQue next, cbOutQue > 0 →
    drainTurn (timeLeft dwStart dwTime_Out) cbOutQue ⟨now, next⟩ = .again next

/-- With room in the buffer, the read loop goes on at `now`. -/
def ReadGoesOn (dwStart dwTime_Out now : DWORD) : Prop :=
  ∀ (wMaxBufferSize : WORD) (response : List BYTE), response.length < wMaxBufferSize.toNat →
    rawTurn dwStart dwTime_Out wMaxBufferSize response ⟨.nothing, now⟩ = .again response

/-- After two reads without a character, the first at `first` and the second at `now`, the time is not
over for `ReadResponseASCII`. -/
def AsciiGoesOn (first dwTimeOut now : DWORD) : Prop :=
  ∀ r : Ascii.Reading, r.bFirstNull = false → r.dwTimeOut = dwTimeOut →
    ((r.noteNull first).noteNull now).timeCondition = true

/-- At `elapsed` after `start` each loop goes on iff its timeout is not over. -/
def FollowsElapsed (start timeOut elapsed : DWORD) : Prop :=
  (DrainGoesOn start timeOut (start + elapsed) ↔ elapsed < timeOut) ∧
    (ReadGoesOn start timeOut (start + elapsed) ↔ elapsed < timeOut) ∧
    (AsciiGoesOn start timeOut (start + elapsed) ↔ elapsed < timeOut)

section Wrap

variable {start timeOut now : DWORD}

theorem drainGoesOn_iff : DrainGoesOn start timeOut now ↔ now < start + timeOut := by
  constructor
  · intro goes
    have again := goes 1 0 (by decide)
    by_contra ended
    simp [drainTurn, timeLeft, ended] at again
  · intro left cbOutQue next some_left
    rw [drainTurn, timeLeft, decide_eq_true left, decide_eq_true some_left]
    rfl

theorem readGoesOn_iff : ReadGoesOn start timeOut now ↔ now < start + timeOut := by
  constructor
  · intro goes
    have again := goes 1 [] (by decide)
    by_contra ended
    simp [rawTurn, timeLeft, ended] at again
  · intro left wMaxBufferSize response room
    simp only [rawTurn, timeLeft, decide_eq_true left, decide_eq_true room]
    rfl

theorem asciiGoesOn_iff : AsciiGoesOn start timeOut now ↔ now < start + timeOut := by
  have condition : ∀ r : Ascii.Reading, r.bFirstNull = false → r.dwTimeOut = timeOut →
      (((r.noteNull start).noteNull now).timeCondition = true ↔ now < start + timeOut) := by
    intro r first same
    simp only [Ascii.Reading.noteNull, first, Ascii.Reading.timeCondition, same, decide_eq_true_eq,
      Bool.false_eq_true, if_false, if_true, BitVec.add_comm start]
  constructor
  · intro goes
    exact (condition ⟨[], timeOut, false, 0, 0⟩ rfl rfl).1 (goes _ rfl rfl)
  · exact fun left r first same => (condition r first same).2 left

/-- The sums compare like what was added iff both or neither have wrapped. -/
theorem add_lt_add_iff_wrap (start timeOut elapsed : DWORD) :
    (start + elapsed < start + timeOut ↔ elapsed < timeOut) ↔
      (start.toNat + elapsed.toNat < 2 ^ 32 ↔ start.toNat + timeOut.toNat < 2 ^ 32) := by
  have := start.isLt
  have := timeOut.isLt
  have := elapsed.isLt
  rw [BitVec.lt_def, BitVec.lt_def, BitVec.toNat_add, BitVec.toNat_add]
  omega

end Wrap

/-- **The comparisons with the clock are right iff the clock and the deadline have wrapped alike.** -/
theorem tick_wrap_iff (start timeOut elapsed : DWORD) :
    FollowsElapsed start timeOut elapsed ↔
      (start.toNat + elapsed.toNat < 2 ^ 32 ↔ start.toNat + timeOut.toNat < 2 ^ 32) := by
  rw [FollowsElapsed, drainGoesOn_iff, readGoesOn_iff, asciiGoesOn_iff, and_self, and_self,
    add_lt_add_iff_wrap]

/-- A timeout of a second that starts at the last tick is over at once. -/
theorem timeout_over_at_last_tick : ¬ FollowsElapsed 0xFFFFFFFF 1000 0 := by
  rintro ⟨drain, -⟩
  have left := drainGoesOn_iff.1 (drain.2 (by decide))
  revert left
  decide

end TizerVision.Modbus
