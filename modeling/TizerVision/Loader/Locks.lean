/-
# Loader.Locks — the callbacks, the consumer and the log thread statement by statement

`Loader.Pairing` takes the slot assignment of a callback and the poll of the consumer as single steps.
In LibraryLoaderConsole both are sections of several statements under `mtx`, and each callback and each
pulse also passes through a section under `log_mtx`, which the log thread takes as well.  The locks are
plain `lock()` and `unlock()` calls: an exception inside a section leaves the lock taken.  Here every
access to a shared variable is a step of its own and every call that can raise may do so.

* `stepped_of_step`, `step_of_stepped` — what a step finds and what it leaves.
* `log_moves`, `mtx_moves` — what a step does with the two locks, in the terms of `Theory.Mutex`.
* `sound_step` — only the owner of a lock is in its section, and the consumer finds in the slots what it
  has tested for.

What the log thread writes, and when it finds something to write, is decided by variables outside this
repository; here it takes `log_mtx` whenever it likes.  A thread that locks a mutex it already holds
waits for ever.  A frame whose conversion to an image fails before its callback copies anything is not a
step.
-/
import TizerVision.Theory.Mutex
import TizerVision.Loader.Pairing
import TizerVision.Loader.Outputs

namespace TizerVision.Loader.Locks

open TizerVision.Theory

set_option autoImplicit false

/-! ## The threads and where they are -/

inductive Thread where
  /-- `ImageCallBackEx` with `run_halcon_lib_with_delegate_image`, for one camera -/
  | camera (c : Camera)
  /-- `thd_call_halcon_camera_array_with_delegate` -/
  | consumer
  /-- `thread_save_log` -/
  | log
deriving DecidableEq, Repr

/-- The camera of `_temp_img0`. -/
def camera0 : Camera := ⟨0, Nat.two_pos⟩

/-- The camera of `_temp_img1`. -/
def camera1 : Camera := ⟨1, Nat.one_lt_two⟩

/-- The next statement of a callback, with its `ex_image_info`. -/
inductive CallbackPc where
  /-- no callback is running -/
  | idle
  /-- `log_mtx.lock()` -/
  | atLogLock (info : HImageExtraInfo)
  /-- `GetSystemTime(..); log_mtx.unlock()` -/
  | timing (info : HImageExtraInfo)
  /-- the JSON is parsed and the record of the image made -/
  | parsing (info : HImageExtraInfo)
  /-- `mtx.lock()` -/
  | atLock (info : HImageExtraInfo)
  /-- `switch (camera_id)` and `mtx.unlock()` -/
  | assigning (info : HImageExtraInfo)
  /-- an exception has left the callback -/
  | ended (info : HImageExtraInfo)
deriving DecidableEq, Repr

/-- The next statement of the consumer, with the images it has copied. -/
inductive ConsumerPc where
  /-- `mtx.lock()` at the head of the loop -/
  | poll
  /-- `_temp_img0 != NULL` -/
  | testing0
  /-- `_temp_img1 != NULL` -/
  | testing1
  /-- `img0 = _temp_img0->get_image()` -/
  | copying0
  /-- `img1 = _temp_img1->get_image()` -/
  | copying1 (img0 : HImage)
  /-- `_temp_img0 = NULL` -/
  | clearing0 (img0 img1 : HImage)
  /-- `_temp_img1 = NULL` -/
  | clearing1 (img0 img1 : HImage)
  /-- `mtx.unlock()`; both images when `is_get_image` -/
  | unlocking (images : Option (HImage × HImage))
  /-- `func_call_halcon(2, source, _captured_images, ..)` -/
  | calling (img0 img1 : HImage)
  /-- `write_plc_func(addr, true, false)` -/
  | raising
  /-- `log_mtx.lock()` -/
  | atLogLock
  /-- `GetSystemTime(..); log_mtx.unlock()` -/
  | timing
  /-- `write_plc_func(addr, false, false)` -/
  | lowering
  /-- `ll.lPush(REDIS_WRITE_KEY, ..)` -/
  | pushing
  | ended
  /-- `get_image()` was called on `NULL` -/
  | crashed
deriving DecidableEq, Repr

inductive LogPc where
  | idle
  /-- `l.Log(message); log_mtx.unlock()` -/
  | writing
deriving DecidableEq, Repr

structure State where
  /-- `HikCameraInfo::_captured_id` -/
  capturedId : Camera → Nat
  tempIn0 : Option Status
  /-- `_temp_img0` and `_temp_img1` -/
  tempImg : Camera → Option HImageExtraInfo
  logMtx : Option Thread
  mtx : Option Thread
  callback : Camera → CallbackPc
  consumer : ConsumerPc
  log : LogPc
  handed : List Handover

def State.init : State where
  capturedId := fun _ => 0
  tempIn0 := none
  tempImg := fun _ => none
  logMtx := none
  mtx := none
  callback := fun _ => .idle
  consumer := .poll
  log := .idle
  handed := []

def State.setCallback (s : State) (c : Camera) (pc : CallbackPc) : State :=
  { s with callback := Function.update s.callback c pc }

@[simp] theorem callback_setCallback_self (s : State) (c : Camera) (pc : CallbackPc) :
    (s.setCallback c pc).callback c = pc := Function.update_self ..

theorem callback_setCallback_ne (s : State) {c d : Camera} (other : d ≠ c) (pc : CallbackPc) :
    (s.setCallback c pc).callback d = s.callback d := Function.update_of_ne other ..

def State.setConsumer (s : State) (pc : ConsumerPc) : State := { s with consumer := pc }

def State.setLog (s : State) (pc : LogPc) : State := { s with log := pc }

def State.setSlot (s : State) (c : Camera) (slot : Option HImageExtraInfo) : State :=
  { s with tempImg := Function.update s.tempImg c slot }

def State.setLogMtx (s : State) (owner : Option Thread) : State := { s with logMtx := owner }

def State.setMtx (s : State) (owner : Option Thread) : State := { s with mtx := owner }

/-! ## The steps -/

/-- Where the two handlers of the consumer go on. -/
def handler : Thrown → ConsumerPc
  | .stdException => .poll
  | .hException => .ended

/-- The image and the numbers of the frame a camera delivers next. -/
def State.nextInfo (s : State) (c : Camera) : HImageExtraInfo :=
  ⟨⟨c, s.capturedId c⟩, c, s.capturedId c⟩

/-- `ImageCallBackEx` up to the first statement of `run_halcon_lib_with_delegate_image`. -/
def State.captured (s : State) (c : Camera) (msec : Nat) : State :=
  { s.setCallback c (.atLogLock (s.nextInfo c)) with
    capturedId := Function.update s.capturedId c (s.capturedId c + 1)
    tempIn0 := some ⟨s.capturedId c, c, msec⟩ }

def capture (s : State) (c : Camera) (msec : Nat) : Option State :=
  match s.callback c with
  | .idle => some (s.captured c msec)
  | _ => none

/-- `log_mtx.lock()`; a thread that finds the lock taken makes no step. -/
def lockLog (s : State) (t : Thread) : Option State :=
  match s.logMtx, t with
  | some _, _ => none
  | none, .camera c =>
      match s.callback c with
      | .atLogLock info => some ((s.setCallback c (.timing info)).setLogMtx (some t))
      | _ => none
  | none, .consumer =>
      match s.consumer with
      | .atLogLock => some ((s.setConsumer .timing).setLogMtx (some t))
      | _ => none
  | none, .log =>
      match s.log with
      | .idle => some ((s.setLog .writing).setLogMtx (some t))
      | .writing => none

/-- `GetSystemTime(..); log_mtx.unlock()`; the unlock is skipped when the call raises. -/
def time (s : State) (t : Thread) (threw : Option Thrown) : Option State :=
  match t with
  | .camera c =>
      match s.callback c, threw with
      | .timing info, none => some ((s.setCallback c (.parsing info)).setLogMtx none)
      | .timing info, some _ => some (s.setCallback c (.ended info))
      | _, _ => none
  | .consumer =>
      match s.consumer, threw with
      | .timing, none => some ((s.setConsumer .lowering).setLogMtx none)
      | .timing, some e => some (s.setConsumer (handler e))
      | _, _ => none
  | .log => none

/-- `l.Log(message); log_mtx.unlock()` -/
def writeLog (s : State) : Option State :=
  match s.log with
  | .writing => some ((s.setLog .idle).setLogMtx none)
  | .idle => none

/-- `jh.initial(..)` to `ex_image_info->set_total_count(..)` -/
def parse (s : State) (c : Camera) (threw : Option Thrown) : Option State :=
  match s.callback c, threw with
  | .parsing info, none => some (s.setCallback c (.atLock info))
  | .parsing info, some _ => some (s.setCallback c (.ended info))
  | _, _ => none

/-- `mtx.lock()` -/
def lock (s : State) (t : Thread) : Option State :=
  match s.mtx, t with
  | some _, _ => none
  | none, .camera c =>
      match s.callback c with
      | .atLock info => some ((s.setCallback c (.assigning info)).setMtx (some t))
      | _ => none
  | none, .consumer =>
      match s.consumer with
      | .poll => some ((s.setConsumer .testing0).setMtx (some t))
      | _ => none
  | none, .log => none

/-- `switch (camera_id)` and `mtx.unlock()` -/
def State.assigned (s : State) (c : Camera) (info : HImageExtraInfo) : State :=
  ((s.setCallback c .idle).setSlot info.cameraId (some info)).setMtx none

def assign (s : State) (c : Camera) : Option State :=
  match s.callback c with
  | .assigning info => some (s.assigned c info)
  | _ => none

/-- `_temp_img0 != NULL && _temp_img1 != NULL` -/
def test (s : State) : Option State :=
  match s.consumer with
  | .testing0 =>
      some (s.setConsumer (if (s.tempImg camera0).isSome then .testing1 else .unlocking none))
  | .testing1 =>
      some (s.setConsumer (if (s.tempImg camera1).isSome then .copying0 else .unlocking none))
  | _ => none

/-- One of the two `get_image()` calls; the section has no handler of its own, so that both kinds of
exception end the thread. -/
def copy (s : State) (threw : Option Thrown) : Option State :=
  match s.consumer, threw with
  | .copying0, none =>
      match s.tempImg camera0 with
      | some info => some (s.setConsumer (.copying1 info.image))
      | none => some (s.setConsumer .crashed)
  | .copying1 img0, none =>
      match s.tempImg camera1 with
      | some info => some (s.setConsumer (.clearing0 img0 info.image))
      | none => some (s.setConsumer .crashed)
  | .copying0, some _ | .copying1 _, some _ => some (s.setConsumer .ended)
  | _, _ => none

/-- A slot is set to `NULL`. -/
def State.cleared (s : State) (c : Camera) (pc : ConsumerPc) : State :=
  (s.setConsumer pc).setSlot c none

def clear (s : State) : Option State :=
  match s.consumer with
  | .clearing0 img0 img1 => some (s.cleared camera0 (.clearing1 img0 img1))
  | .clearing1 img0 img1 => some (s.cleared camera1 (.unlocking (some (img0, img1))))
  | _ => none

/-- Behind the section: the next poll, or the call with both images. -/
def afterPoll : Option (HImage × HImage) → ConsumerPc
  | none => .poll
  | some (img0, img1) => .calling img0 img1

def unlock (s : State) : Option State :=
  match s.consumer with
  | .unlocking images => some ((s.setConsumer (afterPoll images)).setMtx none)
  | _ => none

/-- Where the call of the algorithm leads. -/
def afterCall : Except Thrown Int → ConsumerPc
  | .error e => handler e
  | .ok status => if (outputOf status).isSome then .raising else .pushing

/-- The algorithm has been called with `source[0] = ll.temp_in_0` and the two images. -/
def State.called (s : State) (img0 img1 : HImage) (pc : ConsumerPc) : State :=
  { s.setConsumer pc with handed := s.handed ++ [⟨s.tempIn0, img0, img1⟩] }

def call (s : State) (result : Except Thrown Int) : Option State :=
  match s.consumer with
  | .calling img0 img1 => some (s.called img0 img1 (afterCall result))
  | _ => none

/-- The statement behind a call of the PLC library or of redis. -/
def ConsumerPc.afterReturn : ConsumerPc → Option ConsumerPc
  | .raising => some .atLogLock
  | .lowering => some .pushing
  | .pushing => some .poll
  | _ => none

/-- A call of the PLC library or of redis ends. -/
def finish (s : State) (threw : Option Thrown) : Option State :=
  match s.consumer.afterReturn, threw with
  | some next, none => some (s.setConsumer next)
  | some _, some e => some (s.setConsumer (handler e))
  | none, _ => none

inductive Action where
  | capture (c : Camera) (msec : Nat)
  | lockLog (t : Thread)
  | time (t : Thread) (threw : Option Thrown)
  | writeLog
  | parse (c : Camera) (threw : Option Thrown)
  | lock (t : Thread)
  | assign (c : Camera)
  | test
  | copy (threw : Option Thrown)
  | clear
  | unlock
  | call (result : Except Thrown Int)
  | finish (threw : Option Thrown)

def step (s : State) : Action → Option State
  | .capture c msec => capture s c msec
  | .lockLog t => lockLog s t
  | .time t threw => time s t threw
  | .writeLog => writeLog s
  | .parse c threw => parse s c threw
  | .lock t => lock s t
  | .assign c => assign s c
  | .test => test s
  | .copy threw => copy s threw
  | .clear => clear s
  | .unlock => unlock s
  | .call result => call s result
  | .finish threw => finish s threw

/-- No exception leaves a callback, a section or the loop. -/
def Harmless : Action → Prop
  | .time _ threw | .parse _ threw | .copy threw => threw = none
  | .call result => result ≠ .error .hException
  | .finish threw => threw ≠ some .hException
  | _ => True

/-! ## What a step can do -/

/-- What a step finds and what it leaves. -/
inductive Stepped (s : State) : Action → State → Prop where
  | captured {c : Camera} {msec : Nat} (pc : s.callback c = .idle) :
      Stepped s (.capture c msec) (s.captured c msec)
  | cameraLockedLog {c : Camera} {info : HImageExtraInfo} (free : s.logMtx = none)
      (pc : s.callback c = .atLogLock info) :
      Stepped s (.lockLog (.camera c))
        ((s.setCallback c (.timing info)).setLogMtx (some (.camera c)))
  | consumerLockedLog (free : s.logMtx = none) (pc : s.consumer = .atLogLock) :
      Stepped s (.lockLog .consumer) ((s.setConsumer .timing).setLogMtx (some .consumer))
  | logLockedLog (free : s.logMtx = none) (pc : s.log = .idle) :
      Stepped s (.lockLog .log) ((s.setLog .writing).setLogMtx (some .log))
  | cameraTimed {c : Camera} {info : HImageExtraInfo} (pc : s.callback c = .timing info) :
      Stepped s (.time (.camera c) none) ((s.setCallback c (.parsing info)).setLogMtx none)
  | cameraTimeThrew {c : Camera} {info : HImageExtraInfo} {e : Thrown}
      (pc : s.callback c = .timing info) :
      Stepped s (.time (.camera c) (some e)) (s.setCallback c (.ended info))
  | consumerTimed (pc : s.consumer = .timing) :
      Stepped s (.time .consumer none) ((s.setConsumer .lowering).setLogMtx none)
  | consumerTimeThrew {e : Thrown} (pc : s.consumer = .timing) :
      Stepped s (.time .consumer (some e)) (s.setConsumer (handler e))
  | logWritten (pc : s.log = .writing) :
      Stepped s .writeLog ((s.setLog .idle).setLogMtx none)
  | parsed {c : Camera} {info : HImageExtraInfo} (pc : s.callback c = .parsing info) :
      Stepped s (.parse c none) (s.setCallback c (.atLock info))
  | parseThrew {c : Camera} {info : HImageExtraInfo} {e : Thrown}
      (pc : s.callback c = .parsing info) :
      Stepped s (.parse c (some e)) (s.setCallback c (.ended info))
  | cameraLocked {c : Camera} {info : HImageExtraInfo} (free : s.mtx = none)
      (pc : s.callback c = .atLock info) :
      Stepped s (.lock (.camera c))
        ((s.setCallback c (.assigning info)).setMtx (some (.camera c)))
  | consumerLocked (free : s.mtx = none) (pc : s.consumer = .poll) :
      Stepped s (.lock .consumer) ((s.setConsumer .testing0).setMtx (some .consumer))
  | assigned {c : Camera} {info : HImageExtraInfo} (pc : s.callback c = .assigning info) :
      Stepped s (.assign c) (s.assigned c info)
  | tested0 (pc : s.consumer = .testing0) (full : (s.tempImg camera0).isSome = true) :
      Stepped s .test (s.setConsumer .testing1)
  | tested1 (pc : s.consumer = .testing1) (full : (s.tempImg camera1).isSome = true) :
      Stepped s .test (s.setConsumer .copying0)
  | testedEmpty (pc : s.consumer = .testing0 ∧ s.tempImg camera0 = none ∨
        s.consumer = .testing1 ∧ s.tempImg camera1 = none) :
      Stepped s .test (s.setConsumer (.unlocking none))
  | copied0 {info : HImageExtraInfo} (pc : s.consumer = .copying0)
      (slot : s.tempImg camera0 = some info) :
      Stepped s (.copy none) (s.setConsumer (.copying1 info.image))
  | copied1 {img0 : HImage} {info : HImageExtraInfo} (pc : s.consumer = .copying1 img0)
      (slot : s.tempImg camera1 = some info) :
      Stepped s (.copy none) (s.setConsumer (.clearing0 img0 info.image))
  | copyCrashed (pc : s.consumer = .copying0 ∧ s.tempImg camera0 = none ∨
        ∃ img0, s.consumer = .copying1 img0 ∧ s.tempImg camera1 = none) :
      Stepped s (.copy none) (s.setConsumer .crashed)
  | copyThrew {e : Thrown} (pc : s.consumer = .copying0 ∨ ∃ img0, s.consumer = .copying1 img0) :
      Stepped s (.copy (some e)) (s.setConsumer .ended)
  | cleared0 {img0 img1 : HImage} (pc : s.consumer = .clearing0 img0 img1) :
      Stepped s .clear (s.cleared camera0 (.clearing1 img0 img1))
  | cleared1 {img0 img1 : HImage} (pc : s.consumer = .clearing1 img0 img1) :
      Stepped s .clear (s.cleared camera1 (.unlocking (some (img0, img1))))
  | unlocked {images : Option (HImage × HImage)} (pc : s.consumer = .unlocking images) :
      Stepped s .unlock ((s.setConsumer (afterPoll images)).setMtx none)
  | called {img0 img1 : HImage} {result : Except Thrown Int}
      (pc : s.consumer = .calling img0 img1) :
      Stepped s (.call result) (s.called img0 img1 (afterCall result))
  | finished {next : ConsumerPc} (pc : s.consumer.afterReturn = some next) :
      Stepped s (.finish none) (s.setConsumer next)
  | finishThrew {next : ConsumerPc} {e : Thrown} (pc : s.consumer.afterReturn = some next) :
      Stepped s (.finish (some e)) (s.setConsumer (handler e))

theorem stepped_of_lockLog {s s' : State} {t : Thread} (taken : lockLog s t = some s') :
    Stepped s (.lockLog t) s' := by
  unfold lockLog at taken
  split at taken
  · cases taken
  · rename_i free
    split at taken <;> cases taken
    exact .cameraLockedLog free ‹_›
  · rename_i free
    split at taken <;> cases taken
    exact .consumerLockedLog free ‹_›
  · rename_i free
    split at taken <;> cases taken
    exact .logLockedLog free ‹_›

theorem stepped_of_time {s s' : State} {t : Thread} {threw : Option Thrown}
    (taken : time s t threw = some s') : Stepped s (.time t threw) s' := by
  unfold time at taken
  split at taken
  · split at taken <;> cases taken
    · exact .cameraTimed ‹_›
    · exact .cameraTimeThrew ‹_›
  · split at taken <;> cases taken
    · exact .consumerTimed ‹_›
    · exact .consumerTimeThrew ‹_›
  · cases taken

theorem stepped_of_lock {s s' : State} {t : Thread} (taken : lock s t = some s') :
    Stepped s (.lock t) s' := by
  unfold lock at taken
  split at taken
  · cases taken
  · rename_i free
    split at taken <;> cases taken
    exact .cameraLocked free ‹_›
  · rename_i free
    split at taken <;> cases taken
    exact .consumerLocked free ‹_›
  · cases taken

theorem stepped_of_test {s s' : State} (taken : test s = some s') : Stepped s .test s' := by
  unfold test at taken
  split at taken <;> cases taken
  · split
    · exact .tested0 ‹_› ‹_›
    · exact .testedEmpty (.inl ⟨‹_›, Option.not_isSome_iff_eq_none.1 ‹_›⟩)
  · split
    · exact .tested1 ‹_› ‹_›
    · exact .testedEmpty (.inr ⟨‹_›, Option.not_isSome_iff_eq_none.1 ‹_›⟩)

theorem stepped_of_copy {s s' : State} {threw : Option Thrown} (taken : copy s threw = some s') :
    Stepped s (.copy threw) s' := by
  unfold copy at taken
  split at taken
  · split at taken <;> cases taken
    · exact .copied0 ‹_› ‹_›
    · exact .copyCrashed (.inl ⟨‹_›, ‹_›⟩)
  · split at taken <;> cases taken
    · exact .copied1 ‹_› ‹_›
    · exact .copyCrashed (.inr ⟨_, ‹_›, ‹_›⟩)
  · cases taken
    exact .copyThrew (.inl ‹_›)
  · cases taken
    exact .copyThrew (.inr ⟨_, ‹_›⟩)
  · cases taken

theorem stepped_of_step {s s' : State} {a : Action} (taken : step s a = some s') :
    Stepped s a s' := by
  cases a with
  | capture c msec =>
      simp only [step, capture] at taken
      split at taken <;> cases taken
      exact .captured ‹_›
  | lockLog t => exact stepped_of_lockLog taken
  | time t threw => exact stepped_of_time taken
  | writeLog =>
      simp only [step, writeLog] at taken
      split at taken <;> cases taken
      exact .logWritten ‹_›
  | parse c threw =>
      simp only [step, parse] at taken
      split at taken <;> cases taken
      · exact .parsed ‹_›
      · exact .parseThrew ‹_›
  | lock t => exact stepped_of_lock taken
  | assign c =>
      simp only [step, assign] at taken
      split at taken <;> cases taken
      exact .assigned ‹_›
  | test => exact stepped_of_test taken
  | copy threw => exact stepped_of_copy taken
  | clear =>
      simp only [step, clear] at taken
      split at taken <;> cases taken
      · exact .cleared0 ‹_›
      · exact .cleared1 ‹_›
  | unlock =>
      simp only [step, unlock] at taken
      split at taken <;> cases taken
      exact .unlocked ‹_›
  | call result =>
      simp only [step, call] at taken
      split at taken <;> cases taken
      exact .called ‹_›
  | finish threw =>
      simp only [step, finish] at taken
      split at taken <;> cases taken
      · exact .finished ‹_›
      · exact .finishThrew ‹_›

theorem step_of_stepped {s s' : State} {a : Action} (stepped : Stepped s a s') :
    step s a = some s' := by
  cases stepped with
  | captured pc => simp only [step, capture, pc]
  | cameraLockedLog free pc => simp only [step, lockLog, free, pc]
  | consumerLockedLog free pc => simp only [step, lockLog, free, pc]
  | logLockedLog free pc => simp only [step, lockLog, free, pc]
  | cameraTimed pc => simp only [step, time, pc]
  | cameraTimeThrew pc => simp only [step, time, pc]
  | consumerTimed pc => simp only [step, time, pc]
  | consumerTimeThrew pc => simp only [step, time, pc]
  | logWritten pc => simp only [step, writeLog, pc]
  | parsed pc => simp only [step, parse, pc]
  | parseThrew pc => simp only [step, parse, pc]
  | cameraLocked free pc => simp only [step, lock, free, pc]
  | consumerLocked free pc => simp only [step, lock, free, pc]
  | assigned pc => simp only [step, assign, pc]
  | tested0 pc full => simp only [step, test, pc, full, if_true]
  | tested1 pc full => simp only [step, test, pc, full, if_true]
  | testedEmpty pc => rcases pc with ⟨pc, slot⟩ | ⟨pc, slot⟩ <;> simp [step, test, pc, slot]
  | copied0 pc slot => simp only [step, copy, pc, slot]
  | copied1 pc slot => simp only [step, copy, pc, slot]
  | copyCrashed pc =>
      rcases pc with ⟨pc, slot⟩ | ⟨_, pc, slot⟩ <;> simp only [step, copy, pc, slot]
  | copyThrew pc => rcases pc with pc | ⟨_, pc⟩ <;> simp only [step, copy, pc]
  | cleared0 pc => simp only [step, clear, pc]
  | cleared1 pc => simp only [step, clear, pc]
  | unlocked pc => simp only [step, unlock, pc]
  | called pc => simp only [step, call, pc]
  | finished pc => simp only [step, finish, pc]
  | finishThrew pc => simp only [step, finish, pc]

/-! ## The two locks -/

/-- Between `log_mtx.lock()` and `log_mtx.unlock()`. -/
def CallbackPc.inLog : CallbackPc → Bool
  | .timing _ => true
  | _ => false

def ConsumerPc.inLog : ConsumerPc → Bool
  | .timing => true
  | _ => false

/-- Between `mtx.lock()` and `mtx.unlock()`. -/
def CallbackPc.inMtx : CallbackPc → Bool
  | .assigning _ => true
  | _ => false

def ConsumerPc.inMtx : ConsumerPc → Bool
  | .testing0 | .testing1 | .copying0 | .copying1 _ | .clearing0 _ _ | .clearing1 _ _ |
    .unlocking _ | .crashed => true
  | _ => false

def State.inLog (s : State) : Thread → Bool
  | .camera c => (s.callback c).inLog
  | .consumer => s.consumer.inLog
  | .log => s.log == .writing

def State.inMtx (s : State) : Thread → Bool
  | .camera c => (s.callback c).inMtx
  | .consumer => s.consumer.inMtx
  | .log => false

def State.logLock (s : State) : Mutex Thread := ⟨s.logMtx, s.inLog⟩

def State.mtxLock (s : State) : Mutex Thread := ⟨s.mtx, s.inMtx⟩

theorem inLog_setCallback (s : State) (c : Camera) (pc : CallbackPc) :
    (s.setCallback c pc).inLog = Function.update s.inLog (.camera c) pc.inLog := by
  funext t
  cases t with
  | camera d =>
      by_cases same : d = c
      · subst same
        simp [State.inLog, State.setCallback]
      · rw [Function.update_of_ne (by simp [same])]
        simp [State.inLog, State.setCallback, Function.update_of_ne same]
  | consumer => rfl
  | log => rfl

theorem inMtx_setCallback (s : State) (c : Camera) (pc : CallbackPc) :
    (s.setCallback c pc).inMtx = Function.update s.inMtx (.camera c) pc.inMtx := by
  funext t
  cases t with
  | camera d =>
      by_cases same : d = c
      · subst same
        simp [State.inMtx, State.setCallback]
      · rw [Function.update_of_ne (by simp [same])]
        simp [State.inMtx, State.setCallback, Function.update_of_ne same]
  | consumer => rfl
  | log => rfl

theorem inLog_setConsumer (s : State) (pc : ConsumerPc) :
    (s.setConsumer pc).inLog = Function.update s.inLog .consumer pc.inLog := by
  funext t
  cases t <;> rfl

theorem inMtx_setConsumer (s : State) (pc : ConsumerPc) :
    (s.setConsumer pc).inMtx = Function.update s.inMtx .consumer pc.inMtx := by
  funext t
  cases t <;> rfl

theorem inLog_setLog (s : State) (pc : LogPc) :
    (s.setLog pc).inLog = Function.update s.inLog .log (pc == .writing) := by
  funext t
  cases t <;> rfl

@[simp] theorem logLock_setLogMtx (s : State) (owner : Option Thread) :
    (s.setLogMtx owner).logLock = ⟨owner, s.inLog⟩ := rfl

@[simp] theorem mtxLock_setLogMtx (s : State) (owner : Option Thread) :
    (s.setLogMtx owner).mtxLock = s.mtxLock := rfl

@[simp] theorem mtxLock_setMtx (s : State) (owner : Option Thread) :
    (s.setMtx owner).mtxLock = ⟨owner, s.inMtx⟩ := rfl

@[simp] theorem logLock_setMtx (s : State) (owner : Option Thread) :
    (s.setMtx owner).logLock = s.logLock := rfl

@[simp] theorem mtxLock_setLog (s : State) (pc : LogPc) : (s.setLog pc).mtxLock = s.mtxLock := by
  rw [State.mtxLock, State.mtxLock, Mutex.mk.injEq]
  exact ⟨rfl, funext fun t => by cases t <;> rfl⟩

@[simp] theorem logLock_setSlot (s : State) (c : Camera) (slot : Option HImageExtraInfo) :
    (s.setSlot c slot).logLock = s.logLock := rfl

@[simp] theorem mtxLock_setSlot (s : State) (c : Camera) (slot : Option HImageExtraInfo) :
    (s.setSlot c slot).mtxLock = s.mtxLock := rfl

@[simp] theorem logLock_captured (s : State) (c : Camera) (msec : Nat) :
    (s.captured c msec).logLock = (s.setCallback c (.atLogLock (s.nextInfo c))).logLock := rfl

@[simp] theorem mtxLock_captured (s : State) (c : Camera) (msec : Nat) :
    (s.captured c msec).mtxLock = (s.setCallback c (.atLogLock (s.nextInfo c))).mtxLock := rfl

@[simp] theorem logLock_called (s : State) (img0 img1 : HImage) (pc : ConsumerPc) :
    (s.called img0 img1 pc).logLock = (s.setConsumer pc).logLock := rfl

@[simp] theorem mtxLock_called (s : State) (img0 img1 : HImage) (pc : ConsumerPc) :
    (s.called img0 img1 pc).mtxLock = (s.setConsumer pc).mtxLock := rfl

theorem logLock_setCallback {s : State} {c : Camera} {pc pc' : CallbackPc} (place : s.callback c = pc)
    (same : pc'.inLog = pc.inLog) : (s.setCallback c pc').logLock = s.logLock := by
  simp only [State.logLock, inLog_setCallback, Mutex.mk.injEq]
  exact ⟨rfl, Function.update_eq_self_iff.2 (same.trans (congrArg CallbackPc.inLog place.symm))⟩

theorem mtxLock_setCallback {s : State} {c : Camera} {pc pc' : CallbackPc} (place : s.callback c = pc)
    (same : pc'.inMtx = pc.inMtx) : (s.setCallback c pc').mtxLock = s.mtxLock := by
  simp only [State.mtxLock, inMtx_setCallback, Mutex.mk.injEq]
  exact ⟨rfl, Function.update_eq_self_iff.2 (same.trans (congrArg CallbackPc.inMtx place.symm))⟩

theorem logLock_setConsumer {s : State} {pc pc' : ConsumerPc} (place : s.consumer = pc)
    (same : pc'.inLog = pc.inLog) : (s.setConsumer pc').logLock = s.logLock := by
  simp only [State.logLock, inLog_setConsumer, Mutex.mk.injEq]
  exact ⟨rfl, Function.update_eq_self_iff.2 (same.trans (congrArg ConsumerPc.inLog place.symm))⟩

theorem mtxLock_setConsumer {s : State} {pc pc' : ConsumerPc} (place : s.consumer = pc)
    (same : pc'.inMtx = pc.inMtx) : (s.setConsumer pc').mtxLock = s.mtxLock := by
  simp only [State.mtxLock, inMtx_setConsumer, Mutex.mk.injEq]
  exact ⟨rfl, Function.update_eq_self_iff.2 (same.trans (congrArg ConsumerPc.inMtx place.symm))⟩

/-- Neither in one of the sections nor behind a crash. -/
structure ConsumerPc.Outside (pc : ConsumerPc) : Prop where
  log : pc.inLog = false
  mtx : pc.inMtx = false

theorem outside_handler (e : Thrown) : (handler e).Outside := by
  cases e <;> exact ⟨rfl, rfl⟩

theorem outside_afterPoll (images : Option (HImage × HImage)) : (afterPoll images).Outside := by
  cases images <;> exact ⟨rfl, rfl⟩

theorem outside_afterCall (result : Except Thrown Int) : (afterCall result).Outside := by
  cases result with
  | error e => exact outside_handler e
  | ok status =>
      simp only [afterCall]
      split <;> exact ⟨rfl, rfl⟩

theorem outside_afterReturn {pc next : ConsumerPc} (returns : pc.afterReturn = some next) :
    pc.Outside ∧ next.Outside := by
  cases pc <;> cases returns <;> exact ⟨⟨rfl, rfl⟩, ⟨rfl, rfl⟩⟩

open Mutex (Move)

/-- What a step does with `log_mtx`: only an exception abandons it. -/
theorem log_moves {s s' : State} {a : Action} (stepped : Stepped s a s') :
    ∃ t orderly, Move t s.logLock orderly s'.logLock ∧ (Harmless a → orderly = true) := by
  -- most steps leave the lock alone
  have stays : s'.logLock = s.logLock →
      ∃ t orderly, Move t s.logLock orderly s'.logLock ∧ (Harmless a → orderly = true) :=
    fun same => ⟨.log, true, same ▸ .stay, fun _ => rfl⟩
  cases stepped with
  | captured pc => exact stays (logLock_setCallback pc rfl)
  | @cameraLockedLog c info free _ =>
      refine ⟨.camera c, true, ?_, fun _ => rfl⟩
      rw [logLock_setLogMtx, inLog_setCallback]
      exact .acquire free
  | consumerLockedLog free _ =>
      refine ⟨.consumer, true, ?_, fun _ => rfl⟩
      rw [logLock_setLogMtx, inLog_setConsumer]
      exact .acquire free
  | logLockedLog free _ =>
      refine ⟨.log, true, ?_, fun _ => rfl⟩
      rw [logLock_setLogMtx, inLog_setLog]
      exact .acquire free
  | @cameraTimed c info pc =>
      refine ⟨.camera c, true, ?_, fun _ => rfl⟩
      rw [logLock_setLogMtx, inLog_setCallback]
      exact .release (by simp [State.logLock, State.inLog, pc, CallbackPc.inLog])
  | @cameraTimeThrew c info e pc =>
      refine ⟨.camera c, false, ?_, nofun⟩
      show Move _ _ _ ⟨s.logMtx, (s.setCallback c _).inLog⟩
      rw [inLog_setCallback]
      exact .abandon (by simp [State.logLock, State.inLog, pc, CallbackPc.inLog])
  | consumerTimed pc =>
      refine ⟨.consumer, true, ?_, fun _ => rfl⟩
      rw [logLock_setLogMtx, inLog_setConsumer]
      exact .release (by simp [State.logLock, State.inLog, pc, ConsumerPc.inLog])
  | @consumerTimeThrew e pc =>
      refine ⟨.consumer, false, ?_, nofun⟩
      show Move _ _ _ ⟨s.logMtx, (s.setConsumer _).inLog⟩
      rw [inLog_setConsumer, (outside_handler e).log]
      exact .abandon (by simp [State.logLock, State.inLog, pc, ConsumerPc.inLog])
  | logWritten pc =>
      refine ⟨.log, true, ?_, fun _ => rfl⟩
      rw [logLock_setLogMtx, inLog_setLog]
      exact .release (by simp [State.logLock, State.inLog, pc])
  | parsed pc => exact stays (logLock_setCallback pc rfl)
  | parseThrew pc => exact stays (logLock_setCallback pc rfl)
  | cameraLocked _ pc => exact stays (logLock_setCallback pc rfl)
  | consumerLocked _ pc => exact stays (logLock_setConsumer pc rfl)
  | assigned pc => exact stays (logLock_setCallback pc rfl)
  | tested0 pc => exact stays (logLock_setConsumer pc rfl)
  | tested1 pc => exact stays (logLock_setConsumer pc rfl)
  | testedEmpty pc =>
      rcases pc with ⟨pc, _⟩ | ⟨pc, _⟩ <;> exact stays (logLock_setConsumer pc rfl)
  | copied0 pc => exact stays (logLock_setConsumer pc rfl)
  | copied1 pc => exact stays (logLock_setConsumer pc rfl)
  | copyCrashed pc =>
      rcases pc with ⟨pc, _⟩ | ⟨_, pc, _⟩ <;> exact stays (logLock_setConsumer pc rfl)
  | copyThrew pc =>
      rcases pc with pc | ⟨_, pc⟩ <;> exact stays (logLock_setConsumer pc rfl)
  | @cleared0 img0 img1 pc => exact stays (logLock_setConsumer pc rfl)
  | @cleared1 img0 img1 pc => exact stays (logLock_setConsumer pc rfl)
  | @unlocked images pc =>
      exact stays (logLock_setConsumer pc (outside_afterPoll images).log)
  | @called _ _ result pc =>
      exact stays (logLock_setConsumer pc (outside_afterCall result).log)
  | finished pc =>
      obtain ⟨before, after⟩ := outside_afterReturn pc
      exact stays (logLock_setConsumer rfl (after.log.trans before.log.symm))
  | @finishThrew _ e pc =>
      obtain ⟨before, _⟩ := outside_afterReturn pc
      exact stays (logLock_setConsumer rfl ((outside_handler e).log.trans before.log.symm))

/-- What a step does with `mtx`. -/
theorem mtx_moves {s s' : State} {a : Action} (stepped : Stepped s a s') :
    ∃ t orderly, Move t s.mtxLock orderly s'.mtxLock ∧ (Harmless a → orderly = true) := by
  have stays : s'.mtxLock = s.mtxLock →
      ∃ t orderly, Move t s.mtxLock orderly s'.mtxLock ∧ (Harmless a → orderly = true) :=
    fun same => ⟨.log, true, same ▸ .stay, fun _ => rfl⟩
  cases stepped with
  | captured pc => exact stays (mtxLock_setCallback pc rfl)
  | cameraLockedLog _ pc => exact stays (mtxLock_setCallback pc rfl)
  | consumerLockedLog _ pc => exact stays (mtxLock_setConsumer pc rfl)
  | logLockedLog => exact stays (mtxLock_setLog s .writing)
  | cameraTimed pc => exact stays (mtxLock_setCallback pc rfl)
  | cameraTimeThrew pc => exact stays (mtxLock_setCallback pc rfl)
  | consumerTimed pc => exact stays (mtxLock_setConsumer pc rfl)
  | @consumerTimeThrew e pc =>
      exact stays (mtxLock_setConsumer pc (outside_handler e).mtx)
  | logWritten => exact stays (mtxLock_setLog s .idle)
  | parsed pc => exact stays (mtxLock_setCallback pc rfl)
  | parseThrew pc => exact stays (mtxLock_setCallback pc rfl)
  | @cameraLocked c info free _ =>
      refine ⟨.camera c, true, ?_, fun _ => rfl⟩
      rw [mtxLock_setMtx, inMtx_setCallback]
      exact .acquire free
  | consumerLocked free _ =>
      refine ⟨.consumer, true, ?_, fun _ => rfl⟩
      rw [mtxLock_setMtx, inMtx_setConsumer]
      exact .acquire free
  | @assigned c info pc =>
      refine ⟨.camera c, true, ?_, fun _ => rfl⟩
      show Move _ _ _ ⟨none, (s.setCallback c .idle).inMtx⟩
      rw [inMtx_setCallback]
      exact .release (by simp [State.mtxLock, State.inMtx, pc, CallbackPc.inMtx])
  | tested0 pc => exact stays (mtxLock_setConsumer pc rfl)
  | tested1 pc => exact stays (mtxLock_setConsumer pc rfl)
  | testedEmpty pc =>
      rcases pc with ⟨pc, _⟩ | ⟨pc, _⟩ <;> exact stays (mtxLock_setConsumer pc rfl)
  | copied0 pc => exact stays (mtxLock_setConsumer pc rfl)
  | copied1 pc => exact stays (mtxLock_setConsumer pc rfl)
  | copyCrashed pc =>
      rcases pc with ⟨pc, _⟩ | ⟨_, pc, _⟩ <;> exact stays (mtxLock_setConsumer pc rfl)
  | copyThrew pc =>
      refine ⟨.consumer, false, ?_, nofun⟩
      show Move _ _ _ ⟨s.mtx, (s.setConsumer .ended).inMtx⟩
      rw [inMtx_setConsumer]
      refine .abandon ?_
      rcases pc with pc | ⟨_, pc⟩ <;> simp [State.mtxLock, State.inMtx, pc, ConsumerPc.inMtx]
  | @cleared0 img0 img1 pc => exact stays (mtxLock_setConsumer pc rfl)
  | @cleared1 img0 img1 pc => exact stays (mtxLock_setConsumer pc rfl)
  | @unlocked images pc =>
      refine ⟨.consumer, true, ?_, fun _ => rfl⟩
      rw [mtxLock_setMtx, inMtx_setConsumer, (outside_afterPoll images).mtx]
      exact .release (by simp [State.mtxLock, State.inMtx, pc, ConsumerPc.inMtx])
  | @called _ _ result pc =>
      exact stays (mtxLock_setConsumer pc (outside_afterCall result).mtx)
  | finished pc =>
      obtain ⟨before, after⟩ := outside_afterReturn pc
      exact stays (mtxLock_setConsumer rfl (after.mtx.trans before.mtx.symm))
  | @finishThrew _ e pc =>
      obtain ⟨before, _⟩ := outside_afterReturn pc
      exact stays (mtxLock_setConsumer rfl ((outside_handler e).mtx.trans before.mtx.symm))

/-! ## What holds in every run -/

/-- The image a callback is about to store. -/
def CallbackPc.storing : CallbackPc → Option HImageExtraInfo
  | .idle => none
  | .atLogLock info | .timing info | .parsing info | .atLock info | .assigning info |
    .ended info => some info

/-- What the consumer, at its place, relies on finding in the slots. -/
def ConsumerPc.Fits (tempImg : Camera → Option HImageExtraInfo) : ConsumerPc → Prop
  | .testing1 => (tempImg camera0).isSome = true
  | .copying0 => (tempImg camera0).isSome = true ∧ (tempImg camera1).isSome = true
  | .copying1 img0 => (tempImg camera0).map HImageExtraInfo.image = some img0 ∧
      (tempImg camera1).isSome = true
  | .clearing0 img0 img1 => (tempImg camera0).map HImageExtraInfo.image = some img0 ∧
      (tempImg camera1).map HImageExtraInfo.image = some img1
  | .clearing1 _ _ => tempImg camera0 = none
  | .crashed => False
  | _ => True

theorem fits_of_outside {pc : ConsumerPc} (outside : pc.inMtx = false)
    (tempImg : Camera → Option HImageExtraInfo) : pc.Fits tempImg := by
  cases pc <;> trivial

structure Sound (s : State) : Prop where
  log : s.logLock.Exclusive
  mtx : s.mtxLock.Exclusive
  fits : s.consumer.Fits s.tempImg
  own : ∀ c info, (s.callback c).storing = some info → info.cameraId = c

theorem sound_init : Sound State.init where
  log t inside := by cases t <;> cases inside
  mtx t inside := by cases t <;> cases inside
  fits := trivial
  own c info storing := by cases storing

/-- A callback that assigns keeps the consumer out of its section. -/
theorem Sound.consumer_outside {s : State} (sound : Sound s) {c : Camera} {info : HImageExtraInfo}
    (pc : s.callback c = .assigning info) : s.consumer.inMtx = false := by
  by_contra inside
  have camera : s.mtx = some (.camera c) :=
    sound.mtx (.camera c) (by simp [State.mtxLock, State.inMtx, pc, CallbackPc.inMtx])
  have consumer : s.mtx = some .consumer := sound.mtx .consumer (Bool.not_eq_false _ ▸ inside)
  rw [camera] at consumer
  cases consumer

theorem fits_step {s s' : State} {a : Action} (sound : Sound s) (stepped : Stepped s a s') :
    s'.consumer.Fits s'.tempImg := by
  have fits := sound.fits
  cases stepped with
  | captured | cameraLockedLog | logLockedLog | cameraTimed | cameraTimeThrew | logWritten |
    parsed | parseThrew | cameraLocked => exact fits
  | consumerLockedLog | consumerTimed | consumerLocked | testedEmpty | copyThrew | cleared1 =>
      trivial
  | @consumerTimeThrew e => exact fits_of_outside (outside_handler e).mtx _
  | assigned pc => exact fits_of_outside (sound.consumer_outside pc) _
  | tested0 pc full => exact full
  | tested1 pc full =>
      rw [pc] at fits
      exact ⟨fits, full⟩
  | copied0 pc slot =>
      rw [pc] at fits
      exact ⟨congrArg (Option.map HImageExtraInfo.image) slot, fits.2⟩
  | copied1 pc slot =>
      rw [pc] at fits
      exact ⟨fits.1, congrArg (Option.map HImageExtraInfo.image) slot⟩
  | copyCrashed pc =>
      rcases pc with ⟨pc, empty⟩ | ⟨img0, pc, empty⟩ <;> rw [pc] at fits
      · exact absurd fits.1 (by simp [empty])
      · exact absurd fits.2 (by simp [empty])
  | cleared0 => exact Function.update_self camera0 none s.tempImg
  | @unlocked images => exact fits_of_outside (outside_afterPoll images).mtx _
  | @called _ _ result => exact fits_of_outside (outside_afterCall result).mtx _
  | finished pc => exact fits_of_outside (outside_afterReturn pc).2.mtx _
  | @finishThrew _ e => exact fits_of_outside (outside_handler e).mtx _

/-- A callback that goes on carries its own camera's image. -/
theorem own_setCallback {s : State} {c : Camera} {pc : CallbackPc}
    (own : ∀ c info, (s.callback c).storing = some info → info.cameraId = c)
    (next : ∀ info, pc.storing = some info → info.cameraId = c) :
    ∀ d info, ((s.setCallback c pc).callback d).storing = some info → info.cameraId = d := by
  intro d info storing
  by_cases same : d = c
  · subst same
    simp only [State.setCallback, Function.update_self] at storing
    exact next info storing
  · simp only [State.setCallback, Function.update_of_ne same] at storing
    exact own d info storing

theorem own_step {s s' : State} {a : Action} (sound : Sound s) (stepped : Stepped s a s') :
    ∀ c info, (s'.callback c).storing = some info → info.cameraId = c := by
  have own := sound.own
  -- a callback that only moves on keeps the image it carries
  have kept : ∀ c pc, pc.storing = (s.callback c).storing → ∀ d info,
      ((s.setCallback c pc).callback d).storing = some info → info.cameraId = d :=
    fun c pc same => own_setCallback own fun info storing => own c info (same ▸ storing)
  cases stepped with
  | captured =>
      refine own_setCallback own fun info storing => ?_
      cases storing
      rfl
  | @cameraLockedLog c info _ pc => exact kept c (.timing info) (by rw [pc]; rfl)
  | @cameraTimed c info pc => exact kept c (.parsing info) (by rw [pc]; rfl)
  | @cameraTimeThrew c info _ pc => exact kept c (.ended info) (by rw [pc]; rfl)
  | @parsed c info pc => exact kept c (.atLock info) (by rw [pc]; rfl)
  | @parseThrew c info _ pc => exact kept c (.ended info) (by rw [pc]; rfl)
  | @cameraLocked c info _ pc => exact kept c (.assigning info) (by rw [pc]; rfl)
  | assigned => exact own_setCallback own nofun
  | _ => exact own

theorem sound_step (s : State) (a : Action) (s' : State) (sound : Sound s)
    (taken : step s a = some s') : Sound s' := by
  have stepped := stepped_of_step taken
  obtain ⟨_, _, logMove, _⟩ := log_moves stepped
  obtain ⟨_, _, mtxMove, _⟩ := mtx_moves stepped
  exact ⟨logMove.exclusive sound.log, mtxMove.exclusive sound.mtx, fits_step sound stepped,
    own_step sound stepped⟩

end TizerVision.Loader.Locks
