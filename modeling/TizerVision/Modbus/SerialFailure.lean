/-
# Modbus.SerialFailure — what a failed UpdateSerialConfig leaves behind

Every failure of `UpdateSerialConfig` jumps to the same label, which undoes nothing.  What has been
stored by then stays stored, and a port that has been opened stays open: `IsActive` reports it although
it was not configured.

* `wp_closeBefore_iff`, `wp_choosePort_iff`, `wp_openPort_iff` — each part of the call, with its exits.
* `update_all_or_nothing_iff` — the failures that leave nothing behind: the old port cannot be closed,
  the number is not allowed, or no port is found and the number is the stored one.
-/
import TizerVision.Modbus.Serial

namespace TizerVision.Modbus

set_option autoImplicit false

open Theory

/-! ## The call and its answer -/

/-- `IsActive` -/
def LocalModbus.isActive (s : LocalModbus) : Bool := s.hComHandle.isSome

/-- The number of the port asked for. -/
def LocalModbus.requestedPort (s : LocalModbus) (byComPort : BYTE) : BYTE :=
  if byComPort = 0 then s.comPort else byComPort

/-- The baud rate asked for. -/
def LocalModbus.requestedRate (s : LocalModbus) (dwBaudRate : DWORD) : DWORD :=
  if dwBaudRate = 0 then s.baudRate else dwBaudRate

/-- `UpdateSerialConfig` up to `SetupComm`. -/
def reopen (calls : PortCalls) (byComPort : BYTE) : Config Unit := do
  closeBefore calls
  choosePort byComPort
  openPort calls

/-- The answer of `UpdateSerialConfig` and the object it leaves.  With a baud rate of 0 the silent
interval is a division by zero, and the call does not return. -/
def updateResult (calls : PortCalls) (byComPort : BYTE) (dwBaudRate : DWORD) (byParity : BYTE)
    (s : LocalModbus) : Option (Bool × LocalModbus) :=
  match (reopen calls byComPort).run s with
  | .error _ t => some (false, t)
  | .ok _ t =>
      if t.requestedRate dwBaudRate = 0 then none
      else
        match (configure calls dwBaudRate byParity).run t with
        | .error _ u => some (false, u)
        | .ok _ u => some (true, u)

/-- A call that returns is the program of `Modbus.Serial`. -/
theorem updateSerialConfig_of_result {calls : PortCalls} {byComPort byParity : BYTE}
    {dwBaudRate : DWORD} {s t : LocalModbus} {answer : Bool}
    (returned : updateResult calls byComPort dwBaudRate byParity s = some (answer, t)) :
    (updateSerialConfig calls byComPort dwBaudRate byParity).run s =
      if answer then .ok () t else .error () t := by
  have parts : updateSerialConfig calls byComPort dwBaudRate byParity =
      reopen calls byComPort >>= fun _ => configure calls dwBaudRate byParity := by
    simp only [updateSerialConfig, reopen, bind_assoc]
  rw [parts, EStateM.run_bind]
  unfold updateResult at returned
  cases opened : (reopen calls byComPort).run s with
  | error e t' =>
      rw [opened] at returned
      cases returned
      rfl
  | ok a t' =>
      simp only [opened] at returned ⊢
      split at returned
      · cases returned
      · cases configured : (configure calls dwBaudRate byParity).run t' with
        | error e u =>
            rw [configured] at returned
            cases returned
            rfl
        | ok a u =>
            rw [configured] at returned
            cases returned
            rfl

/-! ## The exits -/

section Exits

variable {Q : Unit → LocalModbus → Prop} {E : Unit → LocalModbus → Prop} {s : LocalModbus}
  {calls : PortCalls}

/-- The port cannot be closed. -/
def CloseFails (calls : PortCalls) (s : LocalModbus) : Prop :=
  s.isActive = true ∧ calls.closeHandle = false

/-- The number of a port that can be opened. -/
def PortAllowed (port : BYTE) : Prop := 1 ≤ port.toNat ∧ port.toNat ≤ maxComPorts

/-- One of the two attempts at opening the port succeeds. -/
def PortFound (calls : PortCalls) : Prop := calls.createFile = true ∨ calls.createFileNt = true

instance : Decidable (CloseFails calls s) := inferInstanceAs (Decidable (_ ∧ _))
instance (port : BYTE) : Decidable (PortAllowed port) := inferInstanceAs (Decidable (_ ∧ _))
instance : Decidable (PortFound calls) := inferInstanceAs (Decidable (_ ∨ _))

theorem closeCommPort_eq (calls : PortCalls) (s : LocalModbus) :
    closeCommPort calls.closeHandle s =
      if CloseFails calls s then (false, s) else (true, { s with hComHandle := none }) := by
  by_cases fails : CloseFails calls s
  · rw [if_pos fails]
    obtain ⟨active, refused⟩ := fails
    obtain ⟨port, handle⟩ := Option.isSome_iff_exists.1 active
    simp [closeCommPort, handle, refused]
  · rw [if_neg fails]
    cases handle : s.hComHandle with
    | none =>
        have same : { s with hComHandle := none } = s := by rw [← handle]
        simp [closeCommPort, handle, same]
    | some port =>
        have closes : calls.closeHandle = true := by
          rw [← Bool.not_eq_false]
          exact fun refused => fails ⟨by rw [LocalModbus.isActive, handle]; rfl, refused⟩
        simp [closeCommPort, handle, closes]

theorem wp_closeBefore_iff :
    wp (closeBefore calls) Q E s ↔
      if CloseFails calls s then E () s else Q () { s with hComHandle := none } := by
  rw [closeBefore, wp_bind, wp_get, wp_bind, wp_modify, wp_require, closeCommPort_eq]
  by_cases fails : CloseFails calls s
  · simp only [if_pos fails]
    rfl
  · simp only [if_neg fails]
    rfl

theorem wp_choosePort_iff {byComPort : BYTE} :
    wp (choosePort byComPort) Q E s ↔
      if PortAllowed (s.requestedPort byComPort) then
        Q () { s with comPort := s.requestedPort byComPort }
      else E () s := by
  simp only [choosePort, wp_bind, wp_get, wp_require, wp_modify, decide_eq_true_eq]
  rfl

/-- The port once it is open. -/
def LocalModbus.opened (s : LocalModbus) : LocalModbus :=
  { s with hComHandle := some ⟨s.comPort, none, none⟩ }

theorem wp_openPort_iff :
    wp (openPort calls) Q E s ↔
      if PortFound calls then if calls.setupComm then Q () s.opened else E () s.opened
      else E () { s with hComHandle := none } := by
  simp only [openPort, createFile, wp_bind, wp_modify, wp_ite, wp_require]
  by_cases first : calls.createFile = true
  · simp only [if_pos first, if_pos (show PortFound calls from .inl first)]
    rfl
  · simp only [if_neg first]
    by_cases second : calls.createFileNt = true
    · simp only [if_pos second, if_pos (show PortFound calls from .inr second)]
      rfl
    · have missing : ¬ PortFound calls := by rintro (found | found) <;> contradiction
      simp only [if_neg second, if_neg missing]

/-- On an open port a call that fails leaves the port open. -/
theorem wp_onPort_iff {taken : Bool} {set : SerialPort → SerialPort} (active : s.isActive = true) :
    wp (onPort taken set) Q E s ↔
      if taken then Q () { s with hComHandle := s.hComHandle.map set } else E () s := by
  have opened : s.hComHandle.isSome = true := active
  rw [onPort, wp_bind, wp_get, wp_bind, wp_require, wp_modify, opened, Bool.true_and]

/-- **Configuring fails with the port open.** -/
theorem wp_configure_iff {dwBaudRate : DWORD} {byParity : BYTE} (active : s.isActive = true)
    (open_refused : ∀ t : LocalModbus, t.isActive = true → ¬ E () t) :
    wp (configure calls dwBaudRate byParity) (fun _ _ => True) E s ↔
      calls.setCommTimeouts = true ∧ calls.setCommState = true := by
  rw [configure, wp_bind, wp_get]
  simp only [wp_bind, wp_modify, wp_get]
  generalize s.dcb _ _ = dcb
  have noted : (s.noted dcb).isActive = true := by
    rw [LocalModbus.isActive, LocalModbus.noted_hComHandle]
    exact active
  rw [wp_onPort_iff noted]
  cases calls.setCommTimeouts with
  | false => simp [open_refused _ noted]
  | true =>
      have still : ∀ set : SerialPort → SerialPort,
          { s.noted dcb with hComHandle := (s.noted dcb).hComHandle.map set }.isActive = true := by
        intro set
        rw [LocalModbus.isActive, Option.isSome_map]
        exact noted
      rw [if_pos rfl, wp_onPort_iff (still _)]
      cases calls.setCommState with
      | false => exact iff_of_false (open_refused _ (still _)) (by simp)
      | true => simp

end Exits

/-! ## All or nothing -/

/-- The port number, the baud rate, the parity and the silent interval are as before. -/
structure SameConfig (s t : LocalModbus) : Prop where
  comPort : t.comPort = s.comPort
  baudRate : t.baudRate = s.baudRate
  parity : t.parity = s.parity
  silentInterval : t.silentInterval = s.silentInterval

/-- `t` has the configuration of `s`, and an active port of `t` is one the call could not close.  Once
it has closed the port, an active port is one the call has opened. -/
def LeavesNothing (calls : PortCalls) (s t : LocalModbus) : Prop :=
  SameConfig s t ∧ ¬ (t.isActive = true ∧ (closeCommPort calls.closeHandle s).1 = true)

/-- A call that returns FALSE leaves nothing behind. -/
def AllOrNothing (calls : PortCalls) (byComPort : BYTE) (dwBaudRate : DWORD) (byParity : BYTE)
    (s : LocalModbus) : Prop :=
  ∀ t, updateResult calls byComPort dwBaudRate byParity s = some (false, t) → LeavesNothing calls s t

section

variable {calls : PortCalls} {byComPort byParity : BYTE} {dwBaudRate : DWORD} {s : LocalModbus}

theorem allOrNothing_iff_wp :
    AllOrNothing calls byComPort dwBaudRate byParity s ↔
      wp (reopen calls byComPort) (fun _ t => t.requestedRate dwBaudRate = 0 ∨
        wp (configure calls dwBaudRate byParity) (fun _ _ => True)
          (fun _ u => LeavesNothing calls s u) t)
        (fun _ t => LeavesNothing calls s t) s := by
  unfold AllOrNothing updateResult wp
  cases (reopen calls byComPort).run s with
  | error e t => simp
  | ok a t =>
      by_cases zero : t.requestedRate dwBaudRate = 0
      · simp [zero]
      · simp only [if_neg zero, or_iff_right zero]
        cases (configure calls dwBaudRate byParity).run t <;> simp

/-- The failures that leave nothing behind, and the calls that do not fail. -/
def FailsCleanly (calls : PortCalls) (byComPort : BYTE) (dwBaudRate : DWORD) (s : LocalModbus) :
    Prop :=
  CloseFails calls s ∨ ¬ PortAllowed (s.requestedPort byComPort) ∨
    (¬ PortFound calls ∧ s.requestedPort byComPort = s.comPort) ∨
    (PortFound calls ∧ calls.setupComm = true ∧
      (s.requestedRate dwBaudRate = 0 ∨
        calls.setCommTimeouts = true ∧ calls.setCommState = true))

instance : Decidable (FailsCleanly calls byComPort dwBaudRate s) :=
  inferInstanceAs (Decidable (_ ∨ _))

theorem leavesNothing_of_closed {t : LocalModbus} (same : SameConfig s t)
    (closed : t.isActive = false) : LeavesNothing calls s t :=
  ⟨same, fun opened => absurd opened.1 (by simp [closed])⟩

/-- Once the old port is closed, an active port has been opened by the call. -/
theorem not_leavesNothing_of_active (closes : ¬ CloseFails calls s) {t : LocalModbus}
    (active : t.isActive = true) : ¬ LeavesNothing calls s t := by
  rintro ⟨-, not_opened⟩
  exact not_opened ⟨active, by rw [closeCommPort_eq, if_neg closes]⟩

/-- **The failures that leave nothing behind.** -/
theorem update_all_or_nothing_iff (calls : PortCalls) (byComPort : BYTE) (dwBaudRate : DWORD)
    (byParity : BYTE) (s : LocalModbus) :
    AllOrNothing calls byComPort dwBaudRate byParity s ↔
      FailsCleanly calls byComPort dwBaudRate s := by
  rw [allOrNothing_iff_wp, reopen, wp_bind, wp_closeBefore_iff, FailsCleanly]
  by_cases closes : CloseFails calls s
  · rw [if_pos closes]
    refine iff_of_true ⟨⟨rfl, rfl, rfl, rfl⟩, ?_⟩ (.inl closes)
    rw [closeCommPort_eq, if_pos closes]
    simp
  rw [if_neg closes, wp_bind, wp_choosePort_iff]
  show (if PortAllowed (s.requestedPort byComPort) then _ else _) ↔ _
  by_cases allowed : PortAllowed (s.requestedPort byComPort)
  · rw [if_pos allowed, wp_openPort_iff]
    by_cases found : PortFound calls
    · -- from here on the port is open, and every failure leaves it open
      have refused : ∀ t : LocalModbus, t.isActive = true → ¬ LeavesNothing calls s t :=
        fun t => not_leavesNothing_of_active closes
      rw [if_pos found]
      by_cases setup : calls.setupComm = true
      · rw [if_pos setup, wp_configure_iff rfl refused]
        simp only [closes, allowed, found, setup, not_true_eq_false, false_and, true_and, false_or]
        rfl
      · rw [if_neg setup]
        exact iff_of_false (refused _ rfl) (by simp [closes, allowed, found, setup])
    · rw [if_neg found]
      simp only [closes, allowed, found, not_true_eq_false, not_false_eq_true, false_and, true_and,
        false_or, or_false]
      exact ⟨fun left => left.1.comPort,
        fun same => leavesNothing_of_closed ⟨same, rfl, rfl, rfl⟩ rfl⟩
  · rw [if_neg allowed]
    exact iff_of_true (leavesNothing_of_closed ⟨rfl, rfl, rfl, rfl⟩ rfl) (.inr (.inl allowed))

/-- `SetupComm` fails on the port just opened, which stays open. -/
theorem port_left_open :
    ¬ AllOrNothing ⟨true, true, true, false, true, true⟩ 3 9600 0 LocalModbus.init := by
  intro nothing
  obtain ⟨-, not_opened⟩ :=
    nothing { LocalModbus.init with comPort := 3, hComHandle := some ⟨3, none, none⟩ } rfl
  exact not_opened ⟨rfl, rfl⟩

end

end TizerVision.Modbus
