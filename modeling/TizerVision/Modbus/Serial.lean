/-
# Modbus.Serial — the serial port of a CLocalModbus object

`UpdateSerialConfig` closes the port, opens it under the requested number and configures it; on the
first Windows call that fails it jumps to `OpenCommError` and returns FALSE with whatever it has
stored and opened by then.  The jump is an exception of the model, and the answers of the Windows
calls are a parameter.

`wp_updateSerialConfig` — a call that returns TRUE leaves the handle open on the requested port, which
has the requested baud rate and parity.
-/
import TizerVision.Modbus.Object

namespace TizerVision.Modbus

set_option autoImplicit false

open Theory

/-! ## The port and its configuration -/

abbrev DWORD := BitVec 32

/-- `MAX_COM_PORTS` -/
def maxComPorts : Nat := 8

/-- `INVALID_PARITY` -/
def invalidParity : BYTE := 255

/-- `MAXDWORD` -/
def maxDword : DWORD := 0xFFFFFFFF

/-- `FC_DTRDSR`, `FC_RTSCTS`, `FC_XONXOFF` -/
def fcDtrDsr : BYTE := 0x01
def fcRtsCts : BYTE := 0x02
def fcXonXoff : BYTE := 0x04

/-- The fields of a `DCB` that `UpdateSerialConfig` computes. -/
structure Dcb where
  baudRate : DWORD
  stopBits : BYTE
  parity : BYTE
  byteSize : BYTE
  /-- `fOutxDsrFlow`, which also chooses `fDtrControl` -/
  fOutxDsrFlow : Bool
  /-- `fOutxCtsFlow`, which also chooses `fRtsControl` -/
  fOutxCtsFlow : Bool
  /-- `fInX` and `fOutX` -/
  fInX : Bool
deriving DecidableEq, Repr

/-- `COMMTIMEOUTS` -/
structure CommTimeouts where
  readIntervalTimeout : DWORD
  readTotalTimeoutMultiplier : DWORD
  readTotalTimeoutConstant : DWORD
  writeTotalTimeoutMultiplier : DWORD
  writeTotalTimeoutConstant : DWORD
deriving DecidableEq, Repr

/-- What `SetTimeouts(NULL)` sets. -/
def CommTimeouts.default : CommTimeouts := ⟨maxDword, 0, 0, 0, 0⟩

/-- An open port: its number, and the configuration it was given since it was opened. -/
structure SerialPort where
  number : BYTE
  dcb : Option Dcb
  timeouts : Option CommTimeouts
deriving DecidableEq, Repr

/-- The part of `CLocalModbus` that describes the serial port. -/
structure LocalModbus where
  /-- `m_hComHandle`, `none` for `INVALID_HANDLE_VALUE` -/
  hComHandle : Option SerialPort
  comPort : BYTE
  baudRate : DWORD
  parity : BYTE
  timeOut : DWORD
  silentInterval : DWORD
  flowControl : BYTE
  stopBits : BYTE
  byteSize : WORD
  mode : Mode
deriving DecidableEq, Repr

/-- The constructor. -/
def LocalModbus.init : LocalModbus where
  hComHandle := none
  comPort := 2
  baudRate := 9600
  parity := 0
  timeOut := 1000
  silentInterval := 0
  flowControl := 0
  stopBits := 0
  byteSize := 8
  mode := .rtu

/-- What the Windows calls of one `UpdateSerialConfig` answer. -/
structure PortCalls where
  closeHandle : Bool
  /-- `CreateFileW` with the name `COMn` -/
  createFile : Bool
  /-- `CreateFileW` with the name `\\.\COMn` -/
  createFileNt : Bool
  setupComm : Bool
  setCommTimeouts : Bool
  setCommState : Bool
deriving DecidableEq, Repr

/-! ## UpdateSerialConfig -/

/-- The program of `UpdateSerialConfig`; raising is `goto OpenCommError`. -/
abbrev Config := EStateM Unit LocalModbus

def require (holds : Bool) : Config Unit := if holds then pure () else throw ()

/-- `CloseCommPort`, with its answer. -/
def closeCommPort (closeHandle : Bool) (s : LocalModbus) : Bool × LocalModbus :=
  match s.hComHandle with
  | some _ => if closeHandle then (true, { s with hComHandle := none }) else (false, s)
  | none => (true, s)

def closeBefore (calls : PortCalls) : Config Unit := do
  let s ← get
  modify fun s => (closeCommPort calls.closeHandle s).2
  require (closeCommPort calls.closeHandle s).1

/-- The port number, the stored one for 0, has to be between 1 and `MAX_COM_PORTS`. -/
def choosePort (byComPort : BYTE) : Config Unit := do
  let s ← get
  let port := if byComPort = 0 then s.comPort else byComPort
  require (decide (1 ≤ port.toNat ∧ port.toNat ≤ maxComPorts))
  modify fun s => { s with comPort := port }

/-- `m_hComHandle = ::CreateFileW(..)` -/
def createFile (created : Bool) : Config Unit :=
  modify fun s => { s with hComHandle := if created then some ⟨s.comPort, none, none⟩ else none }

/-- Both attempts at opening the port, and `SetupComm`. -/
def openPort (calls : PortCalls) : Config Unit := do
  createFile calls.createFile
  if calls.createFile then require calls.setupComm
  else do
    createFile calls.createFileNt
    require calls.createFileNt
    require calls.setupComm

/-- The `DCB`. -/
def LocalModbus.dcb (s : LocalModbus) (dwBaudRate : DWORD) (byParity : BYTE) : Dcb where
  baudRate := dwBaudRate
  stopBits := s.stopBits
  parity := byParity
  byteSize := s.byteSize.setWidth 8
  fOutxDsrFlow := s.flowControl &&& fcDtrDsr != 0
  fOutxCtsFlow := s.flowControl &&& fcRtsCts != 0
  fInX := s.flowControl &&& fcXonXoff != 0

/-- `(DWORD)((dcb.ByteSize+4)*chars*1000L)/(dcb.BaudRate)`: the milliseconds of some characters. -/
def Dcb.milliseconds (dcb : Dcb) (chars : Nat) : DWORD :=
  BitVec.ofNat 32 ((dcb.byteSize.toNat + 4) * chars * 1000) / dcb.baudRate

/-- `SilentInterval(dwSilentInterval)` -/
def LocalModbus.setSilentInterval (s : LocalModbus) (dwSilentInterval : DWORD) : LocalModbus :=
  if dwSilentInterval > 0 then { s with silentInterval := dwSilentInterval } else s

/-- `if (dwSilentInterval>m_dwSilentInterval) SilentInterval(dwSilentInterval);` -/
def LocalModbus.raiseSilentInterval (s : LocalModbus) (dwSilentInterval : DWORD) : LocalModbus :=
  if dwSilentInterval > s.silentInterval then s.setSilentInterval dwSilentInterval else s

/-- The members that are set from the `DCB` before the port has taken it. -/
def LocalModbus.noted (s : LocalModbus) (dcb : Dcb) : LocalModbus :=
  { s with parity := dcb.parity, baudRate := dcb.baudRate }.raiseSilentInterval (dcb.milliseconds 4)

/-- The timeouts of RTU mode. -/
def LocalModbus.timeouts (s : LocalModbus) (dcb : Dcb) : CommTimeouts where
  readIntervalTimeout := s.silentInterval
  readTotalTimeoutMultiplier := if dcb.milliseconds 1 ≤ 0 then 1 else dcb.milliseconds 1
  readTotalTimeoutConstant := s.timeOut
  writeTotalTimeoutMultiplier := s.silentInterval
  writeTotalTimeoutConstant := s.timeOut

/-- A call that sets something on the open port. -/
def onPort (taken : Bool) (set : SerialPort → SerialPort) : Config Unit := do
  let s ← get
  require (s.hComHandle.isSome && taken)
  modify fun s => { s with hComHandle := s.hComHandle.map set }

/-- The DCB, the members and the timeouts, then `SetCommState`. -/
def configure (calls : PortCalls) (dwBaudRate : DWORD) (byParity : BYTE) : Config Unit := do
  let s ← get
  let dcb := s.dcb (if dwBaudRate = 0 then s.baudRate else dwBaudRate)
    (if byParity = invalidParity then s.parity else byParity)
  modify fun s => s.noted dcb
  let s ← get
  let timeouts := if s.mode = .rtu then s.timeouts dcb else .default
  onPort calls.setCommTimeouts fun port => { port with timeouts := some timeouts }
  onPort calls.setCommState fun port => { port with dcb := some dcb }

/-- `UpdateSerialConfig` -/
def updateSerialConfig (calls : PortCalls) (byComPort : BYTE) (dwBaudRate : DWORD)
    (byParity : BYTE) : Config Unit := do
  closeBefore calls
  choosePort byComPort
  openPort calls
  configure calls dwBaudRate byParity

/-! ## What a successful call leaves -/

/-- The handle is open on this port, which has this baud rate and parity. -/
def LocalModbus.Configured (s : LocalModbus) (byComPort : BYTE) (dwBaudRate : DWORD)
    (byParity : BYTE) : Prop :=
  ∃ port dcb, s.hComHandle = some port ∧ port.number = byComPort ∧ port.dcb = some dcb ∧
    dcb.baudRate = dwBaudRate ∧ dcb.parity = byParity

section Specs

variable {Q : Unit → LocalModbus → Prop} {E : Unit → LocalModbus → Prop} {s : LocalModbus}

theorem wp_require {holds : Bool} :
    wp (require holds) Q E s ↔ if holds then Q () s else E () s := by
  rw [require, wp_ite]
  rfl

theorem wp_closeBefore (calls : PortCalls) :
    wp (closeBefore calls) (fun _ _ => True) (fun _ _ => True) s := by
  rw [closeBefore, wp_bind, wp_get, wp_bind, wp_modify, wp_require]
  split <;> trivial

/-- A number that is not 0 is the number chosen. -/
theorem wp_choosePort {byComPort : BYTE} (given : byComPort ≠ 0) :
    wp (choosePort byComPort) (fun _ s' => s'.comPort = byComPort) (fun _ _ => True) s := by
  rw [choosePort, wp_bind, wp_get]
  simp only [wp_bind, wp_require, wp_modify, if_neg given]
  split <;> trivial

theorem wp_openPort (calls : PortCalls) :
    wp (openPort calls) (fun _ s' => ∃ port, s'.hComHandle = some port ∧ port.number = s.comPort)
      (fun _ _ => True) s := by
  simp only [openPort, createFile, wp_bind, wp_modify, wp_ite, wp_require]
  by_cases first : calls.createFile = true
  · simp only [first, if_true]
    split
    · exact ⟨_, rfl, rfl⟩
    · trivial
  · simp only [first]
    split
    · exact absurd ‹_› (by simp)
    · split
      · split
        · exact ⟨_, rfl, rfl⟩
        · trivial
      · trivial

theorem wp_onPort {taken : Bool} {set : SerialPort → SerialPort} {port : SerialPort}
    (opened : s.hComHandle = some port)
    (next : Q () { s with hComHandle := some (set port) }) :
    wp (onPort taken set) Q (fun _ _ => True) s := by
  rw [onPort, wp_bind, wp_get, wp_bind, wp_require, wp_modify, opened]
  cases taken with
  | false => trivial
  | true => exact next

/-- The members change, the handle does not. -/
@[simp] theorem LocalModbus.noted_hComHandle (s : LocalModbus) (dcb : Dcb) :
    (s.noted dcb).hComHandle = s.hComHandle := by
  unfold LocalModbus.noted LocalModbus.raiseSilentInterval
  split
  · unfold LocalModbus.setSilentInterval
    split <;> rfl
  · rfl

theorem wp_configure (calls : PortCalls) {dwBaudRate : DWORD} {byParity : BYTE} {port : SerialPort}
    (opened : s.hComHandle = some port) (rate : dwBaudRate ≠ 0) (parity : byParity ≠ invalidParity) :
    wp (configure calls dwBaudRate byParity)
      (fun _ s' => s'.Configured port.number dwBaudRate byParity) (fun _ _ => True) s := by
  rw [configure, wp_bind, wp_get]
  simp only [wp_bind, wp_modify, wp_get, if_neg rate, if_neg parity]
  refine wp_onPort (by rw [LocalModbus.noted_hComHandle, opened]) ?_
  exact wp_onPort rfl ⟨_, _, rfl, rfl, rfl, rfl, rfl⟩

/-- **A successful call configures the port it was asked for.** -/
theorem wp_updateSerialConfig (calls : PortCalls) {byComPort byParity : BYTE} {dwBaudRate : DWORD}
    (given : byComPort ≠ 0) (rate : dwBaudRate ≠ 0) (parity : byParity ≠ invalidParity) :
    wp (updateSerialConfig calls byComPort dwBaudRate byParity)
      (fun _ s' => s'.Configured byComPort dwBaudRate byParity) (fun _ _ => True) s := by
  rw [updateSerialConfig, wp_bind]
  refine wp_imp (wp_closeBefore calls) fun _ s₁ _ => ?_
  rw [wp_bind]
  refine wp_imp (wp_choosePort given) fun _ s₂ chosen => ?_
  rw [wp_bind]
  refine wp_imp (wp_openPort calls) fun _ s₃ opened => ?_
  obtain ⟨port, handle, number⟩ := opened
  rw [← chosen, ← number]
  exact wp_configure calls handle rate parity

end Specs

end TizerVision.Modbus
