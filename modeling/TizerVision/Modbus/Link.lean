/-
# Modbus.Link — the open flag of CModbusThread and the port it stands for

`CModbusThread` keeps `m_bCommIsOpen` beside the handle of its `CLocalModbus` object.  `OpenComm` sets
the flag and later returns true on the flag alone; nothing resets it.  So a `CloseComm` or a `SetComm`
behind the flag's back makes the next `OpenComm` return true for a port that is closed
(`closed_link_reported_open`) or configured otherwise.

`link_sound_iff` — `OpenComm` is right in every state of a sequence of calls exactly when the port is
not closed and the settings are not changed once the flag is set.
-/
import TizerVision.Modbus.Serial
import TizerVision.Theory.Run

namespace TizerVision.Modbus

set_option autoImplicit false

open Theory

/-! ## The thread object -/

/-- The members of `CModbusThread` that describe the link. -/
structure ModbusThread where
  localModbus : LocalModbus
  /-- `m_bCommIsOpen` -/
  commIsOpen : Bool
  comPort : Int
  baudRate : Int
  parity : Int
deriving DecidableEq, Repr

/-- The constructor, with what it sets in its `CLocalModbus` object. -/
def ModbusThread.init : ModbusThread where
  localModbus := { LocalModbus.init with
    stopBits := 0, byteSize := 8, flowControl := 0, timeOut := 300, silentInterval := 20, mode := .rtu }
  commIsOpen := false
  comPort := 1
  baudRate := 19200
  parity := 2

def ModbusThread.setComm (s : ModbusThread) (port baudRate parity : Int) : ModbusThread :=
  { s with comPort := port, baudRate := baudRate, parity := parity }

/-- `OpenComm`, with its answer. -/
def ModbusThread.openComm (s : ModbusThread) (calls : PortCalls) : Bool × ModbusThread :=
  if s.commIsOpen then (true, s)
  else
    match (updateSerialConfig calls (BitVec.ofInt 8 s.comPort) (BitVec.ofInt 32 s.baudRate)
        (BitVec.ofInt 8 s.parity)).run s.localModbus with
    | .ok _ localModbus => (true, { s with localModbus := localModbus, commIsOpen := true })
    | .error _ localModbus => (false, { s with localModbus := localModbus })

/-- `CloseComm`; its answer is the answer of `CloseCommPort`. -/
def ModbusThread.closeComm (s : ModbusThread) (closeHandle : Bool) : Bool × ModbusThread :=
  ((closeCommPort closeHandle s.localModbus).1,
    { s with localModbus := (closeCommPort closeHandle s.localModbus).2 })

/-- Values in the ranges `UpdateSerialConfig` takes as they are: it reads 0 as the stored port number
or baud rate, and 255 as the stored parity. -/
structure CommSettings where
  port : Int
  baudRate : Int
  parity : Int
  port_range : 1 ≤ port ∧ port ≤ maxComPorts
  baudRate_range : 0 < baudRate ∧ baudRate < 2 ^ 31
  parity_range : 0 ≤ parity ∧ parity < 255

inductive LinkCall where
  | setComm (settings : CommSettings)
  | openComm (calls : PortCalls)
  | closeComm (closeHandle : Bool)

def ModbusThread.call (s : ModbusThread) : LinkCall → ModbusThread
  | .setComm settings => s.setComm settings.port settings.baudRate settings.parity
  | .openComm calls => (s.openComm calls).2
  | .closeComm closeHandle => (s.closeComm closeHandle).2

/-- The calls, one after the other. -/
def ModbusThread.callAll (s : ModbusThread) (as : List LinkCall) : ModbusThread := as.foldl .call s

/-! ## What OpenComm promises -/

/-- The handle is open, and the port has the number, the baud rate and the parity last set. -/
def ModbusThread.Ready (s : ModbusThread) : Prop :=
  ∃ port dcb, s.localModbus.hComHandle = some port ∧ (port.number.toNat : Int) = s.comPort ∧
    port.dcb = some dcb ∧ (dcb.baudRate.toNat : Int) = s.baudRate ∧ (dcb.parity.toNat : Int) = s.parity

/-- An `OpenComm` that returns true leaves the link ready, whatever the Windows calls answer. -/
def ModbusThread.OpensReady (s : ModbusThread) : Prop :=
  ∀ calls, (s.openComm calls).1 = true → (s.openComm calls).2.Ready

/-- Once the flag is set, the port is not closed and the settings stay. -/
def ModbusThread.Allows (s : ModbusThread) : LinkCall → Prop
  | .setComm settings => s.commIsOpen = true →
      settings.port = s.comPort ∧ settings.baudRate = s.baudRate ∧ settings.parity = s.parity
  | .openComm _ => True
  | .closeComm closeHandle => s.commIsOpen = true → closeHandle = false

/-- The settings are in range, and the flag stands for a port that is ready. -/
structure ModbusThread.Truthful (s : ModbusThread) : Prop where
  settings : ∃ settings : CommSettings,
    settings.port = s.comPort ∧ settings.baudRate = s.baudRate ∧ settings.parity = s.parity
  flag : s.commIsOpen = true → s.Ready

/-- A value in range survives the conversion to an unsigned type. -/
theorem toNat_ofInt_of_lt {w : Nat} {x : Int} (positive : 0 ≤ x) (small : x < 2 ^ w) :
    ((BitVec.ofInt w x).toNat : Int) = x := by
  have same : x % ((2 ^ w : Nat) : Int) = x := by
    refine Int.emod_eq_of_lt positive ?_
    rw [Int.natCast_pow]
    exact small
  rw [BitVec.toNat_ofInt, same, Int.toNat_of_nonneg positive]

theorem ofInt_ne_of_toNat {w : Nat} {x : Int} (positive : 0 ≤ x) (small : x < 2 ^ w) {b : BitVec w}
    (other : x ≠ b.toNat) : BitVec.ofInt w x ≠ b := by
  rintro rfl
  exact other (toNat_ofInt_of_lt positive small).symm

/-- What `UpdateSerialConfig` configures is what was set. -/
theorem ModbusThread.ready_of_configured {s : ModbusThread} (settings : CommSettings)
    (port : settings.port = s.comPort) (rate : settings.baudRate = s.baudRate)
    (parity : settings.parity = s.parity)
    (configured : s.localModbus.Configured (BitVec.ofInt 8 s.comPort) (BitVec.ofInt 32 s.baudRate)
      (BitVec.ofInt 8 s.parity)) : s.Ready := by
  obtain ⟨handle, dcb, opened, number, taken, dcbRate, dcbParity⟩ := configured
  have portRange := settings.port_range
  have rateRange := settings.baudRate_range
  have parityRange := settings.parity_range
  unfold maxComPorts at portRange
  refine ⟨handle, dcb, opened, ?_, taken, ?_, ?_⟩
  · rw [number]
    exact toNat_ofInt_of_lt (by omega) (by omega)
  · rw [dcbRate]
    exact toNat_ofInt_of_lt (by omega) (by omega)
  · rw [dcbParity]
    exact toNat_ofInt_of_lt (by omega) (by omega)

/-- The first `OpenComm` that returns true configures the port as set. -/
theorem ModbusThread.Truthful.opensReady {s : ModbusThread} (truthful : s.Truthful) :
    s.OpensReady := by
  intro calls
  obtain ⟨settings, port, rate, parity⟩ := truthful.settings
  have portRange := settings.port_range
  have rateRange := settings.baudRate_range
  have parityRange := settings.parity_range
  unfold maxComPorts at portRange
  unfold ModbusThread.openComm
  split
  case isTrue flag => exact fun _ => truthful.flag flag
  case isFalse =>
    have given : BitVec.ofInt 8 s.comPort ≠ 0 :=
      ofInt_ne_of_toNat (by omega) (by omega) (by simp; omega)
    have someRate : BitVec.ofInt 32 s.baudRate ≠ 0 :=
      ofInt_ne_of_toNat (by omega) (by omega) (by simp; omega)
    have someParity : BitVec.ofInt 8 s.parity ≠ invalidParity :=
      ofInt_ne_of_toNat (by omega) (by omega) (by simp [invalidParity]; omega)
    have ends := wp_updateSerialConfig (s := s.localModbus) calls given someRate someParity
    unfold wp at ends
    split
    case h_1 localModbus ran =>
      rw [ran] at ends
      exact fun _ => ready_of_configured (s := ⟨localModbus, true, s.comPort, s.baudRate, s.parity⟩)
        settings port rate parity ends
    case h_2 => simp

theorem truthful_init : ModbusThread.init.Truthful where
  settings := ⟨⟨1, 19200, 2, by decide, by decide, by decide⟩, rfl, rfl, rfl⟩
  flag set := by cases set

/-- With the flag set, `OpenComm` returns true and does nothing. -/
theorem ModbusThread.OpensReady.ready {s : ModbusThread} (opens : s.OpensReady)
    (flag : s.commIsOpen = true) : s.Ready := by
  have calls : PortCalls := ⟨true, true, true, true, true, true⟩
  have same : s.openComm calls = (true, s) := if_pos flag
  have ready := opens calls
  rw [same] at ready
  exact ready rfl

theorem ModbusThread.Truthful.openComm {s : ModbusThread} (truthful : s.Truthful)
    (calls : PortCalls) : (s.openComm calls).2.Truthful := by
  have opens := truthful.opensReady calls
  have settings := truthful.settings
  unfold ModbusThread.openComm at opens ⊢
  split
  case isTrue => exact truthful
  case isFalse flag =>
    rw [if_neg flag] at opens
    split
    case h_1 ran =>
      rw [ran] at opens
      exact ⟨settings, fun _ => opens rfl⟩
    case h_2 => exact ⟨settings, fun set => absurd set flag⟩

/-- An allowed call keeps the flag truthful. -/
theorem ModbusThread.Truthful.call {s : ModbusThread} {a : LinkCall} (truthful : s.Truthful)
    (allowed : s.Allows a) : (s.call a).Truthful := by
  cases a with
  | openComm calls => exact truthful.openComm calls
  | setComm settings =>
      refine ⟨⟨settings, rfl, rfl, rfl⟩, fun flag => ?_⟩
      obtain ⟨port, rate, parity⟩ := allowed flag
      have same : s.setComm settings.port settings.baudRate settings.parity = s := by
        rw [ModbusThread.setComm, port, rate, parity]
      show (s.setComm settings.port settings.baudRate settings.parity).Ready
      rw [same]
      exact truthful.flag flag
  | closeComm closeHandle =>
      refine ⟨truthful.settings, fun flag => ?_⟩
      obtain ⟨port, dcb, opened, configured⟩ := truthful.flag flag
      have same : (s.closeComm closeHandle).2 = s := by
        simp [ModbusThread.closeComm, closeCommPort, opened, allowed flag]
      show (s.closeComm closeHandle).2.Ready
      rw [same]
      exact ⟨port, dcb, opened, configured⟩

/-- A call after which `OpenComm` is right was allowed. -/
theorem ModbusThread.Truthful.allows {s : ModbusThread} {a : LinkCall} (truthful : s.Truthful)
    (opens : (s.call a).OpensReady) : s.Allows a := by
  cases a with
  | openComm calls => trivial
  | setComm settings =>
      intro flag
      -- the port keeps what it was configured with
      obtain ⟨port, dcb, opened, number, taken, rate, parity⟩ := truthful.flag flag
      obtain ⟨port', dcb', opened', number', taken', rate', parity'⟩ := opens.ready flag
      obtain rfl : port = port' := Option.some.inj (opened.symm.trans opened')
      obtain rfl : dcb = dcb' := Option.some.inj (taken.symm.trans taken')
      exact ⟨number'.symm.trans number, rate'.symm.trans rate, parity'.symm.trans parity⟩
  | closeComm closeHandle =>
      intro flag
      obtain ⟨port, dcb, opened, -⟩ := truthful.flag flag
      obtain ⟨port', dcb', opened', -⟩ := opens.ready flag
      cases closeHandle with
      | false => rfl
      | true => simp [ModbusThread.call, ModbusThread.closeComm, closeCommPort, opened] at opened'

/-- **`OpenComm` tells the truth exactly while the link is left alone.**  For every sequence of
`SetComm`, `OpenComm` and `CloseComm` calls and all answers of the Windows calls: in every state
reached, an `OpenComm` that returns true leaves the handle open on a port configured as last set,
exactly when no call made with the flag set closes the handle or sets other values. -/
theorem link_sound_iff (as : List LinkCall) :
    (∀ n, (ModbusThread.init.callAll (as.take n)).OpensReady) ↔
      ∀ n a, as[n]? = some a → (ModbusThread.init.callAll (as.take n)).Allows a := by
  refine forall_prefix_iff (J := ModbusThread.Truthful) (P := ModbusThread.OpensReady)
    (M := ModbusThread.Allows) (fun s truthful => truthful.opensReady) ?_ ?_ as truthful_init
  · intro s a truthful
    exact ⟨truthful.allows, fun allowed => (truthful.call allowed).opensReady⟩
  · intro s a truthful allowed
    exact truthful.call allowed

/-- Every Windows call succeeds. -/
def PortCalls.succeeding : PortCalls := ⟨true, true, true, true, true, true⟩

/-- **A closed link is reported open.**  After `OpenComm` and `CloseComm`, both successful, `OpenComm`
returns true and the handle is not open. -/
theorem closed_link_reported_open :
    ¬ ∀ as : List LinkCall, (ModbusThread.init.callAll as).OpensReady := by
  intro always
  obtain ⟨port, dcb, opened, -⟩ :=
    always [.openComm .succeeding, .closeComm true] .succeeding (by decide)
  have closed : ((ModbusThread.init.callAll [.openComm .succeeding, .closeComm true]).openComm
      .succeeding).2.localModbus.hComHandle = none := by decide
  rw [closed] at opened
  cases opened

end TizerVision.Modbus
