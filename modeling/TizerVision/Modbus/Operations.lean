/-
# Modbus.Operations — the operations of CModbus

Each operation fills `abyQuery`, exchanges it by the virtual `TxRxMessage` until an exchange is
answered properly or `m_wRetries` exchanges are made, and checks or unpacks `abyReply`.  The
functions take `TxRxMessage` as a parameter; `perform` runs an operation of a `CLocalModbus` object.

The caller's array is passed in and handed back with the error code.  A `short` and a `WORD` are the
same sixteen bits, and `nError` may be either.
-/
import Mathlib.Logic.Function.Basic
import TizerVision.Modbus.Transport

namespace TizerVision.Modbus

set_option autoImplicit false

open Theory

/-! ## Function codes and values -/

def READ_OUTPUT_STATUS : BYTE := 1
def READ_INPUT_STATUS : BYTE := 2
def READ_OUTPUT_REGISTERS : BYTE := 3
def READ_INPUT_REGISTERS : BYTE := 4
def FORCE_SINGLE_COIL : BYTE := 5
def PRESET_SINGLE_REGISTER : BYTE := 6
def LOOP_BACK_TEST : BYTE := 8
def FORCE_MULTIPLE_COILS : BYTE := 15
def PRESET_MULTIPLE_REGISTERS : BYTE := 16

/-- `TRUE` and `FALSE` in an array of coils -/
def boolByte (b : Bool) : BYTE := if b then 1 else 0

/-- An `int` converted to `short` -/
def toShort (n : Nat) : Int := (BitVec.ofNat 16 n).toInt

/-- A `short` converted to `WORD` -/
def shortToWord (n : Int) : Nat := (BitVec.ofInt 16 n).toNat

theorem toShort_of_lt {n : Nat} (small : n < 2 ^ 15) : toShort n = n := by
  unfold toShort
  rw [BitVec.toInt_eq_toNat_of_lt] <;> rw [BitVec.toNat_ofNat, Nat.mod_eq_of_lt (by omega)]
  omega

theorem shortToWord_of_lt {n : Nat} (small : n < 2 ^ 16) : shortToWord n = n := by
  unfold shortToWord
  rw [BitVec.ofInt_natCast, BitVec.toNat_ofNat, Nat.mod_eq_of_lt small]

/-- The length a register read asks for, and the turns of its loop. -/
theorem registers_of_le {n : WORD} (small : n.toNat ≤ 125) :
    toShort (3 + 2 * n.toNat) = ((3 + 2 * n.toNat : Nat) : Int) ∧
      shortToWord (toShort (3 + 2 * n.toNat)) = 3 + 2 * n.toNat ∧
      ((toShort (3 + 2 * n.toNat) - 2) / 2).toNat = n.toNat := by
  have short : toShort (3 + 2 * n.toNat) = ((3 + 2 * n.toNat : Nat) : Int) :=
    toShort_of_lt (by omega)
  refine ⟨short, ?_, ?_⟩
  · rw [short, shortToWord_of_lt (by omega)]
  · rw [short]
    omega

/-- `CModbus::CmodBool` -/
def cmodBool (bCoil : Bool) : WORD := if bCoil then 0xFF00 else 0x0000

/-- `CModbus::ErrorMessage` -/
def errorMessage (wErrorCode : WORD) : String :=
  if wErrorCode ≥ ERR_EXCPTION_CODE then
    "Modbus device return an exception code" ++ toString (wErrorCode - ERR_EXCPTION_CODE).toNat
  else if wErrorCode = ERR_OK then "Ok"
  else if wErrorCode = ERR_TIMEOUT then "Time Out Error"
  else if wErrorCode = ERR_INV_RESP then "invalid returned device response"
  else if wErrorCode = ERR_CRC then "crc error"
  else if wErrorCode = ERR_WR_PORT then "Write communication error"
  else if wErrorCode = ERR_RD_PORT then "Read communication error"
  else if wErrorCode = ERR_NOT_INT then "Comm port not opened"
  else if wErrorCode = ERR_LOCK_TIME_OUT then "Critical section lock time-out error"
  else ""

/-- `CModbus::ThrowModbusException` -/
def throwModbusException (wErrorcode : WORD) : Call Unit := do
  let s ← get
  if wErrorcode ≠ ERR_OK ∧ s.throwing then throw (errorMessage wErrorcode) else pure ()

/-! ## The exchange loop -/

section Loop

variable {α : Type}

/-- `do .. while ((iRetry<m_wRetries)&&(ERR_OK!=nError))` with `further` more turns allowed after the
first. -/
def retryLoop (attempt : α → Call (WORD × α)) : Nat → α → Call (WORD × α)
  | 0, a => attempt a
  | further + 1, a => do
      let r ← attempt a
      if r.1 ≠ ERR_OK then retryLoop attempt further r.2 else pure r

/-- The loop and what follows it in every operation. -/
def exchange (attempt : α → Call (WORD × α)) (a : α) : Call (WORD × α) := do
  let s ← get
  let r ← retryLoop attempt (s.retries.toNat - 1) a
  throwModbusException r.1
  pure r

theorem wp_throwModbusException_ok {Q : Unit → Object → Prop} {E : String → Object → Prop}
    {s : Object} : wp (throwModbusException ERR_OK) Q E s ↔ Q () s := by
  simp [throwModbusException]

variable {attempt : α → Call (WORD × α)}

/-- The loop ends after its first turn if that one is answered properly. -/
theorem wp_exchange_of_ok {Q : WORD × α → Object → Prop} {a : α} {s : Object}
    (first : wp (attempt a) (fun r t => r.1 = ERR_OK ∧ Q r t) (fun _ _ => False) s) :
    wp (exchange attempt a) (fun r t => r.1 = ERR_OK ∧ Q r t) (fun _ _ => False) s := by
  have looped : wp (retryLoop attempt (s.retries.toNat - 1) a) (fun r t => r.1 = ERR_OK ∧ Q r t)
      (fun _ _ => False) s := by
    cases s.retries.toNat - 1 with
    | zero => exact first
    | succ further =>
        rw [retryLoop, wp_bind]
        apply wp_imp first
        rintro r t ⟨ok, post⟩
        rw [if_neg (not_not_intro ok)]
        exact ⟨ok, post⟩
  simp only [exchange, wp_bind, wp_get]
  apply wp_imp looped
  rintro r t ⟨ok, post⟩
  rw [wp_bind, ok, wp_throwModbusException_ok]
  exact ⟨ok, post⟩

/-- If no turn is answered properly, no code of success is returned. -/
theorem wp_exchange_of_failing {J : Object → Prop}
    (turn : ∀ a t, J t → wp (attempt a) (fun r u => r.1 ≠ ERR_OK ∧ J u) (fun _ _ => True) t)
    {a : α} {s : Object} (start : J s) :
    wp (exchange attempt a) (fun r _ => r.1 ≠ ERR_OK) (fun _ _ => True) s := by
  have looped : ∀ further a t, J t →
      wp (retryLoop attempt further a) (fun r _ => r.1 ≠ ERR_OK) (fun _ _ => True) t := by
    intro further
    induction further with
    | zero =>
        intro a t holds
        exact wp_imp (turn a t holds) fun _ _ failed => failed.1
    | succ further ih =>
        intro a t holds
        rw [retryLoop, wp_bind]
        apply wp_imp (turn a t holds)
        rintro r u ⟨failed, kept⟩
        rw [if_pos failed]
        exact ih r.2 u kept
  simp only [exchange, wp_bind, wp_get]
  apply wp_imp (looped _ a s start)
  intro r t failed
  simp only [throwModbusException, wp_bind, wp_get, wp_ite, wp_throw, wp_pure]
  split
  · trivial
  · exact failed

end Loop

/-- `abyQuery[0]` to `abyQuery[5]`: the address, the function and two words. -/
def header (nAddr : WORD) (function : BYTE) (first second : WORD) : List BYTE :=
  [lobyte nAddr, function, hibyte first, lobyte first, hibyte second, lobyte second]

def fillHeader (nAddr : WORD) (function : BYTE) (first second : WORD) : Call Unit :=
  storeBlock .abyQuery 0 (header nAddr function first second)

@[simp] theorem wp_fillHeader {nAddr : WORD} {function : BYTE} {first second : WORD}
    {Q : Unit → Object → Prop} {E : String → Object → Prop} {s : Object} :
    wp (fillHeader nAddr function first second) Q E s ↔
      Q () (s.writeBlock .abyQuery 0 (header nAddr function first second)) := Iff.rfl

section Virtual

variable (txRxMessage : Nat → Nat → Call WORD)

/-! ## Reading -/

/-- `(abyReply[0]==abyQuery[0])&&(abyReply[1]==abyQuery[1])`, as the negated test evaluates it -/
def sameHeader : Call Bool := do
  let replyAddr ← load .abyReply 0
  let queryAddr ← load .abyQuery 0
  if replyAddr ≠ queryAddr then pure false
  else do
    let replyFunction ← load .abyReply 1
    let queryFunction ← load .abyQuery 1
    pure (decide (replyFunction = queryFunction))

/-- What a read makes of the code of an exchange: the reply is checked and unpacked. -/
def takeReply {α : Type} (unpack : α → Call α) (values : α) (nError : WORD) : Call (WORD × α) :=
  if nError = ERR_OK then do
    let valid ← sameHeader
    if valid then do
      let values ← unpack values
      pure (ERR_OK, values)
    else pure (ERR_INV_RESP, values)
  else pure (nError, values)

/-- One turn of a read. -/
def readAttempt {α : Type} (wLengthResponse : Nat) (unpack : α → Call α) (values : α) :
    Call (WORD × α) := do
  let nError ← txRxMessage 6 wLengthResponse
  takeReply unpack values nError

/-- One turn of the loop over the registers. -/
def unpackRegister (nByte : Nat) (anRegValues : Nat → WORD) : Call (Nat → WORD) := do
  let high ← load .abyReply (3 + 2 * nByte)
  let low ← load .abyReply (3 + 2 * nByte + 1)
  pure (Function.update anRegValues nByte (high ++ low))

/-- The loop over `nRespByte`, which counts 3, 5, .. below `nReplyLength`. -/
def unpackRegisters (nReplyLength : Int) (anRegValues : Nat → WORD) : Call (Nat → WORD) :=
  loop unpackRegister ((nReplyLength - 2) / 2).toNat anRegValues

/-- `ReadOutputRegisters` and `ReadInputRegisters`.  `nReplyLength` is a short, and is passed as a
WORD. -/
def readRegisters (function : BYTE) (nAddr nDataStart nQtd : WORD) (anRegValues : Nat → WORD) :
    Call (WORD × (Nat → WORD)) := do
  fillHeader nAddr function nDataStart nQtd
  exchange (readAttempt txRxMessage (shortToWord (toShort (3 + 2 * nQtd.toNat)))
    (unpackRegisters (toShort (3 + 2 * nQtd.toNat)))) anRegValues

def readOutputRegisters (nAddr nDataStart nQtd : WORD) (anRegValues : Nat → WORD) :
    Call (WORD × (Nat → WORD)) :=
  readRegisters txRxMessage READ_OUTPUT_REGISTERS nAddr nDataStart nQtd anRegValues

def readInputRegisters (nAddr nDataStart nQtd : WORD) (anRegValues : Nat → WORD) :
    Call (WORD × (Nat → WORD)) :=
  readRegisters txRxMessage READ_INPUT_REGISTERS nAddr nDataStart nQtd anRegValues

/-- Where a loop over coils is: the bit and the byte of the next coil. -/
structure Cursor where
  bit : Nat
  byte : Nat
deriving DecidableEq, Repr

/-- `if (nBit>7) { nBit=0; nRespByte++; }` -/
def Cursor.wrap (c : Cursor) : Cursor := if c.bit > 7 then ⟨0, c.byte + 1⟩ else c

/-- `nBit++` -/
def Cursor.next (c : Cursor) : Cursor := ⟨c.bit + 1, c.byte⟩

/-- Before turn `k` of a loop that starts in byte `b`, the cursor is at bit `k % 8` of byte
`b + k / 8`, once wrapped. -/
theorem Cursor.wrap_next {c : Cursor} {b k : Nat} (at_coil : c.wrap = ⟨k % 8, b + k / 8⟩) :
    c.wrap.next.wrap = ⟨(k + 1) % 8, b + (k + 1) / 8⟩ := by
  rw [at_coil]
  unfold Cursor.next Cursor.wrap
  by_cases last : k % 8 + 1 > 7
  · rw [if_pos last]
    simp only [Cursor.mk.injEq]
    omega
  · rw [if_neg last]
    simp only [Cursor.mk.injEq]
    omega

/-- One turn of the loop over the coils. -/
def unpackCoil (nCoil : Nat) (v : (Nat → BYTE) × Cursor) : Call ((Nat → BYTE) × Cursor) := do
  let c := v.2.wrap
  let reply ← load .abyReply c.byte
  pure (Function.update v.1 nCoil (boolByte (decide (reply &&& (1#8 <<< c.bit) > 0))), c.next)

/-- The loop over the coils, from bit 0 of `abyReply[3]` on. -/
def unpackStatus (nQtd : Nat) (abCoilValues : Nat → BYTE) : Call (Nat → BYTE) := do
  let v ← loop unpackCoil nQtd (abCoilValues, ⟨0, 3⟩)
  pure v.1

/-- `ReadOutputStatus` and `ReadInputStatus` -/
def readStatus (function : BYTE) (nAddr nDataStart nQtd : WORD) (abCoilValues : Nat → BYTE) :
    Call (WORD × (Nat → BYTE)) := do
  fillHeader nAddr function nDataStart nQtd
  exchange (readAttempt txRxMessage (3 + (nQtd.toNat + 7) / 8) (unpackStatus nQtd.toNat))
    abCoilValues

def readOutputStatus (nAddr nDataStart nQtd : WORD) (abCoilValues : Nat → BYTE) :
    Call (WORD × (Nat → BYTE)) :=
  readStatus txRxMessage READ_OUTPUT_STATUS nAddr nDataStart nQtd abCoilValues

def readInputStatus (nAddr nDataStart nQtd : WORD) (abCoilValues : Nat → BYTE) :
    Call (WORD × (Nat → BYTE)) :=
  readStatus txRxMessage READ_INPUT_STATUS nAddr nDataStart nQtd abCoilValues

/-! ## Writing -/

/-- The comparison of `abyReply[iReg]` with `abyQuery[iReg]` from `iReg` on, with its `break`. -/
def checkEcho (iReg : Nat) : Nat → Call WORD
  | 0 => pure ERR_OK
  | left + 1 => do
      let reply ← load .abyReply iReg
      let query ← load .abyQuery iReg
      if reply ≠ query then pure ERR_INV_RESP else checkEcho (iReg + 1) left

/-- What a write makes of the code of an exchange: the echo is checked. -/
def takeEcho (nError : WORD) : Call (WORD × Unit) :=
  if nError = ERR_OK then do
    let nError ← checkEcho 0 6
    pure (nError, ())
  else pure (nError, ())

/-- One turn of a write. -/
def writeAttempt (wLengthQuery : Nat) (_ : Unit) : Call (WORD × Unit) := do
  let nError ← txRxMessage wLengthQuery 6
  takeEcho nError

/-- The end of every write. -/
def writeExchange (wLengthQuery : Nat) : Call WORD := do
  let r ← exchange (writeAttempt txRxMessage wLengthQuery) ()
  pure r.1

/-- One turn of the loop over the registers to write. -/
def packRegister (anRegValues : Nat → WORD) (iReg : Nat) (_ : Unit) : Call Unit := do
  store .abyQuery (7 + iReg * 2) (hibyte (anRegValues iReg))
  store .abyQuery (7 + iReg * 2 + 1) (lobyte (anRegValues iReg))

/-- The query of `PresetMultipleRegisters` -/
def fillRegisters (nAddr nDataStart nQtd : WORD) (anRegValues : Nat → WORD) : Call Unit := do
  fillHeader nAddr PRESET_MULTIPLE_REGISTERS nDataStart nQtd
  store .abyQuery 6 (BitVec.ofNat 8 (2 * nQtd.toNat))
  loop (packRegister anRegValues) nQtd.toNat ()

/-- `QUERY_LENGHT` is a WORD here. -/
def presetMultipleRegisters (nAddr nDataStart nQtd : WORD) (anRegValues : Nat → WORD) :
    Call WORD := do
  fillRegisters nAddr nDataStart nQtd anRegValues
  writeExchange txRxMessage ((7 + 2 * nQtd.toNat) % 2 ^ 16)

/-- `REAL_NORMAL` -/
def REAL_NORMAL : WORD := 0

/-- `*(pRegValue+i)` for a `WORD*` into a number of `w` bits, low word first -/
def wordOf {w : Nat} (number : BitVec w) (i : Nat) : WORD := (number >>> (16 * i)).setWidth 16

/-- `PresetSingleRegister` for a float, by its bits -/
def presetSingleRegisterFloat (nAddr nRegister : WORD) (fRegValue : BitVec 32) (wRealType : WORD) :
    Call WORD :=
  presetMultipleRegisters txRxMessage nAddr nRegister 2 fun i =>
    if wRealType = REAL_NORMAL then wordOf fRegValue i else wordOf fRegValue (1 - i)

/-- `PresetSingleRegister` for a double, by its bits -/
def presetSingleRegisterDouble (nAddr nRegister : WORD) (dRegValue : BitVec 64) (wRealType : WORD) :
    Call WORD :=
  presetMultipleRegisters txRxMessage nAddr nRegister 4 fun i =>
    if wRealType = REAL_NORMAL then wordOf dRegValue i else wordOf dRegValue (3 - i)

def presetSingleRegister (nAddr nRegister nRegValue : WORD) : Call WORD := do
  fillHeader nAddr PRESET_SINGLE_REGISTER nRegister nRegValue
  writeExchange txRxMessage 6

def forceSingleCoil (nAddr nRegister : WORD) (bCoilValue : Bool) : Call WORD := do
  fillHeader nAddr FORCE_SINGLE_COIL nRegister (cmodBool bCoilValue)
  writeExchange txRxMessage 6

/-- One turn of the loop over the coils to write.  A byte is read back and the bit added to what it
holds; where a coil is FALSE nothing is written. -/
def packCoil (abCoilValues : Nat → BYTE) (iCoil : Nat) (v : Cursor) : Call Cursor := do
  let c := v.wrap
  if abCoilValues iCoil ≠ 0 then do
    let byte ← load .abyQuery c.byte
    store .abyQuery c.byte (byte ||| (1#8 <<< c.bit))
    pure c.next
  else pure c.next

/-- The query of `ForceMultipleCoils`, the coils from bit 0 of `abyQuery[7]` on -/
def fillCoils (nAddr nDataStart nQtd : WORD) (abCoilValues : Nat → BYTE) : Call Unit := do
  fillHeader nAddr FORCE_MULTIPLE_COILS nDataStart nQtd
  store .abyQuery 6 (BitVec.ofNat 8 ((nQtd.toNat + 7) / 8))
  let _ ← loop (packCoil abCoilValues) nQtd.toNat ⟨0, 7⟩
  pure ()

def forceMultipleCoils (nAddr nDataStart nQtd : WORD) (abCoilValues : Nat → BYTE) :
    Call WORD := do
  fillCoils nAddr nDataStart nQtd abCoilValues
  writeExchange txRxMessage (7 + (nQtd.toNat + 7) / 8)

def loopbackTest (nAddr : WORD) : Call WORD := do
  fillHeader nAddr LOOP_BACK_TEST 0 0xA537
  writeExchange txRxMessage 6

end Virtual

/-! ## The operations of a CLocalModbus object -/

/-- A call of an operation, with its arguments. -/
inductive Operation where
  | readOutputRegisters (nAddr nDataStart nQtd : WORD) (anRegValues : Nat → WORD)
  | readInputRegisters (nAddr nDataStart nQtd : WORD) (anRegValues : Nat → WORD)
  | readOutputStatus (nAddr nDataStart nQtd : WORD) (abCoilValues : Nat → BYTE)
  | readInputStatus (nAddr nDataStart nQtd : WORD) (abCoilValues : Nat → BYTE)
  | presetMultipleRegisters (nAddr nDataStart nQtd : WORD) (anRegValues : Nat → WORD)
  | presetSingleRegister (nAddr nRegister nRegValue : WORD)
  | presetSingleRegisterFloat (nAddr nRegister : WORD) (fRegValue : BitVec 32) (wRealType : WORD)
  | presetSingleRegisterDouble (nAddr nRegister : WORD) (dRegValue : BitVec 64) (wRealType : WORD)
  | forceSingleCoil (nAddr nRegister : WORD) (bCoilValue : Bool)
  | forceMultipleCoils (nAddr nDataStart nQtd : WORD) (abCoilValues : Nat → BYTE)
  | loopbackTest (nAddr : WORD)

/-- The error code an operation returns. -/
def perform : Operation → Call WORD
  | .readOutputRegisters a d n v => do
      let r ← readOutputRegisters Modbus.txRxMessage a d n v
      pure r.1
  | .readInputRegisters a d n v => do
      let r ← readInputRegisters Modbus.txRxMessage a d n v
      pure r.1
  | .readOutputStatus a d n v => do
      let r ← readOutputStatus Modbus.txRxMessage a d n v
      pure r.1
  | .readInputStatus a d n v => do
      let r ← readInputStatus Modbus.txRxMessage a d n v
      pure r.1
  | .presetMultipleRegisters a d n v => presetMultipleRegisters Modbus.txRxMessage a d n v
  | .presetSingleRegister a r v => presetSingleRegister Modbus.txRxMessage a r v
  | .presetSingleRegisterFloat a r v t => presetSingleRegisterFloat Modbus.txRxMessage a r v t
  | .presetSingleRegisterDouble a r v t => presetSingleRegisterDouble Modbus.txRxMessage a r v t
  | .forceSingleCoil a r v => forceSingleCoil Modbus.txRxMessage a r v
  | .forceMultipleCoils a d n v => forceMultipleCoils Modbus.txRxMessage a d n v
  | .loopbackTest a => loopbackTest Modbus.txRxMessage a

/-- The object after an operation; what it throws is the caller's business. -/
def Object.after (s : Object) (op : Operation) : Object := finalState (perform op) s

end TizerVision.Modbus
