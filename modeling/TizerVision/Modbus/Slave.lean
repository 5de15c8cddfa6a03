/-
# Modbus.Slave — the requests of the protocol, and the slaves that carry them out

A message on the line is an address and a request, or it is nothing a slave reacts to
(`decodeMessage`).  A slave carries a request out and answers it, or refuses it with an exception
code; the answer, or the request, may be lost on the line.  `Correct` says what the port then delivers
in one exchange.  None of this is code of the repository: it is the other end of the line.
-/
import Mathlib.Logic.Function.Basic
import TizerVision.Modbus.Frame

namespace TizerVision.Modbus

set_option autoImplicit false

/-! ## Requests -/

inductive Request where
  | read (kind : Read) (start count : WORD)
  | presetRegister (register value : WORD)
  | presetRegisters (start : WORD) (values : List WORD)
  | forceCoil (register : WORD) (value : Bool)
  | forceCoils (start : WORD) (values : List Bool)
  | loopback (subfunction data : WORD)
deriving DecidableEq, Repr

/-- A request with the address of the slave it is for. -/
structure Addressed where
  slave : BYTE
  request : Request
deriving DecidableEq, Repr

def readRequest (kind : Read) (start count : WORD) (rest : List BYTE) : Option Request :=
  if rest = [] ∧ 1 ≤ count.toNat ∧ count.toNat ≤ kind.limit then some (.read kind start count)
  else none

/-- A coil is forced by `0xFF00` or `0x0000`. -/
def forceCoilRequest (register value : WORD) (rest : List BYTE) : Option Request :=
  if rest = [] then
    if value = 0xFF00 then some (.forceCoil register true)
    else if value = 0 then some (.forceCoil register false)
    else none
  else none

def presetRegistersRequest (start count : WORD) : List BYTE → Option Request
  | [] => none
  | byteCount :: data =>
      if (1 ≤ count.toNat ∧ count.toNat ≤ 123) ∧ byteCount.toNat = 2 * count.toNat ∧
          data.length = 2 * count.toNat then
        (wordsOf data).map (.presetRegisters start)
      else none

def forceCoilsRequest (start count : WORD) : List BYTE → Option Request
  | [] => none
  | byteCount :: data =>
      if (1 ≤ count.toNat ∧ count.toNat ≤ 1968) ∧ byteCount.toNat = (count.toNat + 7) / 8 ∧
          data.length = (count.toNat + 7) / 8 then
        some (.forceCoils start ((List.range count.toNat).map (coilAt data)))
      else none

/-- The request of a function with its two words and what follows them. -/
def decodeRequest (function : BYTE) (first second : WORD) (rest : List BYTE) : Option Request :=
  if function = READ_OUTPUT_STATUS then readRequest .outputStatus first second rest
  else if function = READ_INPUT_STATUS then readRequest .inputStatus first second rest
  else if function = READ_OUTPUT_REGISTERS then readRequest .outputRegisters first second rest
  else if function = READ_INPUT_REGISTERS then readRequest .inputRegisters first second rest
  else if function = FORCE_SINGLE_COIL then forceCoilRequest first second rest
  else if function = PRESET_SINGLE_REGISTER then
    if rest = [] then some (.presetRegister first second) else none
  else if function = LOOP_BACK_TEST then
    if rest = [] then some (.loopback first second) else none
  else if function = FORCE_MULTIPLE_COILS then forceCoilsRequest first second rest
  else if function = PRESET_MULTIPLE_REGISTERS then presetRegistersRequest first second rest
  else none

theorem decodeRequest_read (kind : Read) (start count : WORD) (rest : List BYTE) :
    decodeRequest kind.functionCode start count rest = readRequest kind start count rest := by
  cases kind with
  | _ => rfl

theorem decodeRequest_presetRegisters (start count : WORD) (rest : List BYTE) :
    decodeRequest PRESET_MULTIPLE_REGISTERS start count rest =
      presetRegistersRequest start count rest := rfl

theorem decodeRequest_forceCoils (start count : WORD) (rest : List BYTE) :
    decodeRequest FORCE_MULTIPLE_COILS start count rest = forceCoilsRequest start count rest := rfl

def decodeMessage : List BYTE → Option Addressed
  | address :: function :: firstHigh :: firstLow :: secondHigh :: secondLow :: rest =>
      (decodeRequest function (firstHigh ++ firstLow) (secondHigh ++ secondLow) rest).map
        (Addressed.mk address)
  | _ => none

theorem decodeMessage_header (nAddr : WORD) (function : BYTE) (first second : WORD)
    (rest : List BYTE) :
    decodeMessage (header nAddr function first second ++ rest) =
      (decodeRequest function first second rest).map (Addressed.mk (lobyte nAddr)) := by
  show (decodeRequest function (hibyte first ++ lobyte first) (hibyte second ++ lobyte second)
    rest).map _ = _
  rw [hibyte_append_lobyte, hibyte_append_lobyte]

theorem decodeMessage_of_short {message : List BYTE} (short : message.length < 6) :
    decodeMessage message = none := by
  unfold decodeMessage
  split
  · simp only [List.length_cons] at short
    omega
  · rfl

/-! ## Answers -/

/-- The data of a slave. -/
structure Memory where
  coils : WORD → Bool
  inputs : WORD → Bool
  registers : WORD → WORD
  inputRegisters : WORD → WORD

/-- The slaves on the line. -/
abbrev Bus := BYTE → Memory

/-- The bytes of `n` coils, the first in the lowest bit, with zeros behind the last. -/
def coilBytes (n : Nat) (value : Nat → Bool) : List BYTE :=
  (List.range ((n + 7) / 8)).map fun b => (BitVec.ofBoolListLE
    ((List.range 8).map fun i => decide (8 * b + i < n) && value (8 * b + i))).setWidth 8

@[simp] theorem length_coilBytes (n : Nat) (value : Nat → Bool) :
    (coilBytes n value).length = (n + 7) / 8 := by
  simp [coilBytes]

theorem coilAt_coilBytes {n k : Nat} (value : Nat → Bool) (below : k < n) :
    coilAt (coilBytes n value) k = value k := by
  have byte : k / 8 < (n + 7) / 8 := by omega
  have bit : k % 8 < 8 := Nat.mod_lt k (by decide)
  have place : 8 * (k / 8) + k % 8 = k := Nat.div_add_mod k 8
  rw [coilAt, coilBytes, List.getD_eq_getElem?_getD, List.getElem?_map, List.getElem?_range byte,
    Option.map_some, Option.getD_some, BitVec.getLsbD_setWidth, BitVec.getLsbD_ofBoolListLE,
    List.getD_eq_getElem?_getD, List.getElem?_map, List.getElem?_range bit, Option.map_some,
    Option.getD_some, place, decide_eq_true bit, decide_eq_true below]
  rfl

theorem registerAt_flatMap (value : Nat → WORD) (ks : List Nat) {k : Nat} (below : k < ks.length) :
    registerAt (ks.flatMap fun k => [hibyte (value k), lobyte (value k)]) k = value ks[k] := by
  induction ks generalizing k with
  | nil => cases below
  | cons first ks ih =>
      cases k with
      | zero => exact hibyte_append_lobyte (value first)
      | succ k => exact ih (Nat.lt_of_succ_lt_succ below)

theorem registerAt_registerBytes {n k : Nat} (value : Nat → WORD) (below : k < n) :
    registerAt (registerBytes n value) k = value k := by
  rw [registerBytes, registerAt_flatMap value _ (by simpa using below), List.getElem_range]

/-- The data a read of `n` elements from `start` on is answered with. -/
def Read.data (memory : Memory) (start : WORD) (n : Nat) : Read → List BYTE
  | outputRegisters => registerBytes n fun k => memory.registers (start + BitVec.ofNat 16 k)
  | inputRegisters => registerBytes n fun k => memory.inputRegisters (start + BitVec.ofNat 16 k)
  | outputStatus => coilBytes n fun k => memory.coils (start + BitVec.ofNat 16 k)
  | inputStatus => coilBytes n fun k => memory.inputs (start + BitVec.ofNat 16 k)

theorem Read.length_data (memory : Memory) (start : WORD) (n : Nat) (kind : Read) :
    (kind.data memory start n).length = kind.dataLength n := by
  cases kind with
  | outputRegisters | inputRegisters => rw [data, length_registerBytes, dataLength]
  | outputStatus | inputStatus => rw [data, length_coilBytes, dataLength]

namespace Request

def functionCode : Request → BYTE
  | read kind _ _ => kind.functionCode
  | presetRegister .. => PRESET_SINGLE_REGISTER
  | presetRegisters .. => PRESET_MULTIPLE_REGISTERS
  | forceCoil .. => FORCE_SINGLE_COIL
  | forceCoils .. => FORCE_MULTIPLE_COILS
  | loopback .. => LOOP_BACK_TEST

/-- The memory of the slave afterwards. -/
def carryOut (memory : Memory) : Request → Memory
  | read .. | loopback .. => memory
  | presetRegister register value =>
      { memory with registers := Function.update memory.registers register value }
  | presetRegisters start values =>
      { memory with registers := fun r => values.getD (r - start).toNat (memory.registers r) }
  | forceCoil register value =>
      { memory with coils := Function.update memory.coils register value }
  | forceCoils start values =>
      { memory with coils := fun c => values.getD (c - start).toNat (memory.coils c) }

/-- The answer behind the address: a read is answered with the data, a write with its own function
and words. -/
def answer (memory : Memory) : Request → List BYTE
  | read kind start count =>
      kind.functionCode :: BitVec.ofNat 8 (kind.data memory start count.toNat).length ::
        kind.data memory start count.toNat
  | presetRegister register value => echo PRESET_SINGLE_REGISTER register value
  | presetRegisters start values =>
      echo PRESET_MULTIPLE_REGISTERS start (BitVec.ofNat 16 values.length)
  | forceCoil register value => echo FORCE_SINGLE_COIL register (cmodBool value)
  | forceCoils start values => echo FORCE_MULTIPLE_COILS start (BitVec.ofNat 16 values.length)
  | loopback subfunction data => echo LOOP_BACK_TEST subfunction data
where
  echo (function : BYTE) (first second : WORD) : List BYTE :=
    [function, hibyte first, lobyte first, hibyte second, lobyte second]

/-- The length of an answer with its address. -/
def answerLength : Request → Nat
  | read kind _ count => 3 + kind.dataLength count.toNat
  | _ => 6

theorem length_answer (memory : Memory) (request : Request) :
    (request.answer memory).length + 1 = request.answerLength := by
  cases request with
  | read kind start count =>
      simp only [answer, answerLength, List.length_cons, Read.length_data]
      omega
  | _ => rfl

end Request

/-! ## The port at the end of the line -/

/-- What becomes of a message. -/
inductive Conduct where
  | answers
  /-- the request is carried out, the answer is lost -/
  | carriesOut
  | refuses (code : BYTE)
  | ignores
deriving DecidableEq, Repr

/-- Nothing comes back. -/
def Exchange.Silent (e : Exchange) : Prop := e.firstRead = none ∨ e.firstRead = some []

/-- The response of the slave, with its address and checksum. -/
def Addressed.response (order : Addressed) (bus : Bus) : List BYTE :=
  withChecksum (order.slave :: order.request.answer (bus order.slave))

/-- What the port delivers for a message, the slaves being correct.  Only a request is answered,
refused or carried out. -/
def Correct (bus : Bus) (message : List BYTE) (e : Exchange) : Conduct → Prop
  | .answers =>
      match decodeMessage message with
      | none => False
      | some order => e.Delivers (order.response bus)
  | .carriesOut => (decodeMessage message).isSome ∧ e.Silent
  | .refuses code =>
      match decodeMessage message with
      | none => False
      | some order =>
          e.Delivers (withChecksum [order.slave, order.request.functionCode ||| 0x80, code])
  | .ignores => e.Silent

instance (e : Exchange) : Decidable e.Silent := inferInstanceAs (Decidable (_ ∨ _))

instance (e : Exchange) (bytes : List BYTE) : Decidable (e.Delivers bytes) :=
  inferInstanceAs (Decidable (_ ∧ _))

instance (bus : Bus) (message : List BYTE) (e : Exchange) (conduct : Conduct) :
    Decidable (Correct bus message e conduct) :=
  match conduct with
  | .answers =>
      match found : decodeMessage message with
      | none => decidable_of_iff False (by rw [Correct, found])
      | some order => decidable_of_iff (e.Delivers (order.response bus)) (by rw [Correct, found])
  | .carriesOut => inferInstanceAs (Decidable (_ ∧ _))
  | .refuses code =>
      match found : decodeMessage message with
      | none => decidable_of_iff False (by rw [Correct, found])
      | some order => decidable_of_iff
          (e.Delivers (withChecksum [order.slave, order.request.functionCode ||| 0x80, code]))
          (by rw [Correct, found])
  | .ignores => inferInstanceAs (Decidable e.Silent)

/-- The slaves after a message. -/
def Conduct.effect (conduct : Conduct) (message : List BYTE) (bus : Bus) : Bus :=
  match conduct, decodeMessage message with
  | .answers, some order | .carriesOut, some order =>
      Function.update bus order.slave (order.request.carryOut (bus order.slave))
  | _, _ => bus

/-! ## What is accepted -/

variable {e : Exchange} {lr : Nat} {bytes : List BYTE}

theorem not_accepted_of_silent (silent : e.Silent) : ¬ e.Accepted lr bytes := by
  rintro ⟨received, some_byte, -⟩
  rcases silent with failed | empty
  · rw [Exchange.received, failed] at received
    cases received
  · rw [Exchange.received, empty] at received
    exact some_byte (Option.some.inj received).symm

/-- Of a response of at least four bytes, these come first. -/
theorem received_function {response : List BYTE} (long : 4 ≤ response.length)
    (delivers : e.Delivers response) (received : e.received (lr + 2) = some bytes) :
    zeroPadded bytes 1 = response.getD 1 0 := by
  have four : (response.take initialRead).length = initialRead := by
    rw [List.length_take]
    exact Nat.min_eq_left long
  have second : (response.take initialRead).getD 1 0 = response.getD 1 0 := by
    rw [List.getD_eq_getElem?_getD, List.getElem?_take_of_lt (by decide),
      List.getD_eq_getElem?_getD]
  rw [Exchange.received, delivers.2.1, delivers.2.2, Option.bind_some, List.take_take, Nat.min_self,
    if_pos four] at received
  split at received
  · cases received
  · obtain rfl := Option.some.inj received
    rw [zeroPadded, List.getD_eq_getElem?_getD, List.getElem?_append_left (by rw [four]; decide),
      ← List.getD_eq_getElem?_getD, second]

theorem Request.exception_gt (request : Request) : request.functionCode ||| 0x80 > 0x80 := by
  have codes : ∀ function ∈ [READ_OUTPUT_STATUS, READ_INPUT_STATUS, READ_OUTPUT_REGISTERS,
      READ_INPUT_REGISTERS, FORCE_SINGLE_COIL, PRESET_SINGLE_REGISTER, LOOP_BACK_TEST,
      FORCE_MULTIPLE_COILS, PRESET_MULTIPLE_REGISTERS], function ||| 0x80 > 0x80 := by
    decide +kernel
  apply codes
  cases request with
  | read kind _ _ => cases kind <;> simp [functionCode, Read.functionCode]
  | _ => simp [functionCode]

theorem not_accepted_of_refused {order : Addressed} {code : BYTE}
    (delivers : e.Delivers (withChecksum [order.slave, order.request.functionCode ||| 0x80, code])) :
    ¬ e.Accepted lr bytes := by
  rintro ⟨received, -, plain, -⟩
  rw [received_function (by simp [withChecksum]) delivers received] at plain
  exact plain order.request.exception_gt

/-- **With correct slaves only an answer is accepted.** -/
theorem Correct.of_accepted {bus : Bus} {message : List BYTE} {conduct : Conduct}
    (correct : Correct bus message e conduct) (accepted : e.Accepted lr bytes) :
    conduct = .answers ∧ ∃ order, decodeMessage message = some order ∧
      e.Delivers (order.response bus) := by
  cases conduct with
  | answers =>
      simp only [Correct] at correct
      split at correct
      · exact correct.elim
      · exact ⟨rfl, _, by assumption, correct⟩
  | carriesOut => exact absurd accepted (not_accepted_of_silent correct.2)
  | refuses code =>
      simp only [Correct] at correct
      split at correct
      · exact correct.elim
      · exact absurd accepted (not_accepted_of_refused correct)
  | ignores => exact absurd accepted (not_accepted_of_silent correct)

end TizerVision.Modbus
