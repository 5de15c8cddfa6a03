/-
# LibModbus.Client — the client's calls: the request, the check of the confirmation, the values

Each function of the client builds a request on a common basis, sends it, receives one confirmation,
checks it against the request and takes the values out of it.  The functions differ in what they put
behind the basis and in what they take out: `Plan` has these differences, `Call` is the functions a
program can call.

* `request_isMessage` — the request of a call is one whole message to a server of the same library.
* `answer_of_reply` — whatever a peer answers, what a call returns depends on the bytes received and not on
  what the buffer held behind them, and a call that succeeds delivers as many values as it asked for.
-/
import TizerVision.LibModbus.Message

namespace TizerVision.LibModbus

set_option autoImplicit false

open Theory

/-! ## The requests -/

/-- What a context keeps between its calls. -/
structure Ctx where
  slave : Int
  tId : UInt16
  deriving DecidableEq, Repr

/-- The transaction number of the next request. -/
def Ctx.nextTId (ctx : Ctx) : UInt16 := if ctx.tId < 65535 then ctx.tId + 1 else 0

/-- `_modbus_tcp_build_request_basis`.  The bytes 4 and 5 are set by `sendMsgPre`. -/
def buildRequestBasis (ctx : Ctx) (function : Nat) (addr nb : Int) : Ctx × List UInt8 :=
  let tId := ctx.nextTId
  ({ ctx with tId := tId },
    [byte (tId.toNat / 256), byte tId.toNat, 0, 0, 0, 0, byte ctx.slave, byte function,
      byte (addr / 256), byte addr, byte (nb / 256), byte nb])

/-- `_modbus_tcp_send_msg_pre`. -/
def sendMsgPre (msg : List UInt8) : List UInt8 :=
  let mbapLength : Int := msg.length - 6
  (msg.set 4 (byte (mbapLength / 256))).set 5 (byte mbapLength)

/-- What a function takes out of a confirmation that has passed the check. -/
inductive Decode where
  | count
  | bits (nb : Int)
  | registers
  | slaveId (maxDest : Int)
  deriving DecidableEq, Repr

/-- What a function of the client does with its context, its peer apart. -/
structure Plan where
  /-- the error it returns before it builds anything -/
  refused : Option Errno
  function : Nat
  addr : Int
  nb : Int
  /-- how much of the end of the basis it overwrites -/
  cut : Nat
  payload : List UInt8
  decode : Decode
  deriving DecidableEq, Repr

/-- `MODBUS_MAX_READ_BITS` and the other limits. -/
def maxReadBits : Int := 2000
def maxWriteBits : Int := 1968
def maxReadRegisters : Int := 125
def maxWriteRegisters : Int := 123
def maxWrWriteRegisters : Int := 121
def maxWrReadRegisters : Int := 125

/-- The check of a number of values against its limit. -/
def Plan.limit (nb limit : Int) (plan : Plan) : Plan :=
  if nb > limit then { plan with refused := some .embMData } else plan

/-- `read_io_status`. -/
def readIoStatus (function : Nat) (addr nb : Int) : Plan := ⟨none, function, addr, nb, 0, [], .bits nb⟩

/-- `modbus_read_bits`. -/
def modbusReadBits (addr nb : Int) : Plan := (readIoStatus Fc.readCoils addr nb).limit nb maxReadBits

/-- `modbus_read_input_bits`. -/
def modbusReadInputBits (addr nb : Int) : Plan :=
  (readIoStatus Fc.readDiscreteInputs addr nb).limit nb maxReadBits

/-- `read_registers`, with a check of its own. -/
def readRegisters (function : Nat) (addr nb : Int) : Plan :=
  Plan.limit nb maxReadRegisters ⟨none, function, addr, nb, 0, [], .registers⟩

/-- `modbus_read_registers`. -/
def modbusReadRegisters (addr nb : Int) : Plan :=
  (readRegisters Fc.readHoldingRegisters addr nb).limit nb maxReadRegisters

/-- `modbus_read_input_registers`. -/
def modbusReadInputRegisters (addr nb : Int) : Plan :=
  (readRegisters Fc.readInputRegisters addr nb).limit nb maxReadRegisters

/-- `write_single`. -/
def writeSingle (function : Nat) (addr value : Int) : Plan := ⟨none, function, addr, value, 0, [], .count⟩

/-- `modbus_write_bit`. -/
def modbusWriteBit (addr status : Int) : Plan :=
  writeSingle Fc.writeSingleCoil addr (if status ≠ 0 then 0xFF00 else 0)

/-- `modbus_write_register`. -/
def modbusWriteRegister (addr value : Int) : Plan := writeSingle Fc.writeSingleRegister addr value

/-- The bytes `nb` bits take, with the division of C. -/
def byteCount (nb : Int) : Int := nb.tdiv 8 + if nb.tmod 8 ≠ 0 then 1 else 0

/-- The byte `i` of the bits written: `src[8 * i + k]` at its bit `k`, as far as there are bits. -/
def packByte (nb : Int) (src : Nat → UInt8) (i : Nat) : UInt8 :=
  (List.range 8).foldl (fun packed k =>
    if ((8 * i + k : Nat) : Int) < nb ∧ src (8 * i + k) ≠ 0 then packed ||| UInt8.ofNat (1 <<< k)
    else packed) 0

/-- `modbus_write_bits`. -/
def modbusWriteBits (addr nb : Int) (src : Nat → UInt8) : Plan :=
  Plan.limit nb maxWriteBits ⟨none, Fc.writeMultipleCoils, addr, nb, 0,
    byte (byteCount nb) :: (List.range (byteCount nb).toNat).map (packByte nb src), .count⟩

/-- The registers of an array, high byte first. -/
def registerBytes (nb : Int) (src : Nat → UInt16) : List UInt8 :=
  (List.range nb.toNat).flatMap fun i => [byte ((src i).toNat / 256), byte (src i).toNat]

/-- `modbus_write_registers`. -/
def modbusWriteRegisters (addr nb : Int) (src : Nat → UInt16) : Plan :=
  Plan.limit nb maxWriteRegisters ⟨none, Fc.writeMultipleRegisters, addr, nb, 0,
    byte (nb * 2) :: registerBytes nb src, .count⟩

/-- `modbus_mask_write_register`: the masks stand where the other requests have their count. -/
def modbusMaskWriteRegister (addr : Int) (andMask orMask : UInt16) : Plan :=
  ⟨none, Fc.maskWriteRegister, addr, 0, 2,
    [byte (andMask.toNat / 256), byte andMask.toNat, byte (orMask.toNat / 256), byte orMask.toNat], .count⟩

/-- `modbus_write_and_read_registers`. -/
def modbusWriteAndReadRegisters (writeAddr writeNb : Int) (src : Nat → UInt16) (readAddr readNb : Int) :
    Plan :=
  Plan.limit writeNb maxWrWriteRegisters (Plan.limit readNb maxWrReadRegisters
    ⟨none, Fc.writeAndReadRegisters, readAddr, readNb, 0,
      [byte (writeAddr / 256), byte writeAddr, byte (writeNb / 256), byte writeNb, byte (writeNb * 2)] ++
        registerBytes writeNb src, .registers⟩)

/-- `modbus_report_slave_id`: the request ends behind the function code. -/
def modbusReportSlaveId (maxDest : Int) : Plan :=
  ⟨if maxDest ≤ 0 then some .einval else none, Fc.reportSlaveId, 0, 0, 4, [], .slaveId maxDest⟩

/-- The functions of the client. -/
inductive Call where
  | readBits (addr nb : Int)
  | readInputBits (addr nb : Int)
  | readRegisters (addr nb : Int)
  | readInputRegisters (addr nb : Int)
  | writeBit (addr status : Int)
  | writeRegister (addr value : Int)
  | writeBits (addr nb : Int) (src : Nat → UInt8)
  | writeRegisters (addr nb : Int) (src : Nat → UInt16)
  | maskWriteRegister (addr : Int) (andMask orMask : UInt16)
  | writeAndReadRegisters (writeAddr writeNb : Int) (src : Nat → UInt16) (readAddr readNb : Int)
  | reportSlaveId (maxDest : Int)

def Call.plan : Call → Plan
  | .readBits addr nb => modbusReadBits addr nb
  | .readInputBits addr nb => modbusReadInputBits addr nb
  | .readRegisters addr nb => modbusReadRegisters addr nb
  | .readInputRegisters addr nb => modbusReadInputRegisters addr nb
  | .writeBit addr status => modbusWriteBit addr status
  | .writeRegister addr value => modbusWriteRegister addr value
  | .writeBits addr nb src => modbusWriteBits addr nb src
  | .writeRegisters addr nb src => modbusWriteRegisters addr nb src
  | .maskWriteRegister addr andMask orMask => modbusMaskWriteRegister addr andMask orMask
  | .writeAndReadRegisters writeAddr writeNb src readAddr readNb =>
      modbusWriteAndReadRegisters writeAddr writeNb src readAddr readNb
  | .reportSlaveId maxDest => modbusReportSlaveId maxDest

/-- The request as it is sent, and the context behind it. -/
def Plan.request (plan : Plan) (ctx : Ctx) : Ctx × List UInt8 :=
  let (ctx, basis) := buildRequestBasis ctx plan.function plan.addr plan.nb
  (ctx, sendMsgPre (basis.take (basis.length - plan.cut) ++ plan.payload))

/-! ## The check of the confirmation -/

/-- `compute_response_length_from_request`; `none` is `MSG_LENGTH_UNDEFINED`. -/
def computeResponseLengthFromRequest (req : List UInt8) : Option Nat :=
  let function := byteAt req headerLength
  let nb := wordAt req (headerLength + 3)
  if function = Fc.readCoils ∨ function = Fc.readDiscreteInputs then
    some (headerLength + (2 + nb / 8 + if nb % 8 ≠ 0 then 1 else 0) + checksumLength)
  else if function = Fc.writeAndReadRegisters ∨ function = Fc.readHoldingRegisters ∨
      function = Fc.readInputRegisters then
    some (headerLength + (2 + 2 * nb) + checksumLength)
  else if function = Fc.readExceptionStatus then some (headerLength + 3 + checksumLength)
  else if function = Fc.reportSlaveId then none
  else if function = Fc.maskWriteRegister then some (headerLength + 7 + checksumLength)
  else some (headerLength + 5 + checksumLength)

/-- `_modbus_tcp_pre_check_confirmation`.  The protocol number is refused where both its bytes are set. -/
def preCheckConfirmation (req rsp : List UInt8) : Except Errno Unit :=
  if byteAt req 0 ≠ byteAt rsp 0 ∨ byteAt req 1 ≠ byteAt rsp 1 then .error .embBadData
  else if byteAt rsp 2 ≠ 0 ∧ byteAt rsp 3 ≠ 0 then .error .embBadData
  else .ok ()

/-- The number of values a request asks for and the number its confirmation has. -/
def nbValues (function : Nat) (req rsp : List UInt8) : Nat × Nat :=
  let nb := wordAt req (headerLength + 3)
  if function = Fc.readCoils ∨ function = Fc.readDiscreteInputs then
    (nb / 8 + if nb % 8 ≠ 0 then 1 else 0, byteAt rsp (headerLength + 1))
  else if function = Fc.writeAndReadRegisters ∨ function = Fc.readHoldingRegisters ∨
      function = Fc.readInputRegisters then
    (nb, byteAt rsp (headerLength + 1) / 2)
  else if function = Fc.writeMultipleCoils ∨ function = Fc.writeMultipleRegisters then
    (nb, wordAt rsp (headerLength + 3))
  else if function = Fc.reportSlaveId then (byteAt rsp (headerLength + 1), byteAt rsp (headerLength + 1))
  else (1, 1)

/-- `MODBUS_EXCEPTION_MAX`. -/
def exceptionMax : Nat := 12

/-- `check_confirmation`, without error recovery: the number of values, or the error.  `rsp` is the whole
buffer, of which `rspLength` bytes have been received. -/
def checkConfirmation (req rsp : List UInt8) (rspLength : Nat) : Except Errno Nat :=
  let function := byteAt rsp headerLength
  match preCheckConfirmation req rsp with
  | .error errno => .error errno
  | .ok () =>
    if 0x80 ≤ function then
      if rspLength = headerLength + 2 + checksumLength ∧ byteAt req headerLength = function - 0x80 then
        if byteAt rsp (headerLength + 1) < exceptionMax then
          .error (.exception (byteAt rsp (headerLength + 1)))
        else .error .embBadExc
      else .error .embBadExc
    else if computeResponseLengthFromRequest req = some rspLength ∨
        computeResponseLengthFromRequest req = none then
      if function ≠ byteAt req headerLength then .error .embBadData
      else if (nbValues function req rsp).1 = (nbValues function req rsp).2 then
        .ok (nbValues function req rsp).2
      else .error .embBadData
    else .error .embBadData

/-- What a call returns: its result and the values in its caller's array. -/
structure Answer where
  rc : Int
  dest : List Nat
  deriving DecidableEq, Repr

/-- The values taken out of the buffer `rsp` when the check has found `rc` of them. -/
def Decode.answer (rsp : List UInt8) (rc : Nat) : Decode → Answer
  | .count => ⟨rc, []⟩
  | .bits nb =>
      ⟨nb, (List.range (min (8 * rc) nb.toNat)).map fun pos =>
        if (byteAt rsp (headerLength + 2 + pos / 8)).testBit (pos % 8) then 1 else 0⟩
  | .registers => ⟨rc, (List.range rc).map fun i => wordAt rsp (headerLength + 2 + 2 * i)⟩
  | .slaveId maxDest =>
      ⟨rc, (List.range (min rc maxDest.toNat)).map fun i => byteAt rsp (headerLength + 2 + i)⟩

/-- What a call makes of a reply. -/
def Plan.finish (plan : Plan) (req rsp : List UInt8) (rspLength : Nat) : Except Errno Answer :=
  match checkConfirmation req rsp rspLength with
  | .error errno => .error errno
  | .ok rc => .ok (plan.decode.answer rsp rc)

/-! ## The bytes of a request -/

/-- Two bytes in a row hold an `int` up to `2 ^ 16`. -/
theorem word_of_bytes (v : Int) : 256 * (byte (v / 256)).toNat + (byte v).toNat = (v % 65536).toNat := by
  rw [toNat_byte, toNat_byte]
  omega

/-- The transaction number of a request. -/
def tIdBytes (tId : UInt16) : List UInt8 := [byte (tId.toNat / 256), byte tId.toNat]

/-- What a request has behind its function code. -/
def Plan.body (plan : Plan) : List UInt8 :=
  [byte (plan.addr / 256), byte plan.addr, byte (plan.nb / 256), byte plan.nb].take (4 - plan.cut) ++
    plan.payload

/-- A request byte by byte. -/
theorem Plan.request_eq (plan : Plan) (ctx : Ctx) (cut : plan.cut ≤ 4) :
    (plan.request ctx).2 = tIdBytes ctx.nextTId ++
      [0, 0, byte ((plan.body.length + 2 : Int) / 256), byte (plan.body.length + 2),
        byte ctx.slave, byte plan.function] ++ plan.body := by
  have takes : ∀ (a b c d e f g h : UInt8) (tail : List UInt8),
      (a :: b :: c :: d :: e :: f :: g :: h :: tail).take (12 - plan.cut) =
        a :: b :: c :: d :: e :: f :: g :: h :: tail.take (4 - plan.cut) := by
    intro a b c d e f g h tail
    rw [show 12 - plan.cut = 4 - plan.cut + 8 by omega]
    rfl
  have length : ((plan.body.length + 8 : Nat) : Int) - 6 = plan.body.length + 2 := by omega
  rw [← length]
  simp only [Plan.request, buildRequestBasis, List.length_cons, List.length_nil, Nat.reduceAdd, takes]
  rfl

theorem Plan.request_function (plan : Plan) (ctx : Ctx) (cut : plan.cut ≤ 4) :
    byteAt (plan.request ctx).2 headerLength = plan.function % 256 := by
  rw [plan.request_eq ctx cut]
  show (byte plan.function).toNat = _
  rw [toNat_byte]
  omega

theorem Plan.request_nb (plan : Plan) (ctx : Ctx) (cut : plan.cut = 0) :
    wordAt (plan.request ctx).2 (headerLength + 3) = (plan.nb % 65536).toNat := by
  rw [plan.request_eq ctx (by omega), Plan.body, cut]
  exact word_of_bytes plan.nb

/-- The message of a request is as long as its body says. -/
theorem Plan.request_length (plan : Plan) (ctx : Ctx) (cut : plan.cut ≤ 4) :
    (plan.request ctx).2.length = headerLength + 1 + plan.body.length := by
  rw [plan.request_eq ctx cut, List.length_append]
  rfl

/-! ## The request is a message -/

/-- The caller's counts are not negative. -/
def Call.Counted : Call → Prop
  | .readBits _ nb | .readInputBits _ nb | .readRegisters _ nb | .readInputRegisters _ nb
  | .writeBits _ nb _ | .writeRegisters _ nb _ => 0 ≤ nb
  | .writeAndReadRegisters _ writeNb _ _ readNb => 0 ≤ writeNb ∧ 0 ≤ readNb
  | _ => True

instance (call : Call) : Decidable call.Counted := by
  cases call <;> unfold Call.Counted <;> infer_instance

theorem Plan.limit_refused {nb limit : Int} {plan : Plan} :
    (Plan.limit nb limit plan).refused = none ↔ nb ≤ limit ∧ plan.refused = none := by
  unfold Plan.limit
  split_ifs with beyond
  · simp [Int.not_le.2 beyond]
  · simp [Int.not_lt.1 beyond]

@[simp] theorem Plan.limit_request (nb limit : Int) (plan : Plan) :
    (Plan.limit nb limit plan).request = plan.request := by
  unfold Plan.limit
  split_ifs <;> rfl

@[simp] theorem Plan.limit_decode (nb limit : Int) (plan : Plan) :
    (Plan.limit nb limit plan).decode = plan.decode := by
  unfold Plan.limit
  split_ifs <;> rfl

@[simp] theorem Plan.limit_nb (nb limit : Int) (plan : Plan) :
    (Plan.limit nb limit plan).nb = plan.nb := by
  unfold Plan.limit
  split_ifs <;> rfl

theorem length_registerBytes (nb : Int) (src : Nat → UInt16) :
    (registerBytes nb src).length = 2 * nb.toNat := by
  rw [registerBytes, List.length_flatMap]
  simp [Nat.mul_comm]

theorem Plan.request_body (plan : Plan) (ctx : Ctx) (cut : plan.cut ≤ 4) (i : Nat) :
    byteAt (plan.request ctx).2 (headerLength + 1 + i) = byteAt plan.body i := by
  rw [plan.request_eq ctx cut, Nat.add_comm]
  rfl

theorem Plan.length_body (plan : Plan) : plan.body.length = 4 - plan.cut + plan.payload.length := by
  rw [Plan.body, List.length_append, List.length_take]
  simp only [List.length_cons, List.length_nil]
  omega

/-- A request is whole where it is as long as the function code and the request itself tell. -/
theorem isMessage_of_plan {r : Option Errno} {f : Nat} {a n : Int} {c : Nat} {p : List UInt8} {d : Decode}
    (ctx : Ctx) (cut : c ≤ 4) (code : f < 256)
    (length : 4 - c + p.length = computeMetaLengthAfterFunction f .indication +
      if f = Fc.writeMultipleCoils ∨ f = Fc.writeMultipleRegisters then
        byteAt (Plan.body ⟨r, f, a, n, c, p, d⟩) 4
      else if f = Fc.writeAndReadRegisters then byteAt (Plan.body ⟨r, f, a, n, c, p, d⟩) 8 else 0)
    (fits : 4 - c + p.length ≤ 252) :
    IsMessage .indication (Plan.request ⟨r, f, a, n, c, p, d⟩ ctx).2 := by
  generalize plan_eq : Plan.mk r f a n c p d = plan at length ⊢
  have cut' : plan.cut ≤ 4 := by
    rw [← plan_eq]
    exact cut
  have function : byteAt (plan.request ctx).2 headerLength = f := by
    rw [plan.request_function ctx cut', ← plan_eq]
    exact Nat.mod_eq_of_lt code
  have total : (plan.request ctx).2.length = headerLength + 1 + (4 - c + p.length) := by
    rw [plan.request_length ctx cut', plan.length_body, ← plan_eq]
  refine ⟨?_, ?_⟩
  · rw [total, length]
    simp only [dataStart, computeDataLengthAfterMeta, function, checksumLength,
      ← plan.request_body ctx cut']
    exact (Nat.add_assoc _ _ _).symm
  · rw [total]
    exact Nat.add_le_add_left fits _

/-- The bytes `nb` bits take are as many as their count says. -/
theorem byteCount_bounds {nb : Int} (counted : 0 ≤ nb) (limited : nb ≤ maxWriteBits) :
    0 ≤ byteCount nb ∧ byteCount nb ≤ 246 := by
  have limited' : nb ≤ 1968 := limited
  rw [byteCount, Int.tdiv_eq_ediv_of_nonneg counted, Int.tmod_eq_emod_of_nonneg counted]
  split_ifs <;> omega

/-- **The request of a call is one whole message** to a server of the library. -/
theorem Call.isMessage_request (call : Call) (ctx : Ctx) (counted : call.Counted)
    (accepted : call.plan.refused = none) : IsMessage .indication (call.plan.request ctx).2 := by
  cases call with
  | readBits addr nb | readInputBits addr nb | readRegisters addr nb | readInputRegisters addr nb =>
      simp only [plan, modbusReadBits, modbusReadInputBits, modbusReadRegisters, modbusReadInputRegisters,
        readIoStatus, LibModbus.readRegisters, Plan.limit_request]
      exact isMessage_of_plan ctx (by decide) (by decide) rfl (by decide)
  | writeBit addr status => exact isMessage_of_plan ctx (by decide) (by decide) rfl (by decide)
  | writeRegister addr value => exact isMessage_of_plan ctx (by decide) (by decide) rfl (by decide)
  | writeBits addr nb src =>
      obtain ⟨limited, -⟩ := Plan.limit_refused.1 accepted
      obtain ⟨pos, few⟩ := byteCount_bounds counted limited
      have length : (byte (byteCount nb)).toNat = (byteCount nb).toNat := by
        rw [toNat_byte]
        omega
      simp only [plan, modbusWriteBits, Plan.limit_request]
      refine isMessage_of_plan ctx (by decide) (by decide) ?_ ?_
      · show _ = 5 + (byte (byteCount nb)).toNat
        rw [length]
        simp
        omega
      · simp
        omega
  | writeRegisters addr nb src =>
      obtain ⟨limited, -⟩ := Plan.limit_refused.1 accepted
      have limited' : nb ≤ 123 := limited
      have counted' : 0 ≤ nb := counted
      have length : (byte (nb * 2)).toNat = 2 * nb.toNat := by
        rw [toNat_byte]
        omega
      simp only [plan, modbusWriteRegisters, Plan.limit_request]
      refine isMessage_of_plan ctx (by decide) (by decide) ?_ ?_
      · show _ = 5 + (byte (nb * 2)).toNat
        rw [length, List.length_cons, length_registerBytes]
        omega
      · rw [List.length_cons, length_registerBytes]
        omega
  | maskWriteRegister addr andMask orMask =>
      exact isMessage_of_plan ctx (by decide) (by decide) rfl (of_decide_eq_true rfl)
  | writeAndReadRegisters writeAddr writeNb src readAddr readNb =>
      obtain ⟨limited, -⟩ := Plan.limit_refused.1 accepted
      have limited' : writeNb ≤ 121 := limited
      have counted' : 0 ≤ writeNb := counted.1
      have length : (byte (writeNb * 2)).toNat = 2 * writeNb.toNat := by
        rw [toNat_byte]
        omega
      simp only [plan, modbusWriteAndReadRegisters, Plan.limit_request]
      refine isMessage_of_plan ctx (by decide) (by decide) ?_ ?_
      · show _ = 9 + (byte (writeNb * 2)).toNat
        rw [length, List.length_append, length_registerBytes]
        simp only [List.length_cons, List.length_nil]
        omega
      · rw [List.length_append, length_registerBytes]
        simp only [List.length_cons, List.length_nil]
        omega
  | reportSlaveId maxDest => exact isMessage_of_plan ctx (by decide) (by decide) rfl (by decide)

/-! ## What a call makes of a reply -/

/-- A confirmation has at least one byte behind its function code. -/
theorem length_of_confirmation {rsp : List UInt8} (reply : IsMessage .confirmation rsp) :
    headerLength + 2 ≤ rsp.length := by
  rw [reply.1, dataStart]
  have : 1 ≤ computeMetaLengthAfterFunction (byteAt rsp headerLength) .confirmation := by
    simp only [computeMetaLengthAfterFunction]
    split_ifs <;> omega
  omega

/-- The confirmations that carry values are as long as their count says. -/
theorem length_of_counted {rsp : List UInt8} (reply : IsMessage .confirmation rsp)
    (counted : byteAt rsp headerLength ≤ Fc.readInputRegisters ∨ byteAt rsp headerLength = Fc.reportSlaveId ∨
      byteAt rsp headerLength = Fc.writeAndReadRegisters) :
    rsp.length = headerLength + 2 + byteAt rsp (headerLength + 1) := by
  have single : computeMetaLengthAfterFunction (byteAt rsp headerLength) .confirmation = 1 := by
    simp only [computeMetaLengthAfterFunction]
    simp only [Fc.readInputRegisters, Fc.reportSlaveId, Fc.writeAndReadRegisters] at counted
    rw [if_neg, if_neg]
    · rw [Fc.maskWriteRegister]
      omega
    · rw [Fc.writeSingleCoil, Fc.writeSingleRegister, Fc.writeMultipleCoils, Fc.writeMultipleRegisters]
      omega
  rw [reply.1, dataStart, single, computeDataLengthAfterMeta, if_pos counted]
  rfl

theorem nbValues_append {rsp : List UInt8} (req stale : List UInt8) (reply : IsMessage .confirmation rsp) :
    nbValues (byteAt rsp headerLength) req (rsp ++ stale) = nbValues (byteAt rsp headerLength) req rsp := by
  have count := byteAt_append_left (i := headerLength + 1) stale (length_of_confirmation reply)
  by_cases many : byteAt rsp headerLength = Fc.writeMultipleCoils ∨
      byteAt rsp headerLength = Fc.writeMultipleRegisters
  · -- the confirmation of several values written has their number at its end
    have long : headerLength + 3 + 1 < rsp.length := by
      have four : computeMetaLengthAfterFunction (byteAt rsp headerLength) .confirmation = 4 := by
        rw [computeMetaLengthAfterFunction, if_pos (.inr (.inr many))]
      rw [reply.1, dataStart, four]
      omega
    simp only [nbValues, count, wordAt_append_left stale long]
  · simp only [nbValues, count, if_neg many]

/-- The check reads none of the buffer behind the bytes received. -/
theorem checkConfirmation_append {rsp : List UInt8} (req stale : List UInt8) (n : Nat)
    (reply : IsMessage .confirmation rsp) :
    checkConfirmation req (rsp ++ stale) n = checkConfirmation req rsp n := by
  have long : 9 ≤ rsp.length := length_of_confirmation reply
  have at_front : ∀ i, i < 9 → byteAt (rsp ++ stale) i = byteAt rsp i := fun i front =>
    byteAt_append_left stale (Nat.lt_of_lt_of_le front long)
  have function := at_front headerLength (by decide)
  have code := at_front (headerLength + 1) (by decide)
  simp only [checkConfirmation, preCheckConfirmation, at_front 0 (by decide), at_front 1 (by decide),
    at_front 2 (by decide), at_front 3 (by decide), function, code, nbValues_append req stale reply]

theorem preCheckConfirmation_eq_ok {req rsp : List UInt8} :
    preCheckConfirmation req rsp = .ok () ↔
      byteAt rsp 0 = byteAt req 0 ∧ byteAt rsp 1 = byteAt req 1 ∧ (byteAt rsp 2 = 0 ∨ byteAt rsp 3 = 0) := by
  unfold preCheckConfirmation
  split_ifs <;> simp only [false_iff, true_iff] <;> omega

/-- What a confirmation that passes the check is. -/
theorem checkConfirmation_eq_ok {req rsp : List UInt8} {n rc : Nat} :
    checkConfirmation req rsp n = .ok rc ↔
      preCheckConfirmation req rsp = .ok () ∧ byteAt rsp headerLength < 0x80 ∧
      (computeResponseLengthFromRequest req = some n ∨ computeResponseLengthFromRequest req = none) ∧
      byteAt rsp headerLength = byteAt req headerLength ∧
      (nbValues (byteAt rsp headerLength) req rsp).1 = (nbValues (byteAt rsp headerLength) req rsp).2 ∧
      (nbValues (byteAt rsp headerLength) req rsp).2 = rc := by
  unfold checkConfirmation
  cases preCheckConfirmation req rsp with
  | error errno => simp
  | ok _ =>
      dsimp only
      by_cases exception : 0x80 ≤ byteAt rsp headerLength
      · rw [if_pos exception]
        split_ifs <;> simp [Nat.not_lt.2 exception]
      · rw [if_neg exception]
        split_ifs <;> simp_all

/-- A function takes out of its confirmation what its function code puts there. -/
def Plan.Coherent (plan : Plan) : Prop :=
  plan.cut ≤ 4 ∧ plan.function < 256 ∧
    match plan.decode with
    | .count => True
    | .bits nb => (plan.function = Fc.readCoils ∨ plan.function = Fc.readDiscreteInputs) ∧
        plan.cut = 0 ∧ plan.nb = nb
    | .registers => (plan.function = Fc.writeAndReadRegisters ∨ plan.function = Fc.readHoldingRegisters ∨
        plan.function = Fc.readInputRegisters) ∧ plan.cut = 0
    | .slaveId _ => plan.function = Fc.reportSlaveId

theorem Plan.coherent_limit {nb limit : Int} {plan : Plan} (coherent : plan.Coherent) :
    (Plan.limit nb limit plan).Coherent := by
  unfold Plan.limit
  split_ifs
  · exact coherent
  · exact coherent

theorem Call.coherent (call : Call) : call.plan.Coherent := by
  cases call with
  | readBits addr nb =>
      exact Plan.coherent_limit ⟨Nat.zero_le _, of_decide_eq_true rfl, .inl rfl, rfl, rfl⟩
  | readInputBits addr nb =>
      exact Plan.coherent_limit ⟨Nat.zero_le _, of_decide_eq_true rfl, .inr rfl, rfl, rfl⟩
  | readRegisters addr nb =>
      exact Plan.coherent_limit
        (Plan.coherent_limit ⟨Nat.zero_le _, of_decide_eq_true rfl, .inr (.inl rfl), rfl⟩)
  | readInputRegisters addr nb =>
      exact Plan.coherent_limit
        (Plan.coherent_limit ⟨Nat.zero_le _, of_decide_eq_true rfl, .inr (.inr rfl), rfl⟩)
  | writeBit addr status => exact ⟨Nat.zero_le _, of_decide_eq_true rfl, trivial⟩
  | writeRegister addr value => exact ⟨Nat.zero_le _, of_decide_eq_true rfl, trivial⟩
  | writeBits addr nb src => exact Plan.coherent_limit ⟨Nat.zero_le _, of_decide_eq_true rfl, trivial⟩
  | writeRegisters addr nb src => exact Plan.coherent_limit ⟨Nat.zero_le _, of_decide_eq_true rfl, trivial⟩
  | maskWriteRegister addr andMask orMask => exact ⟨of_decide_eq_true rfl, of_decide_eq_true rfl, trivial⟩
  | writeAndReadRegisters writeAddr writeNb src readAddr readNb =>
      exact Plan.coherent_limit (Plan.coherent_limit ⟨Nat.zero_le _, of_decide_eq_true rfl, .inl rfl, rfl⟩)
  | reportSlaveId maxDest => exact ⟨of_decide_eq_true rfl, of_decide_eq_true rfl, rfl⟩

/-- The reply of a call that passes the check, by what the call takes out of it. -/
theorem reply_of_passed {plan : Plan} {ctx : Ctx} {rsp : List UInt8} {rc : Nat} (coherent : plan.Coherent)
    (reply : IsMessage .confirmation rsp)
    (passed : checkConfirmation (plan.request ctx).2 rsp rsp.length = .ok rc) :
    match plan.decode with
    | .count => True
    | .bits nb => rsp.length = headerLength + 2 + rc ∧
        rc = (nb % 65536).toNat / 8 + if (nb % 65536).toNat % 8 ≠ 0 then 1 else 0
    | .registers => headerLength + 2 + 2 * rc ≤ rsp.length ∧ rc = (plan.nb % 65536).toNat
    | .slaveId _ => rsp.length = headerLength + 2 + rc := by
  obtain ⟨-, -, -, function, same, count⟩ := checkConfirmation_eq_ok.1 passed
  obtain ⟨cut, code, fits⟩ := coherent
  rw [plan.request_function ctx cut, Nat.mod_eq_of_lt code] at function
  rw [function] at same count
  revert fits
  cases plan.decode with
  | count => exact fun _ => trivial
  | bits nb =>
      rintro ⟨reads, whole, rfl⟩
      have length := length_of_counted reply (.inl (by
        rw [function]
        rcases reads with reads | reads <;> rw [reads] <;> decide))
      rw [nbValues, if_pos reads, plan.request_nb ctx whole] at same count
      exact ⟨by rw [length, ← count], by rw [← count, ← same]⟩
  | registers =>
      rintro ⟨reads, whole⟩
      have length := length_of_counted reply (by
        rw [function]
        rcases reads with reads | reads | reads <;> rw [reads] <;> decide)
      have plain : ¬ (plan.function = Fc.readCoils ∨ plan.function = Fc.readDiscreteInputs) := by
        rcases reads with reads | reads | reads <;> rw [reads] <;> decide
      rw [nbValues, if_neg plain, if_pos reads, plan.request_nb ctx whole] at same count
      dsimp only at same count
      exact ⟨by omega, by omega⟩
  | slaveId maxDest =>
      intro reports
      have length := length_of_counted reply (.inr (.inl (function.trans reports)))
      rw [nbValues, reports] at count
      exact length.trans (congrArg _ count)

/-- What is taken out of a reply lies inside the bytes received. -/
theorem Plan.finish_append {plan : Plan} (ctx : Ctx) {rsp : List UInt8} (stale : List UInt8)
    (coherent : plan.Coherent) (reply : IsMessage .confirmation rsp) :
    plan.finish (plan.request ctx).2 (rsp ++ stale) rsp.length =
      plan.finish (plan.request ctx).2 rsp rsp.length := by
  rw [Plan.finish, Plan.finish, checkConfirmation_append _ stale _ reply]
  cases passed : checkConfirmation (plan.request ctx).2 rsp rsp.length with
  | error errno => rfl
  | ok rc =>
      have inside := reply_of_passed coherent reply passed
      dsimp only
      congr 1
      revert inside
      cases plan.decode with
      | count => exact fun _ => rfl
      | bits nb =>
          rintro ⟨length, -⟩
          simp only [Decode.answer, Answer.mk.injEq, true_and]
          apply List.map_congr_left
          intro pos here
          rw [List.mem_range] at here
          rw [byteAt_append_left stale (by omega)]
      | registers =>
          rintro ⟨length, -⟩
          simp only [Decode.answer, Answer.mk.injEq, true_and]
          apply List.map_congr_left
          intro i here
          rw [List.mem_range] at here
          rw [wordAt_append_left stale (by omega)]
      | slaveId maxDest =>
          intro length
          simp only [Decode.answer, Answer.mk.injEq, true_and]
          apply List.map_congr_left
          intro i here
          rw [List.mem_range] at here
          rw [byteAt_append_left stale (by omega)]

/-- How many values a call that succeeds delivers. -/
theorem Plan.length_dest {plan : Plan} {ctx : Ctx} {rsp : List UInt8} {answer : Answer}
    (coherent : plan.Coherent) (reply : IsMessage .confirmation rsp)
    (finished : plan.finish (plan.request ctx).2 rsp rsp.length = .ok answer) :
    match plan.decode with
    | .count => answer.dest.length = 0
    | .bits nb => 0 ≤ nb → nb < 65536 → answer.dest.length = nb.toNat
    | .registers => 0 ≤ plan.nb → plan.nb < 65536 → answer.dest.length = plan.nb.toNat
    | .slaveId maxDest => answer.dest.length ≤ maxDest.toNat := by
  rw [Plan.finish] at finished
  cases passed : checkConfirmation (plan.request ctx).2 rsp rsp.length with
  | error errno =>
      rw [passed] at finished
      cases finished
  | ok rc =>
      rw [passed] at finished
      dsimp only at finished
      have inside := reply_of_passed coherent reply passed
      cases finished
      revert inside
      cases plan.decode with
      | count => exact fun _ => rfl
      | bits nb =>
          rintro ⟨-, count⟩ counted limited
          rw [Decode.answer, List.length_map, List.length_range, count]
          split_ifs <;> omega
      | registers =>
          rintro ⟨-, count⟩ counted limited
          rw [Decode.answer, List.length_map, List.length_range, count]
          omega
      | slaveId maxDest =>
          intro _
          rw [Decode.answer, List.length_map, List.length_range]
          exact Nat.min_le_right _ _

/-- The size of the array a caller hands in for the values. -/
def Call.room : Call → Nat
  | .readBits _ nb | .readInputBits _ nb | .readRegisters _ nb | .readInputRegisters _ nb => nb.toNat
  | .writeAndReadRegisters _ _ _ _ readNb => readNb.toNat
  | .reportSlaveId maxDest => maxDest.toNat
  | _ => 0

/-- **Replies.**  For a call whose counts are not negative, whatever message a peer answers: what it returns
depends on the bytes received and not on what its buffer held behind them, and the values of a call that
succeeds fit into its caller's array, which a read fills. -/
theorem Call.answer_of_reply (call : Call) (ctx : Ctx) {rsp : List UInt8} (stale : List UInt8)
    (counted : call.Counted) (accepted : call.plan.refused = none)
    (reply : IsMessage .confirmation rsp) :
    call.plan.finish (call.plan.request ctx).2 (rsp ++ stale) rsp.length =
        call.plan.finish (call.plan.request ctx).2 rsp rsp.length ∧
      ∀ answer, call.plan.finish (call.plan.request ctx).2 rsp rsp.length = .ok answer →
        answer.dest.length ≤ call.room ∧
          ((∀ maxDest, call ≠ .reportSlaveId maxDest) → answer.dest.length = call.room) := by
  refine ⟨Plan.finish_append ctx stale call.coherent reply, fun answer finished => ?_⟩
  have length := Plan.length_dest call.coherent reply finished
  cases call with
  | readBits addr nb | readInputBits addr nb =>
      have limited : nb ≤ 2000 := (Plan.limit_refused.1 accepted).1
      simp only [plan, modbusReadBits, modbusReadInputBits, readIoStatus, Plan.limit_decode] at length
      have fills := length counted (by omega)
      exact ⟨Nat.le_of_eq fills, fun _ => fills⟩
  | readRegisters addr nb | readInputRegisters addr nb =>
      have limited : nb ≤ 125 := (Plan.limit_refused.1 accepted).1
      simp only [plan, modbusReadRegisters, modbusReadInputRegisters, LibModbus.readRegisters,
        Plan.limit_decode, Plan.limit_nb] at length
      have fills := length counted (by omega)
      exact ⟨Nat.le_of_eq fills, fun _ => fills⟩
  | writeAndReadRegisters writeAddr writeNb src readAddr readNb =>
      have limited : readNb ≤ 125 := (Plan.limit_refused.1 (Plan.limit_refused.1 accepted).2).1
      simp only [plan, modbusWriteAndReadRegisters, Plan.limit_decode, Plan.limit_nb] at length
      have fills := length counted.2 (by omega)
      exact ⟨Nat.le_of_eq fills, fun _ => fills⟩
  | writeBits addr nb src | writeRegisters addr nb src =>
      simp only [plan, modbusWriteBits, modbusWriteRegisters, Plan.limit_decode] at length
      exact ⟨Nat.le_of_eq length, fun _ => length⟩
  | writeBit addr status | writeRegister addr value | maskWriteRegister addr andMask orMask =>
      exact ⟨Nat.le_of_eq length, fun _ => length⟩
  | reportSlaveId maxDest => exact ⟨length, fun other => absurd rfl (other maxDest)⟩

/-- The reply to a read of two registers. -/
def twoRegisters : List UInt8 := [0, 1, 0, 0, 0, 7, 1, 3, 4, 0, 5, 0, 6]

theorem answer_of_reply_registers :
    (Call.readRegisters 0 2).plan.finish ((Call.readRegisters 0 2).plan.request ⟨1, 0⟩).2
      (twoRegisters ++ [9, 9]) twoRegisters.length = .ok ⟨2, [5, 6]⟩ :=
  ((Call.readRegisters 0 2).answer_of_reply ⟨1, 0⟩ [9, 9] (by decide) rfl (by decide +kernel)).1.trans
    (by decide +kernel)

end TizerVision.LibModbus
