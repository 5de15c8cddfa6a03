/-
# Modbus.ReadBack — reading registers and coils from a slave that answers correctly

The slave sends its address, the function, the number of data bytes, the data and the checksum.
`ReadResponseRTU` gives up when more bytes are in than are still to come, although nothing is wrong:
a response of six or seven bytes with its checksum is never accepted.  A read delivers the slave's
values exactly when its response is longer (`delivers_iff_longEnough`): from 2 registers or 17 coils
on.
-/
import TizerVision.Modbus.Footprint
import TizerVision.Modbus.Reception

namespace TizerVision.Modbus

set_option autoImplicit false

open Theory

/-! ## The response of the slave -/

def withChecksum (message : List BYTE) : List BYTE :=
  message ++ [lobyte (crc16Modbus message), hibyte (crc16Modbus message)]

/-- The standard response to a read: address, function, byte count, data, checksum. -/
def response (nAddr : WORD) (function : BYTE) (data : List BYTE) : List BYTE :=
  withChecksum ([lobyte nAddr, function, BitVec.ofNat 8 data.length] ++ data)

/-- Register `k` of the data, high byte first. -/
def registerAt (data : List BYTE) (k : Nat) : WORD := data.getD (2 * k) 0 ++ data.getD (2 * k + 1) 0

/-- Coil `k` of the data: bit `k % 8` of byte `k / 8`. -/
def coilAt (data : List BYTE) (k : Nat) : Bool := (data.getD (k / 8) 0).getLsbD (k % 8)

/-- The port takes the query and delivers all of a response. -/
def Exchange.Delivers (e : Exchange) (bytes : List BYTE) : Prop :=
  e.writeQuery = true ∧ e.firstRead = some (bytes.take initialRead) ∧
    e.secondRead = some (bytes.drop initialRead)

/-- The port is open in RTU mode, and whenever it is used from now on, it delivers the response. -/
def Object.Serves (s : Object) (bytes : List BYTE) : Prop :=
  s.opened = true ∧ s.mode = .rtu ∧ ∀ n, s.exchanges ≤ n → (s.port n).Delivers bytes

theorem crcValid_withChecksum (message : List BYTE) :
    CrcValid (zeroPadded (withChecksum message)) message.length := by
  have whole : (withChecksum message).take message.length = message := by
    simp [withChecksum]
  rw [CrcValid, map_zeroPadded (by simp [withChecksum]), whole]
  simp [zeroPadded, withChecksum]

theorem crcValid_response (nAddr : WORD) (function : BYTE) (data : List BYTE) :
    CrcValid (zeroPadded (response nAddr function data)) (3 + data.length) := by
  have framed := crcValid_withChecksum
    ([lobyte nAddr, function, BitVec.ofNat 8 data.length] ++ data)
  rwa [List.length_append] at framed

theorem length_response (nAddr : WORD) (function : BYTE) (data : List BYTE) :
    (response nAddr function data).length = 3 + data.length + 2 := by
  simp [response, withChecksum]
  omega

theorem response_data (nAddr : WORD) (function : BYTE) (data : List BYTE) {j : Nat}
    (inside : j < data.length) :
    zeroPadded (response nAddr function data) (3 + j) = data.getD j 0 := by
  have behind : ([lobyte nAddr, function, BitVec.ofNat 8 data.length] ++ data)[3 + j]? =
      data[j]? := by
    rw [List.getElem?_append_right (by simp)]
    simp
  have checked : 3 + j < ([lobyte nAddr, function, BitVec.ofNat 8 data.length] ++ data).length := by
    simp
    omega
  unfold zeroPadded response withChecksum
  rw [List.getD_eq_getElem?_getD, List.getElem?_append_left checked, behind,
    List.getD_eq_getElem?_getD]

/-- Of a response delivered completely, all is received if at least as much is still to come after
the first four bytes, and nothing otherwise. -/
theorem received_of_delivers {e : Exchange} {bytes : List BYTE} {lr : Nat} (long : 4 ≤ lr)
    (small : lr + 2 < 2 ^ 32) (length : bytes.length = lr + 2) (delivers : e.Delivers bytes) :
    e.received (lr + 2) = if 6 ≤ lr then some bytes else none := by
  obtain ⟨-, first, second⟩ := delivers
  have rest := restToRead_add_two long small
  have four : (bytes.take initialRead).length = initialRead := by
    rw [List.length_take, length]
    unfold initialRead
    omega
  rw [Exchange.received, first, second, rest, Option.bind_some, List.take_take, Nat.min_self,
    if_pos four]
  by_cases enough : 6 ≤ lr
  · have all : (bytes.drop initialRead).take (lr - 2) = bytes.drop initialRead := by
      apply List.take_of_length_le
      rw [List.length_drop, length]
      unfold initialRead
      omega
    rw [if_neg (by unfold initialRead; omega), if_pos enough, Option.map_some, all,
      List.take_append_drop]
  · rw [if_pos (by unfold initialRead; omega), if_neg enough]

/-! ## One exchange -/

variable {nAddr : WORD} {function : BYTE} {data : List BYTE} {lr : Nat}

/-- An exchange with a slave that answers correctly succeeds when the response is long enough. -/
theorem wp_txRxMessage_serves {s : Object} (serves : s.Serves (response nAddr function data))
    (length : lr = 3 + data.length) (some_data : 1 ≤ data.length) (few : data.length ≤ 250)
    (plain : ¬ function > 0x80) :
    wp (txRxMessage 6 lr) (fun code t => (code = ERR_OK ↔ 6 ≤ lr) ∧
      (code = ERR_OK → ∀ i < lr,
        t.cell .abyReply i = zeroPadded (response nAddr function data) i)) (fun _ _ => False) s := by
  obtain ⟨opened, rtu, delivers⟩ := serves
  have here := delivers s.exchanges (Nat.le_refl _)
  have received : (s.port s.exchanges).received (lr + 2) =
      if 6 ≤ lr then some (response nAddr function data) else none :=
    received_of_delivers (by omega) (by omega) (by rw [length_response, length]) here
  have accepted_iff : (∃ bytes, (s.port s.exchanges).Accepted lr bytes) ↔ 6 ≤ lr := by
    constructor
    · rintro ⟨bytes, delivered, -⟩
      rw [received] at delivered
      split at delivered
      · assumption
      · cases delivered
    · intro enough
      refine ⟨response nAddr function data, ?_, ?_, plain, ?_⟩
      · rw [received, if_pos enough]
      · simp [response, withChecksum]
      · rw [length]
        exact crcValid_response nAddr function data
  apply wp_imp (wp_txRxMessage 6 (by omega) rtu)
  rintro code t ⟨ok_iff, copied⟩
  rw [accepted_iff] at ok_iff
  refine ⟨ok_iff.trans ⟨And.right, fun enough => ⟨⟨opened, here.1⟩, enough⟩⟩,
    fun ok i below => ?_⟩
  apply copied ok _ _ i below
  rw [received, if_pos (ok_iff.1 ok).2]

/-- The query asks for `function` at `nAddr`, and the slave answers it. -/
def Object.Asked (s : Object) (nAddr : WORD) (function : BYTE) (data : List BYTE) : Prop :=
  s.Serves (response nAddr function data) ∧ s.cell .abyQuery 0 = lobyte nAddr ∧
    s.cell .abyQuery 1 = function

theorem closed_asked (lr : Nat) :
    ClosedExchange 6 lr fun s => s.Asked nAddr function data where
  touch _ asked := asked
  touchBlock _ asked := asked
  write allowed asked := ⟨asked.1, (query_write allowed (by omega)).trans asked.2.1,
    (query_write allowed (by omega)).trans asked.2.2⟩
  writeBlock allowed asked := ⟨asked.1, (query_writeBlock allowed (by omega)).trans asked.2.1,
    (query_writeBlock allowed (by omega)).trans asked.2.2⟩
  replace other asked := ⟨asked.1, (query_replace other 0).trans asked.2.1,
    (query_replace other 1).trans asked.2.2⟩
  beginExchange asked := ⟨⟨asked.1.1, asked.1.2.1, fun n later =>
    asked.1.2.2 n (Nat.le_of_succ_le later)⟩, asked.2⟩
  send _ asked := asked

/-- One turn of a read that is answered by a long response: the reply is unpacked. -/
theorem wp_readAttempt_long {α : Type} {unpack : α → Call α} {v w : α} {s : Object}
    (asked : s.Asked nAddr function data) (length : lr = 3 + data.length)
    (few : data.length ≤ 250) (plain : ¬ function > 0x80) (enough : 6 ≤ lr)
    (unpacked : ∀ t : Object,
      (∀ j < data.length, t.cell .abyReply (3 + j) = data.getD j 0) →
        wp (unpack v) (fun r _ => r = w) (fun _ _ => False) t) :
    wp (readAttempt txRxMessage lr unpack v) (fun r _ => r.1 = ERR_OK ∧ r.2 = w)
      (fun _ _ => False) s := by
  have exchanged := wp_and (wp_txRxMessage_serves asked.1 length (by omega) few plain)
    (keeps_txRxMessage (closed_asked lr) (by omega) (by omega) s asked)
  rw [readAttempt, wp_bind]
  apply wp_mono exchanged
  · rintro code t ⟨⟨ok_iff, copied⟩, -, addr, fn⟩
    have ok := ok_iff.2 enough
    have reply := copied ok
    have header : t.cell .abyReply 0 = lobyte nAddr ∧ t.cell .abyReply 1 = function :=
      ⟨reply 0 (by omega), reply 1 (by omega)⟩
    have replied : ∀ j < data.length, t.cell .abyReply (3 + j) = data.getD j 0 := by
      intro j inside
      rw [reply (3 + j) (by omega), response_data nAddr function data inside]
    simp only [takeReply, sameHeader, ok, if_true, wp_bind, wp_load, wp_pure,
      Object.touch_cell, header, addr, fn, ne_eq, not_true_eq_false, if_false, decide_true]
    refine wp_imp (unpacked _ ?_) ?_
    · exact replied
    · rintro values u rfl
      exact ⟨rfl, rfl⟩
  · exact fun _ _ raised => raised.1

/-- A turn that is answered by a short response fails, and the next one will be no better. -/
theorem wp_readAttempt_short {α : Type} (unpack : α → Call α) (v : α) {s : Object}
    (asked : s.Asked nAddr function data) (length : lr = 3 + data.length)
    (some_data : 1 ≤ data.length) (plain : ¬ function > 0x80) (short : ¬ 6 ≤ lr) :
    wp (readAttempt txRxMessage lr unpack v) (fun r t => r.1 ≠ ERR_OK ∧
      t.Asked nAddr function data) (fun _ _ => True) s := by
  have exchanged := wp_and (wp_txRxMessage_serves asked.1 length some_data (by omega) plain)
    (keeps_txRxMessage (closed_asked lr) (by omega) (by omega) s asked)
  rw [readAttempt, wp_bind]
  apply wp_mono exchanged
  · rintro code t ⟨⟨ok_iff, -⟩, still⟩
    have failed : code ≠ ERR_OK := fun ok => short (ok_iff.1 ok)
    rw [takeReply, if_neg failed]
    exact ⟨failed, still⟩
  · exact fun _ _ _ => trivial

/-! ## Unpacking -/

/-- The test of a bit in the loops over coils. -/
theorem test_bit (b : BYTE) {i : Nat} (small : i < 8) :
    decide (b &&& (1#8 <<< i) > 0) = b.getLsbD i := by
  have nonzero : BitVec.twoPow 8 i > 0 := by
    rw [gt_iff_lt, BitVec.lt_def, BitVec.toNat_twoPow_of_lt small]
    exact Nat.two_pow_pos i
  rw [← BitVec.twoPow_eq, BitVec.and_twoPow]
  cases set : b.getLsbD i with
  | true => exact decide_eq_true nonzero
  | false => rfl

variable {t : Object}

theorem wp_unpackRegisters {nReplyLength : Int} {q : Nat}
    (count : ((nReplyLength - 2) / 2).toNat = q) (length : data.length = 2 * q)
    (replied : ∀ j < data.length, t.cell .abyReply (3 + j) = data.getD j 0) (regs : Nat → WORD) :
    wp (unpackRegisters nReplyLength regs)
      (fun r _ => r = fun k => if k < q then registerAt data k else regs k) (fun _ _ => False) t := by
  rw [unpackRegisters, count]
  have looped : wp (loop unpackRegister q regs) (fun r u =>
      u.cell = t.cell ∧ r = fun j => if j < q then registerAt data j else regs j)
      (fun _ _ => False) t := by
    refine wp_loop (fun k (r : Nat → WORD) (u : Object) =>
      u.cell = t.cell ∧ r = fun j => if j < k then registerAt data j else regs j) ⟨rfl, by simp⟩ ?_
    rintro k r u below ⟨same, rfl⟩
    have high : t.cell .abyReply (3 + 2 * k) = data.getD (2 * k) 0 := replied (2 * k) (by omega)
    have low : t.cell .abyReply (3 + 2 * k + 1) = data.getD (2 * k + 1) 0 :=
      replied (2 * k + 1) (by omega)
    simp only [unpackRegister, wp_bind, wp_load, wp_pure, Object.touch_cell, same, high, low]
    refine ⟨by funext a i; exact congrFun (congrFun same a) i, ?_⟩
    funext j
    by_cases here : j = k
    · subst here
      simp [registerAt]
    · rw [Function.update_of_ne here]
      simp [show j < k + 1 ↔ j < k by omega]
  exact wp_imp looped fun r u ended => ended.2

theorem wp_unpackStatus {q : Nat} (length : data.length = (q + 7) / 8)
    (replied : ∀ j < data.length, t.cell .abyReply (3 + j) = data.getD j 0) (coils : Nat → BYTE) :
    wp (unpackStatus q coils)
      (fun r _ => r = fun k => if k < q then boolByte (coilAt data k) else coils k)
      (fun _ _ => False) t := by
  have looped : wp (loop unpackCoil q (coils, ⟨0, 3⟩)) (fun v u =>
      u.cell = t.cell ∧ v.2.wrap = ⟨q % 8, 3 + q / 8⟩ ∧
        v.1 = fun j => if j < q then boolByte (coilAt data j) else coils j) (fun _ _ => False) t := by
    refine wp_loop (fun k (v : (Nat → BYTE) × Cursor) (u : Object) =>
      u.cell = t.cell ∧ v.2.wrap = ⟨k % 8, 3 + k / 8⟩ ∧
        v.1 = fun j => if j < k then boolByte (coilAt data j) else coils j) ⟨rfl, rfl, by simp⟩ ?_
    rintro k ⟨r, c⟩ u below ⟨same, place, rfl⟩
    have byte : t.cell .abyReply (3 + k / 8) = data.getD (k / 8) 0 := replied (k / 8) (by omega)
    simp only [unpackCoil, wp_bind, wp_load, wp_pure, same, place, byte,
      test_bit _ (Nat.mod_lt k (by omega))]
    refine ⟨same, ?_, ?_⟩
    · rw [← place]
      exact Cursor.wrap_next place
    · funext j
      by_cases here : j = k
      · subst here
        simp [coilAt]
      · rw [Function.update_of_ne here]
        simp [show j < k + 1 ↔ j < k by omega]
  rw [unpackStatus, wp_bind]
  exact wp_imp looped fun r u ended => ended.2.2

/-! ## Whole reads -/

/-- The read returns `ERR_OK`, and then the first `q` elements of the caller's array are the given
values and the others are as they were. -/
def FillsWith {β : Type} (read : (Nat → β) → Call (WORD × (Nat → β))) (s : Object) (q : Nat)
    (value : Nat → β) : Prop :=
  ∀ array, wp (read array) (fun r _ => r.1 = ERR_OK ∧
    r.2 = fun k => if k < q then value k else array k) (fun _ _ => False) s

/-- A read of a slave that answers correctly fills the array exactly when the response is long. -/
theorem fillsWith_iff {β : Type} {unpack : (Nat → β) → Call (Nat → β)} {value : Nat → β} {q : Nat}
    {nDataStart nQtd : WORD} {s : Object} (serves : s.Serves (response nAddr function data))
    (length : lr = 3 + data.length) (some_data : 1 ≤ data.length) (few : data.length ≤ 250)
    (plain : ¬ function > 0x80)
    (unpacked : ∀ (t : Object) (array : Nat → β),
      (∀ j < data.length, t.cell .abyReply (3 + j) = data.getD j 0) →
        wp (unpack array) (fun r _ => r = fun k => if k < q then value k else array k)
          (fun _ _ => False) t) :
    FillsWith (fun array => fillHeader nAddr function nDataStart nQtd >>= fun _ =>
      exchange (readAttempt txRxMessage lr unpack) array) s q value ↔ 6 ≤ lr := by
  have asked : (s.writeBlock .abyQuery 0 (header nAddr function nDataStart nQtd)).Asked nAddr
      function data := ⟨serves, s.writeBlock_zero _ _ 0, s.writeBlock_zero _ _ 1⟩
  constructor
  · intro fills
    by_contra short
    have failing := wp_exchange_of_failing (a := value) (fun array t still =>
      wp_readAttempt_short unpack array still length some_data plain short) asked
    have filled := fills value
    rw [wp_bind, wp_fillHeader] at filled
    apply not_wp_false
    exact wp_mono (wp_and filled failing) (fun r _ both => both.2 both.1.1)
      fun _ _ raised => raised.1
  · intro enough array
    rw [wp_bind, wp_fillHeader]
    exact wp_exchange_of_ok (wp_readAttempt_long asked length few plain enough fun t replied =>
      unpacked t array replied)

theorem fillsWith_readRegisters_iff {nDataStart nQtd : WORD} {s : Object}
    (allowed : 1 ≤ nQtd.toNat ∧ nQtd.toNat ≤ 125) (content : data.length = 2 * nQtd.toNat)
    (plain : ¬ function > 0x80) (serves : s.Serves (response nAddr function data)) :
    FillsWith (readRegisters txRxMessage function nAddr nDataStart nQtd) s nQtd.toNat
      (registerAt data) ↔ 2 ≤ nQtd.toNat := by
  obtain ⟨-, word, count⟩ := registers_of_le allowed.2
  have length : shortToWord (toShort (3 + 2 * nQtd.toNat)) = 3 + data.length := by
    rw [word, content]
  refine (fillsWith_iff serves length (by omega) (by omega) plain fun t regs replied =>
    wp_unpackRegisters count content replied regs).trans ?_
  rw [word]
  omega

theorem fillsWith_readStatus_iff {nDataStart nQtd : WORD} {s : Object}
    (allowed : 1 ≤ nQtd.toNat ∧ nQtd.toNat ≤ 2000) (content : data.length = (nQtd.toNat + 7) / 8)
    (plain : ¬ function > 0x80) (serves : s.Serves (response nAddr function data)) :
    FillsWith (readStatus txRxMessage function nAddr nDataStart nQtd) s nQtd.toNat
      (fun k => boolByte (coilAt data k)) ↔ 17 ≤ nQtd.toNat := by
  refine (fillsWith_iff serves (by rw [content]) (by omega) (by omega) plain fun t coils replied =>
    wp_unpackStatus content replied coils).trans ?_
  omega

/-- The four read operations. -/
inductive Read where
  | outputRegisters
  | inputRegisters
  | outputStatus
  | inputStatus
deriving DecidableEq, Repr

namespace Read

def functionCode : Read → BYTE
  | outputRegisters => READ_OUTPUT_REGISTERS
  | inputRegisters => READ_INPUT_REGISTERS
  | outputStatus => READ_OUTPUT_STATUS
  | inputStatus => READ_INPUT_STATUS

/-- The largest quantity the protocol allows. -/
def limit : Read → Nat
  | outputRegisters | inputRegisters => 125
  | outputStatus | inputStatus => 2000

/-- The number of data bytes for a quantity. -/
def dataLength (q : Nat) : Read → Nat
  | outputRegisters | inputRegisters => 2 * q
  | outputStatus | inputStatus => (q + 7) / 8

/-- The operation returns `ERR_OK` and the caller's array holds the values of the data. -/
def Delivers (s : Object) (nAddr nDataStart nQtd : WORD) (data : List BYTE) : Read → Prop
  | outputRegisters => FillsWith (readOutputRegisters txRxMessage nAddr nDataStart nQtd) s
      nQtd.toNat (registerAt data)
  | inputRegisters => FillsWith (readInputRegisters txRxMessage nAddr nDataStart nQtd) s
      nQtd.toNat (registerAt data)
  | outputStatus => FillsWith (readOutputStatus txRxMessage nAddr nDataStart nQtd) s
      nQtd.toNat fun k => boolByte (coilAt data k)
  | inputStatus => FillsWith (readInputStatus txRxMessage nAddr nDataStart nQtd) s
      nQtd.toNat fun k => boolByte (coilAt data k)

/-- At least eight bytes come back, checksum included. -/
def LongEnough (q : Nat) : Read → Prop
  | outputRegisters | inputRegisters => 2 ≤ q
  | outputStatus | inputStatus => 17 ≤ q

end Read

/-- **Short responses are never delivered.**  With a slave that answers correctly, a read returns
`ERR_OK` and the slave's values exactly from 2 registers or 17 coils on. -/
theorem delivers_iff_longEnough (read : Read) (s : Object) (nAddr nDataStart nQtd : WORD)
    (data : List BYTE) (allowed : 1 ≤ nQtd.toNat ∧ nQtd.toNat ≤ read.limit)
    (content : data.length = read.dataLength nQtd.toNat)
    (serves : s.Serves (response nAddr read.functionCode data)) :
    read.Delivers s nAddr nDataStart nQtd data ↔ read.LongEnough nQtd.toNat := by
  cases read with
  | outputRegisters | inputRegisters =>
      exact fillsWith_readRegisters_iff allowed content (by decide) serves
  | outputStatus | inputStatus =>
      exact fillsWith_readStatus_iff allowed content (by decide) serves

/-- An object whose port answers every query by the response to a read at address 1. -/
def Object.served (function : BYTE) (data : List BYTE) : Object :=
  .fresh fun _ => .delivering (response 1 function data)

theorem serves_served (function : BYTE) (data : List BYTE) :
    (Object.served function data).Serves (response 1 function data) :=
  ⟨rfl, rfl, fun _ _ => ⟨rfl, rfl, rfl⟩⟩

theorem delivers_iff_longEnough_twoRegisters :
    Read.outputRegisters.Delivers (.served READ_OUTPUT_REGISTERS [0, 7, 1, 2]) 1 100 2
      [0, 7, 1, 2] := by
  rw [delivers_iff_longEnough .outputRegisters _ 1 100 2 [0, 7, 1, 2] (by decide) (by decide)
    (serves_served READ_OUTPUT_REGISTERS [0, 7, 1, 2])]
  show 2 ≤ (2 : WORD).toNat
  decide

/-- The response with the one register 7 is not accepted. -/
theorem one_register_not_delivered :
    ¬ Read.outputRegisters.Delivers (.served READ_OUTPUT_REGISTERS [0, 7]) 1 100 1 [0, 7] := by
  intro delivered
  have long : 2 ≤ (1 : WORD).toNat := (fillsWith_readRegisters_iff (by decide) rfl (by decide)
    (serves_served _ _)).1 delivered
  revert long
  decide

end TizerVision.Modbus
