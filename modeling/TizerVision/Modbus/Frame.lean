/-
# Modbus.Frame — the frames handed to the port, and those of PresetMultipleRegisters decoded

The query is filled by the operation and completed with its checksum by the transport, which keeps
the bytes in front of it: every turn of an operation sends the same frame (`keeps_transmitting`).
`decodePreset` reads a frame by the layout of the protocol; from the frames of
`PresetMultipleRegisters` it gets the caller's values (`preset_frames_decode`).
-/
import TizerVision.Modbus.Bounds
import TizerVision.Modbus.Coils

namespace TizerVision.Modbus

set_option autoImplicit false

open Theory

/-! ## What an exchange does to the query and to the line -/

/-- `t` differs from `s` in the contents of the arrays and the record of accesses only. -/
def Object.SameLine (s t : Object) : Prop := t = { s with cell := t.cell, touched := t.touched }

theorem closed_sameLine (reads writes : Arr → Nat → Prop) (s : Object) :
    ClosedAccess reads writes s.SameLine where
  touch _ same := by
    rw [same]
    rfl
  touchBlock _ same := by
    rw [same]
    rfl
  write _ same := by
    rw [same]
    rfl
  writeBlock _ same := by
    rw [same]
    rfl

/-- Filling the query leaves the line alone. -/
theorem Operation.wp_fill_sameLine (op : Operation) (s : Object) :
    wp op.fill (fun _ => s.SameLine) (fun _ _ => False) s :=
  op.fill_returns.keeps (op.keeps_fill (closed_sameLine _ _ s)) rfl

/-- What follows a fill starts from the state the fill ends in. -/
theorem wp_fill_bind {β : Type} (op : Operation) {rest : Call β} {Q : β → Object → Prop}
    {E : String → Object → Prop} {s : Object}
    (after : s.SameLine (finalState op.fill s) → wp rest Q E (finalState op.fill s)) :
    wp (op.fill >>= fun _ => rest) Q E s := by
  obtain ⟨u, t, ran, same⟩ := (op.wp_fill_sameLine s).exists_ok
  have here : finalState op.fill s = t := by
    rw [finalState, ran]
  rw [here] at after
  rw [wp_bind, wp, ran]
  exact after same

/-- `t` differs from `s` in the record of accesses only. -/
def Object.OnlyRead (s t : Object) : Prop := t = { s with touched := t.touched }

theorem closed_onlyRead (reads : Arr → Nat → Prop) (s : Object) :
    ClosedAccess reads (fun _ _ => False) s.OnlyRead :=
  .of_reads
    (fun _ only => by
      rw [only]
      rfl)
    fun _ only => by
      rw [only]
      rfl

/-- The check of a reply compares the address and the function, and nothing else happens. -/
theorem wp_sameHeader (s : Object) :
    wp sameHeader (fun valid t => (valid = true ↔ s.cell .abyReply 0 = s.cell .abyQuery 0 ∧
      s.cell .abyReply 1 = s.cell .abyQuery 1) ∧ s.OnlyRead t) (fun _ _ => False) s := by
  simp only [sameHeader, wp_bind, wp_load, wp_ite, wp_pure, Object.touch_cell]
  by_cases addr : s.cell .abyReply 0 = s.cell .abyQuery 0
  · rw [if_neg (not_not_intro addr)]
    exact ⟨by simp [addr], rfl⟩
  · rw [if_pos addr]
    exact ⟨by simp [addr], rfl⟩

/-- The check of an echo compares the bytes one by one, and nothing else happens. -/
theorem wp_checkEcho (left iReg : Nat) (s : Object) :
    wp (checkEcho iReg left) (fun code t => (code = if ∀ k < left,
      s.cell .abyReply (iReg + k) = s.cell .abyQuery (iReg + k) then ERR_OK else ERR_INV_RESP) ∧
      s.OnlyRead t) (fun _ _ => False) s := by
  induction left generalizing iReg s with
  | zero => simp [checkEcho, Object.OnlyRead]
  | succ left ih =>
      simp only [checkEcho, wp_bind, wp_load, Object.touch_cell, wp_ite, wp_pure]
      have all : (∀ k < left + 1, s.cell .abyReply (iReg + k) = s.cell .abyQuery (iReg + k)) ↔
          s.cell .abyReply iReg = s.cell .abyQuery iReg ∧
            ∀ k < left, s.cell .abyReply (iReg + 1 + k) = s.cell .abyQuery (iReg + 1 + k) := by
        rw [Nat.forall_lt_succ_left]
        simp only [Nat.add_zero, Nat.add_assoc, Nat.add_comm 1]
      by_cases here : s.cell .abyReply iReg = s.cell .abyQuery iReg
      · rw [if_neg (not_not_intro here)]
        apply wp_imp (ih (iReg + 1) _)
        rintro code t ⟨rfl, only⟩
        simp only [all, here, true_and]
        refine ⟨rfl, ?_⟩
        rw [only]
        rfl
      · rw [if_pos here, if_neg fun every => here (all.1 every).1]
        exact ⟨rfl, rfl⟩

/-- The object once a query of `lq` bytes is sent, its arrays aside. -/
def Object.sending (s : Object) (lq : Nat) : Object :=
  s.beginExchange.send (withChecksum (s.block .abyQuery lq))

/-- What an exchange leaves behind: the query in front of the checksum is as it was, and over an open
port it was sent with its checksum. -/
structure Object.Exchanged (s : Object) (lq : Nat) (t : Object) : Prop where
  query : ∀ i < lq, t.cell .abyQuery i = s.cell .abyQuery i
  line : (if s.opened then s.sending lq else s).SameLine t

variable {lq lr : Nat} {s : Object}

theorem wp_transmit_exchanged (opened : s.opened = true) :
    wp (transmit lq) (fun _ t => s.Exchanged lq t) (fun _ _ => False) s.beginExchange := by
  have frame : (((s.beginExchange.touchBlock .abyQuery lq).write .abyQuery lq
      (hibyte (calcCrcFast (s.block .abyQuery lq)))).write .abyQuery (lq + 1)
      (lobyte (calcCrcFast (s.block .abyQuery lq)))).block .abyQuery (lq + 2) =
        withChecksum (s.block .abyQuery lq) := by
    rw [Object.block_write, Object.block_write, hibyte_calcCrcFast, lobyte_calcCrcFast]
    exact List.append_assoc _ _ _
  simp only [transmit, wp_bind, wp_loadBlock, wp_store, wp_modify]
  refine ⟨fun i below => ?_, ?_⟩
  · simp [show ¬ i = lq + 1 by omega, show ¬ i = lq by omega]
  · rw [if_pos opened, Object.SameLine, Object.sending, ← frame]
    rfl

/-- Taking the response touches the query no more. -/
theorem closed_exchanged (reads : Arr → Nat → Prop) (s : Object) (lq : Nat) :
    ClosedAccess reads (fun a _ => a ≠ .abyQuery) (s.Exchanged lq) where
  touch allowed exchanged :=
    ⟨exchanged.query, (closed_sameLine reads (fun _ _ => True) _).touch allowed exchanged.line⟩
  touchBlock allowed exchanged :=
    ⟨exchanged.query, (closed_sameLine reads (fun _ _ => True) _).touchBlock allowed exchanged.line⟩
  write {t a i v} other exchanged := by
    refine ⟨fun j below => ?_, (closed_sameLine reads (fun _ _ => True) _).write trivial
      exchanged.line⟩
    rw [Object.write_cell, if_neg fun same => other same.1.symm]
    exact exchanged.query j below
  writeBlock {t a i bytes} other exchanged := by
    refine ⟨fun j below => ?_, (closed_sameLine reads (fun _ _ => True) _).writeBlock
      (fun _ _ => trivial) exchanged.line⟩
    rw [Object.writeBlock_cell, if_neg]
    · exact exchanged.query j below
    · rintro ⟨rfl, from_start, inside⟩
      exact other (j - i) (by omega) rfl

/-- **An exchange keeps the query** and sends it, whatever becomes of it. -/
theorem wp_txRxMessage_exchanged (rtu : s.mode = .rtu) (positive : 0 < lr) :
    wp (txRxMessage lq lr) (fun _ => s.Exchanged lq) (fun _ => s.Exchanged lq) s := by
  have covers : Covers (fun _ _ => True) (fun a _ => a ≠ .abyQuery) lr :=
    ⟨fun _ _ => trivial, fun _ _ => trivial, fun _ _ => by decide, fun _ _ => by decide,
      fun _ _ => by decide⟩
  have binary : ¬ s.mode = .ascii := by
    rw [rtu]
    decide
  rw [txRxMessage, lock, if_pos rfl, wp_bind, wp_get]
  -- once the query is sent, nothing that follows writes to it
  by_cases opened : s.opened = true
  · rw [if_pos opened, wp_bind, wp_modify, if_neg binary]
    refine Keeps.wp_bind_left (wp_of_returns (wp_transmit_exchanged opened) fun _ _ => id) fun _ =>
      Keeps.ite (fun _ => ?_) fun _ => .pure _
    exact keeps_receive (closed_exchanged _ s lq) _ covers positive
  · rw [if_neg opened]
    refine ⟨fun _ _ => rfl, ?_⟩
    rw [if_neg opened]
    rfl

/-! ## An operation sends one frame -/

/-- The query is `message`, and all that was sent is `message` with its checksum. -/
structure Object.Transmitting (s : Object) (message : List BYTE) : Prop where
  rtu : s.mode = .rtu
  query : s.block .abyQuery message.length = message
  sent : ∀ frame ∈ s.sent, frame = withChecksum message

theorem closed_transmitting (reads : Arr → Nat → Prop) (message : List BYTE) :
    ClosedAccess reads (fun _ _ => False) fun s => s.Transmitting message :=
  .of_reads (fun _ transmitting => ⟨transmitting.rtu, transmitting.query, transmitting.sent⟩)
    fun _ transmitting => ⟨transmitting.rtu, transmitting.query, transmitting.sent⟩

theorem Object.Exchanged.transmitting {message : List BYTE} {t : Object}
    (exchanged : s.Exchanged message.length t) (transmitting : s.Transmitting message) :
    t.Transmitting message := by
  obtain ⟨query, line⟩ := exchanged
  have kept : t.block .abyQuery message.length = message :=
    (Object.block_congr query).trans transmitting.query
  by_cases opened : s.opened = true
  · rw [if_pos opened] at line
    have mode : t.mode = s.mode := by rw [line]; rfl
    have sent : t.sent = s.sent ++ [withChecksum message] := by
      rw [line]
      show s.sent ++ [withChecksum (s.block .abyQuery message.length)] = _
      rw [transmitting.query]
    refine ⟨mode.trans transmitting.rtu, kept, fun frame member => ?_⟩
    rw [sent] at member
    rcases List.mem_append.1 member with old | new
    · exact transmitting.sent frame old
    · exact List.mem_singleton.1 new
  · rw [if_neg opened] at line
    have mode : t.mode = s.mode := by rw [line]
    have sent : t.sent = s.sent := by rw [line]
    refine ⟨mode.trans transmitting.rtu, kept, ?_⟩
    rw [sent]
    exact transmitting.sent

/-- Every turn of a write sends its message. -/
theorem keeps_transmitting {message : List BYTE} (long : 6 ≤ message.length) :
    Keeps (fun s => s.Transmitting message) (writeExchange txRxMessage message.length) := by
  have attempt : ∀ u, Keeps (fun s => s.Transmitting message)
      (writeAttempt txRxMessage message.length u) := by
    intro u
    refine Keeps.bind (fun s transmitting => ?_)
      (keeps_takeEcho (closed_transmitting (footprint message.length 6) message) long)
    exact wp_mono (wp_txRxMessage_exchanged transmitting.rtu (by decide))
      (fun _ _ exchanged => exchanged.transmitting transmitting)
      fun _ _ exchanged => exchanged.transmitting transmitting
  exact (keeps_exchange attempt ()).bind fun r => .pure r.1

/-! ## The query of PresetMultipleRegisters -/

/-- The bytes of `n` registers, each with its high byte first. -/
def registerBytes (n : Nat) (value : Nat → WORD) : List BYTE :=
  (List.range n).flatMap fun k => [hibyte (value k), lobyte (value k)]

theorem registerBytes_succ (n : Nat) (value : Nat → WORD) :
    registerBytes (n + 1) value =
      registerBytes n value ++ [hibyte (value n)] ++ [lobyte (value n)] := by
  simp [registerBytes, List.range_succ]

@[simp] theorem length_registerBytes (n : Nat) (value : Nat → WORD) :
    (registerBytes n value).length = 2 * n := by
  induction n with
  | zero => rfl
  | succ n ih =>
      rw [registerBytes_succ]
      simp only [List.length_append, List.length_singleton, ih]
      omega

/-- The message of `PresetMultipleRegisters` -/
def presetMessage (nAddr nDataStart nQtd : WORD) (value : Nat → WORD) : List BYTE :=
  header nAddr PRESET_MULTIPLE_REGISTERS nDataStart nQtd ++
    [BitVec.ofNat 8 (2 * nQtd.toNat)] ++ registerBytes nQtd.toNat value

theorem length_presetMessage (nAddr nDataStart nQtd : WORD) (value : Nat → WORD) :
    (presetMessage nAddr nDataStart nQtd value).length = 7 + 2 * nQtd.toNat := by
  simp only [presetMessage, header, List.length_append, length_registerBytes, List.length_cons,
    List.length_nil]

theorem wp_fillRegisters (s : Object) (nAddr nDataStart nQtd : WORD) (value : Nat → WORD) :
    wp (fillRegisters nAddr nDataStart nQtd value) (fun _ t => s.SameLine t ∧
      t.block .abyQuery (7 + 2 * nQtd.toNat) = presetMessage nAddr nDataStart nQtd value)
      (fun _ _ => False) s := by
  rw [fillRegisters, wp_bind, wp_fillHeader, wp_bind, wp_store]
  refine wp_loop (fun k (_ : Unit) t => s.SameLine t ∧ t.block .abyQuery (7 + 2 * k) =
    header nAddr PRESET_MULTIPLE_REGISTERS nDataStart nQtd ++
      [BitVec.ofNat 8 (2 * nQtd.toNat)] ++ registerBytes k value) ⟨rfl, ?_⟩ ?_
  · have six := (s.block_writeBlock .abyQuery
      (header nAddr PRESET_MULTIPLE_REGISTERS nDataStart nQtd))
    rw [Object.block_write]
    show (s.writeBlock .abyQuery 0 _).block .abyQuery 6 ++ _ = _
    rw [show 6 = (header nAddr PRESET_MULTIPLE_REGISTERS nDataStart nQtd).length from rfl, six]
    simp [registerBytes]
  · rintro k _ t - ⟨same, filled⟩
    have closed := closed_sameLine (fun _ _ => True) (fun _ _ => True) s
    simp only [packRegister, wp_bind, wp_store]
    refine ⟨closed.write trivial (closed.write trivial same), ?_⟩
    rw [show 7 + 2 * (k + 1) = 7 + k * 2 + 1 + 1 by omega, Object.block_write, Object.block_write,
      show 7 + k * 2 = 7 + 2 * k by omega, filled, registerBytes_succ]
    simp only [List.append_assoc]

/-! ## The frames of a call -/

/-- The messages a call hands to the port. -/
def Object.messagesOf (s : Object) (call : Call WORD) : List (List BYTE) :=
  (finalState call { s with sent := [] }).sent

section Preset

variable (s : Object) (nAddr nDataStart nQtd : WORD) (value : Nat → WORD)

/-- What the loop of the operation ends in once the query is filled, the operation ends in. -/
theorem after_presetMultipleRegisters (I : Object → Prop) (few : nQtd.toNat ≤ 123)
    (rest : ∀ t, s.SameLine t →
      t.block .abyQuery (7 + 2 * nQtd.toNat) = presetMessage nAddr nDataStart nQtd value →
      wp (writeExchange txRxMessage (7 + 2 * nQtd.toNat)) (fun _ => I) (fun _ => I) t) :
    I (finalState (presetMultipleRegisters txRxMessage nAddr nDataStart nQtd value) s) := by
  apply wp_iff_finalState.1
  rw [presetMultipleRegisters, wp_bind, Nat.mod_eq_of_lt (by omega)]
  apply wp_of_returns (wp_fillRegisters s nAddr nDataStart nQtd value)
  rintro _ t ⟨same, filled⟩
  exact rest t same filled

theorem preset_frame_eq (rtu : s.mode = .rtu) (few : nQtd.toNat ≤ 123) :
    ∀ frame ∈ s.messagesOf (presetMultipleRegisters txRxMessage nAddr nDataStart nQtd value),
      frame = withChecksum (presetMessage nAddr nDataStart nQtd value) := by
  have length := length_presetMessage nAddr nDataStart nQtd value
  refine (after_presetMultipleRegisters { s with sent := [] } nAddr nDataStart nQtd value (fun t =>
    t.Transmitting (presetMessage nAddr nDataStart nQtd value)) few ?_).sent
  intro t same filled
  rw [← length] at filled ⊢
  apply keeps_transmitting (by omega)
  refine ⟨?_, filled, ?_⟩
  · rw [same]
    exact rtu
  · rw [same]
    simp

theorem preset_sends (opened : s.opened = true) (few : nQtd.toNat ≤ 123) :
    s.messagesOf (presetMultipleRegisters txRxMessage nAddr nDataStart nQtd value) ≠ [] := by
  refine after_presetMultipleRegisters { s with sent := [] } nAddr nDataStart nQtd value
    (fun t => t.sent ≠ []) few ?_
  intro t same _
  refine writeExchange_sends ?_ (by omega)
  rw [same]
  exact opened

end Preset

/-! ## Decoding by the layout of the protocol -/

/-- A frame without its checksum, if the checksum is right. -/
def stripChecksum (frame : List BYTE) : Option (List BYTE) :=
  let message := frame.take (frame.length - 2)
  if frame = withChecksum message then some message else none

/-- Words, each with its high byte first. -/
def wordsOf : List BYTE → Option (List WORD)
  | [] => some []
  | [_] => none
  | high :: low :: rest => (wordsOf rest).map ((high ++ low) :: ·)

/-- The fields of a request to preset multiple registers. -/
structure PresetRequest where
  address : BYTE
  start : WORD
  count : WORD
  byteCount : BYTE
  values : List WORD
deriving DecidableEq, Repr

def decodePresetMessage : List BYTE → Option PresetRequest
  | address :: function :: startHigh :: startLow :: countHigh :: countLow :: byteCount :: data =>
      if function = PRESET_MULTIPLE_REGISTERS then
        (wordsOf data).map fun values =>
          ⟨address, startHigh ++ startLow, countHigh ++ countLow, byteCount, values⟩
      else none
  | _ => none

def decodePreset (frame : List BYTE) : Option PresetRequest :=
  (stripChecksum frame).bind decodePresetMessage

@[simp] theorem stripChecksum_withChecksum (message : List BYTE) :
    stripChecksum (withChecksum message) = some message := by
  have whole : (withChecksum message).take ((withChecksum message).length - 2) = message := by
    simp [withChecksum]
  rw [stripChecksum, whole, if_pos rfl]

theorem wordsOf_flatMap (value : Nat → WORD) (ks : List Nat) :
    wordsOf (ks.flatMap fun k => [hibyte (value k), lobyte (value k)]) = some (ks.map value) := by
  induction ks with
  | nil => rfl
  | cons k ks ih =>
      rw [List.flatMap_cons, List.map_cons]
      show (wordsOf (ks.flatMap fun k => [hibyte (value k), lobyte (value k)])).map _ = _
      rw [ih, Option.map_some, hibyte_append_lobyte]

theorem decodePresetMessage_presetMessage (nAddr nDataStart nQtd : WORD) (value : Nat → WORD) :
    decodePresetMessage (presetMessage nAddr nDataStart nQtd value) =
      some ⟨lobyte nAddr, nDataStart, nQtd, BitVec.ofNat 8 (2 * nQtd.toNat),
        (List.range nQtd.toNat).map value⟩ := by
  show (wordsOf (registerBytes nQtd.toNat value)).map _ = _
  rw [registerBytes, wordsOf_flatMap, Option.map_some, hibyte_append_lobyte, hibyte_append_lobyte]

/-! ## The overload for shorts -/

/-- `CModbus::Short2WordArray` casts every element. -/
def short2WordArray (aiArray : Nat → Int16) (i : Nat) : WORD := BitVec.ofInt 16 (aiArray i).toInt

/-- `PresetMultipleRegisters` for shorts -/
def presetMultipleRegistersShort (txRxMessage : Nat → Nat → Call WORD)
    (nAddr nDataStart nQtd : WORD) (anRegValues : Nat → Int16) : Call WORD :=
  presetMultipleRegisters txRxMessage nAddr nDataStart nQtd (short2WordArray anRegValues)

theorem toInt_short2WordArray (aiArray : Nat → Int16) (i : Nat) :
    (short2WordArray aiArray i).toInt = (aiArray i).toInt := by
  rw [short2WordArray, Int16.toInt, BitVec.ofInt_toInt]

/-! ## What the slave reads -/

/-- The frame decodes to a request of these fields. -/
def Presets (frame : List BYTE) (nAddr nDataStart nQtd : WORD) (values : List WORD) : Prop :=
  ∃ request, decodePreset frame = some request ∧ request.address.toNat = nAddr.toNat ∧
    request.start = nDataStart ∧ request.count = nQtd ∧
    request.byteCount.toNat = 2 * nQtd.toNat ∧ request.values = values

theorem presets_presetMessage {nAddr nQtd : WORD} (nDataStart : WORD) (value : Nat → WORD)
    (address : nAddr.toNat < 256) (few : nQtd.toNat ≤ 123) :
    Presets (withChecksum (presetMessage nAddr nDataStart nQtd value)) nAddr nDataStart nQtd
      ((List.range nQtd.toNat).map value) := by
  refine ⟨⟨lobyte nAddr, nDataStart, nQtd, BitVec.ofNat 8 (2 * nQtd.toNat),
    (List.range nQtd.toNat).map value⟩, ?_, ?_, rfl, rfl, ?_, rfl⟩
  · rw [decodePreset, stripChecksum_withChecksum, Option.bind_some,
      decodePresetMessage_presetMessage]
  · show (nAddr.setWidth 8).toNat = nAddr.toNat
    rw [BitVec.toNat_setWidth, Nat.mod_eq_of_lt address]
  · show (BitVec.ofNat 8 (2 * nQtd.toNat)).toNat = _
    rw [BitVec.toNat_ofNat, Nat.mod_eq_of_lt (by omega)]

/-- **The frames of PresetMultipleRegisters decode to what the caller passed**, and over an open port
there is one; the overload for shorts sends the same numbers. -/
theorem preset_frames_decode (s : Object) (nAddr nDataStart nQtd : WORD) (rtu : s.mode = .rtu)
    (address : nAddr.toNat < 256) (count : 1 ≤ nQtd.toNat ∧ nQtd.toNat ≤ 123) :
    (∀ anRegValues : Nat → WORD,
      (s.opened = true → s.messagesOf (presetMultipleRegisters txRxMessage nAddr nDataStart nQtd
        anRegValues) ≠ []) ∧
      ∀ frame ∈ s.messagesOf (presetMultipleRegisters txRxMessage nAddr nDataStart nQtd
        anRegValues),
        Presets frame nAddr nDataStart nQtd ((List.range nQtd.toNat).map anRegValues)) ∧
    ∀ anRegValues : Nat → Int16,
      (s.opened = true → s.messagesOf (presetMultipleRegistersShort txRxMessage nAddr nDataStart
        nQtd anRegValues) ≠ []) ∧
      ∀ frame ∈ s.messagesOf (presetMultipleRegistersShort txRxMessage nAddr nDataStart nQtd
        anRegValues), ∃ values, Presets frame nAddr nDataStart nQtd values ∧
          values.map BitVec.toInt = (List.range nQtd.toNat).map fun i => (anRegValues i).toInt := by
  have decoded : ∀ value : Nat → WORD,
      ∀ frame ∈ s.messagesOf (presetMultipleRegisters txRxMessage nAddr nDataStart nQtd value),
        Presets frame nAddr nDataStart nQtd ((List.range nQtd.toNat).map value) := by
    intro value frame member
    rw [preset_frame_eq s nAddr nDataStart nQtd value rtu count.2 frame member]
    exact presets_presetMessage nDataStart value address count.2
  refine ⟨fun value => ⟨fun opened => preset_sends s nAddr nDataStart nQtd value opened count.2,
    decoded value⟩, fun shorts => ⟨fun opened => preset_sends s nAddr nDataStart nQtd _ opened
      count.2, fun frame member => ⟨_, decoded _ frame member, ?_⟩⟩⟩
  rw [List.map_map]
  apply List.map_congr_left
  intro i _
  exact toInt_short2WordArray shorts i

/-- Two registers from 100 on, sent to the slave with address 1. -/
theorem preset_frames_decode_two :
    (Object.fresh fun _ => .silent).messagesOf (presetMultipleRegisters txRxMessage 1 100 2 fun i =>
      [7, 515].getD i 0) ≠ [] ∧
    ∀ frame ∈ (Object.fresh fun _ => .silent).messagesOf (presetMultipleRegisters txRxMessage 1 100 2
      fun i => [7, 515].getD i 0), Presets frame 1 100 2 [7, 515] := by
  obtain ⟨sends, decoded⟩ := (preset_frames_decode (.fresh fun _ => .silent) 1 100 2 rfl (by decide)
    (by decide)).1 fun i => [7, 515].getD i 0
  exact ⟨sends rfl, decoded⟩

end TizerVision.Modbus
