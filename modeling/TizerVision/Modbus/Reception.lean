/-
# Modbus.Reception — when an RTU response is accepted

The response is read into a buffer that was cleared, and the number of bytes read is compared with
nothing but zero.  What is checked is therefore the received bytes followed by zeros: a response that
is cut short is accepted when its missing bytes happen to be zeros (`sound_iff_not_cutShort`).
-/
import TizerVision.Modbus.Transport

namespace TizerVision.Modbus

set_option autoImplicit false

open Theory

/-! ## Frames and the bytes received -/

/-- `n` bytes followed by their checksum, low byte first. -/
def CrcValid (frame : Nat → BYTE) (n : Nat) : Prop :=
  frame n = lobyte (crc16Modbus ((List.range n).map frame)) ∧
    frame (n + 1) = hibyte (crc16Modbus ((List.range n).map frame))

instance (frame : Nat → BYTE) (n : Nat) : Decidable (CrcValid frame n) :=
  inferInstanceAs (Decidable (_ ∧ _))

theorem crcValid_congr {frame frame' : Nat → BYTE} {n : Nat}
    (agree : ∀ i < n + 2, frame i = frame' i) : CrcValid frame n ↔ CrcValid frame' n := by
  have message : (List.range n).map frame = (List.range n).map frame' := by
    apply List.map_congr_left
    intro i inside
    have below := List.mem_range.1 inside
    exact agree i (by omega)
  rw [CrcValid, CrcValid, message, agree n (by omega), agree (n + 1) (by omega)]

/-- The bytes the two `ReadFile` calls deliver when `need` are asked for, `none` when
`ReadResponseRTU` fails. -/
def Exchange.received (e : Exchange) (need : Nat) : Option (List BYTE) :=
  e.firstRead.bind fun delivered =>
    if (delivered.take initialRead).length = initialRead then
      if initialRead > restToRead need then none
      else e.secondRead.map fun more => delivered.take initialRead ++ more.take (restToRead need)
    else some (delivered.take initialRead)

/-- The received bytes, and zeros behind them. -/
def zeroPadded (bytes : List BYTE) (i : Nat) : BYTE := bytes.getD i 0

theorem eq_of_zeroPadded {bytes bytes' : List BYTE} (length : bytes.length = bytes'.length)
    (agree : ∀ i < bytes.length, zeroPadded bytes i = zeroPadded bytes' i) : bytes = bytes' := by
  apply List.ext_getElem length
  intro i below below'
  simpa [zeroPadded, below, below'] using agree i below

/-! ## What each function makes of the buffer -/

theorem wp_verifyRespCRC (n : Nat) (s : Object) :
    wp (verifyRespCRC n) (fun valid t =>
      valid = decide (CrcValid (s.cell .abyBuffer) n) ∧ t.cell = s.cell) (fun _ _ => False) s := by
  simp only [verifyRespCRC, wp_bind, wp_loadBlock, wp_load, wp_ite, wp_pure, hibyte_calcCrcFast,
    lobyte_calcCrcFast, Object.touch_cell, Object.touchBlock_cell]
  split
  · rename_i high
    refine ⟨decide_eq_decide.2 ⟨fun low => ⟨high, low⟩, And.right⟩, rfl⟩
  · rename_i high
    exact ⟨(decide_eq_false fun valid => high valid.1).symm, rfl⟩

theorem wp_readResponseRTU (e : Exchange) (need : Nat) (s : Object) :
    wp (readResponseRTU e need) (fun read t =>
      read = (e.received need).map List.length ∧
      ∀ bytes, e.received need = some bytes →
        ∀ i, t.cell .abyBuffer i = bytes.getD i (s.cell .abyBuffer i)) (fun _ _ => False) s := by
  unfold readResponseRTU Exchange.received
  cases e.firstRead with
  | none => simp
  | some delivered =>
      simp only [wp_bind, wp_storeBlock, wp_ite, Option.bind_some]
      by_cases full : (delivered.take initialRead).length = initialRead
      · by_cases short : initialRead > restToRead need
        · simp [full, short]
        · cases e.secondRead with
          | none => simp [full, short]
          | some more =>
              simp only [full, short, if_true, if_false, wp_bind, wp_storeBlock, wp_pure,
                Option.map_some, List.length_append, true_and]
              rintro bytes ⟨⟩ i
              have cells := s.writeBlock_append .abyBuffer (delivered.take initialRead)
                (more.take (restToRead need)) i
              rwa [full] at cells
      · simp only [full, if_false, wp_pure, Option.map_some, true_and]
        rintro bytes ⟨⟩ i
        exact s.writeBlock_zero _ _ i

/-- An exception code is not `ERR_OK`. -/
theorem exception_ne_ok (code : BYTE) : ERR_EXCPTION_CODE + code.setWidth 16 ≠ ERR_OK := by
  revert code
  decide +kernel

theorem not_ok {code : WORD} {A P : Prop} (other : code ≠ ERR_OK) (refused : ¬ A) :
    (code = ERR_OK ↔ A) ∧ (code = ERR_OK → P) :=
  ⟨⟨fun ok => absurd ok other, fun accepted => absurd accepted refused⟩, fun ok => absurd ok other⟩

theorem wp_acceptResponse (dwRead : Nat) {lr : Nat} (positive : 0 < lr) (s : Object) :
    wp (acceptResponse dwRead lr) (fun code t =>
      (code = ERR_OK ↔
        ¬ s.cell .abyBuffer 1 > 0x80 ∧ CrcValid (s.cell .abyBuffer) lr) ∧
      (code = ERR_OK → ∀ i < lr, t.cell .abyReply i = s.cell .abyBuffer i))
      (fun _ _ => False) s := by
  have set : ¬ lr = 0 := by omega
  simp only [acceptResponse, wp_bind, wp_load, wp_ite, set, if_false, false_and]
  by_cases exceptional : s.cell .abyBuffer 1 > 0x80
  · rw [if_pos exceptional]
    apply wp_imp (wp_verifyRespCRC 3 _)
    intro valid t _
    have refused := fun accepted : ¬ s.cell .abyBuffer 1 > 0x80 ∧
      CrcValid (s.cell .abyBuffer) lr => accepted.1 exceptional
    split
    · simp only [wp_bind, wp_load, wp_pure]
      exact not_ok (exception_ne_ok _) refused
    · exact not_ok (by decide) refused
  · rw [if_neg exceptional]
    apply wp_imp (wp_verifyRespCRC lr _)
    rintro valid t ⟨verified, same⟩
    change valid = decide (CrcValid (s.cell .abyBuffer) lr) at verified
    change t.cell = s.cell at same
    subst verified
    by_cases framed : CrcValid (s.cell .abyBuffer) lr
    · rw [if_pos (decide_eq_true framed)]
      simp only [wp_bind, wp_loadBlock, wp_storeBlock, wp_pure]
      refine ⟨⟨fun _ => ⟨exceptional, framed⟩, fun _ => trivial⟩, fun _ i below => ?_⟩
      rw [Object.writeBlock_zero, Object.getD_block _ _ below, same]
    · rw [if_neg (by simpa using framed)]
      exact not_ok (by decide) fun accepted => framed accepted.2

/-- The exchange is answered by bytes which, completed with zeros, are a valid response of `lr`
bytes. -/
def Exchange.Accepted (e : Exchange) (lr : Nat) (bytes : List BYTE) : Prop :=
  e.received (lr + 2) = some bytes ∧ bytes ≠ [] ∧ ¬ zeroPadded bytes 1 > 0x80 ∧
    CrcValid (zeroPadded bytes) lr

/-- **What `ERR_OK` means.**  The received bytes completed with zeros are a valid response, and its
first `lr` bytes are copied to the reply. -/
theorem wp_receive (e : Exchange) {lr : Nat} (positive : 0 < lr) (s : Object) :
    wp (receive e lr) (fun code t =>
      (code = ERR_OK ↔ ∃ bytes, e.Accepted lr bytes) ∧
      (code = ERR_OK → ∀ bytes, e.received (lr + 2) = some bytes →
        ∀ i < lr, t.cell .abyReply i = zeroPadded bytes i)) (fun _ _ => False) s := by
  simp only [receive, takeResponse, wp_bind, wp_storeBlock]
  apply wp_imp (wp_readResponseRTU e (lr + 2) _)
  rintro read t ⟨rfl, cells⟩
  cases delivered : e.received (lr + 2) with
  | none =>
      apply not_ok (by decide)
      rintro ⟨bytes, accepted⟩
      rw [Exchange.Accepted, delivered] at accepted
      cases accepted.1
  | some bytes =>
      have buffer : ∀ i < lr + 2, t.cell .abyBuffer i = zeroPadded bytes i := by
        intro i below
        rw [cells bytes delivered i, Object.writeBlock_zero]
        simp [zeroPadded, below]
      have accepted_iff : (∃ bytes, e.Accepted lr bytes) ↔ bytes ≠ [] ∧
          ¬ zeroPadded bytes 1 > 0x80 ∧ CrcValid (zeroPadded bytes) lr := by
        simp [Exchange.Accepted, delivered]
      rw [accepted_iff]
      show wp (if bytes.length = 0 then pure ERR_TIMEOUT else acceptResponse bytes.length lr) _ _ t
      by_cases empty : bytes.length = 0
      · rw [if_pos empty]
        exact not_ok (by decide) fun accepted => accepted.1 (List.length_eq_zero_iff.1 empty)
      · have some_byte : bytes ≠ [] := fun none => empty (by rw [none]; rfl)
        rw [if_neg empty]
        apply wp_imp (wp_acceptResponse bytes.length positive t)
        rintro code u ⟨ok_iff, copied⟩
        rw [buffer 1 (by omega), crcValid_congr buffer] at ok_iff
        refine ⟨ok_iff.trans ⟨fun valid => ⟨some_byte, valid⟩, And.right⟩,
          fun ok bytes' same i below => ?_⟩
        obtain rfl : bytes = bytes' := by simpa using same
        rw [copied ok i below, buffer i (by omega)]

theorem wp_transmit (lq : Nat) (s : Object) :
    wp (transmit lq) (fun _ _ => True) (fun _ _ => False) s := by
  simp [transmit]

theorem wp_txRxMessage (lq : Nat) {lr : Nat} (positive : 0 < lr) {s : Object} (rtu : s.mode = .rtu) :
    wp (txRxMessage lq lr) (fun code t =>
      (code = ERR_OK ↔ (s.opened = true ∧ (s.port s.exchanges).writeQuery = true) ∧
        ∃ bytes, (s.port s.exchanges).Accepted lr bytes) ∧
      (code = ERR_OK → ∀ bytes, (s.port s.exchanges).received (lr + 2) = some bytes →
        ∀ i < lr, t.cell .abyReply i = zeroPadded bytes i)) (fun _ _ => False) s := by
  have binary : ¬ s.mode = .ascii := by
    rw [rtu]
    decide
  simp only [txRxMessage, lock, if_true, wp_bind, wp_get, wp_ite, wp_modify, binary, if_false]
  by_cases opened : s.opened = true
  · rw [if_pos opened]
    apply wp_imp (wp_transmit lq _)
    intro _ t _
    by_cases takes : (s.port s.exchanges).writeQuery = true
    · rw [if_pos takes]
      apply wp_imp (wp_receive (s.port s.exchanges) positive t)
      rintro code u ⟨ok_iff, copied⟩
      exact ⟨ok_iff.trans ⟨fun accepted => ⟨⟨opened, takes⟩, accepted⟩, And.right⟩, copied⟩
    · rw [if_neg takes]
      exact not_ok (by decide) fun accepted => takes accepted.1.2
  · rw [if_neg opened]
    exact not_ok (by decide) fun accepted => opened accepted.1.1

theorem txRxMessage_returns (lq : Nat) {lr : Nat} (positive : 0 < lr) :
    Returns (txRxMessage lq lr) := by
  intro s
  cases mode : s.mode with
  | rtu => exact wp_imp (wp_txRxMessage lq positive mode) fun _ _ _ => trivial
  | ascii =>
      simp only [txRxMessage, lock, if_true, wp_bind, wp_get, wp_ite, wp_modify, mode,
        txRxMessageAscii, wp_pure]
      split <;> trivial

/-! ## Soundness -/

/-- If the exchange returns `ERR_OK`, then `lr + 2` bytes were received, they end in the checksum of
the bytes before, they are not an exception, and the reply is what was received. -/
def Object.Sound (s : Object) (lq lr : Nat) : Prop :=
  wp (txRxMessage lq lr) (fun code t => code = ERR_OK →
    ∃ bytes, (s.port s.exchanges).received (lr + 2) = some bytes ∧
      lr + 2 ≤ bytes.length ∧
      bytes.getD lr 0 = lobyte (crc16Modbus (bytes.take lr)) ∧
      bytes.getD (lr + 1) 0 = hibyte (crc16Modbus (bytes.take lr)) ∧
      ¬ bytes.getD 1 0 > 0x80 ∧
      t.block .abyReply lr = bytes.take lr) (fun _ _ => True) s

/-- The port takes the query and delivers some bytes, but fewer than `lr + 2`, and these bytes
completed with zeros are a valid response. -/
def Object.CutShort (s : Object) (lr : Nat) : Prop :=
  (s.opened = true ∧ (s.port s.exchanges).writeQuery = true) ∧
    ∃ bytes, (s.port s.exchanges).Accepted lr bytes ∧ bytes.length < lr + 2

theorem map_zeroPadded {bytes : List BYTE} {n : Nat} (long : n ≤ bytes.length) :
    (List.range n).map (zeroPadded bytes) = bytes.take n := by
  apply List.ext_getElem
  · simp [long]
  · intro i inside _
    have below : i < bytes.length := by
      simp only [List.length_map, List.length_range] at inside
      omega
    simp [zeroPadded, below]

/-- **The transport is sound except for responses cut short in front of zeros.** -/
theorem sound_iff_not_cutShort (s : Object) (rtu : s.mode = .rtu) (lq lr : Nat) (positive : 0 < lr) :
    s.Sound lq lr ↔ ¬ s.CutShort lr := by
  have spec := wp_txRxMessage lq positive rtu
  constructor
  · rintro sound ⟨taken, bytes, accepted, short⟩
    apply not_wp_false (p := txRxMessage lq lr) (s := s)
    apply wp_mono (wp_and sound spec)
    · rintro code t ⟨honest, ok_iff, -⟩
      obtain ⟨bytes', received, long, -⟩ := honest (ok_iff.2 ⟨taken, bytes, accepted⟩)
      obtain rfl : bytes = bytes' := by simpa [accepted.1] using received
      omega
    · exact fun _ _ raised => raised.2
  · intro whole
    apply wp_of_returns spec
    rintro code t ⟨ok_iff, copied⟩ ok
    obtain ⟨taken, bytes, accepted⟩ := ok_iff.1 ok
    have long : lr + 2 ≤ bytes.length :=
      Nat.le_of_not_lt fun short => whole ⟨taken, bytes, accepted, short⟩
    obtain ⟨received, -, plain, low, high⟩ := accepted
    rw [map_zeroPadded (by omega)] at low high
    refine ⟨bytes, received, long, low, high, plain, ?_⟩
    rw [← map_zeroPadded (by omega)]
    apply List.map_congr_left
    intro i inside
    exact copied ok bytes received i (List.mem_range.1 inside)

/-! ## The echo of PresetSingleRegister(1, 100, 51)

Its checksum is 0x0088, so its last byte is a zero. -/

/-- The port takes the query and delivers the bytes of `response`. -/
def Exchange.delivering (response : List BYTE) : Exchange :=
  { Exchange.silent with
    firstRead := some (response.take initialRead)
    secondRead := some (response.drop initialRead) }

theorem sound_iff_not_cutShort_whole :
    (Object.fresh fun _ => .delivering [1, 6, 0, 100, 0, 51, 0x88, 0]).Sound 6 6 := by
  rw [sound_iff_not_cutShort _ rfl 6 6 (by decide)]
  rintro ⟨-, bytes, ⟨received, -⟩, short⟩
  obtain rfl : [1, 6, 0, 100, 0, 51, 0x88, 0] = bytes := Option.some.inj received
  revert short
  decide

/-- Without its last byte the echo is accepted all the same. -/
theorem cut_echo_accepted :
    ¬ (Object.fresh fun _ => .delivering [1, 6, 0, 100, 0, 51, 0x88]).Sound 6 6 := by
  intro sound
  obtain ⟨bytes, received, long, -⟩ := sound (by decide +kernel)
  obtain rfl : [1, 6, 0, 100, 0, 51, 0x88] = bytes := Option.some.inj received
  revert long
  decide

end TizerVision.Modbus
