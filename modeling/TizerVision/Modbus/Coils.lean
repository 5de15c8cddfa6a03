/-
# Modbus.Coils — the frame of ForceMultipleCoils and what earlier operations left in the query

`ForceMultipleCoils` adds a bit to the query for every coil that is TRUE and clears none.  The query
array is the object's, so the frame shows the coils over whatever the last operations, and the
checksums they appended, left there (`wp_fillCoils`).  It is the frame of the caller's coils exactly
when nothing was left where a bit has to be 0 (`transmitsExactly_iff_clean`).
-/
import TizerVision.Modbus.Ascii
import TizerVision.Modbus.ReadBack

namespace TizerVision.Modbus

set_option autoImplicit false

open Theory

/-! ## The data of the query -/

/-- Bit `k` of the coils in the query: bit `k % 8` of `abyQuery[7 + k / 8]`. -/
def Object.dataBit (s : Object) (k : Nat) : Bool := (s.cell .abyQuery (7 + k / 8)).getLsbD (k % 8)

/-- The `n` data bytes of a frame of `ForceMultipleCoils`, behind the seven bytes of the header.  In
ASCII mode they are read from their digits, which stand behind the characters that are cleared. -/
def coilData (mode : Mode) (n : Nat) (frame : List BYTE) : List BYTE :=
  match mode with
  | .rtu => (frame.drop 7).take n
  | .ascii => (decodeAscii (zeroPadded frame) (7 + n)).drop 7

/-- Data byte `i` of what the port is handed is the byte of the query. -/
theorem coilData_onLine (s : Object) {n length i : Nat} (whole : 7 + n ≤ length) (inside : i < n) :
    (coilData s.mode n (s.onLine length)).getD i 0 = s.cell .abyQuery (7 + i) := by
  have found : (s.block .abyQuery length)[7 + i]? = some (s.cell .abyQuery (7 + i)) := by
    rw [Object.block, List.getElem?_map, List.getElem?_range (by omega), Option.map_some]
  rw [List.getD_eq_getElem?_getD]
  cases mode : s.mode with
  | rtu =>
      rw [Object.onLine_rtu mode, coilData, List.getElem?_take_of_lt inside, List.getElem?_drop,
        found, Option.getD_some]
  | ascii =>
      have behind : bufferSize ≤ 1 + (7 + i) * 2 := by
        rw [show bufferSize = 12 from rfl]
        omega
      rw [Object.onLine_ascii mode, coilData, List.getElem?_drop, decodeAscii, List.getElem?_map,
        List.getElem?_range (by omega), Option.map_some, Option.getD_some, byteAt_cleared _ behind]
      exact byteAt_asciiFrame found

/-- What the port is handed shows the bits of the query. -/
theorem coilAt_coilData (s : Object) {n length k : Nat} (whole : 7 + n ≤ length)
    (inside : k < 8 * n) : coilAt (coilData s.mode n (s.onLine length)) k = s.dataBit k := by
  rw [coilAt, coilData_onLine s whole (by omega), Object.dataBit]

/-- The bit `packCoil` adds. -/
theorem Object.dataBit_pack (s : Object) (k m : Nat) :
    (s.write .abyQuery (7 + k / 8) (s.cell .abyQuery (7 + k / 8) ||| (1#8 <<< (k % 8)))).dataBit m =
      (s.dataBit m || decide (m = k)) := by
  unfold Object.dataBit
  by_cases sameByte : m / 8 = k / 8
  · have sameCoil : k % 8 = m % 8 ↔ m = k := by omega
    rw [Object.write_cell, if_pos ⟨rfl, by omega⟩, BitVec.getLsbD_or, ← BitVec.twoPow_eq,
      BitVec.getLsbD_twoPow, sameByte]
    simp [sameCoil, Nat.mod_lt k (by omega : 8 > 0)]
  · have otherCoil : m ≠ k := fun same => sameByte (by rw [same])
    rw [Object.write_cell, if_neg (by omega)]
    simp [otherCoil]

/-! ## Filling the query -/

/-- In `t` the first `k` coils are laid over the data of `s`, and nothing was sent meanwhile. -/
def Object.Laid (s : Object) (coils : Nat → BYTE) (k : Nat) (t : Object) : Prop :=
  (t.opened = s.opened ∧ t.mode = s.mode ∧ t.sent = s.sent) ∧
    ∀ m, t.dataBit m = (s.dataBit m || decide (m < k ∧ coils m ≠ 0))

variable {s : Object} {coils : Nat → BYTE} {k : Nat} {c : Cursor}

/-- One turn of the loop lays one more coil. -/
theorem wp_packCoil {t : Object} (place : c.wrap = ⟨k % 8, 7 + k / 8⟩) (laid : s.Laid coils k t) :
    wp (packCoil coils k c) (fun c' t' => c'.wrap = ⟨(k + 1) % 8, 7 + (k + 1) / 8⟩ ∧
      s.Laid coils (k + 1) t') (fun _ _ => False) t := by
  obtain ⟨same, bits⟩ := laid
  simp only [packCoil, wp_ite, wp_bind, wp_load, wp_store, wp_pure]
  split
  case isTrue set =>
    refine ⟨Cursor.wrap_next place, same, fun m => ?_⟩
    rw [place]
    refine ((t.touch .abyQuery (7 + k / 8)).dataBit_pack k m).trans ?_
    show (t.dataBit m || decide (m = k)) = _
    rw [bits m]
    by_cases here : m = k
    · have now : m < k + 1 ∧ coils m ≠ 0 := by
        rw [here]
        exact ⟨Nat.lt_succ_self k, set⟩
      rw [decide_eq_true here, decide_eq_true now, Bool.or_true, Bool.or_true]
    · simp [here, show m < k + 1 ↔ m < k by omega]
  case isFalse clear =>
    refine ⟨Cursor.wrap_next place, same, fun m => ?_⟩
    rw [bits m]
    by_cases here : m = k
    · simp [here, not_not.1 clear]
    · simp [show m < k + 1 ↔ m < k by omega]

/-- **The coils are laid over the old data.** -/
theorem wp_fillCoils (s : Object) (nAddr nDataStart nQtd : WORD) (coils : Nat → BYTE) :
    wp (fillCoils nAddr nDataStart nQtd coils) (fun _ => s.Laid coils nQtd.toNat)
      (fun _ _ => False) s := by
  -- the six bytes of the header and the byte count lie in front of the data
  have start : s.Laid coils 0 ((s.writeBlock .abyQuery 0
      (header nAddr FORCE_MULTIPLE_COILS nDataStart nQtd)).write .abyQuery 6
      (BitVec.ofNat 8 ((nQtd.toNat + 7) / 8))) := by
    refine ⟨⟨rfl, rfl, rfl⟩, fun m => ?_⟩
    have behind : ¬ 7 + m / 8 < 6 ∧ ¬ 7 + m / 8 = 6 := by omega
    simp [Object.dataBit, header, behind]
  have looped : wp (loop (packCoil coils) nQtd.toNat ⟨0, 7⟩)
      (fun c t => c.wrap = ⟨nQtd.toNat % 8, 7 + nQtd.toNat / 8⟩ ∧ s.Laid coils nQtd.toNat t)
      (fun _ _ => False) ((s.writeBlock .abyQuery 0
        (header nAddr FORCE_MULTIPLE_COILS nDataStart nQtd)).write .abyQuery 6
        (BitVec.ofNat 8 ((nQtd.toNat + 7) / 8))) := by
    refine wp_loop (fun k (c : Cursor) t => c.wrap = ⟨k % 8, 7 + k / 8⟩ ∧ s.Laid coils k t)
      ⟨rfl, start⟩ ?_
    rintro k c t - ⟨place, laid⟩
    exact wp_packCoil place laid
  rw [fillCoils, wp_bind, wp_fillHeader, wp_bind, wp_store, wp_bind]
  exact wp_imp looped fun c t ended => ended.2

/-! ## What is sent -/

/-- The query holds the bits in its `n` data bytes, and every message handed to the port does. -/
structure Object.Carries (s : Object) (mode : Mode) (n : Nat) (bits : Nat → Bool) : Prop where
  inMode : s.mode = mode
  query : ∀ k < 8 * n, s.dataBit k = bits k
  sent : ∀ frame ∈ s.sent, ∀ k < 8 * n, coilAt (coilData mode n frame) k = bits k

/-- The checksum goes behind the data, in every turn of the loop. -/
theorem closed_carries (mode : Mode) (n : Nat) (bits : Nat → Bool) :
    ClosedExchange (7 + n) 6 fun s => s.Carries mode n bits where
  touch _ carries := ⟨carries.inMode, carries.query, carries.sent⟩
  touchBlock _ carries := ⟨carries.inMode, carries.query, carries.sent⟩
  write allowed carries := ⟨carries.inMode, fun k inside => by
    rw [← carries.query k inside, Object.dataBit, query_write allowed (by omega), Object.dataBit],
    carries.sent⟩
  writeBlock allowed carries := ⟨carries.inMode, fun k inside => by
    rw [← carries.query k inside, Object.dataBit, query_writeBlock allowed (by omega),
      Object.dataBit], carries.sent⟩
  replace other carries := ⟨carries.inMode, fun k inside => by
    rw [← carries.query k inside, Object.dataBit, query_replace other, Object.dataBit],
    carries.sent⟩
  beginExchange carries := ⟨carries.inMode, carries.query, carries.sent⟩
  send {s length} allowed carries := by
    refine ⟨carries.inMode, carries.query, fun frame member k inside => ?_⟩
    rcases List.mem_append.1 member with old | new
    · exact carries.sent frame old k inside
    · rw [List.mem_singleton.1 new, ← carries.inMode, coilAt_coilData s (by omega) inside]
      exact carries.query k inside

/-- A message stays sent. -/
theorem closed_sent (lq lr : Nat) : ClosedExchange lq lr fun s => s.sent ≠ [] where
  touch _ sent := sent
  touchBlock _ sent := sent
  write _ sent := sent
  writeBlock _ sent := sent
  replace _ sent := sent
  beginExchange sent := sent
  send _ _ := by simp

/-- An exchange over an open port sends a message, in both modes. -/
theorem txRxMessage_sends {lq lr : Nat} (opened : s.opened = true) (long : 4 ≤ lr)
    (small : lr + 2 < 2 ^ 32) :
    wp (txRxMessage lq lr) (fun _ t => t.sent ≠ []) (fun _ t => t.sent ≠ []) s := by
  have closed := closed_sent lq lr
  have rtu : wp (transmit lq >>= fun _ =>
      if (s.port s.exchanges).writeQuery then receive (s.port s.exchanges) lr else pure ERR_WR_PORT)
      (fun _ t => t.sent ≠ []) (fun _ t => t.sent ≠ []) s.beginExchange := by
    refine Keeps.wp_bind_left (by simp [transmit]) fun _ => Keeps.ite (fun _ => ?_) fun _ => .pure _
    exact keeps_receive closed.toClosedAccess _ (covers_footprint long small) (by omega)
  rw [txRxMessage, lock, if_pos rfl, wp_bind, wp_get, if_pos opened, wp_bind, wp_modify]
  by_cases ascii : s.mode = .ascii
  · simp [ascii, txRxMessageAscii]
  · rw [if_neg ascii]
    exact rtu

/-- Over a port that is not open nothing is sent. -/
theorem keeps_txRxMessage_closed (lq lr : Nat) :
    Keeps (fun s => s.opened = false ∧ s.sent = []) (txRxMessage lq lr) := by
  intro s shut
  rw [txRxMessage, lock, if_pos rfl, wp_bind, wp_get, if_neg (by simp [shut.1])]
  exact shut

theorem keeps_writeExchange_closed {lq : Nat} (long : 6 ≤ lq) :
    Keeps (fun s => s.opened = false ∧ s.sent = []) (writeExchange txRxMessage lq) := by
  have closed : ClosedAccess (footprint lq 6) (fun _ _ => False)
      fun s => s.opened = false ∧ s.sent = [] :=
    ⟨fun _ shut => shut, fun _ shut => shut, fun _ shut => shut, fun _ shut => shut⟩
  refine (keeps_exchange (fun _ => ?_) ()).bind fun r => .pure r.1
  exact (keeps_txRxMessage_closed lq 6).bind (keeps_takeEcho closed long)

theorem writeExchange_sends {lq : Nat} (opened : s.opened = true) (long : 6 ≤ lq) :
    wp (writeExchange txRxMessage lq) (fun _ t => t.sent ≠ []) (fun _ t => t.sent ≠ []) s := by
  have closed := closed_sent lq 6
  have first : wp (writeAttempt txRxMessage lq ()) (fun _ t => t.sent ≠ [])
      (fun _ t => t.sent ≠ []) s :=
    Keeps.wp_bind_left (txRxMessage_sends opened (by omega) (by omega))
      (keeps_takeEcho closed.toClosedAccess long)
  exact Keeps.wp_bind_left (wp_exchange_of_first (keeps_writeAttempt closed long) first)
    fun r => .pure r.1

/-! ## The whole operation, after any others -/

/-- The object after a sequence of operations. -/
def Object.afterAll (s : Object) (history : List Operation) : Object := history.foldl Object.after s

/-- The messages an operation hands to the port, one for each turn of its loop. -/
def Object.messages (s : Object) (op : Operation) : List (List BYTE) :=
  ({ s with sent := [] }.after op).sent

/-- The data bytes of a frame, unpacked as `ReadOutputStatus` does, are the caller's coils, and the
bits behind the last coil are 0. -/
def Unpacks (mode : Mode) (nQtd : Nat) (coils : Nat → BYTE) (frame : List BYTE) : Prop :=
  (∀ k < nQtd, coilAt (coilData mode ((nQtd + 7) / 8) frame) k = decide (coils k ≠ 0)) ∧
    ∀ k < 8 * ((nQtd + 7) / 8), nQtd ≤ k →
      coilAt (coilData mode ((nQtd + 7) / 8) frame) k = false

/-- Every frame `ForceMultipleCoils` transmits shows the caller's coils. -/
def Object.TransmitsExactly (s : Object) (nAddr nDataStart nQtd : WORD) (coils : Nat → BYTE) :
    Prop :=
  ∀ frame ∈ s.messages (.forceMultipleCoils nAddr nDataStart nQtd coils),
    Unpacks s.mode nQtd.toNat coils frame

instance (mode : Mode) (nQtd : Nat) (coils : Nat → BYTE) (frame : List BYTE) :
    Decidable (Unpacks mode nQtd coils frame) :=
  inferInstanceAs (Decidable (_ ∧ _))

instance (s : Object) (nAddr nDataStart nQtd : WORD) (coils : Nat → BYTE) :
    Decidable (s.TransmitsExactly nAddr nDataStart nQtd coils) :=
  inferInstanceAs (Decidable (∀ frame ∈ _, _))

/-- No bit is left in the query where a coil is FALSE or no coil is. -/
def Object.Clean (s : Object) (nQtd : Nat) (coils : Nat → BYTE) : Prop :=
  ∀ k < 8 * ((nQtd + 7) / 8), nQtd ≤ k ∨ coils k = 0 → s.dataBit k = false

/-- A frame in which the coils are laid over old data is right when the old data is clean. -/
theorem unpacks_iff_clean {mode : Mode} {nQtd : Nat} {frame : List BYTE}
    (laid : ∀ k < 8 * ((nQtd + 7) / 8), coilAt (coilData mode ((nQtd + 7) / 8) frame) k =
      (s.dataBit k || decide (k < nQtd ∧ coils k ≠ 0))) :
    Unpacks mode nQtd coils frame ↔ s.Clean nQtd coils := by
  constructor
  · rintro ⟨coil, unused⟩ k inside zero
    have shown : coilAt (coilData mode ((nQtd + 7) / 8) frame) k = false := by
      by_cases used : k < nQtd
      · rw [coil k used, decide_eq_false (not_not_intro (zero.resolve_left (by omega)))]
      · exact unused k inside (by omega)
    rw [laid k inside] at shown
    exact (Bool.or_eq_false_iff.1 shown).1
  · intro clean
    refine ⟨fun k used => ?_, fun k inside behind => ?_⟩
    · rw [laid k (by omega)]
      by_cases set : coils k = 0
      · rw [clean k (by omega) (.inr set)]
        simp [set]
      · rw [decide_eq_true ⟨used, set⟩, decide_eq_true set, Bool.or_true]
    · rw [laid k inside, clean k inside (.inl behind), decide_eq_false (by omega), Bool.or_false]

section Messages

variable (s : Object) (nAddr nDataStart nQtd : WORD) (coils : Nat → BYTE)

/-- What the loop of `ForceMultipleCoils` ends in once the coils are laid, the operation ends in. -/
theorem after_forceMultipleCoils (I : Object → Prop) (rest : ∀ t, s.Laid coils nQtd.toNat t →
      wp (writeExchange txRxMessage (7 + (nQtd.toNat + 7) / 8)) (fun _ => I) (fun _ => I) t) :
    I (s.after (.forceMultipleCoils nAddr nDataStart nQtd coils)) := by
  apply wp_iff_finalState.1
  rw [perform, forceMultipleCoils, wp_bind]
  exact wp_of_returns (wp_fillCoils s nAddr nDataStart nQtd coils) fun _ => rest

/-- The messages of `ForceMultipleCoils` show the coils over the old data. -/
theorem messages_laid :
    ∀ frame ∈ s.messages (.forceMultipleCoils nAddr nDataStart nQtd coils),
      ∀ k < 8 * ((nQtd.toNat + 7) / 8), coilAt (coilData s.mode ((nQtd.toNat + 7) / 8) frame) k =
        (s.dataBit k || decide (k < nQtd.toNat ∧ coils k ≠ 0)) := by
  refine (after_forceMultipleCoils { s with sent := [] } nAddr nDataStart nQtd coils (fun t =>
    t.Carries s.mode ((nQtd.toNat + 7) / 8) fun k =>
      s.dataBit k || decide (k < nQtd.toNat ∧ coils k ≠ 0)) ?_).sent
  rintro t ⟨⟨-, inMode, unsent⟩, bits⟩
  apply keeps_writeExchange (closed_carries _ _ _) (by omega)
  refine ⟨inMode, fun k _ => bits k, ?_⟩
  rw [unsent]
  simp

/-- Something is sent exactly if the port is open. -/
theorem messages_eq_nil_iff :
    s.messages (.forceMultipleCoils nAddr nDataStart nQtd coils) = [] ↔ s.opened = false := by
  have after := after_forceMultipleCoils { s with sent := [] } nAddr nDataStart nQtd coils
  constructor
  · intro silent
    by_contra shut
    refine after (fun t => t.sent ≠ []) ?_ silent
    rintro t ⟨⟨opened, -, -⟩, -⟩
    exact writeExchange_sends (opened.trans (eq_true_of_ne_false shut)) (by omega)
  · intro shut
    refine (after (fun t => t.opened = false ∧ t.sent = []) ?_).2
    rintro t ⟨⟨opened, -, unsent⟩, -⟩
    exact keeps_writeExchange_closed (by omega) t ⟨opened.trans shut, unsent⟩

end Messages

/-- **Old bits are never cleared.**  After any operations, `ForceMultipleCoils` transmits the
caller's coils exactly when the port is not open, so that nothing is transmitted, or those
operations left no bit where a coil is FALSE or unused. -/
theorem transmitsExactly_iff_clean (start : Object) (history : List Operation)
    (nAddr nDataStart nQtd : WORD) (coils : Nat → BYTE) :
    (start.afterAll history).TransmitsExactly nAddr nDataStart nQtd coils ↔
      (start.afterAll history).opened = false ∨
        (start.afterAll history).Clean nQtd.toNat coils := by
  generalize start.afterAll history = s
  have laid := messages_laid s nAddr nDataStart nQtd coils
  rw [← messages_eq_nil_iff s nAddr nDataStart nQtd coils]
  constructor
  · intro exactly
    cases sent : s.messages (.forceMultipleCoils nAddr nDataStart nQtd coils) with
    | nil => exact .inl rfl
    | cons frame more =>
        have member : frame ∈ s.messages (.forceMultipleCoils nAddr nDataStart nQtd coils) := by
          rw [sent]
          exact List.mem_cons_self
        exact .inr ((unpacks_iff_clean (laid frame member)).1 (exactly frame member))
  · rintro (silent | clean) frame member
    · rw [silent] at member
      cases member
    · exact (unpacks_iff_clean (laid frame member)).2 clean

/-- Eight coils are forced TRUE and then FALSE: the second frame forces them TRUE again. -/
theorem forced_coils_stay :
    ¬ ((Object.fresh fun _ => .silent).afterAll
      [.forceMultipleCoils 1 0 8 fun _ => 1]).TransmitsExactly 1 0 8 fun _ => 0 := by
  decide +kernel

end TizerVision.Modbus
