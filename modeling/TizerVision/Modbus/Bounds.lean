/-
# Modbus.Bounds — which operations stay inside the arrays of RESP_BUFFER*2 elements

The arrays of a CModbus object were cut to twelve elements; the frames of the protocol were not.  An
operation with a query of `queryLength` and a response of `replyLength` bytes touches the checksum
behind both, so it stays inside the arrays exactly when both lengths are at most ten
(`in_bounds_iff_fits`): up to 3 registers or 56 coils read, 1 register or 24 coils written.
-/
import TizerVision.Modbus.Footprint

namespace TizerVision.Modbus

set_option autoImplicit false

open Theory

/-! ## Lengths and quantities -/

namespace Operation

/-- The length of the query, without its checksum. -/
def queryLength : Operation → Nat
  | presetMultipleRegisters _ _ nQtd _ => 7 + 2 * nQtd.toNat
  | presetSingleRegisterFloat .. => 11
  | presetSingleRegisterDouble .. => 15
  | forceMultipleCoils _ _ nQtd _ => 7 + (nQtd.toNat + 7) / 8
  | _ => 6

/-- The length of the response asked for, without its checksum. -/
def replyLength : Operation → Nat
  | readOutputRegisters _ _ nQtd _ | readInputRegisters _ _ nQtd _ => 3 + 2 * nQtd.toNat
  | readOutputStatus _ _ nQtd _ | readInputStatus _ _ nQtd _ => 3 + (nQtd.toNat + 7) / 8
  | _ => 6

/-- The quantities the protocol allows. -/
def Allowed : Operation → Prop
  | readOutputRegisters _ _ nQtd _ | readInputRegisters _ _ nQtd _ =>
      1 ≤ nQtd.toNat ∧ nQtd.toNat ≤ 125
  | readOutputStatus _ _ nQtd _ | readInputStatus _ _ nQtd _ =>
      1 ≤ nQtd.toNat ∧ nQtd.toNat ≤ 2000
  | presetMultipleRegisters _ _ nQtd _ => 1 ≤ nQtd.toNat ∧ nQtd.toNat ≤ 123
  | forceMultipleCoils _ _ nQtd _ => 1 ≤ nQtd.toNat ∧ nQtd.toNat ≤ 1968
  | _ => True

/-- The quantities the arrays have room for. -/
def Fits : Operation → Prop
  | readOutputRegisters _ _ nQtd _ | readInputRegisters _ _ nQtd _ => nQtd.toNat ≤ 3
  | readOutputStatus _ _ nQtd _ | readInputStatus _ _ nQtd _ => nQtd.toNat ≤ 56
  | presetMultipleRegisters _ _ nQtd _ => nQtd.toNat ≤ 1
  | presetSingleRegisterFloat .. | presetSingleRegisterDouble .. => False
  | forceMultipleCoils _ _ nQtd _ => nQtd.toNat ≤ 24
  | _ => True

/-- Every element that the operation reads or writes on `s` exists. -/
def InBounds (op : Operation) (s : Object) : Prop :=
  ∀ x ∈ ({ s with touched := [] }.after op).touched, x.index < respBuffer * 2

instance (op : Operation) (s : Object) : Decidable (op.InBounds s) :=
  inferInstanceAs (Decidable (∀ x ∈ _, _))

theorem fits_iff (op : Operation) :
    op.Fits ↔ op.queryLength + 2 ≤ respBuffer * 2 ∧ op.replyLength + 2 ≤ respBuffer * 2 := by
  cases op with
  | presetSingleRegister | presetSingleRegisterFloat | presetSingleRegisterDouble | forceSingleCoil
  | loopbackTest => simp [Fits, queryLength, replyLength, respBuffer]
  | _ =>
      simp only [Fits, queryLength, replyLength, respBuffer]
      omega

theorem queryLength_ge (op : Operation) : 6 ≤ op.queryLength := by
  cases op <;> simp only [queryLength] <;> omega

theorem replyLength_ge (op : Operation) (allowed : op.Allowed) : 4 ≤ op.replyLength := by
  cases op <;> simp only [Allowed, replyLength] at allowed ⊢ <;> omega

theorem replyLength_lt (op : Operation) : op.replyLength + 2 < 2 ^ 32 := by
  cases op with
  | readOutputRegisters _ _ n | readInputRegisters _ _ n | readOutputStatus _ _ n
  | readInputStatus _ _ n =>
      have := n.isLt
      simp only [replyLength]
      omega
  | _ =>
      show 6 + 2 < 2 ^ 32
      omega

/-! ## An operation fills the query and then converses with the slave -/

/-- The part of an operation before its loop. -/
def fill : Operation → Call Unit
  | readOutputRegisters a d n _ => fillHeader a READ_OUTPUT_REGISTERS d n
  | readInputRegisters a d n _ => fillHeader a READ_INPUT_REGISTERS d n
  | readOutputStatus a d n _ => fillHeader a READ_OUTPUT_STATUS d n
  | readInputStatus a d n _ => fillHeader a READ_INPUT_STATUS d n
  | presetMultipleRegisters a d n v => fillRegisters a d n v
  | presetSingleRegister a r v => fillHeader a PRESET_SINGLE_REGISTER r v
  | presetSingleRegisterFloat a r v t => fillRegisters a r 2 fun i =>
      if t = REAL_NORMAL then wordOf v i else wordOf v (1 - i)
  | presetSingleRegisterDouble a r v t => fillRegisters a r 4 fun i =>
      if t = REAL_NORMAL then wordOf v i else wordOf v (3 - i)
  | forceSingleCoil a r v => fillHeader a FORCE_SINGLE_COIL r (cmodBool v)
  | forceMultipleCoils a d n v => fillCoils a d n v
  | loopbackTest a => fillHeader a LOOP_BACK_TEST 0 0xA537

/-- The loop of an operation and what follows it. -/
def converse : Operation → Call WORD
  | readOutputRegisters _ _ n v | readInputRegisters _ _ n v => do
      let r ← exchange (readAttempt txRxMessage (shortToWord (toShort (3 + 2 * n.toNat)))
        (unpackRegisters (toShort (3 + 2 * n.toNat)))) v
      pure r.1
  | readOutputStatus _ _ n v | readInputStatus _ _ n v => do
      let r ← exchange (readAttempt txRxMessage (3 + (n.toNat + 7) / 8) (unpackStatus n.toNat)) v
      pure r.1
  | presetMultipleRegisters _ _ n _ => writeExchange txRxMessage ((7 + 2 * n.toNat) % 2 ^ 16)
  | presetSingleRegisterFloat .. => writeExchange txRxMessage 11
  | presetSingleRegisterDouble .. => writeExchange txRxMessage 15
  | forceMultipleCoils _ _ n _ => writeExchange txRxMessage (7 + (n.toNat + 7) / 8)
  | _ => writeExchange txRxMessage 6

theorem perform_eq (op : Operation) : perform op = op.fill >>= fun _ => op.converse := by
  cases op with
  | readOutputRegisters | readInputRegisters | readOutputStatus | readInputStatus =>
      exact bind_assoc _ _ _
  | _ => rfl

/-! ## The footprint of an operation -/

variable {I : Object → Prop}

theorem keeps_fill (op : Operation)
    (closed : ClosedAccess (queryBelow op.queryLength) (queryBelow op.queryLength) I) :
    Keeps I op.fill := by
  cases op with
  | presetMultipleRegisters a d n v => exact keeps_fillRegisters closed a d n (Nat.le_refl _) v
  | presetSingleRegisterFloat a r v t => exact keeps_fillRegisters closed a r 2 (Nat.le_refl _) _
  | presetSingleRegisterDouble a r v t => exact keeps_fillRegisters closed a r 4 (Nat.le_refl _) _
  | forceMultipleCoils a d n v => exact keeps_fillCoils closed a d n (Nat.le_refl _) v
  | _ => exact keeps_fillHeader closed (Nat.le_refl 6) _ _ _ _

theorem fill_returns (op : Operation) : Returns op.fill := by
  have registers : ∀ a d n v, Returns (fillRegisters a d n v) := by
    intro a d n v
    apply (Returns.modify _).bind
    intro _
    apply (Returns.modify _).bind
    intro _
    exact Returns.loop (fun k _ => (Returns.modify _).bind fun _ => .modify _) _ _
  cases op with
  | presetMultipleRegisters a d n v => exact registers a d n v
  | presetSingleRegisterFloat a r v t => exact registers a r 2 _
  | presetSingleRegisterDouble a r v t => exact registers a r 4 _
  | forceMultipleCoils a d n v =>
      apply (Returns.modify _).bind
      intro _
      apply (Returns.modify _).bind
      intro _
      refine Returns.bind (Returns.loop (fun k c => ?_) _ _) fun _ => .pure _
      apply Returns.ite
      · exact Returns.bind (fun _ => trivial) fun byte => (Returns.modify _).bind fun _ => .pure _
      · exact .pure _
  | _ => exact .modify _

/-- The loop of an operation is a read, whose unpacking stays inside the reply, or a write. -/
theorem converse_cases (op : Operation) (allowed : op.Allowed) :
    (op.queryLength = 6 ∧ ∃ (α : Type) (unpack : α → Call α) (v : α),
      op.converse = (exchange (readAttempt txRxMessage op.replyLength unpack) v >>=
        fun r => pure r.1) ∧
      ∀ I : Object → Prop, ClosedExchange 6 op.replyLength I → ∀ v, Keeps I (unpack v)) ∨
    (op.replyLength = 6 ∧ op.converse = writeExchange txRxMessage op.queryLength) := by
  cases op with
  | readOutputRegisters a d n v | readInputRegisters a d n v =>
      obtain ⟨-, word, count⟩ := registers_of_le allowed.2
      refine .inl ⟨rfl, _, unpackRegisters (toShort (3 + 2 * n.toNat)), v, ?_, ?_⟩
      · simp only [converse, word, replyLength]
      · exact fun I closed => keeps_unpackRegisters closed.toClosedAccess count (Nat.le_refl _)
  | readOutputStatus a d n v | readInputStatus a d n v =>
      exact .inl ⟨rfl, _, unpackStatus n.toNat, v, rfl, fun I closed =>
        keeps_unpackStatus closed.toClosedAccess (Nat.le_refl _)⟩
  | presetMultipleRegisters a d n v =>
      have few : n.toNat ≤ 123 := allowed.2
      have word : (7 + 2 * n.toNat) % 2 ^ 16 = 7 + 2 * n.toNat := Nat.mod_eq_of_lt (by omega)
      refine .inr ⟨rfl, ?_⟩
      simp only [converse, word, queryLength]
  | _ => exact .inr ⟨rfl, rfl⟩

/-- **The footprint of the loop of an operation.** -/
theorem keeps_converse (op : Operation) (allowed : op.Allowed)
    (closed : ClosedExchange op.queryLength op.replyLength I) : Keeps I op.converse := by
  have long := op.replyLength_ge allowed
  rcases op.converse_cases allowed with ⟨six, α, unpack, v, body, unpacked⟩ | ⟨six, body⟩
  · rw [six] at closed
    rw [body]
    exact (keeps_exchange (keeps_readAttempt closed long op.replyLength_lt (unpacked I closed))
      v).bind fun r => .pure r.1
  · rw [six] at closed
    rw [body]
    exact keeps_writeExchange closed op.queryLength_ge

end Operation

/-! ## The record of accesses -/

/-- Every access recorded is below `cap`. -/
def Object.Within (cap : Nat) (s : Object) : Prop := ∀ x ∈ s.touched, x.index < cap

theorem closed_within {reads writes : Arr → Nat → Prop} {sends : Nat → Prop} {cap : Nat}
    (boundedReads : ∀ a i, reads a i → i < cap) (boundedWrites : ∀ a i, writes a i → i < cap) :
    Closed reads writes sends (Object.Within cap) where
  touch {s a i} allowed within x member := by
    rcases List.mem_cons.1 member with rfl | old
    · exact boundedReads a i allowed
    · exact within x old
  touchBlock {s a n} allowed within x member := by
    rcases List.mem_append.1 member with new | old
    · obtain ⟨i, inside, rfl⟩ := List.mem_map.1 new
      exact boundedReads a i (allowed i (List.mem_range.1 inside))
    · exact within x old
  write {s a i v} allowed within x member := by
    rcases List.mem_cons.1 member with rfl | old
    · exact boundedWrites a i allowed
    · exact within x old
  writeBlock {s a i bytes} allowed within x member := by
    rcases List.mem_append.1 member with new | old
    · obtain ⟨k, inside, rfl⟩ := List.mem_map.1 new
      exact boundedWrites a (i + k) (allowed k (List.mem_range.1 inside))
    · exact within x old
  replace _ within := within
  beginExchange within := within
  send _ within := within

/-- An access stays in the record. -/
theorem closed_touched (reads writes : Arr → Nat → Prop) (sends : Nat → Prop) (x : Access) :
    Closed reads writes sends fun s => x ∈ s.touched where
  touch _ member := List.mem_cons_of_mem _ member
  touchBlock _ member := List.mem_append_right _ member
  write _ member := List.mem_cons_of_mem _ member
  writeBlock _ member := List.mem_append_right _ member
  replace _ member := member
  beginExchange member := member
  send _ member := member

/-! ## What an exchange surely touches -/

/-- The port is open in RTU mode and takes the next query. -/
structure Object.Ready (s : Object) : Prop where
  opened : s.opened = true
  rtu : s.mode = .rtu
  takes : (s.port s.exchanges).writeQuery = true

theorem closed_ready (reads writes : Arr → Nat → Prop) :
    ClosedAccess reads writes Object.Ready where
  touch _ ready := ⟨ready.opened, ready.rtu, ready.takes⟩
  touchBlock _ ready := ⟨ready.opened, ready.rtu, ready.takes⟩
  write _ ready := ⟨ready.opened, ready.rtu, ready.takes⟩
  writeBlock _ ready := ⟨ready.opened, ready.rtu, ready.takes⟩

variable {lq lr : Nat} {s : Object} {x : Access}

/-- The checksum is written behind the query. -/
theorem transmit_touches (lq : Nat) (s : Object) :
    wp (transmit lq) (fun _ t => ⟨.abyQuery, lq + 1⟩ ∈ t.touched) (fun _ _ => False) s := by
  simp [transmit]

/-- The buffer is cleared up to the checksum of the response. -/
theorem receive_touches (e : Exchange) (long : 4 ≤ lr) (small : lr + 2 < 2 ^ 32) (s : Object) :
    wp (receive e lr) (fun _ t => ⟨.abyBuffer, lr + 1⟩ ∈ t.touched)
      (fun _ t => ⟨.abyBuffer, lr + 1⟩ ∈ t.touched) s := by
  have closed : ClosedExchange 0 lr fun t => ⟨.abyBuffer, lr + 1⟩ ∈ t.touched :=
    closed_touched _ _ _ _
  refine Keeps.wp_bind_left ?_ fun _ => keeps_takeResponse closed.toClosedAccess e
    (covers_footprint long small) (by omega)
  rw [wp_storeBlock]
  apply List.mem_append_left
  exact List.mem_map.2 ⟨lr + 1, by simp, by simp⟩

/-- **An exchange reaches behind both messages**: it touches the last byte of the query's checksum,
and the place of the last byte of the response's. -/
theorem txRxMessage_touches (ready : s.Ready) (long : 4 ≤ lr) (small : lr + 2 < 2 ^ 32)
    (last : x = ⟨.abyQuery, lq + 1⟩ ∨ x = ⟨.abyBuffer, lr + 1⟩) :
    wp (txRxMessage lq lr) (fun _ t => x ∈ t.touched) (fun _ t => x ∈ t.touched) s := by
  have closed : ClosedExchange lq lr fun t => x ∈ t.touched := closed_touched _ _ _ _
  have body : wp (transmit lq) (fun _ => wp (receive (s.port s.exchanges) lr)
      (fun _ t => x ∈ t.touched) (fun _ t => x ∈ t.touched)) (fun _ t => x ∈ t.touched)
      s.beginExchange := by
    rcases last with rfl | rfl
    · exact wp_of_returns (transmit_touches lq _) fun _ t member =>
        keeps_receive closed.toClosedAccess _ (covers_footprint long small) (by omega) t member
    · exact wp_of_returns (transmit_touches lq _) fun _ t _ => receive_touches _ long small t
  simpa [txRxMessage, lock, ready.opened, ready.rtu, ready.takes] using body

/-- So does the loop of an operation, in its first turn. -/
theorem Operation.converse_touches (op : Operation) (allowed : op.Allowed) (ready : s.Ready)
    (last : x = ⟨.abyQuery, op.queryLength + 1⟩ ∨ x = ⟨.abyBuffer, op.replyLength + 1⟩) :
    wp op.converse (fun _ t => x ∈ t.touched) (fun _ t => x ∈ t.touched) s := by
  have long := op.replyLength_ge allowed
  have touches := txRxMessage_touches ready long op.replyLength_lt last
  have closed : ClosedExchange op.queryLength op.replyLength fun t => x ∈ t.touched :=
    closed_touched _ _ _ _
  rcases op.converse_cases allowed with ⟨six, α, unpack, v, body, unpacked⟩ | ⟨six, body⟩
  · rw [six] at closed touches
    have keeps := keeps_readAttempt closed long op.replyLength_lt (unpacked _ closed)
    rw [body]
    refine Keeps.wp_bind_left (wp_exchange_of_first keeps ?_) fun r => .pure r.1
    exact Keeps.wp_bind_left touches
      (keeps_takeReply closed.toClosedAccess long (unpacked _ closed) v)
  · rw [six] at closed touches
    have keeps := keeps_writeAttempt closed op.queryLength_ge
    rw [body]
    refine Keeps.wp_bind_left (wp_exchange_of_first keeps ?_) fun r => .pure r.1
    exact Keeps.wp_bind_left touches (keeps_takeEcho closed.toClosedAccess op.queryLength_ge)

/-! ## The bound -/

/-- An operation whose messages fit touches existing elements only, whatever the port answers. -/
theorem Operation.inBounds_of_fits (op : Operation) (allowed : op.Allowed) (fits : op.Fits)
    (s : Object) : op.InBounds s := by
  obtain ⟨query, reply⟩ := op.fits_iff.1 fits
  have filled : Keeps (Object.Within (respBuffer * 2)) op.fill := by
    apply op.keeps_fill
    have bounded : ∀ a i, queryBelow op.queryLength a i → i < respBuffer * 2 := by
      intro a i inside
      cases a with
      | abyQuery =>
          have below : i < op.queryLength := inside
          omega
      | abyReply | abyBuffer => exact inside.elim
    have closed : Closed _ _ (fun _ => True) _ := closed_within bounded bounded
    exact closed.toClosedAccess
  have conversed : Keeps (Object.Within (respBuffer * 2)) op.converse := by
    apply op.keeps_converse allowed
    apply closed_within
    · intro a i inside
      cases a <;> simp only [footprint] at inside <;> omega
    · intro a i inside
      cases a <;> simp only [exchangeWrites] at inside <;> omega
  have whole := (filled.bind fun _ => conversed) { s with touched := [] } (by simp [Object.Within])
  rw [← op.perform_eq] at whole
  exact wp_iff_finalState.1 whole

/-- An operation one of whose messages does not fit leaves the arrays as soon as the port takes its
query. -/
theorem Operation.not_inBounds_of_not_fits (op : Operation) (allowed : op.Allowed)
    (large : ¬ op.Fits) (ready : s.Ready) : ¬ op.InBounds s := by
  intro within
  rw [op.fits_iff] at large
  obtain ⟨x, last, outside⟩ : ∃ x : Access,
      (x = ⟨.abyQuery, op.queryLength + 1⟩ ∨ x = ⟨.abyBuffer, op.replyLength + 1⟩) ∧
        ¬ x.index < respBuffer * 2 := by
    by_cases query : op.queryLength + 2 ≤ respBuffer * 2
    · refine ⟨⟨.abyBuffer, op.replyLength + 1⟩, .inr rfl, ?_⟩
      show ¬ op.replyLength + 1 < respBuffer * 2
      omega
    · refine ⟨⟨.abyQuery, op.queryLength + 1⟩, .inl rfl, ?_⟩
      show ¬ op.queryLength + 1 < respBuffer * 2
      omega
  have reached : wp (perform op) (fun _ t => x ∈ t.touched) (fun _ t => x ∈ t.touched)
      { s with touched := [] } := by
    have filled := op.fill_returns.keeps (s := { s with touched := [] })
      (op.keeps_fill (closed_ready _ _)) ⟨ready.opened, ready.rtu, ready.takes⟩
    rw [op.perform_eq, wp_bind]
    exact wp_of_returns filled fun _ t still => op.converse_touches allowed still last
  exact outside (within x (wp_iff_finalState.1 reached))

/-- **The arrays have room for short messages only.**  An operation with a quantity the protocol
allows stays inside the arrays in every RTU exchange exactly when it fits. -/
theorem in_bounds_iff_fits (op : Operation) (allowed : op.Allowed) :
    (∀ s : Object, s.mode = .rtu → op.InBounds s) ↔ op.Fits := by
  constructor
  · intro within
    by_contra large
    exact op.not_inBounds_of_not_fits allowed large (s := .fresh fun _ => .silent) ⟨rfl, rfl, rfl⟩
      (within _ rfl)
  · intro fits s _
    exact op.inBounds_of_fits allowed fits s

/-- Reading three registers is the most that is safe. -/
theorem in_bounds_iff_fits_threeRegisters :
    (Operation.readOutputRegisters 1 100 3 fun _ => 0).Allowed ∧
      ∀ s : Object, s.mode = .rtu →
        (Operation.readOutputRegisters 1 100 3 fun _ => 0).InBounds s :=
  ⟨⟨by decide, by decide⟩, (in_bounds_iff_fits (.readOutputRegisters 1 100 3 fun _ => 0)
    ⟨by decide, by decide⟩).2 (show (3 : WORD).toNat ≤ 3 by decide)⟩

/-! ## The operations of ModbusThread.h -/

def REGISTER_BASE : WORD := 100
def READ_REG_NUM : WORD := 5
def WRITE_REG_NUM : WORD := 3

/-- The operation `SetTwoWordToPLC` issues, at site address 1 -/
def setTwoWordToPLC (dt : WORD) (value : Nat → WORD) : Operation :=
  .presetMultipleRegisters 1 dt WRITE_REG_NUM value

/-- The operation `QueryMessageFromPLC` issues -/
def queryMessageFromPLC (anRegValues : Nat → WORD) : Operation :=
  .readOutputRegisters 1 REGISTER_BASE READ_REG_NUM anRegValues

/-- The service's own operations leave the arrays on a fresh object, even if nothing is answered. -/
theorem plc_operations_overrun :
    (setTwoWordToPLC 100 fun _ => 0).Allowed ∧
      ¬ (setTwoWordToPLC 100 fun _ => 0).InBounds (.fresh fun _ => .silent) ∧
      (queryMessageFromPLC fun _ => 0).Allowed ∧
      ¬ (queryMessageFromPLC fun _ => 0).InBounds (.fresh fun _ => .silent) :=
  ⟨⟨by decide, by decide⟩, by decide, ⟨by decide, by decide⟩, by decide⟩

end TizerVision.Modbus
