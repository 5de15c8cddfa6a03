/-
# Modbus.Footprint — which elements an exchange reads and writes

An exchange with a query of `lq` and a response of `lr` bytes touches the query up to its checksum,
the reply up to `lr` and the buffer up to the checksum of the response (`footprint`); of the query it
writes the two bytes of the checksum only (`exchangeWrites`).  Both are stated once, as a rule for
every invariant: an invariant that survives accesses inside the footprint survives the exchange.
-/
import TizerVision.Modbus.Operations

namespace TizerVision.Modbus

set_option autoImplicit false

open Theory

/-! ## Invariants and accesses -/

/-- `I` survives reading where `reads` allows it and writing where `writes` does. -/
structure ClosedAccess (reads writes : Arr → Nat → Prop) (I : Object → Prop) : Prop where
  touch : ∀ {s : Object} {a : Arr} {i : Nat}, reads a i → I s → I (s.touch a i)
  touchBlock : ∀ {s : Object} {a : Arr} {n : Nat}, (∀ i < n, reads a i) → I s → I (s.touchBlock a n)
  write : ∀ {s : Object} {a : Arr} {i : Nat} {v : BYTE}, writes a i → I s → I (s.write a i v)
  writeBlock : ∀ {s : Object} {a : Arr} {i : Nat} {bytes : List BYTE},
    (∀ k < bytes.length, writes a (i + k)) → I s → I (s.writeBlock a i bytes)

/-- Where nothing is written, it is enough to survive reading. -/
theorem ClosedAccess.of_reads {reads : Arr → Nat → Prop} {I : Object → Prop}
    (touch : ∀ {s : Object} {a : Arr} {i : Nat}, reads a i → I s → I (s.touch a i))
    (touchBlock : ∀ {s : Object} {a : Arr} {n : Nat}, (∀ i < n, reads a i) → I s →
      I (s.touchBlock a n)) : ClosedAccess reads (fun _ _ => False) I where
  touch := touch
  touchBlock := touchBlock
  write impossible := impossible.elim
  writeBlock {s a i bytes} impossible holds := by
    cases bytes with
    | nil =>
        rw [Object.writeBlock_nil]
        exact holds
    | cons byte rest => exact (impossible 0 (by simp)).elim

/-- The first `n` bytes of the query as the port is handed them. -/
def Object.onLine (s : Object) (n : Nat) : List BYTE :=
  match s.mode with
  | .rtu => s.block .abyQuery n
  | .ascii => cleared (asciiFrame (s.block .abyQuery n))

theorem Object.onLine_rtu {s : Object} (binary : s.mode = .rtu) (n : Nat) :
    s.onLine n = s.block .abyQuery n := by
  rw [Object.onLine, binary]

theorem Object.onLine_ascii {s : Object} (ascii : s.mode = .ascii) (n : Nat) :
    s.onLine n = cleared (asciiFrame (s.block .abyQuery n)) := by
  rw [Object.onLine, ascii]

/-- `I` survives the bookkeeping of an exchange too, and sending the first `n` bytes of the query for
the `n` that `sends` allows. -/
structure Closed (reads writes : Arr → Nat → Prop) (sends : Nat → Prop) (I : Object → Prop) : Prop
    extends ClosedAccess reads writes I where
  replace : ∀ {s : Object} {a : Arr} {contents : Nat → BYTE},
    a ≠ .abyQuery → I s → I (s.replace a contents)
  beginExchange : ∀ {s : Object}, I s → I s.beginExchange
  send : ∀ {s : Object} {n : Nat}, sends n → I s → I (s.send (s.onLine n))

variable {writes : Arr → Nat → Prop} {I : Object → Prop} {lq lr : Nat}

/-- An exchange does not change the mode. -/
theorem Closed.inMode {reads : Arr → Nat → Prop} {sends : Nat → Prop}
    (closed : Closed reads writes sends I) (mode : Mode) :
    Closed reads writes sends fun s => I s ∧ s.mode = mode where
  touch allowed kept := ⟨closed.touch allowed kept.1, kept.2⟩
  touchBlock allowed kept := ⟨closed.touchBlock allowed kept.1, kept.2⟩
  write allowed kept := ⟨closed.write allowed kept.1, kept.2⟩
  writeBlock allowed kept := ⟨closed.writeBlock allowed kept.1, kept.2⟩
  replace other kept := ⟨closed.replace other kept.1, kept.2⟩
  beginExchange kept := ⟨closed.beginExchange kept.1, kept.2⟩
  send allowed kept := ⟨closed.send allowed kept.1, kept.2⟩

/-- The elements an exchange touches. -/
def footprint (lq lr : Nat) : Arr → Nat → Prop
  | .abyQuery, i => i < lq + 2
  | .abyReply, i => i < lr
  | .abyBuffer, i => i < lr + 2

/-- The elements an exchange writes. -/
def exchangeWrites (lq lr : Nat) : Arr → Nat → Prop
  | .abyQuery, i => i = lq ∨ i = lq + 1
  | .abyReply, i => i < lr
  | .abyBuffer, i => i < lr + 2

/-- The invariants an exchange keeps. -/
abbrev ClosedExchange (lq lr : Nat) (I : Object → Prop) : Prop :=
  Closed (footprint lq lr) (exchangeWrites lq lr) (fun n => n = lq ∨ n = lq + 2) I

/-! An exchange leaves the query in front of the checksum alone. -/

theorem query_write {s : Object} {a : Arr} {i j : Nat} {v : BYTE}
    (allowed : exchangeWrites lq lr a i) (below : j < lq) :
    (s.write a i v).cell .abyQuery j = s.cell .abyQuery j := by
  rw [Object.write_cell, if_neg]
  rintro ⟨rfl, rfl⟩
  rcases allowed with rfl | rfl <;> omega

theorem query_writeBlock {s : Object} {a : Arr} {i j : Nat} {bytes : List BYTE}
    (allowed : ∀ k < bytes.length, exchangeWrites lq lr a (i + k)) (below : j < lq) :
    (s.writeBlock a i bytes).cell .abyQuery j = s.cell .abyQuery j := by
  rw [Object.writeBlock_cell, if_neg]
  rintro ⟨rfl, from_start, inside⟩
  have written := allowed (j - i) (by omega)
  rw [Nat.add_sub_cancel' from_start] at written
  rcases written with rfl | rfl <;> omega

theorem query_replace {s : Object} {a : Arr} {contents : Nat → BYTE} (other : a ≠ .abyQuery)
    (j : Nat) : (s.replace a contents).cell .abyQuery j = s.cell .abyQuery j := by
  rw [Object.replace_cell, if_neg other.symm]

/-! ## The transport -/

/-- After the first four bytes, the rest of the response and its checksum are asked for. -/
theorem restToRead_add_two (long : 4 ≤ lr) (small : lr + 2 < 2 ^ 32) :
    restToRead (lr + 2) = lr - 2 := by
  unfold restToRead initialRead
  rw [Nat.sub_add_comm (by omega), Nat.add_mod_right, Nat.mod_eq_of_lt (by omega)]
  omega

/-- All that is read and written while a response of `lr` bytes is taken.  The first four bytes are
stored, and an exception looked for in the first five, however short the response is to be. -/
structure Covers (reads writes : Arr → Nat → Prop) (lr : Nat) : Prop where
  checked : ∀ i < lr + 2, reads .abyBuffer i
  exception : ∀ i < 5, reads .abyBuffer i
  cleared : ∀ i < lr + 2, writes .abyBuffer i
  received : ∀ i < 4 + restToRead (lr + 2), writes .abyBuffer i
  reply : ∀ i < lr, writes .abyReply i

theorem covers_footprint (long : 4 ≤ lr) (small : lr + 2 < 2 ^ 32) :
    Covers (footprint lq lr) (exchangeWrites lq lr) lr where
  checked _ below := below
  exception i below := by
    show i < lr + 2
    omega
  cleared _ below := below
  received i below := by
    rw [restToRead_add_two long small] at below
    show i < lr + 2
    omega
  reply _ below := below

section Response

variable {reads : Arr → Nat → Prop}

theorem keeps_verifyRespCRC (closed : ClosedAccess reads writes I) {n : Nat}
    (below : ∀ i < n + 2, reads .abyBuffer i) : Keeps I (verifyRespCRC n) := by
  apply (keeps_loadBlock fun s => closed.touchBlock fun i small => below i (by omega)).bind
  intro response
  apply (keeps_load fun s => closed.touch (below n (by omega))).bind
  intro high
  apply Keeps.ite
  · intro _
    exact (keeps_load fun s => closed.touch (below (n + 1) (by omega))).bind fun low => .pure _
  · intro _
    exact .pure _

theorem keeps_readResponseRTU (closed : ClosedAccess reads writes I) (e : Exchange)
    (covers : Covers reads writes lr) : Keeps I (readResponseRTU e (lr + 2)) := by
  unfold readResponseRTU
  cases e.firstRead with
  | none => exact .pure _
  | some delivered =>
      have four : (delivered.take initialRead).length ≤ 4 := List.length_take_le _ _
      refine Keeps.bind (keeps_storeBlock fun s => closed.writeBlock fun k inside =>
        covers.received _ (by omega)) fun _ => ?_
      apply Keeps.ite
      · intro full
        apply Keeps.ite
        · intro _
          exact .pure _
        · intro _
          cases e.secondRead with
          | none => exact .pure _
          | some more =>
              have rest : (more.take (restToRead (lr + 2))).length ≤ restToRead (lr + 2) :=
                List.length_take_le _ _
              exact Keeps.bind (keeps_storeBlock fun s => closed.writeBlock fun k inside =>
                covers.received _ (by omega)) fun _ => .pure _
      · intro _
        exact .pure _

theorem keeps_acceptResponse (closed : ClosedAccess reads writes I) (dwRead : Nat)
    (covers : Covers reads writes lr) (positive : 0 < lr) :
    Keeps I (acceptResponse dwRead lr) := by
  have set : ¬ lr = 0 := by omega
  unfold acceptResponse
  simp only [set, if_false, false_and]
  apply (keeps_load fun s => closed.touch (covers.exception 1 (by omega))).bind
  intro function
  apply Keeps.ite
  · intro _
    apply (keeps_verifyRespCRC closed covers.exception).bind
    intro valid
    apply Keeps.ite
    · intro _
      exact (keeps_load fun s => closed.touch (covers.exception 2 (by omega))).bind
        fun code => .pure _
    · intro _
      exact .pure _
  · intro _
    apply (keeps_verifyRespCRC closed covers.checked).bind
    intro valid
    apply Keeps.ite
    · intro _ s holds
      simp only [wp_bind, wp_loadBlock, wp_storeBlock, wp_pure]
      apply closed.writeBlock
      · intro k inside
        rw [Object.length_block] at inside
        exact covers.reply _ (by omega)
      · exact closed.touchBlock (fun i inside => covers.checked i (by omega)) holds
    · intro _
      exact .pure _

theorem keeps_takeResponse (closed : ClosedAccess reads writes I) (e : Exchange)
    (covers : Covers reads writes lr) (positive : 0 < lr) : Keeps I (takeResponse e lr) := by
  apply (keeps_readResponseRTU closed e covers).bind
  intro read
  cases read with
  | none => exact .pure _
  | some dwRead =>
      apply Keeps.ite
      · intro _
        exact .pure _
      · intro _
        exact keeps_acceptResponse closed dwRead covers positive

theorem keeps_receive (closed : ClosedAccess reads writes I) (e : Exchange)
    (covers : Covers reads writes lr) (positive : 0 < lr) : Keeps I (receive e lr) := by
  refine Keeps.bind (keeps_storeBlock fun s => closed.writeBlock fun k inside => ?_) fun _ =>
    keeps_takeResponse closed e covers positive
  rw [List.length_replicate] at inside
  exact covers.cleared _ (by omega)

end Response

theorem keeps_transmit (closed : ClosedExchange lq lr I) (binary : ∀ s, I s → s.mode = .rtu) :
    Keeps I (transmit lq) := by
  intro s holds
  simp only [transmit, wp_bind, wp_loadBlock, wp_store, wp_modify]
  have read : ∀ t, I t → ∀ n ≤ lq + 2, I (t.touchBlock .abyQuery n) := by
    intro t kept n inside
    apply closed.touchBlock _ kept
    intro i below
    show i < lq + 2
    omega
  have completed := closed.write (v := lobyte (calcCrcFast (s.block .abyQuery lq)))
    (show exchangeWrites lq lr .abyQuery (lq + 1) from .inr rfl)
    (closed.write (v := hibyte (calcCrcFast (s.block .abyQuery lq)))
      (show exchangeWrites lq lr .abyQuery lq from .inl rfl) (read s holds lq (by omega)))
  have sent := closed.send (.inr rfl) (read _ completed (lq + 2) (Nat.le_refl _))
  rwa [Object.onLine_rtu (binary _ (read _ completed (lq + 2) (Nat.le_refl _)))] at sent

/-- **The footprint of an exchange.** -/
theorem keeps_txRxMessage (closed : ClosedExchange lq lr I) (long : 4 ≤ lr)
    (small : lr + 2 < 2 ^ 32) : Keeps I (txRxMessage lq lr) := by
  unfold txRxMessage lock
  rw [if_pos rfl]
  apply Keeps.get_bind_fixed Object.mode
  intro s
  replace closed := closed.inMode s.mode
  apply Keeps.ite
  · intro _
    refine Keeps.bind (Keeps.modify fun s => closed.beginExchange) fun _ => ?_
    apply Keeps.ite
    · intro ascii
      refine Keeps.bind (Keeps.modify fun t kept => ?_) fun _ => ?_
      · have sent := closed.send (.inl rfl) kept
        rwa [Object.onLine_ascii (kept.2.trans ascii)] at sent
      · refine Keeps.bind (Keeps.modify fun s => closed.replace (by decide)) fun _ => ?_
        exact Keeps.bind (Keeps.modify fun s => closed.replace (by decide)) fun _ => .pure _
    · intro notAscii
      have binary : s.mode = .rtu := by
        cases mode : s.mode with
        | rtu => rfl
        | ascii => exact (notAscii mode).elim
      apply (keeps_transmit closed fun t kept => kept.2.trans binary).bind
      intro _
      apply Keeps.ite
      · intro _
        exact keeps_receive closed.toClosedAccess _ (covers_footprint long small) (by omega)
      · intro _
        exact .pure _
  · intro _
    exact .pure _

/-! ## The exchange loop -/

section Loop

variable {α : Type} {attempt : α → Call (WORD × α)}

theorem keeps_throwModbusException (code : WORD) : Keeps I (throwModbusException code) := by
  apply Keeps.get_bind
  intro s
  apply Keeps.ite
  · intro _
    exact .throw _
  · intro _
    exact .pure _

theorem keeps_retryLoop (turn : ∀ a, Keeps I (attempt a)) (further : Nat) (a : α) :
    Keeps I (retryLoop attempt further a) := by
  induction further generalizing a with
  | zero => exact turn a
  | succ further ih =>
      apply (turn a).bind
      intro r
      apply Keeps.ite
      · intro _
        exact ih r.2
      · intro _
        exact .pure r

/-- What the first turn establishes and every turn keeps holds when the operation is over. -/
theorem wp_exchange_of_first (turn : ∀ a, Keeps I (attempt a)) {a : α} {s : Object}
    (first : wp (attempt a) (fun _ => I) (fun _ => I) s) :
    wp (exchange attempt a) (fun _ => I) (fun _ => I) s := by
  have looped : wp (retryLoop attempt (s.retries.toNat - 1) a) (fun _ => I) (fun _ => I) s := by
    cases s.retries.toNat - 1 with
    | zero => exact first
    | succ further =>
        apply Keeps.wp_bind_left first
        intro r
        apply Keeps.ite
        · intro _
          exact keeps_retryLoop turn further r.2
        · intro _
          exact .pure r
  show wp (retryLoop attempt (s.retries.toNat - 1) a >>= fun r => throwModbusException r.1 >>=
    fun _ => pure r) (fun _ => I) (fun _ => I) s
  apply Keeps.wp_bind_left looped
  intro r
  exact (keeps_throwModbusException r.1).bind fun _ => .pure r

theorem keeps_exchange (turn : ∀ a, Keeps I (attempt a)) (a : α) : Keeps I (exchange attempt a) :=
  fun s holds => wp_exchange_of_first turn (turn a s holds)

end Loop

/-! ## Checking and unpacking the reply -/

theorem keeps_sameHeader (closed : ClosedAccess (footprint lq lr) writes I) (long : 4 ≤ lr) :
    Keeps I sameHeader := by
  have reply : ∀ i < 2, footprint lq lr .abyReply i := by
    intro i below
    show i < lr
    omega
  have query : ∀ i < 2, footprint lq lr .abyQuery i := by
    intro i below
    show i < lq + 2
    omega
  apply (keeps_load fun s => closed.touch (reply 0 (by omega))).bind
  intro replyAddr
  apply (keeps_load fun s => closed.touch (query 0 (by omega))).bind
  intro queryAddr
  apply Keeps.ite
  · intro _
    exact .pure _
  · intro _
    apply (keeps_load fun s => closed.touch (reply 1 (by omega))).bind
    intro replyFunction
    exact (keeps_load fun s => closed.touch (query 1 (by omega))).bind fun queryFunction => .pure _

theorem keeps_unpackRegisters (closed : ClosedAccess (footprint lq lr) writes I)
    {nReplyLength : Int} {q : Nat} (count : ((nReplyLength - 2) / 2).toNat = q)
    (inside : 3 + 2 * q ≤ lr) (regs : Nat → WORD) : Keeps I (unpackRegisters nReplyLength regs) := by
  unfold unpackRegisters
  rw [count]
  apply Keeps.loop
  intro k regs below
  have reply : ∀ i < 3 + 2 * q, footprint lq lr .abyReply i := by
    intro i small
    show i < lr
    omega
  apply (keeps_load fun s => closed.touch (reply _ (by omega))).bind
  intro high
  exact (keeps_load fun s => closed.touch (reply _ (by omega))).bind fun low => .pure _

theorem keeps_unpackStatus (closed : ClosedAccess (footprint lq lr) writes I) {q : Nat}
    (inside : 3 + (q + 7) / 8 ≤ lr) (coils : Nat → BYTE) : Keeps I (unpackStatus q coils) := by
  intro s holds
  have looped : wp (loop unpackCoil q (coils, ⟨0, 3⟩))
      (fun v t => v.2.wrap = ⟨q % 8, 3 + q / 8⟩ ∧ I t) (fun _ => I) s := by
    refine wp_loop (fun k (v : (Nat → BYTE) × Cursor) t =>
      v.2.wrap = ⟨k % 8, 3 + k / 8⟩ ∧ I t) ⟨rfl, holds⟩ ?_
    rintro k v t below ⟨place, kept⟩
    simp only [unpackCoil, wp_bind, wp_load, wp_pure]
    refine ⟨Cursor.wrap_next place, closed.touch ?_ kept⟩
    rw [place]
    show 3 + k / 8 < lr
    omega
  rw [unpackStatus, wp_bind]
  exact wp_imp looped fun v t ended => ended.2

theorem keeps_checkEcho (closed : ClosedAccess (footprint lq lr) writes I) (left iReg : Nat)
    (inReply : iReg + left ≤ lr) (inQuery : iReg + left ≤ lq) : Keeps I (checkEcho iReg left) := by
  induction left generalizing iReg with
  | zero => exact .pure _
  | succ left ih =>
      have inside : footprint lq lr .abyReply iReg ∧ footprint lq lr .abyQuery iReg := by
        show iReg < lr ∧ iReg < lq + 2
        omega
      apply (keeps_load fun s => closed.touch inside.1).bind
      intro reply
      apply (keeps_load fun s => closed.touch inside.2).bind
      intro query
      apply Keeps.ite
      · intro _
        exact .pure _
      · intro _
        exact ih (iReg + 1) (by omega) (by omega)

theorem keeps_takeReply {α : Type} (closed : ClosedAccess (footprint lq lr) writes I)
    (long : 4 ≤ lr) {unpack : α → Call α} (unpacked : ∀ v, Keeps I (unpack v)) (v : α)
    (nError : WORD) : Keeps I (takeReply unpack v nError) := by
  apply Keeps.ite
  · intro _
    apply (keeps_sameHeader closed long).bind
    intro valid
    apply Keeps.ite
    · intro _
      exact (unpacked v).bind fun values => .pure _
    · intro _
      exact .pure _
  · intro _
    exact .pure _

theorem keeps_readAttempt {α : Type} (closed : ClosedExchange 6 lr I) (long : 4 ≤ lr)
    (small : lr + 2 < 2 ^ 32) {unpack : α → Call α} (unpacked : ∀ v, Keeps I (unpack v)) (v : α) :
    Keeps I (readAttempt txRxMessage lr unpack v) :=
  (keeps_txRxMessage closed long small).bind
    (keeps_takeReply closed.toClosedAccess long unpacked v)

theorem keeps_takeEcho (closed : ClosedAccess (footprint lq 6) writes I) (long : 6 ≤ lq)
    (nError : WORD) : Keeps I (takeEcho nError) := by
  apply Keeps.ite
  · intro _
    exact (keeps_checkEcho closed 6 0 (by omega) (by omega)).bind fun code => .pure _
  · intro _
    exact .pure _

theorem keeps_writeAttempt (closed : ClosedExchange lq 6 I) (long : 6 ≤ lq) (u : Unit) :
    Keeps I (writeAttempt txRxMessage lq u) :=
  (keeps_txRxMessage closed (by omega) (by omega)).bind (keeps_takeEcho closed.toClosedAccess long)

theorem keeps_writeExchange (closed : ClosedExchange lq 6 I) (long : 6 ≤ lq) :
    Keeps I (writeExchange txRxMessage lq) :=
  (keeps_exchange (keeps_writeAttempt closed long) ()).bind fun r => .pure r.1

/-! ## Filling the query -/

/-- The query below `n`. -/
def queryBelow (n : Nat) : Arr → Nat → Prop
  | .abyQuery, i => i < n
  | _, _ => False

theorem keeps_fillHeader {n : Nat} (closed : ClosedAccess (queryBelow n) (queryBelow n) I)
    (long : 6 ≤ n) (nAddr : WORD) (function : BYTE) (first second : WORD) :
    Keeps I (fillHeader nAddr function first second) := by
  refine keeps_storeBlock fun s => closed.writeBlock fun k below => ?_
  show 0 + k < n
  have six : k < 6 := below
  omega

theorem keeps_fillRegisters {n : Nat} (closed : ClosedAccess (queryBelow n) (queryBelow n) I)
    (nAddr nDataStart nQtd : WORD) (long : 7 + 2 * nQtd.toNat ≤ n) (values : Nat → WORD) :
    Keeps I (fillRegisters nAddr nDataStart nQtd values) := by
  apply (keeps_fillHeader closed (by omega) _ _ _ _).bind
  intro _
  refine Keeps.bind (keeps_store fun s => closed.write (show 6 < n by omega)) fun _ => ?_
  apply Keeps.loop
  intro k _ below
  refine Keeps.bind (keeps_store fun s => closed.write ?_) fun _ =>
    keeps_store fun s => closed.write ?_
  · show 7 + k * 2 < n
    omega
  · show 7 + k * 2 + 1 < n
    omega

theorem keeps_fillCoils {n : Nat} (closed : ClosedAccess (queryBelow n) (queryBelow n) I)
    (nAddr nDataStart nQtd : WORD) (long : 7 + (nQtd.toNat + 7) / 8 ≤ n) (values : Nat → BYTE) :
    Keeps I (fillCoils nAddr nDataStart nQtd values) := by
  apply (keeps_fillHeader closed (by omega) _ _ _ _).bind
  intro _
  refine Keeps.bind (keeps_store fun s => closed.write (show 6 < n by omega)) fun _ => ?_
  intro s holds
  have looped : wp (loop (packCoil values) nQtd.toNat ⟨0, 7⟩)
      (fun c t => c.wrap = ⟨nQtd.toNat % 8, 7 + nQtd.toNat / 8⟩ ∧ I t) (fun _ => I) s := by
    refine wp_loop (fun k (c : Cursor) t => c.wrap = ⟨k % 8, 7 + k / 8⟩ ∧ I t) ⟨rfl, holds⟩ ?_
    rintro k c t below ⟨place, kept⟩
    have inside : queryBelow n .abyQuery c.wrap.byte := by
      rw [place]
      show 7 + k / 8 < n
      omega
    simp only [packCoil, wp_ite, wp_bind, wp_load, wp_store, wp_pure]
    split
    · exact ⟨Cursor.wrap_next place, closed.write inside (closed.touch inside kept)⟩
    · exact ⟨Cursor.wrap_next place, kept⟩
  rw [wp_bind]
  exact wp_imp looped fun c t ended => ended.2

end TizerVision.Modbus
