/-
# Modbus.Steps — an operation in three steps, and what they mean with correct slaves

An operation fills the query; then each turn of its loop exchanges the query and takes the reply
(`perform_eq_turns`).  With correct slaves:

* `wp_fill_asks` — a query just filled asks for what the caller passed, or for nothing;
* `wp_exchange_answered` — if such a query is exchanged and `ERR_OK` comes back, the slave carried out
  what is asked, and its answer is in the reply;
* `wp_take` — taken from such a reply, the caller's values are the slave's.
-/
import TizerVision.Modbus.Slave

namespace TizerVision.Modbus

set_option autoImplicit false

open Theory

/-! ## The steps -/

namespace Operation

/-- `QUERY_LENGHT` as it is passed to `TxRxMessage` -/
def wLengthQuery : Operation → Nat
  | presetMultipleRegisters _ _ n _ => (7 + 2 * n.toNat) % 2 ^ 16
  | op => op.queryLength

/-- `nReplyLength` as it is passed to `TxRxMessage` -/
def wLengthResponse : Operation → Nat
  | readOutputRegisters _ _ n _ | readInputRegisters _ _ n _ =>
      shortToWord (toShort (3 + 2 * n.toNat))
  | op => op.replyLength

/-- The reply is checked and, by a read, unpacked to the caller's array. -/
def take (nError : WORD) : Operation → Call (WORD × Operation)
  | readOutputRegisters a d n v => (fun r => (r.1, readOutputRegisters a d n r.2)) <$>
      takeReply (unpackRegisters (toShort (3 + 2 * n.toNat))) v nError
  | readInputRegisters a d n v => (fun r => (r.1, readInputRegisters a d n r.2)) <$>
      takeReply (unpackRegisters (toShort (3 + 2 * n.toNat))) v nError
  | readOutputStatus a d n v => (fun r => (r.1, readOutputStatus a d n r.2)) <$>
      takeReply (unpackStatus n.toNat) v nError
  | readInputStatus a d n v => (fun r => (r.1, readInputStatus a d n r.2)) <$>
      takeReply (unpackStatus n.toNat) v nError
  | op => (fun r => (r.1, op)) <$> takeEcho nError

/-- One turn of the loop of an operation. -/
def turn (op : Operation) : Call (WORD × Operation) := do
  let nError ← txRxMessage op.wLengthQuery op.wLengthResponse
  op.take nError

end Operation

section Loop

variable {α β : Type} {attempt : α → Call (WORD × α)} {attempt' : β → Call (WORD × β)} {g : α → β}

theorem retryLoop_map (same : ∀ a, attempt' (g a) = (fun r => (r.1, g r.2)) <$> attempt a)
    (further : Nat) (a : α) :
    retryLoop attempt' further (g a) = (fun r => (r.1, g r.2)) <$> retryLoop attempt further a := by
  induction further generalizing a with
  | zero => exact same a
  | succ further ih =>
      rw [retryLoop, retryLoop, same, map_bind, bind_map_left]
      congr 1
      funext r
      by_cases ok : r.1 = ERR_OK
      · rw [if_neg (not_not_intro ok), if_neg (not_not_intro ok)]
        rfl
      · rw [if_pos ok, if_pos ok]
        exact ih r.2

/-- Loops over turns that differ in what they carry along are the same. -/
theorem exchange_map (same : ∀ a, attempt' (g a) = (fun r => (r.1, g r.2)) <$> attempt a) (a : α) :
    exchange attempt' (g a) = (fun r => (r.1, g r.2)) <$> exchange attempt a := by
  rw [exchange, exchange, map_bind]
  congr 1
  funext s
  rw [retryLoop_map same, bind_map_left, map_bind]
  congr 1
  funext r
  rw [map_bind]
  rfl

end Loop

namespace Operation

/-- The loop of a write. -/
theorem converse_of_write {op : Operation}
    (exchanges : op.converse = writeExchange txRxMessage op.wLengthQuery)
    (reply : op.wLengthResponse = 6)
    (taken : ∀ nError, op.take nError = (fun r => (r.1, op)) <$> takeEcho nError) :
    op.converse = Prod.fst <$> exchange turn op := by
  have same : op.turn = (fun r => (r.1, op)) <$> writeAttempt txRxMessage op.wLengthQuery () := by
    rw [turn, writeAttempt, map_bind, reply]
    congr 1
    funext nError
    exact taken nError
  rw [exchange_map (g := fun _ => op) (fun _ => same) (), exchanges, writeExchange, bind_pure_comp,
    Functor.map_map]

/-- The loop of a read; `g` is the call with the caller's array. -/
theorem converse_of_read {α : Type} {lr : Nat} {unpack : α → Call α} (g : α → Operation) {v : α}
    (same : ∀ v, (g v).turn = (fun r => (r.1, g r.2)) <$> readAttempt txRxMessage lr unpack v)
    (exchanges : (g v).converse =
      (exchange (readAttempt txRxMessage lr unpack) v >>= fun r => pure r.1)) :
    (g v).converse = Prod.fst <$> exchange turn (g v) := by
  rw [exchange_map same v, exchanges, Functor.map_map, bind_pure_comp]

theorem converse_eq_turns (op : Operation) : op.converse = Prod.fst <$> exchange turn op := by
  cases op with
  | readOutputRegisters a d n v =>
      exact converse_of_read (readOutputRegisters a d n) (fun _ => (map_bind _ _ _).symm) rfl
  | readInputRegisters a d n v =>
      exact converse_of_read (readInputRegisters a d n) (fun _ => (map_bind _ _ _).symm) rfl
  | readOutputStatus a d n v =>
      exact converse_of_read (readOutputStatus a d n) (fun _ => (map_bind _ _ _).symm) rfl
  | readInputStatus a d n v =>
      exact converse_of_read (readInputStatus a d n) (fun _ => (map_bind _ _ _).symm) rfl
  | _ =>
      apply converse_of_write
      · simp only [converse, wLengthQuery, queryLength]
      · simp only [wLengthResponse, replyLength]
      · exact fun _ => rfl

/-- **An operation is its steps**: the query is filled, then turns are made. -/
theorem perform_eq_turns (op : Operation) :
    perform op = op.fill >>= fun _ => Prod.fst <$> exchange turn op := by
  rw [perform_eq, converse_eq_turns]

/-! ## What is asked -/

/-- The request the caller means, to the slave with the low byte of the address. -/
def asks : Operation → Addressed
  | readOutputRegisters a d n _ => ⟨lobyte a, .read .outputRegisters d n⟩
  | readInputRegisters a d n _ => ⟨lobyte a, .read .inputRegisters d n⟩
  | readOutputStatus a d n _ => ⟨lobyte a, .read .outputStatus d n⟩
  | readInputStatus a d n _ => ⟨lobyte a, .read .inputStatus d n⟩
  | presetMultipleRegisters a d n v => ⟨lobyte a, .presetRegisters d ((List.range n.toNat).map v)⟩
  | presetSingleRegister a r v => ⟨lobyte a, .presetRegister r v⟩
  | presetSingleRegisterFloat a r v t => ⟨lobyte a, .presetRegisters r ((List.range 2).map fun i =>
      if t = REAL_NORMAL then wordOf v i else wordOf v (1 - i))⟩
  | presetSingleRegisterDouble a r v t => ⟨lobyte a, .presetRegisters r ((List.range 4).map fun i =>
      if t = REAL_NORMAL then wordOf v i else wordOf v (3 - i))⟩
  | forceSingleCoil a r v => ⟨lobyte a, .forceCoil r v⟩
  | forceMultipleCoils a d n v =>
      ⟨lobyte a, .forceCoils d ((List.range n.toNat).map fun k => decide (v k ≠ 0))⟩
  | loopbackTest a => ⟨lobyte a, .loopback 0 0xA537⟩

/-- The operation with the caller's array as it has to be after a read. -/
def readFrom (bus : Bus) : Operation → Operation
  | readOutputRegisters a d n v => readOutputRegisters a d n fun k =>
      if k < n.toNat then (bus (lobyte a)).registers (d + BitVec.ofNat 16 k) else v k
  | readInputRegisters a d n v => readInputRegisters a d n fun k =>
      if k < n.toNat then (bus (lobyte a)).inputRegisters (d + BitVec.ofNat 16 k) else v k
  | readOutputStatus a d n v => readOutputStatus a d n fun k =>
      if k < n.toNat then boolByte ((bus (lobyte a)).coils (d + BitVec.ofNat 16 k)) else v k
  | readInputStatus a d n v => readInputStatus a d n fun k =>
      if k < n.toNat then boolByte ((bus (lobyte a)).inputs (d + BitVec.ofNat 16 k)) else v k
  | op => op

/-- No bit is left in the query where `ForceMultipleCoils` needs a 0. -/
def Prepared (s : Object) : Operation → Prop
  | forceMultipleCoils _ _ n v => s.Clean n.toNat v
  | _ => True

end Operation

/-- The query asks for what the caller of `op` means, or for nothing. -/
def Object.Asks (s : Object) (op : Operation) : Prop :=
  ∀ order, decodeMessage (s.block .abyQuery op.wLengthQuery) = some order →
    order = op.asks ∧ op.Allowed

variable {s t : Object} {nAddr first second nDataStart nQtd : WORD} {function : BYTE}

/-! ## Filling the query -/

theorem asks_of_header {op : Operation} (length : op.wLengthQuery = 6)
    (filled : t.block .abyQuery 6 = header nAddr function first second)
    (decoded : ∀ request, decodeRequest function first second [] = some request →
      ⟨lobyte nAddr, request⟩ = op.asks ∧ op.Allowed) : t.Asks op := by
  intro order found
  rw [length, filled, ← List.append_nil (header nAddr function first second),
    decodeMessage_header] at found
  obtain ⟨request, decoded_request, rfl⟩ := Option.map_eq_some_iff.1 found
  exact decoded request decoded_request

/-- A query of a read asks for a quantity in range, or for nothing. -/
theorem readRequest_eq_some {kind : Read} {start count : WORD} {request : Request}
    (found : readRequest kind start count [] = some request) :
    request = .read kind start count ∧ 1 ≤ count.toNat ∧ count.toNat ≤ kind.limit := by
  unfold readRequest at found
  split at found
  · rename_i valid
    exact ⟨(Option.some.inj found).symm, valid.2⟩
  · cases found

theorem decode_read (kind : Read) {op : Operation} (length : op.wLengthQuery = 6)
    (filled : t.block .abyQuery 6 = header nAddr kind.functionCode nDataStart nQtd)
    (asks : op.asks = ⟨lobyte nAddr, .read kind nDataStart nQtd⟩)
    (allowed : 1 ≤ nQtd.toNat ∧ nQtd.toNat ≤ kind.limit → op.Allowed) : t.Asks op := by
  apply asks_of_header length filled
  intro request found
  rw [decodeRequest_read] at found
  obtain ⟨rfl, inRange⟩ := readRequest_eq_some found
  exact ⟨asks.symm, allowed inRange⟩

theorem presetRegistersRequest_of_out_of_range (start : WORD) {count : WORD}
    (out : ¬ (1 ≤ count.toNat ∧ count.toNat ≤ 123)) (rest : List BYTE) :
    presetRegistersRequest start count rest = none := by
  cases rest with
  | nil => rfl
  | cons byteCount data => rw [presetRegistersRequest, if_neg fun valid => out valid.1]

/-- A query of `fillRegisters` asks for the caller's values.  With more registers than the protocol
allows the length wraps around, and no slave reacts. -/
theorem decode_preset {value : Nat → WORD} {order : Addressed}
    (filled : t.block .abyQuery (7 + 2 * nQtd.toNat) = presetMessage nAddr nDataStart nQtd value)
    (found : decodeMessage (t.block .abyQuery ((7 + 2 * nQtd.toNat) % 2 ^ 16)) = some order) :
    order = ⟨lobyte nAddr, .presetRegisters nDataStart ((List.range nQtd.toNat).map value)⟩ ∧
      1 ≤ nQtd.toNat ∧ nQtd.toNat ≤ 123 := by
  rw [← Object.take_block t .abyQuery (Nat.mod_le _ _), filled] at found
  by_cases inRange : 1 ≤ nQtd.toNat ∧ nQtd.toNat ≤ 123
  · have whole : (presetMessage nAddr nDataStart nQtd value).take
        ((7 + 2 * nQtd.toNat) % 2 ^ 16) = presetMessage nAddr nDataStart nQtd value := by
      apply List.take_of_length_le
      apply Nat.le_of_eq
      rw [length_presetMessage, Nat.mod_eq_of_lt (by omega)]
    have byteCount : (BitVec.ofNat 8 (2 * nQtd.toNat)).toNat = 2 * nQtd.toNat := by
      rw [BitVec.toNat_ofNat, Nat.mod_eq_of_lt (by omega)]
    rw [whole, presetMessage, List.append_assoc, decodeMessage_header] at found
    rw [List.singleton_append, decodeRequest_presetRegisters, presetRegistersRequest,
      if_pos ⟨inRange, byteCount, length_registerBytes _ _⟩, registerBytes, wordsOf_flatMap] at found
    exact ⟨(Option.some.inj found).symm, inRange⟩
  · exfalso
    -- the length may have wrapped to less than a header; otherwise the count is in the way
    by_cases long : 6 ≤ (7 + 2 * nQtd.toNat) % 2 ^ 16
    · rw [presetMessage, List.append_assoc, List.take_append, List.take_of_length_le long,
        decodeMessage_header, decodeRequest_presetRegisters,
        presetRegistersRequest_of_out_of_range nDataStart inRange] at found
      cases found
    · rw [decodeMessage_of_short (by rw [List.length_take]; omega)] at found
      cases found

/-- The bytes in front of the coils. -/
theorem wp_fillCoils_front (s : Object) (nAddr nDataStart nQtd : WORD) (coils : Nat → BYTE) :
    wp (fillCoils nAddr nDataStart nQtd coils) (fun _ t => t.block .abyQuery 7 =
      header nAddr FORCE_MULTIPLE_COILS nDataStart nQtd ++
        [BitVec.ofNat 8 ((nQtd.toNat + 7) / 8)]) (fun _ _ => False) s := by
  have looped : ∀ u : Object, wp (loop (packCoil coils) nQtd.toNat ⟨0, 7⟩)
      (fun c (t : Object) => c.wrap = ⟨nQtd.toNat % 8, 7 + nQtd.toNat / 8⟩ ∧
        t.block .abyQuery 7 = u.block .abyQuery 7) (fun _ _ => False) u := by
    intro u
    refine wp_loop (fun k (c : Cursor) (t : Object) => c.wrap = ⟨k % 8, 7 + k / 8⟩ ∧
      t.block .abyQuery 7 = u.block .abyQuery 7) ⟨rfl, rfl⟩ ?_
    rintro k c t - ⟨place, front⟩
    simp only [packCoil, wp_ite, wp_bind, wp_load, wp_store, wp_pure]
    split
    · refine ⟨Cursor.wrap_next place, Eq.trans (Object.block_congr fun i below => ?_) front⟩
      rw [Object.write_cell, if_neg]
      · rfl
      · rw [place]
        rintro ⟨-, here⟩
        simp only at here
        omega
    · exact ⟨Cursor.wrap_next place, front⟩
  rw [fillCoils, wp_bind, wp_fillHeader, wp_bind, wp_store, wp_bind]
  apply wp_imp (looped _)
  rintro c t ⟨-, front⟩
  rw [wp_pure, front, Object.block_write]
  exact congrArg (· ++ _)
    (s.block_writeBlock .abyQuery (header nAddr FORCE_MULTIPLE_COILS nDataStart nQtd))

/-- A query of `fillCoils` over a clean array asks for the caller's coils. -/
theorem decode_coils {coils : Nat → BYTE} {order : Addressed}
    (front : t.block .abyQuery 7 = header nAddr FORCE_MULTIPLE_COILS nDataStart nQtd ++
      [BitVec.ofNat 8 ((nQtd.toNat + 7) / 8)])
    (bits : ∀ k < nQtd.toNat, t.dataBit k = decide (coils k ≠ 0))
    (found : decodeMessage (t.block .abyQuery (7 + (nQtd.toNat + 7) / 8)) = some order) :
    order = ⟨lobyte nAddr,
      .forceCoils nDataStart ((List.range nQtd.toNat).map fun k => decide (coils k ≠ 0))⟩ ∧
      1 ≤ nQtd.toNat ∧ nQtd.toNat ≤ 1968 := by
  rw [Object.block_add, front, List.append_assoc, decodeMessage_header, List.singleton_append]
    at found
  obtain ⟨request, decoded, rfl⟩ := Option.map_eq_some_iff.1 found
  rw [decodeRequest_forceCoils, forceCoilsRequest] at decoded
  split at decoded
  · rename_i valid
    obtain rfl := Option.some.inj decoded
    refine ⟨?_, valid.1⟩
    congr 2
    apply List.map_congr_left
    intro k inside
    have below := List.mem_range.1 inside
    have byte : k / 8 < (nQtd.toNat + 7) / 8 := by omega
    rw [← bits k below, coilAt, List.getD_eq_getElem?_getD, List.getElem?_map,
      List.getElem?_range byte]
    rfl
  · cases decoded

/-- The coils are laid over what was there; where one is FALSE nothing was. -/
theorem wp_fill_asks_coils {a d n : WORD} {v : Nat → BYTE}
    (prepared : (Operation.forceMultipleCoils a d n v).Prepared s) :
    wp (Operation.forceMultipleCoils a d n v).fill
      (fun _ t => t.Asks (Operation.forceMultipleCoils a d n v)) (fun _ _ => False) s := by
  have filled := wp_and (wp_fillCoils_front s a d n v) (wp_fillCoils s a d n v)
  apply wp_mono filled
  · rintro _ t ⟨front, -, bits⟩ order found
    refine decode_coils front (fun k below => ?_) found
    rw [bits k]
    by_cases set : v k = 0
    · rw [prepared k (by omega) (.inr set)]
      simp [set]
    · rw [decide_eq_true ⟨below, set⟩, decide_eq_true set, Bool.or_true]
  · exact fun _ _ raised => raised.1

/-- **A query just filled asks for what the caller means.** -/
theorem wp_fill_asks (op : Operation) (prepared : op.Prepared s) :
    wp op.fill (fun _ t => s.SameLine t ∧ t.Asks op) (fun _ _ => False) s := by
  have line := op.wp_fill_sameLine s
  have both : ∀ {P : Object → Prop}, wp op.fill (fun _ => P) (fun _ _ => False) s →
      wp op.fill (fun _ t => s.SameLine t ∧ P t) (fun _ _ => False) s := fun asked =>
    wp_mono (wp_and line asked) (fun _ _ => id) fun _ _ raised => raised.1
  have headed : ∀ a f x y, (s.writeBlock .abyQuery 0 (header a f x y)).block .abyQuery 6 =
      header a f x y := fun a f x y => s.block_writeBlock .abyQuery (header a f x y)
  apply both
  cases op with
  | readOutputRegisters a d n v =>
      exact decode_read .outputRegisters rfl (headed _ _ _ _) rfl id
  | readInputRegisters a d n v =>
      exact decode_read .inputRegisters rfl (headed _ _ _ _) rfl id
  | readOutputStatus a d n v =>
      exact decode_read .outputStatus rfl (headed _ _ _ _) rfl id
  | readInputStatus a d n v =>
      exact decode_read .inputStatus rfl (headed _ _ _ _) rfl id
  | presetMultipleRegisters a d n v =>
      apply wp_imp (wp_fillRegisters s a d n v)
      rintro _ t ⟨-, filled⟩ order found
      exact decode_preset filled found
  | presetSingleRegisterFloat a r v wRealType =>
      apply wp_imp (wp_fillRegisters s a r 2 _)
      rintro _ t ⟨-, filled⟩ order found
      exact ⟨(decode_preset filled found).1, trivial⟩
  | presetSingleRegisterDouble a r v wRealType =>
      apply wp_imp (wp_fillRegisters s a r 4 _)
      rintro _ t ⟨-, filled⟩ order found
      exact ⟨(decode_preset filled found).1, trivial⟩
  | presetSingleRegister a r v =>
      refine asks_of_header rfl (headed _ _ _ _) ?_
      rintro request ⟨⟩
      exact ⟨rfl, trivial⟩
  | forceSingleCoil a r v =>
      refine asks_of_header rfl (headed _ _ _ _) ?_
      cases v <;>
      · rintro request ⟨⟩
        exact ⟨rfl, trivial⟩
  | loopbackTest a =>
      refine asks_of_header rfl (headed _ _ _ _) ?_
      rintro request ⟨⟩
      exact ⟨rfl, trivial⟩
  | forceMultipleCoils a d n v => exact wp_fill_asks_coils prepared

/-! ## The exchange -/

theorem shortToWord_toShort (n : Nat) : shortToWord (toShort n) = n % 2 ^ 16 := by
  rw [shortToWord, toShort, BitVec.ofInt_toInt, BitVec.toNat_ofNat]

namespace Operation

theorem wLengthResponse_pos (op : Operation) : 0 < op.wLengthResponse := by
  cases op with
  | readOutputRegisters a d n v | readInputRegisters a d n v =>
      rw [wLengthResponse, shortToWord_toShort]
      omega
  | _ =>
      simp only [wLengthResponse, replyLength]
      omega

theorem wLengthResponse_eq (op : Operation) (allowed : op.Allowed) :
    op.wLengthResponse = op.replyLength := by
  cases op with
  | readOutputRegisters a d n v | readInputRegisters a d n v =>
      exact (registers_of_le allowed.2).2.1
  | _ => rfl

/-- What is asked is answered in as many bytes as the operation waits for. -/
theorem length_response (op : Operation) (bus : Bus) :
    (op.asks.response bus).length = op.replyLength + 2 := by
  have answer := op.asks.request.length_answer (bus op.asks.slave)
  have length : op.asks.request.answerLength = op.replyLength := by
    cases op with
    | _ => rfl
  rw [Addressed.response, withChecksum, List.length_append, List.length_cons, answer, length]
  rfl

end Operation

/-- The reply is the answer to what the caller of `op` asks, by slaves in the state `bus`. -/
def Object.Answered (s : Object) (op : Operation) (bus : Bus) : Prop :=
  op.Allowed ∧ ∀ i < op.replyLength, s.cell .abyReply i = zeroPadded (op.asks.response bus) i

/-- **What comes back is the answer to what was asked**, if the query asks for what the caller means
and the slaves are correct. -/
theorem wp_exchange_answered {op : Operation} {bus : Bus} {conduct : Conduct} (rtu : s.mode = .rtu)
    (asks : s.Asks op) (correct : s.opened = true →
      Correct bus (s.block .abyQuery op.wLengthQuery) (s.port s.exchanges) conduct) :
    wp (txRxMessage op.wLengthQuery op.wLengthResponse) (fun code t =>
      s.Exchanged op.wLengthQuery t ∧ (code = ERR_OK → (s.opened = true ∧ conduct = .answers) ∧
        decodeMessage (s.block .abyQuery op.wLengthQuery) = some op.asks ∧ t.Answered op bus))
      (fun _ _ => False) s := by
  have positive := op.wLengthResponse_pos
  apply wp_mono (wp_and (wp_txRxMessage op.wLengthQuery positive rtu)
    (wp_txRxMessage_exchanged rtu positive))
  · rintro code t ⟨⟨ok_iff, copied⟩, exchanged⟩
    refine ⟨exchanged, fun ok => ?_⟩
    obtain ⟨⟨opened, -⟩, bytes, accepted⟩ := ok_iff.1 ok
    obtain ⟨answers, order, found, delivers⟩ := (correct opened).of_accepted accepted
    obtain ⟨rfl, allowed⟩ := asks order found
    have length := op.wLengthResponse_eq allowed
    have received := received_of_delivers (op.replyLength_ge allowed) op.replyLength_lt
      (op.length_response bus) delivers
    refine ⟨⟨opened, answers⟩, found, allowed, fun i below => ?_⟩
    have accepted_bytes := accepted.1
    rw [length, received] at accepted_bytes
    split at accepted_bytes
    · apply copied ok _ _ i (by rwa [length])
      rw [length, received, if_pos (by assumption)]
    · cases accepted_bytes
  · exact fun _ _ raised => raised.1

/-! ## Taking the reply -/

section Take

variable {α : Type} {unpack : α → Call α} {v w : α} {nError : WORD} {Replied : Prop}

/-- A read that takes the reply; `g` is the call with the caller's array. -/
theorem wp_take_read (g : α → Operation) (only : Keeps s.OnlyRead (unpack v))
    (returns : Returns (unpack v))
    (unpacked : Replied → ∀ t, s.OnlyRead t → wp (unpack v) (fun r _ => r = w) (fun _ _ => False) t) :
    wp ((fun r => (r.1, g r.2)) <$> takeReply unpack v nError) (fun r t => s.OnlyRead t ∧
      (r.1 ≠ ERR_OK → r.2 = g v) ∧ (r.1 = ERR_OK → nError = ERR_OK ∧ (Replied → r.2 = g w)))
      (fun _ _ => False) s := by
  rw [wp_map, takeReply]
  by_cases ok : nError = ERR_OK
  · rw [if_pos ok, wp_bind]
    apply wp_imp (wp_sameHeader s)
    rintro valid t ⟨-, same⟩
    cases valid with
    | false =>
        have invalid : ERR_INV_RESP ≠ ERR_OK := by decide
        exact ⟨same, fun _ => rfl, fun impossible => absurd impossible invalid⟩
    | true =>
        have kept := returns.keeps only same
        rw [if_pos rfl, wp_bind]
        by_cases replied : Replied
        · apply wp_mono (wp_and kept (unpacked replied t same))
          · rintro values u ⟨still, rfl⟩
            exact ⟨still, fun failed => absurd rfl failed, fun _ => ⟨ok, fun _ => rfl⟩⟩
          · exact fun _ _ raised => raised.1
        · apply wp_imp kept
          intro values u still
          exact ⟨still, fun failed => absurd rfl failed,
            fun _ => ⟨ok, fun yes => absurd yes replied⟩⟩
  · rw [if_neg ok]
    exact ⟨rfl, fun _ => rfl, fun impossible => absurd impossible ok⟩

/-- A write takes the reply. -/
theorem wp_take_write (op : Operation) :
    wp ((fun r => (r.1, op)) <$> takeEcho nError) (fun r t => s.OnlyRead t ∧
      (r.1 ≠ ERR_OK → r.2 = op) ∧ (r.1 = ERR_OK → nError = ERR_OK ∧ (Replied → r.2 = op)))
      (fun _ _ => False) s := by
  rw [wp_map, takeEcho]
  by_cases ok : nError = ERR_OK
  · rw [if_pos ok, wp_bind]
    apply wp_imp (wp_checkEcho 6 0 s)
    rintro code t ⟨-, only⟩
    exact ⟨only, fun _ => rfl, fun _ => ⟨ok, fun _ => rfl⟩⟩
  · rw [if_neg ok]
    exact ⟨rfl, fun _ => rfl, fun impossible => absurd impossible ok⟩

end Take

theorem unpackRegisters_returns (nReplyLength : Int) (regs : Nat → WORD) :
    Returns (unpackRegisters nReplyLength regs) :=
  Returns.loop (fun _ _ => (load_returns _ _).bind fun _ => (load_returns _ _).bind fun _ => .pure _)
    _ _

theorem unpackStatus_returns (nQtd : Nat) (coils : Nat → BYTE) : Returns (unpackStatus nQtd coils) :=
  (Returns.loop (fun _ _ => (load_returns _ _).bind fun _ => .pure _) _ _).bind fun _ => .pure _

/-- The data of a reply that is the answer to a read. -/
theorem reply_data {data : List BYTE}
    (replied : ∀ i < 3 + data.length, s.cell .abyReply i = zeroPadded (response nAddr function data) i)
    (only : s.OnlyRead t) : ∀ j < data.length, t.cell .abyReply (3 + j) = data.getD j 0 := by
  intro j below
  rw [only, ← response_data nAddr function data below]
  exact replied (3 + j) (by omega)

theorem wp_unpackRegisters_answer {value regs : Nat → WORD} (few : nQtd.toNat ≤ 125)
    (replied : ∀ i < 3 + 2 * nQtd.toNat, s.cell .abyReply i =
      zeroPadded (response nAddr function (registerBytes nQtd.toNat value)) i) (only : s.OnlyRead t) :
    wp (unpackRegisters (toShort (3 + 2 * nQtd.toNat)) regs)
      (fun r _ => r = fun k => if k < nQtd.toNat then value k else regs k) (fun _ _ => False) t := by
  have length := length_registerBytes nQtd.toNat value
  rw [← length] at replied
  apply wp_imp (wp_unpackRegisters (registers_of_le few).2.2 length (reply_data replied only) regs)
  rintro r _ rfl
  funext k
  by_cases below : k < nQtd.toNat
  · rw [if_pos below, if_pos below, registerAt_registerBytes value below]
  · rw [if_neg below, if_neg below]

theorem wp_unpackStatus_answer {value : Nat → Bool} {coils : Nat → BYTE}
    (replied : ∀ i < 3 + (nQtd.toNat + 7) / 8, s.cell .abyReply i =
      zeroPadded (response nAddr function (coilBytes nQtd.toNat value)) i) (only : s.OnlyRead t) :
    wp (unpackStatus nQtd.toNat coils)
      (fun r _ => r = fun k => if k < nQtd.toNat then boolByte (value k) else coils k)
      (fun _ _ => False) t := by
  have length := length_coilBytes nQtd.toNat value
  rw [← length] at replied
  apply wp_imp (wp_unpackStatus length (reply_data replied only) coils)
  rintro r _ rfl
  funext k
  by_cases below : k < nQtd.toNat
  · rw [if_pos below, if_pos below, coilAt_coilBytes value below]
  · rw [if_neg below, if_neg below]

/-- **What an operation takes.**  The array changes only if `ERR_OK` is returned, which needs an
exchange that returned it; from the answer of the slaves it then gets their values. -/
theorem wp_take (op : Operation) (nError : WORD) (bus : Bus) (s : Object) :
    wp (op.take nError) (fun r t => s.OnlyRead t ∧ (r.1 ≠ ERR_OK → r.2 = op) ∧
      (r.1 = ERR_OK → nError = ERR_OK ∧ (s.Answered op bus → r.2 = op.readFrom bus)))
      (fun _ _ => False) s := by
  have registers : ∀ n v, Keeps s.OnlyRead (unpackRegisters n v) := fun n v =>
    keeps_unpackRegisters (closed_onlyRead (footprint 0 _) s) rfl (Nat.le_refl _) v
  have coils : ∀ n v, Keeps s.OnlyRead (unpackStatus n v) := fun n v =>
    keeps_unpackStatus (closed_onlyRead (footprint 0 _) s) (Nat.le_refl _) v
  cases op with
  | readOutputRegisters a d n v =>
      exact wp_take_read (Operation.readOutputRegisters a d n) (registers _ v)
        (unpackRegisters_returns _ v) fun answered t only =>
          wp_unpackRegisters_answer answered.1.2 answered.2 only
  | readInputRegisters a d n v =>
      exact wp_take_read (Operation.readInputRegisters a d n) (registers _ v)
        (unpackRegisters_returns _ v) fun answered t only =>
          wp_unpackRegisters_answer answered.1.2 answered.2 only
  | readOutputStatus a d n v =>
      exact wp_take_read (Operation.readOutputStatus a d n) (coils _ v)
        (unpackStatus_returns _ v) fun answered t only => wp_unpackStatus_answer answered.2 only
  | readInputStatus a d n v =>
      exact wp_take_read (Operation.readInputStatus a d n) (coils _ v)
        (unpackStatus_returns _ v) fun answered t only => wp_unpackStatus_answer answered.2 only
  | _ => exact wp_take_write _

end TizerVision.Modbus
