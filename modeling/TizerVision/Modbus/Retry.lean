/-
# Modbus.Retry — how often a write is sent, and what it returns

`TxRxMessage` is virtual, and to a write it is an outcome: an error code, a reply, and whatever it
leaves in the query behind the message.  `Outcome` and `scripted` say just that, and the exchange of
`CLocalModbus` is one (`txRxMessage_has_outcome`).  `writes_retry` describes a write over every
sequence of outcomes, and the two tries that `WritePackageToPLC` gives a package.

Four of the five writes keep the code in a `short`.  Here `nError` is one (`writeExchangeShort`), and
the code comes back unchanged (`writeExchangeShort_eq`).
-/
import TizerVision.Modbus.Frame

namespace TizerVision.Modbus

set_option autoImplicit false

open Theory

/-! ## The error code in a short -/

section Short

variable (txRxMessage : Nat → Nat → Call WORD)

/-- A WORD assigned to a `short` -/
def toInt16 (w : WORD) : Int16 := Int16.ofBitVec w

/-- A `short` passed or returned as a WORD -/
def ofInt16 (n : Int16) : WORD := BitVec.ofInt 16 n.toInt

/-- The echo is checked if `nError==ERR_OK`, compared as integers. -/
def takeEchoShort (nError : Int16) : Call Int16 :=
  if nError.toInt = (ERR_OK.toNat : Int) then do
    let code ← checkEcho 0 6
    pure (toInt16 code)
  else pure nError

def writeAttemptShort (wLengthQuery : Nat) : Call Int16 := do
  let code ← txRxMessage wLengthQuery 6
  takeEchoShort (toInt16 code)

/-- The loop with `further` more turns allowed after the first. -/
def retryLoopShort (wLengthQuery : Nat) : Nat → Call Int16
  | 0 => writeAttemptShort txRxMessage wLengthQuery
  | further + 1 => do
      let nError ← writeAttemptShort txRxMessage wLengthQuery
      if (ERR_OK.toNat : Int) ≠ nError.toInt then retryLoopShort wLengthQuery further else pure nError

/-- The end of a write that keeps the code in a `short`. -/
def writeExchangeShort (wLengthQuery : Nat) : Call WORD := do
  let s ← get
  let nError ← retryLoopShort txRxMessage wLengthQuery (s.retries.toNat - 1)
  throwModbusException (ofInt16 nError)
  pure (ofInt16 nError)

@[simp] theorem ofInt16_toInt16 (w : WORD) : ofInt16 (toInt16 w) = w := by
  rw [ofInt16, toInt16, Int16.toInt, Int16.toBitVec_ofBitVec, BitVec.ofInt_toInt]

theorem toInt_toInt16_eq_ok_iff (w : WORD) :
    (toInt16 w).toInt = (ERR_OK.toNat : Int) ↔ w = ERR_OK := by
  constructor
  · intro zero
    rw [← ofInt16_toInt16 w, ofInt16, zero]
    rfl
  · rintro rfl
    rfl

theorem writeAttemptShort_eq (lq : Nat) :
    writeAttemptShort txRxMessage lq =
      (fun r => toInt16 r.1) <$> writeAttempt txRxMessage lq () := by
  rw [writeAttemptShort, writeAttempt, map_bind]
  congr 1
  funext code
  rw [takeEchoShort, takeEcho]
  by_cases ok : code = ERR_OK
  · rw [if_pos ((toInt_toInt16_eq_ok_iff code).2 ok), if_pos ok, map_bind]
    rfl
  · rw [if_neg (mt (toInt_toInt16_eq_ok_iff code).1 ok), if_neg ok]
    rfl

theorem retryLoopShort_eq (lq further : Nat) :
    retryLoopShort txRxMessage lq further =
      (fun r => toInt16 r.1) <$> retryLoop (writeAttempt txRxMessage lq) further () := by
  induction further with
  | zero => exact writeAttemptShort_eq txRxMessage lq
  | succ further ih =>
      rw [retryLoopShort, retryLoop, writeAttemptShort_eq, map_bind, bind_map_left]
      congr 1
      funext r
      by_cases ok : r.1 = ERR_OK
      · rw [if_neg (not_not_intro ((toInt_toInt16_eq_ok_iff r.1).2 ok).symm),
          if_neg (not_not_intro ok)]
        rfl
      · rw [if_pos (mt Eq.symm (mt (toInt_toInt16_eq_ok_iff r.1).1 ok)), if_pos ok]
        exact ih

/-- **No code is changed by its way through a short.** -/
theorem writeExchangeShort_eq (lq : Nat) :
    writeExchangeShort txRxMessage lq = writeExchange txRxMessage lq := by
  rw [writeExchangeShort, writeExchange, exchange, bind_assoc]
  congr 1
  funext s
  rw [retryLoopShort_eq, bind_map_left, bind_assoc]
  congr 1
  funext r
  rw [ofInt16_toInt16, bind_assoc]
  rfl

end Short

/-! ## The writes -/

/-- The five write operations. -/
inductive Write where
  | presetMultipleRegisters (nAddr nDataStart nQtd : WORD) (anRegValues : Nat → WORD)
  | presetSingleRegister (nAddr nRegister nRegValue : WORD)
  | forceSingleCoil (nAddr nRegister : WORD) (bCoilValue : Bool)
  | forceMultipleCoils (nAddr nDataStart nQtd : WORD) (abCoilValues : Nat → BYTE)
  | loopbackTest (nAddr : WORD)

namespace Write

def toOperation : Write → Operation
  | presetMultipleRegisters a d n v => .presetMultipleRegisters a d n v
  | presetSingleRegister a r v => .presetSingleRegister a r v
  | forceSingleCoil a r v => .forceSingleCoil a r v
  | forceMultipleCoils a d n v => .forceMultipleCoils a d n v
  | loopbackTest a => .loopbackTest a

/-- `QUERY_LENGHT` -/
def wLengthQuery : Write → Nat
  | presetMultipleRegisters _ _ n _ => (7 + 2 * n.toNat) % 2 ^ 16
  | forceMultipleCoils _ _ n _ => 7 + (n.toNat + 7) / 8
  | _ => 6

/-- The operation, with the type its source gives `nError`. -/
def perform (txRxMessage : Nat → Nat → Call WORD) (write : Write) : Call WORD := do
  write.toOperation.fill
  match write with
  | loopbackTest _ => writeExchange txRxMessage 6
  | _ => writeExchangeShort txRxMessage write.wLengthQuery

theorem perform_eq_writeExchange (txRxMessage : Nat → Nat → Call WORD) (write : Write) :
    write.perform txRxMessage =
      write.toOperation.fill >>= fun _ => writeExchange txRxMessage write.wLengthQuery := by
  cases write with
  | loopbackTest a => rfl
  | _ => simp only [perform, writeExchangeShort_eq]

/-- With the exchange of `CLocalModbus` these are the operations of the object. -/
theorem perform_txRxMessage (write : Write) :
    write.perform txRxMessage = Modbus.perform write.toOperation := by
  rw [perform_eq_writeExchange, Operation.perform_eq]
  cases write with
  | _ => rfl

end Write

/-! ## Outcomes -/

/-- What `TxRxMessage` returns, the reply it leaves, and what it leaves in the query behind the
message: in RTU mode the checksum. -/
structure Outcome where
  code : WORD
  reply : Nat → BYTE
  behind : Nat → BYTE

/-- The object after an exchange with this outcome.  The query is recorded without a checksum. -/
def Object.undergo (s : Object) (lq : Nat) (outcome : Outcome) : Object :=
  ((s.beginExchange.send (s.block .abyQuery lq)).replace .abyReply outcome.reply).replace .abyQuery
    fun i => if i < lq then s.cell .abyQuery i else outcome.behind i

/-- A `TxRxMessage` whose outcomes are given in advance. -/
def scripted (script : Nat → Outcome) (wLengthQuery _wLengthResponse : Nat) : Call WORD := do
  let s ← get
  modify (·.undergo wLengthQuery (script s.exchanges))
  pure (script s.exchanges).code

/-- The exchange of `CLocalModbus` has an outcome, in both modes. -/
theorem txRxMessage_has_outcome (s : Object) (lq : Nat) :
    ∃ outcome : Outcome, wp (txRxMessage lq 6) (fun code t => code = outcome.code ∧
      ∀ a ≠ Arr.abyBuffer, t.cell a = (s.undergo lq outcome).cell a) (fun _ _ => False) s := by
  have closed : ClosedExchange lq 6 fun t => ∀ i < lq, t.cell .abyQuery i = s.cell .abyQuery i :=
    { touch := fun _ kept => kept
      touchBlock := fun _ kept => kept
      write := fun allowed kept i below => (query_write allowed below).trans (kept i below)
      writeBlock := fun allowed kept i below => (query_writeBlock allowed below).trans (kept i below)
      replace := fun other kept i below => (query_replace other i).trans (kept i below)
      beginExchange := fun kept => kept
      send := fun _ kept => kept }
  have kept := (txRxMessage_returns lq (by decide)).keeps (keeps_txRxMessage closed (by decide) (by decide))
    (fun _ _ => rfl)
  unfold wp at kept ⊢
  cases ran : (txRxMessage lq 6).run s with
  | error e t =>
      rw [ran] at kept
      exact kept.elim
  | ok code t =>
      rw [ran] at kept
      refine ⟨⟨code, t.cell .abyReply, t.cell .abyQuery⟩, rfl, ?_⟩
      rintro (_ | _ | _) other
      · funext i
        by_cases below : i < lq
        · simp [Object.undergo, below, kept i below]
        · simp [Object.undergo, below]
      · rfl
      · exact absurd rfl other

/-! ## One exchange -/

/-- The exchange returned `ERR_OK`, and the first six bytes of the reply are those of the query. -/
def Outcome.Acknowledges (outcome : Outcome) (query : List BYTE) : Prop :=
  outcome.code = ERR_OK ∧ ∀ i < 6, outcome.reply i = query.getD i (outcome.behind i)

instance (outcome : Outcome) (query : List BYTE) : Decidable (outcome.Acknowledges query) :=
  inferInstanceAs (Decidable (_ ∧ _))

/-- The code a write has after the exchange: a wrong echo is an invalid response. -/
def Outcome.result (outcome : Outcome) (query : List BYTE) : WORD :=
  if outcome.Acknowledges query then ERR_OK
  else if outcome.code = ERR_OK then ERR_INV_RESP
  else outcome.code

theorem Outcome.result_eq_ok_iff (outcome : Outcome) (query : List BYTE) :
    outcome.result query = ERR_OK ↔ outcome.Acknowledges query := by
  unfold Outcome.result
  by_cases acknowledged : outcome.Acknowledges query
  · simp [acknowledged]
  · rw [if_neg acknowledged]
    by_cases ok : outcome.code = ERR_OK
    · rw [if_pos ok]
      exact iff_of_false (by decide) acknowledged
    · rw [if_neg ok]
      exact iff_of_false ok acknowledged

/-- After `made` exchanges from `s` on the query has been sent as often, and is still in place. -/
structure Object.Repeated (s : Object) (query : List BYTE) (made : Nat) (t : Object) : Prop where
  exchanges : t.exchanges = s.exchanges + made
  sent : t.sent = s.sent ++ List.replicate made query
  query : t.block .abyQuery query.length = query
  retries : t.retries = s.retries
  throwing : t.throwing = s.throwing

theorem Object.Repeated.of_onlyRead {s t u : Object} {query : List BYTE} {made : Nat}
    (repeated : s.Repeated query made t) (only : t.OnlyRead u) : s.Repeated query made u := by
  rw [only]
  exact ⟨repeated.exchanges, repeated.sent, repeated.query, repeated.retries, repeated.throwing⟩

theorem Object.Repeated.undergo {s t : Object} {query : List BYTE} {made : Nat}
    (repeated : s.Repeated query made t) (outcome : Outcome) :
    s.Repeated query (made + 1) (t.undergo query.length outcome) := by
  refine ⟨?_, ?_, ?_, repeated.retries, repeated.throwing⟩
  · show t.exchanges + 1 = s.exchanges + (made + 1)
    rw [repeated.exchanges, Nat.add_assoc]
  · show t.sent ++ [t.block .abyQuery query.length] = _
    rw [repeated.sent, repeated.query, List.append_assoc, ← List.replicate_succ']
  · refine Eq.trans (Object.block_congr fun i below => ?_) repeated.query
    simp [Object.undergo, below]

/-- What the echo check finds after an exchange. -/
theorem Object.undergo_echo {t : Object} {query : List BYTE} (outcome : Outcome)
    (inPlace : t.block .abyQuery query.length = query) :
    (∀ k < 6, (t.undergo query.length outcome).cell .abyReply (0 + k) =
      (t.undergo query.length outcome).cell .abyQuery (0 + k)) ↔
      ∀ i < 6, outcome.reply i = query.getD i (outcome.behind i) := by
  have cell : ∀ k, (t.undergo query.length outcome).cell .abyQuery k =
      query.getD k (outcome.behind k) := by
    intro k
    by_cases below : k < query.length
    · have held : query.getD k (outcome.behind k) = t.cell .abyQuery k := by
        rw [← t.getD_block .abyQuery below (outcome.behind k), inPlace]
      rw [held]
      simp [Object.undergo, below]
    · simp [Object.undergo, below]
  simp only [Nat.zero_add, cell]
  rfl

section Script

variable (script : Nat → Outcome) {s : Object} {query : List BYTE}

/-- One turn of a write sends the query once more and judges the outcome. -/
theorem wp_writeAttempt_scripted {made : Nat} {t : Object} (repeated : s.Repeated query made t) :
    wp (writeAttempt (scripted script) query.length ()) (fun r u =>
      r.1 = (script (s.exchanges + made)).result query ∧ s.Repeated query (made + 1) u)
      (fun _ _ => False) t := by
  have next := repeated.undergo (script (s.exchanges + made))
  rw [writeAttempt, scripted, wp_bind, wp_bind, wp_get, wp_bind, wp_modify, wp_pure,
    repeated.exchanges, takeEcho]
  by_cases ok : (script (s.exchanges + made)).code = ERR_OK
  · rw [if_pos ok, wp_bind]
    apply wp_imp (wp_checkEcho 6 0 _)
    rintro code u ⟨rfl, only⟩
    refine ⟨?_, next.of_onlyRead only⟩
    simp only [Object.undergo_echo _ repeated.query, Outcome.result, Outcome.Acknowledges, ok,
      true_and, if_true]
  · rw [if_neg ok]
    refine ⟨?_, next⟩
    rw [Outcome.result, if_neg fun acknowledged => ok acknowledged.1, if_neg ok]

/-- The loop stopped after exchange `made`, counted from `s` on: it had made `before` already and was
allowed up to `allowed`. -/
structure Stopped (start : Nat) (query : List BYTE) (before allowed made : Nat) : Prop where
  some_exchange : before + 1 ≤ made
  bounded : made ≤ allowed
  unacknowledged : ∀ k, before ≤ k → k + 1 < made → ¬ (script (start + k)).Acknowledges query
  ended : made < allowed → (script (start + (made - 1))).Acknowledges query

/-- **The loop**, by induction on the turns still allowed. -/
theorem wp_retryLoop_scripted (further before : Nat) {t : Object}
    (repeated : s.Repeated query before t) :
    wp (retryLoop (writeAttempt (scripted script) query.length) further ()) (fun r u =>
      ∃ made, Stopped script s.exchanges query before (before + 1 + further) made ∧
        r.1 = (script (s.exchanges + (made - 1))).result query ∧ s.Repeated query made u)
      (fun _ _ => False) t := by
  induction further generalizing before t with
  | zero =>
      apply wp_imp (wp_writeAttempt_scripted script repeated)
      rintro r u ⟨code, once⟩
      refine ⟨before + 1, ⟨Nat.le_refl _, Nat.le_refl _, fun k from_here below => by omega,
        fun below => by omega⟩, code, once⟩
  | succ further ih =>
      rw [retryLoop, wp_bind]
      apply wp_imp (wp_writeAttempt_scripted script repeated)
      rintro r u ⟨code, once⟩
      by_cases ok : r.1 = ERR_OK
      · rw [if_neg (not_not_intro ok)]
        have acknowledged : (script (s.exchanges + before)).Acknowledges query :=
          (Outcome.result_eq_ok_iff _ _).1 (code.symm.trans ok)
        exact ⟨before + 1, ⟨Nat.le_refl _, by omega, fun k from_here below => by omega,
          fun _ => acknowledged⟩, code, once⟩
      · rw [if_pos ok]
        have refused : ¬ (script (s.exchanges + before)).Acknowledges query := fun acknowledged =>
          ok (code.trans ((Outcome.result_eq_ok_iff _ _).2 acknowledged))
        -- the rest of the loop is a loop that has made one exchange more
        apply wp_imp (ih (before + 1) once)
        rintro r' v ⟨made, stopped, code', repeated'⟩
        refine ⟨made, ⟨?_, ?_, fun k from_here below => ?_, fun below => ?_⟩, code', repeated'⟩
        · have := stopped.some_exchange
          omega
        · have := stopped.bounded
          omega
        · rcases Nat.eq_or_lt_of_le from_here with rfl | later
          · exact refused
          · exact stopped.unacknowledged k later below
        · exact stopped.ended (by omega)

theorem wp_writeExchange_scripted (quiet : s.throwing = false)
    (filled : s.block .abyQuery query.length = query) :
    wp (writeExchange (scripted script) query.length) (fun code t =>
      ∃ made, Stopped script s.exchanges query 0 (max 1 s.retries.toNat) made ∧
        code = (script (s.exchanges + (made - 1))).result query ∧ s.Repeated query made t)
      (fun _ _ => False) s := by
  have start : s.Repeated query 0 s := ⟨rfl, by simp, filled, rfl, rfl⟩
  have allowed : 0 + 1 + (s.retries.toNat - 1) = max 1 s.retries.toNat := by omega
  rw [writeExchange, exchange, wp_bind, wp_bind, wp_get, wp_bind]
  apply wp_imp (wp_retryLoop_scripted script (s.retries.toNat - 1) 0 start)
  rintro r t ⟨made, stopped, code, repeated⟩
  rw [allowed] at stopped
  have silent : ¬ (r.1 ≠ ERR_OK ∧ t.throwing = true) := by
    rw [repeated.throwing, quiet]
    simp
  rw [throwModbusException, wp_bind, wp_bind, wp_get, if_neg silent]
  exact ⟨made, stopped, code, repeated⟩

end Script

/-! ## A write over every sequence of outcomes -/

/-- What a write makes of the outcomes from exchange `start` on, in `made` exchanges of at most
`allowed`. -/
structure Retried (script : Nat → Outcome) (start : Nat) (query : List BYTE) (allowed made : Nat)
    (code : WORD) : Prop where
  some_exchange : 1 ≤ made
  bounded : made ≤ allowed
  /-- no exchange follows one that is acknowledged -/
  first : ∀ k, k + 1 < made → ¬ (script (start + k)).Acknowledges query
  /-- fewer exchanges than allowed are made only for that reason -/
  ended : made < allowed → (script (start + (made - 1))).Acknowledges query
  ok_iff : code = ERR_OK ↔ ∃ k < made, (script (start + k)).Acknowledges query
  failed : code ≠ ERR_OK → code = if (script (start + (made - 1))).code = ERR_OK then ERR_INV_RESP
    else (script (start + (made - 1))).code

theorem Stopped.retried {script : Nat → Outcome} {start allowed made : Nat} {query : List BYTE}
    (stopped : Stopped script start query 0 allowed made) :
    Retried script start query allowed made ((script (start + (made - 1))).result query) := by
  have positive := stopped.some_exchange
  refine ⟨stopped.some_exchange, stopped.bounded, fun k => stopped.unacknowledged k (Nat.zero_le k),
    stopped.ended, ?_, fun failed => ?_⟩
  · rw [Outcome.result_eq_ok_iff]
    constructor
    · intro acknowledged
      exact ⟨made - 1, by omega, acknowledged⟩
    · rintro ⟨k, below, acknowledged⟩
      -- an earlier exchange was not acknowledged, so this is the last
      obtain rfl : k = made - 1 := by
        by_contra earlier
        exact stopped.unacknowledged k (Nat.zero_le k) (by omega) acknowledged
      exact acknowledged
  · rw [ne_eq, Outcome.result_eq_ok_iff] at failed
    rw [Outcome.result, if_neg failed]

/-- The query of a write, once filled. -/
def Write.query (write : Write) (s : Object) : List BYTE :=
  (finalState write.toOperation.fill s).block .abyQuery write.wLengthQuery

theorem wp_perform_scripted (write : Write) (script : Nat → Outcome) {s : Object}
    (quiet : s.throwing = false) :
    wp (write.perform (scripted script)) (fun code t => ∃ made,
      Retried script s.exchanges (write.query s) (max 1 s.retries.toNat) made code ∧
        s.Repeated (write.query s) made t) (fun _ _ => False) s := by
  rw [write.perform_eq_writeExchange]
  apply wp_fill_bind
  intro same
  have length : (write.query s).length = write.wLengthQuery := Object.length_block _ _ _
  have line : (finalState write.toOperation.fill s).throwing = s.throwing ∧
      (finalState write.toOperation.fill s).retries = s.retries ∧
      (finalState write.toOperation.fill s).exchanges = s.exchanges ∧
      (finalState write.toOperation.fill s).sent = s.sent := by
    rw [same]
    exact ⟨rfl, rfl, rfl, rfl⟩
  obtain ⟨throwing, retries, exchanges, sent⟩ := line
  have filled : (finalState write.toOperation.fill s).block .abyQuery (write.query s).length =
      write.query s := by
    rw [length]
    rfl
  have ended := wp_writeExchange_scripted script (throwing.trans quiet) filled
  rw [length, exchanges, retries] at ended
  apply wp_imp ended
  rintro code t ⟨made, stopped, rfl, repeated⟩
  refine ⟨made, stopped.retried, ?_, ?_, repeated.query, ?_, ?_⟩
  · rw [repeated.exchanges, exchanges]
  · rw [repeated.sent, sent]
  · rw [repeated.retries, retries]
  · rw [repeated.throwing, throwing]

/-! ## The two tries of WritePackageToPLC -/

/-- `ModbusWritePackage` -/
structure ModbusWritePackage where
  wStartDT : WORD
  wQuerySize : WORD
  arrWordQuery : Nat → WORD

/-- `PACKAGE_TRY_TIMES` -/
def PACKAGE_TRY_TIMES : Nat := 2

/-- The call `WritePackageToPLC` makes; `m_SiteAddress` is a long. -/
def ModbusWritePackage.write (package : ModbusWritePackage) (m_SiteAddress : Int) : Write :=
  .presetMultipleRegisters (BitVec.ofInt 16 m_SiteAddress) package.wStartDT package.wQuerySize
    package.arrWordQuery

/-- The loop of `CModbusThread::WritePackageToPLC` with some tries left -/
def tryPackage (txRxMessage : Nat → Nat → Call WORD) (m_SiteAddress : Int)
    (package : ModbusWritePackage) : Nat → Call Bool
  | 0 => pure false
  | tries + 1 => do
      let nReturn ← (package.write m_SiteAddress).perform txRxMessage
      if nReturn = ERR_OK then pure true else tryPackage txRxMessage m_SiteAddress package tries

def writePackageToPLC (txRxMessage : Nat → Nat → Call WORD) (m_SiteAddress : Int)
    (package : ModbusWritePackage) : Call Bool :=
  tryPackage txRxMessage m_SiteAddress package PACKAGE_TRY_TIMES

/-- The query does not depend on what was in the array before. -/
theorem ModbusWritePackage.query_eq (package : ModbusWritePackage) (m_SiteAddress : Int)
    (s : Object) :
    (package.write m_SiteAddress).query s =
      (presetMessage (BitVec.ofInt 16 m_SiteAddress) package.wStartDT package.wQuerySize
        package.arrWordQuery).take (package.write m_SiteAddress).wLengthQuery := by
  have filled := wp_fillRegisters s (BitVec.ofInt 16 m_SiteAddress) package.wStartDT
    package.wQuerySize package.arrWordQuery
  have block := wp_iff_finalState.1 (wp_of_returns (E := fun _ t =>
    t.block .abyQuery (7 + 2 * package.wQuerySize.toNat) = presetMessage _ _ _ _) filled
    fun _ _ => And.right)
  have shorter : (package.write m_SiteAddress).wLengthQuery ≤ 7 + 2 * package.wQuerySize.toNat :=
    Nat.mod_le _ _
  rw [← block, Object.take_block _ _ shorter]
  rfl

/-- What the tries of a package make of the outcomes from exchange `start` on, in `made` exchanges of
at most `allowed` for a try. -/
structure Tried (script : Nat → Outcome) (start : Nat) (query : List BYTE) (allowed tries made : Nat)
    (written : Bool) : Prop where
  some_exchange : 0 < tries → 1 ≤ made
  bounded : made ≤ tries * allowed
  /-- a further try is made exactly if those before it used up their exchanges unacknowledged -/
  further_iff : ∀ j < tries, j * allowed < made ↔
    ∀ k < j * allowed, ¬ (script (start + k)).Acknowledges query
  written_iff : written = true ↔ ∃ k < made, (script (start + k)).Acknowledges query

section Tries

variable {script : Nat → Outcome} {start allowed made : Nat} {query : List BYTE} {code : WORD}

/-- A try that succeeds is the last. -/
theorem Retried.tried (retried : Retried script start query allowed made code) (ok : code = ERR_OK)
    (tries : Nat) : Tried script start query allowed (tries + 1) made true := by
  have positive := retried.some_exchange
  have bounded := retried.bounded
  have acknowledged := retried.ok_iff.1 ok
  have whole : ∀ j, allowed ≤ (j + 1) * allowed := fun j => Nat.le_mul_of_pos_left _ (Nat.succ_pos j)
  refine ⟨fun _ => positive, Nat.le_trans bounded (whole tries), fun j _ => ?_,
    iff_of_true rfl acknowledged⟩
  cases j with
  | zero => exact iff_of_true (by omega) fun k below => absurd below (by omega)
  | succ j =>
      have all := whole j
      obtain ⟨k, below, acknowledged⟩ := acknowledged
      exact iff_of_false (by omega) fun none => none k (by omega) acknowledged

/-- A try that fails has used up its exchanges. -/
theorem Retried.exhausted (retried : Retried script start query allowed made code)
    (failed : code ≠ ERR_OK) :
    made = allowed ∧ ∀ k < made, ¬ (script (start + k)).Acknowledges query := by
  have positive := retried.some_exchange
  have none : ∀ k < made, ¬ (script (start + k)).Acknowledges query := fun k below acknowledged =>
    failed (retried.ok_iff.2 ⟨k, below, acknowledged⟩)
  refine ⟨Nat.le_antisymm retried.bounded (Nat.le_of_not_lt fun fewer => ?_), none⟩
  exact none (made - 1) (by omega) (retried.ended fewer)

/-- Behind a try that fails come the tries that are left. -/
theorem Tried.after_failure {tries more : Nat} {written : Bool}
    (retried : Retried script start query allowed made code) (failed : code ≠ ERR_OK)
    (rest : Tried script (start + made) query allowed tries more written) :
    Tried script start query allowed (tries + 1) (made + more) written := by
  have positive := retried.some_exchange
  have bounded := rest.bounded
  obtain ⟨rfl, none⟩ := retried.exhausted failed
  -- exchange `k` of the rest is exchange `made + k`
  have shift : ∀ k, (script (start + made + k)).Acknowledges query ↔
      (script (start + (made + k))).Acknowledges query := fun k => by rw [Nat.add_assoc]
  refine ⟨fun _ => by omega, by rw [Nat.succ_mul]; omega, fun j below => ?_,
    rest.written_iff.trans ?_⟩
  · cases j with
    | zero => exact iff_of_true (by omega) fun k inside => absurd inside (by omega)
    | succ j =>
        rw [Nat.succ_mul, Nat.add_comm (j * made), Nat.add_lt_add_iff_left,
          rest.further_iff j (by omega)]
        constructor
        · intro later k inside acknowledged
          by_cases early : k < made
          · exact none k early acknowledged
          · apply later (k - made) (by omega)
            rwa [shift, Nat.add_sub_cancel' (Nat.le_of_not_lt early)]
        · intro all k inside acknowledged
          exact all (made + k) (by omega) ((shift k).1 acknowledged)
  · constructor
    · rintro ⟨k, inside, acknowledged⟩
      exact ⟨made + k, by omega, (shift k).1 acknowledged⟩
    · rintro ⟨k, inside, acknowledged⟩
      have later : made ≤ k := Nat.le_of_not_lt fun early => none k early acknowledged
      refine ⟨k - made, by omega, (shift _).2 ?_⟩
      rwa [Nat.add_sub_cancel' later]

end Tries

/-- **The tries**, by induction on those that are left. -/
theorem wp_tryPackage_scripted (script : Nat → Outcome) (m_SiteAddress : Int)
    (package : ModbusWritePackage) (tries : Nat) {s : Object} (quiet : s.throwing = false)
    {query : List BYTE} (same : ∀ t, (package.write m_SiteAddress).query t = query) :
    wp (tryPackage (scripted script) m_SiteAddress package tries) (fun written t => ∃ made,
      Tried script s.exchanges query (max 1 s.retries.toNat) tries made written ∧
        t.exchanges = s.exchanges + made ∧ t.sent = s.sent ++ List.replicate made query)
      (fun _ _ => False) s := by
  induction tries generalizing s with
  | zero =>
      exact ⟨0, ⟨by omega, by omega, fun j none => absurd none (Nat.not_lt_zero j), by simp⟩, rfl,
        by simp⟩
  | succ tries ih =>
      rw [tryPackage, wp_bind]
      apply wp_imp (wp_perform_scripted (package.write m_SiteAddress) script quiet)
      rintro code t ⟨made, retried, repeated⟩
      rw [same s] at retried repeated
      by_cases ok : code = ERR_OK
      · rw [if_pos ok]
        exact ⟨made, retried.tried ok tries, repeated.exchanges, repeated.sent⟩
      · rw [if_neg ok]
        apply wp_imp (ih (repeated.throwing.trans quiet))
        rintro written u ⟨more, rest, exchanges, sent⟩
        rw [repeated.retries, repeated.exchanges] at rest
        refine ⟨made + more, .after_failure retried ok rest, ?_, ?_⟩
        · rw [exchanges, repeated.exchanges, Nat.add_assoc]
        · rw [sent, repeated.sent, List.append_assoc, List.replicate_append_replicate]

/-- **The retries of the writes.**  With exceptions off, over every sequence of outcomes, a write
returns after at least one exchange and at most `max 1 m_wRetries`, all with the same query, and its
code is as `Retried` says.  `WritePackageToPLC` returns after at least one exchange and at most twice
as many, all with the query of the package; it makes the second try exactly if no exchange of the
first was acknowledged, and returns true exactly if one of its exchanges was (`Tried`). -/
theorem writes_retry (script : Nat → Outcome) (s : Object) (quiet : s.throwing = false) :
    (∀ write : Write, wp (write.perform (scripted script)) (fun code t => ∃ made,
      Retried script s.exchanges (write.query s) (max 1 s.retries.toNat) made code ∧
        t.exchanges = s.exchanges + made ∧
        t.sent = s.sent ++ List.replicate made (write.query s)) (fun _ _ => False) s) ∧
    ∀ (m_SiteAddress : Int) (package : ModbusWritePackage),
      wp (writePackageToPLC (scripted script) m_SiteAddress package) (fun written t => ∃ made,
        Tried script s.exchanges ((package.write m_SiteAddress).query s) (max 1 s.retries.toNat)
            PACKAGE_TRY_TIMES made written ∧
          t.exchanges = s.exchanges + made ∧
          t.sent = s.sent ++ List.replicate made ((package.write m_SiteAddress).query s))
        (fun _ _ => False) s := by
  refine ⟨fun write => ?_, fun m_SiteAddress package => ?_⟩
  · apply wp_imp (wp_perform_scripted write script quiet)
    rintro code t ⟨made, retried, repeated⟩
    exact ⟨made, retried, repeated.exchanges, repeated.sent⟩
  · refine wp_tryPackage_scripted script m_SiteAddress package PACKAGE_TRY_TIMES quiet fun t => ?_
    rw [package.query_eq, package.query_eq]

/-- The first exchange times out, every later one gives the echo. -/
def lateEcho (echo : List BYTE) (n : Nat) : Outcome where
  code := if n = 0 then ERR_TIMEOUT else ERR_OK
  reply := fun i => echo.getD i 0
  behind := fun _ => 0

/-- With three exchanges allowed the second one ends `PresetSingleRegister`.  With one allowed, a
package is written in the second try. -/
theorem writes_retry_late_echo :
    wp ((Write.presetSingleRegister 1 100 51).perform (scripted (lateEcho [1, 6, 0, 100, 0, 51])))
      (fun code t => code = ERR_OK ∧ t.exchanges = 2) (fun _ _ => False)
      { Object.fresh (fun _ => .silent) with retries := 3 } ∧
    wp (writePackageToPLC (scripted (lateEcho [1, 16, 0, 100, 0, 1])) 1 ⟨100, 1, fun _ => 51⟩)
      (fun written t => written = true ∧
        t.sent = [[1, 16, 0, 100, 0, 1, 2, 0, 51], [1, 16, 0, 100, 0, 1, 2, 0, 51]])
      (fun _ _ => False) (Object.fresh fun _ => .silent) := by
  constructor
  · have ended := (writes_retry (lateEcho [1, 6, 0, 100, 0, 51])
      { Object.fresh (fun _ => .silent) with retries := 3 } rfl).1 (.presetSingleRegister 1 100 51)
    apply wp_imp ended
    rintro code t ⟨made, retried, exchanges, -⟩
    have first : ¬ (lateEcho [1, 6, 0, 100, 0, 51] (0 + 0)).Acknowledges
      ((Write.presetSingleRegister 1 100 51).query
        { Object.fresh (fun _ => .silent) with retries := 3 }) := by decide
    have second : (lateEcho [1, 6, 0, 100, 0, 51] (0 + 1)).Acknowledges
      ((Write.presetSingleRegister 1 100 51).query
        { Object.fresh (fun _ => .silent) with retries := 3 }) := by decide
    have bounded : made ≤ 3 := retried.bounded
    have two : made = 2 := by
      have positive := retried.some_exchange
      rcases (by omega : made = 1 ∨ made = 2 ∨ made = 3) with rfl | rfl | rfl
      · exact absurd (retried.ended (by decide)) first
      · rfl
      · exact absurd second (retried.first 1 (by decide))
    subst two
    exact ⟨retried.ok_iff.2 ⟨1, by decide, second⟩, exchanges⟩
  · have ended := (writes_retry (lateEcho [1, 16, 0, 100, 0, 1]) (Object.fresh fun _ => .silent) rfl).2
      1 ⟨100, 1, fun _ => 51⟩
    have query : ((ModbusWritePackage.mk 100 1 fun _ => 51).write 1).query
        (Object.fresh fun _ => .silent) = [1, 16, 0, 100, 0, 1, 2, 0, 51] := by decide
    rw [query] at ended
    apply wp_imp ended
    rintro written t ⟨made, tried, -, sent⟩
    have bounded : made ≤ 2 := tried.bounded
    have first : ¬ (lateEcho [1, 16, 0, 100, 0, 1] (0 + 0)).Acknowledges
      [1, 16, 0, 100, 0, 1, 2, 0, 51] := by decide
    have again : 1 < made := (tried.further_iff 1 (by decide)).2 fun k below => by
      obtain rfl : k = 0 := Nat.lt_one_iff.1 below
      exact first
    obtain rfl : made = 2 := by omega
    exact ⟨tried.written_iff.2 ⟨1, by decide, by decide⟩, sent⟩

end TizerVision.Modbus
