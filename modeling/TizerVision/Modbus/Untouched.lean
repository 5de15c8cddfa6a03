/-
# Modbus.Untouched — what a failed read does to the caller's array

A read unpacks the reply into the caller's array only after an exchange that is answered, so a read
that returns an error has not touched it.  The overloads for `short` read into memory of their own and
copy it to the caller afterwards, whatever the read returned: after a failed read the caller has what
happened to be in that memory.

* `wp_readExchange` — a read over every sequence of outcomes: the first answer is unpacked.
* `failed_reads_keep_array_iff` — the six entry points and when they keep the caller's array.
-/
import TizerVision.Modbus.Retry

namespace TizerVision.Modbus

set_option autoImplicit false

open Theory

/-! ## The overloads for short -/

section Short

variable (txRxMessage : Nat → Nat → Call WORD)

/-- `CModbus::Word2ShortArray` -/
def word2ShortArray (anArray : Nat → WORD) (size : WORD) (aiArray : Nat → Int16) : Nat → Int16 :=
  (List.range size.toNat).foldl (fun aiArray i => Function.update aiArray i (toInt16 (anArray i)))
    aiArray

/-- `ReadOutputRegisters` and `ReadInputRegisters` for `short`; `fresh` is what `new WORD[nQtd]` holds. -/
def readRegistersShort (function : BYTE) (nAddr nDataStart nQtd : WORD) (fresh : Nat → WORD)
    (anRegValues : Nat → Int16) : Call (WORD × (Nat → Int16)) := do
  let r ← readRegisters txRxMessage function nAddr nDataStart nQtd fresh
  pure (r.1, word2ShortArray r.2 nQtd anRegValues)

def readOutputRegistersShort (nAddr nDataStart nQtd : WORD) (fresh : Nat → WORD)
    (anRegValues : Nat → Int16) : Call (WORD × (Nat → Int16)) :=
  readRegistersShort txRxMessage READ_OUTPUT_REGISTERS nAddr nDataStart nQtd fresh anRegValues

def readInputRegistersShort (nAddr nDataStart nQtd : WORD) (fresh : Nat → WORD)
    (anRegValues : Nat → Int16) : Call (WORD × (Nat → Int16)) :=
  readRegistersShort txRxMessage READ_INPUT_REGISTERS nAddr nDataStart nQtd fresh anRegValues

end Short

theorem foldl_update_range {β : Type} (value : Nat → β) (n : Nat) (array : Nat → β) :
    (List.range n).foldl (fun array i => Function.update array i (value i)) array =
      fun k => if k < n then value k else array k := by
  induction n with
  | zero => rfl
  | succ n ih =>
      rw [List.range_succ, List.foldl_append, ih, List.foldl_cons, List.foldl_nil]
      funext k
      by_cases here : k = n
      · subst here
        simp
      · rw [Function.update_of_ne here]
        simp [show k < n + 1 ↔ k < n by omega]

theorem word2ShortArray_eq (anArray : Nat → WORD) (size : WORD) (aiArray : Nat → Int16) :
    word2ShortArray anArray size aiArray =
      fun k => if k < size.toNat then toInt16 (anArray k) else aiArray k :=
  foldl_update_range (fun k => toInt16 (anArray k)) _ _

theorem word2ShortArray_of_lt {anArray : Nat → WORD} {size : WORD} {aiArray : Nat → Int16} {k : Nat}
    (below : k < size.toNat) : word2ShortArray anArray size aiArray k = toInt16 (anArray k) := by
  rw [word2ShortArray_eq]
  exact if_pos below

/-! ## The first answer -/

/-- The exchange returned `ERR_OK`, and the reply has the address and the function of the query. -/
def Outcome.Answers (outcome : Outcome) (nAddr : WORD) (function : BYTE) : Prop :=
  outcome.code = ERR_OK ∧ outcome.reply 0 = lobyte nAddr ∧ outcome.reply 1 = function

instance (outcome : Outcome) (nAddr : WORD) (function : BYTE) :
    Decidable (outcome.Answers nAddr function) := inferInstanceAs (Decidable (_ ∧ _))

section Answer

variable (script : Nat → Outcome) (nAddr : WORD) (function : BYTE)

/-- One of `allowed` exchanges from `start` on is answered. -/
def Answered (start allowed : Nat) : Prop :=
  ∃ k < allowed, (script (start + k)).Answers nAddr function

/-- The outcome that is. -/
def firstAnswer (start : Nat) : Nat → Option Outcome
  | 0 => none
  | allowed + 1 =>
      if (script start).Answers nAddr function then some (script start)
      else firstAnswer (start + 1) allowed

theorem answered_iff (start allowed : Nat) :
    Answered script nAddr function start allowed ↔
      ∃ outcome, firstAnswer script nAddr function start allowed = some outcome := by
  induction allowed generalizing start with
  | zero => simp [Answered, firstAnswer]
  | succ allowed ih =>
      rw [firstAnswer]
      by_cases answers : (script start).Answers nAddr function
      · rw [if_pos answers]
        exact iff_of_true ⟨0, Nat.succ_pos _, answers⟩ ⟨_, rfl⟩
      · rw [if_neg answers, ← ih]
        constructor
        · rintro ⟨k, below, answered⟩
          cases k with
          | zero => exact absurd answered answers
          | succ k => exact ⟨k, by omega, by rwa [Nat.add_assoc, Nat.add_comm 1]⟩
        · rintro ⟨k, below, answered⟩
          exact ⟨k + 1, by omega, by rwa [Nat.add_comm k, ← Nat.add_assoc]⟩

end Answer

/-! ## A read over every sequence of outcomes -/

section Read

variable {script : Nat → Outcome} {nAddr : WORD} {function : BYTE} {α : Type} {lr : Nat}
  {unpack : α → Call α} {fill : (Nat → BYTE) → α → α} {values : α}

/-- Unpacking fills the array from the reply. -/
def FillsFromReply (unpack : α → Call α) (fill : (Nat → BYTE) → α → α) : Prop :=
  ∀ (t : Object) (values : α), wp (unpack values) (fun v _ => v = fill (t.cell .abyReply) values)
    (fun _ _ => False) t

/-- The query starts with this address and this function. -/
def Object.AsksFor (s : Object) (nAddr : WORD) (function : BYTE) : Prop :=
  s.cell .abyQuery 0 = lobyte nAddr ∧ s.cell .abyQuery 1 = function

/-- The state after an exchange that was not answered. -/
structure Object.Refused (t : Object) (nAddr : WORD) (function : BYTE) (u : Object) : Prop where
  asks : u.AsksFor nAddr function
  exchanges : u.exchanges = t.exchanges + 1
  throwing : u.throwing = t.throwing

/-- One turn of a read. -/
theorem wp_readAttempt_scripted (unpacks : FillsFromReply unpack fill) {t : Object}
    (asks : t.AsksFor nAddr function) :
    wp (readAttempt (scripted script) lr unpack values) (fun r u =>
      if (script t.exchanges).Answers nAddr function then
        r = (ERR_OK, fill (script t.exchanges).reply values)
      else r.1 ≠ ERR_OK ∧ r.2 = values ∧ t.Refused nAddr function u) (fun _ _ => False) t := by
  rw [readAttempt, scripted, wp_bind, wp_bind, wp_get, wp_bind, wp_modify, wp_pure, takeReply]
  generalize script t.exchanges = outcome
  have refused : t.Refused nAddr function (t.undergo 6 outcome) :=
    ⟨⟨by simp [Object.undergo, asks.1], by simp [Object.undergo, asks.2]⟩, rfl, rfl⟩
  by_cases ok : outcome.code = ERR_OK
  · rw [if_pos ok, wp_bind]
    apply wp_imp (wp_sameHeader (t.undergo 6 outcome))
    rintro valid u ⟨valid_iff, only⟩
    have same : valid = true ↔ outcome.Answers nAddr function := by
      rw [valid_iff, refused.asks.1, refused.asks.2]
      exact (and_iff_right ok).symm
    rw [wp_ite]
    by_cases answers : outcome.Answers nAddr function
    · rw [if_pos (same.2 answers), wp_bind]
      apply wp_imp (unpacks u values)
      rintro _ _ rfl
      rw [wp_pure, if_pos answers, only]
      rfl
    · rw [if_neg (mt same.1 answers), wp_pure, if_neg answers, only]
      have invalid : ERR_INV_RESP ≠ ERR_OK := by decide
      exact ⟨invalid, rfl, refused.asks, refused.exchanges, refused.throwing⟩
  · rw [if_neg ok, wp_pure, if_neg fun answers => ok answers.1]
    exact ⟨ok, rfl, refused⟩

/-- **The loop**, by induction on the turns still allowed. -/
theorem wp_retryLoop_read (unpacks : FillsFromReply unpack fill) (further : Nat) {t : Object}
    (asks : t.AsksFor nAddr function) :
    wp (retryLoop (readAttempt (scripted script) lr unpack) further values) (fun r u =>
      match firstAnswer script nAddr function t.exchanges (further + 1) with
      | some outcome => r = (ERR_OK, fill outcome.reply values)
      | none => r.1 ≠ ERR_OK ∧ r.2 = values ∧ u.throwing = t.throwing) (fun _ _ => False) t := by
  induction further generalizing t with
  | zero =>
      apply wp_imp (wp_readAttempt_scripted unpacks asks)
      intro r u ended
      rw [firstAnswer]
      split at ended
      · rw [if_pos (by assumption)]
        exact ended
      · rw [if_neg (by assumption)]
        exact ⟨ended.1, ended.2.1, ended.2.2.throwing⟩
  | succ further ih =>
      rw [retryLoop, wp_bind]
      apply wp_imp (wp_readAttempt_scripted unpacks asks)
      intro r u ended
      rw [firstAnswer, wp_ite]
      by_cases answers : (script t.exchanges).Answers nAddr function
      · rw [if_pos answers] at ended ⊢
        rw [if_neg (by simp [ended])]
        exact ended
      · rw [if_neg answers] at ended ⊢
        obtain ⟨failed, same, refused⟩ := ended
        rw [if_pos failed, same, ← refused.exchanges, ← refused.throwing]
        exact ih refused.asks

/-- The first answer among the exchanges the object allows. -/
def Object.answer (s : Object) (script : Nat → Outcome) (nAddr : WORD) (function : BYTE) :
    Option Outcome :=
  firstAnswer script nAddr function s.exchanges (max 1 s.retries.toNat)

/-- What a read returns: the answer unpacked, or an error with the array as it was. -/
def ReadReturns (answer : Option Outcome) (throwing : Bool) (fill : (Nat → BYTE) → α → α) (values : α)
    (r : WORD × α) : Prop :=
  match answer with
  | some outcome => r = (ERR_OK, fill outcome.reply values)
  | none => r.1 ≠ ERR_OK ∧ r.2 = values ∧ throwing = false

/-- **A read over every sequence of outcomes.**  The first answer among the exchanges allowed is
unpacked.  Without one the array is as it was, and the read returns an error or raises it. -/
theorem wp_readExchange (unpacks : FillsFromReply unpack fill) (nDataStart nQtd : WORD) {s : Object} :
    wp (fillHeader nAddr function nDataStart nQtd >>= fun _ =>
        exchange (readAttempt (scripted script) lr unpack) values) (fun r _ =>
      ReadReturns (s.answer script nAddr function) s.throwing fill values r)
      (fun _ _ => s.answer script nAddr function = none ∧ s.throwing = true) s := by
  rw [wp_bind, wp_fillHeader, exchange, wp_bind, wp_get, wp_bind]
  have asks : (s.writeBlock .abyQuery 0 (header nAddr function nDataStart nQtd)).AsksFor nAddr function :=
    ⟨s.writeBlock_zero _ _ 0, s.writeBlock_zero _ _ 1⟩
  have allowed : s.retries.toNat - 1 + 1 = max 1 s.retries.toNat := by omega
  apply wp_of_returns (wp_retryLoop_read unpacks (s.retries.toNat - 1) asks)
  intro r u ended
  rw [allowed] at ended
  change match s.answer script nAddr function with
    | some outcome => r = (ERR_OK, fill outcome.reply values)
    | none => r.1 ≠ ERR_OK ∧ r.2 = values ∧ u.throwing = s.throwing at ended
  cases first : s.answer script nAddr function with
  | some outcome =>
      rw [first] at ended
      subst ended
      rw [wp_bind, wp_throwModbusException_ok]
      rfl
  | none =>
      rw [first] at ended
      obtain ⟨failed, same, throwing⟩ := ended
      rw [throwModbusException, wp_bind, wp_bind, wp_get, wp_ite, throwing]
      by_cases raises : s.throwing = true
      · rw [if_pos ⟨failed, raises⟩]
        exact ⟨rfl, raises⟩
      · rw [if_neg fun both => raises both.2]
        exact ⟨failed, same, Bool.eq_false_iff.2 raises⟩

end Read

/-! ## Registers and coils -/

/-- The data of a reply. -/
def replyData (reply : Nat → BYTE) (n : Nat) : List BYTE := (List.range n).map fun j => reply (3 + j)

/-- The array after `q` registers of the reply are unpacked. -/
def takenRegisters (q : Nat) (reply : Nat → BYTE) (values : Nat → WORD) (k : Nat) : WORD :=
  if k < q then registerAt (replyData reply (2 * q)) k else values k

/-- The array after `q` coils of the reply are unpacked. -/
def takenCoils (q : Nat) (reply : Nat → BYTE) (values : Nat → BYTE) (k : Nat) : BYTE :=
  if k < q then boolByte (coilAt (replyData reply ((q + 7) / 8)) k) else values k

/-- The turns of the loop over the registers. -/
def registerTurns (nQtd : WORD) : Nat := ((toShort (3 + 2 * nQtd.toNat) - 2) / 2).toNat

theorem replyData_getD (reply : Nat → BYTE) {n j : Nat} (below : j < (replyData reply n).length) :
    reply (3 + j) = (replyData reply n).getD j 0 := by
  have inside : j < n := by simpa [replyData] using below
  simp [replyData, inside]

/-- All registers are unpacked as long as the length of the reply fits a `short`. -/
theorem le_registerTurns_iff (nQtd : WORD) : nQtd.toNat ≤ registerTurns nQtd ↔ nQtd.toNat ≤ 16382 := by
  have bound := nQtd.isLt
  unfold registerTurns toShort
  rw [BitVec.toInt_eq_toNat_cond, BitVec.toNat_ofNat]
  split <;> omega

section Arrays

variable {script : Nat → Outcome} {s : Object} {nAddr nDataStart nQtd : WORD} {function : BYTE}

theorem unpacks_registers (nQtd : WORD) :
    FillsFromReply (unpackRegisters (toShort (3 + 2 * nQtd.toNat))) (takenRegisters (registerTurns nQtd)) :=
  fun _ values => wp_unpackRegisters rfl (by simp [replyData]; rfl)
    (fun _ below => replyData_getD _ below) values

theorem unpacks_status (q : Nat) : FillsFromReply (unpackStatus q) (takenCoils q) :=
  fun _ values => wp_unpackStatus (by simp [replyData]) (fun _ below => replyData_getD _ below) values

theorem wp_readRegisters_scripted (values : Nat → WORD) :
    wp (readRegisters (scripted script) function nAddr nDataStart nQtd values) (fun r _ =>
      ReadReturns (s.answer script nAddr function) s.throwing (takenRegisters (registerTurns nQtd)) values r)
      (fun _ _ => s.answer script nAddr function = none ∧ s.throwing = true) s :=
  wp_readExchange (unpacks_registers nQtd) nDataStart nQtd

theorem wp_readStatus_scripted (values : Nat → BYTE) :
    wp (readStatus (scripted script) function nAddr nDataStart nQtd values) (fun r _ =>
      ReadReturns (s.answer script nAddr function) s.throwing (takenCoils nQtd.toNat) values r)
      (fun _ _ => s.answer script nAddr function = none ∧ s.throwing = true) s :=
  wp_readExchange (unpacks_status nQtd.toNat) nDataStart nQtd

/-! ## The entry points -/

/-- A code other than `ERR_OK` is returned only with the caller's array as it was. -/
def Untouched {β : Type} (read : (Nat → β) → Call (WORD × (Nat → β))) (s : Object) : Prop :=
  ∀ array, wp (read array) (fun r _ => r.1 ≠ ERR_OK → r.2 = array) (fun _ _ => True) s

/-- With `ERR_OK` the shorts are those of the words that the other overload reads, into any array. -/
def SameReading (readShort : (Nat → WORD) → (Nat → Int16) → Call (WORD × (Nat → Int16)))
    (read : (Nat → WORD) → Call (WORD × (Nat → WORD))) (nQtd : WORD) (s : Object) : Prop :=
  ∀ fresh array words, wp (readShort fresh array) (fun r _ => r.1 = ERR_OK →
    wp (read words) (fun r' _ => r'.1 = ERR_OK ∧ ∀ k < nQtd.toNat, r.2 k = toInt16 (r'.2 k))
      (fun _ _ => False) s) (fun _ _ => True) s

/-- The calls of `CModbus` that read. -/
inductive ReadEntry where
  | outputRegisters
  | inputRegisters
  | outputRegistersShort
  | inputRegistersShort
  | outputStatus
  | inputStatus
deriving DecidableEq, Repr

/-- A read that fails leaves the caller's array as it was, and one of shorts reads what one of words
does; `fresh` is any content of new memory. -/
def ReadEntry.KeepsCaller (script : Nat → Outcome) (s : Object) (nAddr nDataStart nQtd : WORD) :
    ReadEntry → Prop
  | .outputRegisters => Untouched (readOutputRegisters (scripted script) nAddr nDataStart nQtd) s
  | .inputRegisters => Untouched (readInputRegisters (scripted script) nAddr nDataStart nQtd) s
  | .outputRegistersShort =>
      (∀ fresh, Untouched (readOutputRegistersShort (scripted script) nAddr nDataStart nQtd fresh) s) ∧
        SameReading (readOutputRegistersShort (scripted script) nAddr nDataStart nQtd)
          (readOutputRegisters (scripted script) nAddr nDataStart nQtd) nQtd s
  | .inputRegistersShort =>
      (∀ fresh, Untouched (readInputRegistersShort (scripted script) nAddr nDataStart nQtd fresh) s) ∧
        SameReading (readInputRegistersShort (scripted script) nAddr nDataStart nQtd)
          (readInputRegisters (scripted script) nAddr nDataStart nQtd) nQtd s
  | .outputStatus => Untouched (readOutputStatus (scripted script) nAddr nDataStart nQtd) s
  | .inputStatus => Untouched (readInputStatus (scripted script) nAddr nDataStart nQtd) s

/-- An answered read of shorts asks for no more registers than fit a reply, and one that is not answered
raises its error or asks for none. -/
def ShortsKept (script : Nat → Outcome) (s : Object) (nAddr nQtd : WORD) (function : BYTE) : Prop :=
  (Answered script nAddr function s.exchanges (max 1 s.retries.toNat) → nQtd.toNat ≤ 16382) ∧
    (¬ Answered script nAddr function s.exchanges (max 1 s.retries.toNat) →
      s.throwing = true ∨ nQtd = 0)

def ReadEntry.Safe (script : Nat → Outcome) (s : Object) (nAddr nQtd : WORD) : ReadEntry → Prop
  | .outputRegistersShort => ShortsKept script s nAddr nQtd READ_OUTPUT_REGISTERS
  | .inputRegistersShort => ShortsKept script s nAddr nQtd READ_INPUT_REGISTERS
  | _ => True

theorem ReadReturns.untouched {β : Type} {answer : Option Outcome} {throwing : Bool}
    {fill : (Nat → BYTE) → β → β} {values : β} {r : WORD × β}
    (returned : ReadReturns answer throwing fill values r) (failed : r.1 ≠ ERR_OK) : r.2 = values := by
  cases answer with
  | some outcome =>
      obtain rfl : r = _ := returned
      exact absurd rfl failed
  | none => exact returned.2.1

theorem untouched_readRegisters :
    Untouched (readRegisters (scripted script) function nAddr nDataStart nQtd) s :=
  fun array => wp_mono (wp_readRegisters_scripted array) (fun _ _ => ReadReturns.untouched)
    fun _ _ _ => trivial

theorem untouched_readStatus :
    Untouched (readStatus (scripted script) function nAddr nDataStart nQtd) s :=
  fun array => wp_mono (wp_readStatus_scripted array) (fun _ _ => ReadReturns.untouched)
    fun _ _ _ => trivial

theorem wp_readRegistersShort_iff {fresh : Nat → WORD} {array : Nat → Int16}
    {Q : WORD × (Nat → Int16) → Object → Prop} {E : String → Object → Prop} :
    wp (readRegistersShort (scripted script) function nAddr nDataStart nQtd fresh array) Q E s ↔
      wp (readRegisters (scripted script) function nAddr nDataStart nQtd fresh)
        (fun r t => Q (r.1, word2ShortArray r.2 nQtd array) t) E s := by
  rw [readRegistersShort, wp_bind]
  rfl

theorem wp_readRegisters_answered {outcome : Outcome}
    (answered : s.answer script nAddr function = some outcome) (nDataStart nQtd : WORD)
    (values : Nat → WORD) :
    wp (readRegisters (scripted script) function nAddr nDataStart nQtd values)
      (fun r _ => r = (ERR_OK, takenRegisters (registerTurns nQtd) outcome.reply values))
      (fun _ _ => False) s := by
  apply wp_mono (wp_readRegisters_scripted values)
  · intro r _ returned
    rw [answered] at returned
    exact returned
  · rintro _ _ ⟨unanswered, -⟩
    rw [answered] at unanswered
    cases unanswered

/-- **An answered read of shorts**: the shorts are those of the words iff all registers are unpacked. -/
theorem sameReading_iff_of_answer {outcome : Outcome}
    (answered : s.answer script nAddr function = some outcome) :
    SameReading (readRegistersShort (scripted script) function nAddr nDataStart nQtd)
      (readRegisters (scripted script) function nAddr nDataStart nQtd) nQtd s ↔
      nQtd.toNat ≤ registerTurns nQtd := by
  have read := wp_readRegisters_answered answered nDataStart nQtd
  constructor
  · intro same
    by_contra few
    -- the register behind the last that is unpacked is read as 0 and as 1
    have both := same (fun _ => 0) (fun _ => 0) fun _ => 1
    rw [wp_readRegistersShort_iff] at both
    obtain ⟨_, _, ran, rfl⟩ := (read fun _ => 0).exists_ok
    obtain ⟨_, _, ran', rfl⟩ := (read fun _ => 1).exists_ok
    have equal := ((both.of_ok ran rfl).of_ok ran').2 (registerTurns nQtd) (Nat.lt_of_not_le few)
    simp only [word2ShortArray_of_lt (Nat.lt_of_not_le few), takenRegisters, Nat.lt_irrefl,
      if_false] at equal
    revert equal
    decide
  · intro enough fresh array words
    rw [wp_readRegistersShort_iff]
    apply wp_of_returns (read fresh)
    rintro _ _ rfl -
    apply wp_imp (read words)
    rintro _ _ rfl
    refine ⟨rfl, fun k below => ?_⟩
    simp only [word2ShortArray_of_lt below, takenRegisters, if_pos (Nat.lt_of_lt_of_le below enough)]

/-- **A read of shorts without an answer**: the array is kept iff the error is raised, or nothing is
copied. -/
theorem untouched_short_iff_of_no_answer (unanswered : s.answer script nAddr function = none) :
    (∀ fresh, Untouched (readRegistersShort (scripted script) function nAddr nDataStart nQtd fresh) s) ↔
      s.throwing = true ∨ nQtd = 0 := by
  constructor
  · intro kept
    by_contra neither
    obtain ⟨quiet, some_asked⟩ := not_or.1 neither
    have positive : 0 < nQtd.toNat := Nat.pos_of_ne_zero fun zero => some_asked (BitVec.eq_of_toNat_eq zero)
    have copied := kept (fun _ => 0) fun _ => 1
    rw [wp_readRegistersShort_iff] at copied
    apply not_wp_false
    apply wp_mono (wp_and copied (wp_readRegisters_scripted fun _ => 0))
    · rintro r _ ⟨same, returned⟩
      rw [unanswered] at returned
      obtain ⟨failed, memory, -⟩ := returned
      have first := congrFun (same failed) 0
      simp only [word2ShortArray_of_lt positive, memory] at first
      revert first
      decide
    · rintro _ _ ⟨-, -, throwing⟩
      exact quiet throwing
  · intro safe fresh array
    rw [wp_readRegistersShort_iff]
    apply wp_mono (wp_readRegisters_scripted fresh)
    · intro r _ returned _
      rw [unanswered] at returned
      obtain ⟨-, -, quiet⟩ := returned
      rcases safe with throwing | rfl
      · rw [quiet] at throwing
        cases throwing
      · rfl
    · exact fun _ _ _ => trivial

theorem shorts_kept_iff :
    ((∀ fresh, Untouched (readRegistersShort (scripted script) function nAddr nDataStart nQtd fresh) s) ∧
      SameReading (readRegistersShort (scripted script) function nAddr nDataStart nQtd)
        (readRegisters (scripted script) function nAddr nDataStart nQtd) nQtd s) ↔
      ShortsKept script s nAddr nQtd function := by
  have answered_iff := answered_iff script nAddr function s.exchanges (max 1 s.retries.toNat)
  rw [ShortsKept, answered_iff]
  show _ ↔ ((∃ outcome, s.answer script nAddr function = some outcome) → _) ∧
    (¬ (∃ outcome, s.answer script nAddr function = some outcome) → _)
  cases answer : s.answer script nAddr function with
  | some outcome =>
      have untouched : ∀ fresh,
          Untouched (readRegistersShort (scripted script) function nAddr nDataStart nQtd fresh) s := by
        intro fresh array
        rw [wp_readRegistersShort_iff]
        apply wp_of_returns (wp_readRegisters_answered answer nDataStart nQtd fresh)
        rintro _ _ rfl failed
        exact absurd rfl failed
      rw [sameReading_iff_of_answer answer, le_registerTurns_iff]
      simp [untouched]
  | none =>
      have same : SameReading (readRegistersShort (scripted script) function nAddr nDataStart nQtd)
          (readRegisters (scripted script) function nAddr nDataStart nQtd) nQtd s := by
        intro fresh array words
        rw [wp_readRegistersShort_iff]
        apply wp_mono (wp_readRegisters_scripted fresh)
        · intro r _ returned ok
          rw [answer] at returned
          exact absurd ok returned.1
        · exact fun _ _ _ => trivial
      rw [untouched_short_iff_of_no_answer answer]
      simp [same]

end Arrays

/-- **When a failed read leaves the caller's array alone.**  The reads of words and of coils always do;
those of shorts, as `ShortsKept` says. -/
theorem failed_reads_keep_array_iff (script : Nat → Outcome) (s : Object)
    (nAddr nDataStart nQtd : WORD) (entry : ReadEntry) :
    entry.KeepsCaller script s nAddr nDataStart nQtd ↔ entry.Safe script s nAddr nQtd := by
  cases entry with
  | outputRegisters => exact iff_of_true untouched_readRegisters trivial
  | inputRegisters => exact iff_of_true untouched_readRegisters trivial
  | outputRegistersShort => exact shorts_kept_iff
  | inputRegistersShort => exact shorts_kept_iff
  | outputStatus => exact iff_of_true untouched_readStatus trivial
  | inputStatus => exact iff_of_true untouched_readStatus trivial

/-- No exchange is answered in time. -/
def timedOut (_ : Nat) : Outcome := ⟨ERR_TIMEOUT, fun _ => 0, fun _ => 0⟩

/-- One register is read as a `short`: the caller's 1 is overwritten by what new memory holds. -/
theorem timed_out_read_overwrites :
    ¬ ReadEntry.outputRegistersShort.KeepsCaller timedOut (Object.fresh fun _ => .silent) 1 0 1 := by
  rintro ⟨untouched, -⟩
  have kept : ERR_TIMEOUT ≠ ERR_OK → word2ShortArray (fun _ => 0) 1 (fun _ => 1) = fun _ => 1 :=
    untouched (fun _ => 0) fun _ => 1
  have first := congrFun (kept (by decide)) 0
  revert first
  decide

end TizerVision.Modbus
