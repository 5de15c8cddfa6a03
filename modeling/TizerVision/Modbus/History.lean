/-
# Modbus.History — sessions of operations, with slaves that lose requests and answers

A program makes one call after the other on one object in RTU mode.  Each call may send its query several
times, and each time the slave may answer, refuse, fall silent, or carry the request out and have its
answer lost.  The caller sees codes, exceptions and its arrays.  The results are about sessions in which
`ForceMultipleCoils` finds no old bits where it needs a 0 (`Session.Prepared`): it only sets bits, so with
an old bit in its part of the query it would ask for other coils than its caller.

* `session_history` — what the caller sees is a history of single requests: a call that returns `ERR_OK`
  was carried out once and its array holds the slave's values, any other call was carried out once or not
  at all.  The calls take effect one after the other, and repeating a request does no harm.
* `register_read_back` — a register that a write was acknowledged for and that no later call can write is
  read with the written value, whatever happens to the calls between the two.
-/
import TizerVision.Theory.Lossy
import TizerVision.Modbus.Concurrent

namespace TizerVision.Modbus

set_option autoImplicit false

open Theory

/-! ## Sessions -/

namespace Operation

/-- An operation with the caller's array. -/
def call (op : Operation) : Call (WORD × Operation) := op.fill >>= fun _ => exchange turn op

theorem perform_eq_call (op : Operation) : perform op = Prod.fst <$> op.call := by
  rw [perform_eq_turns, call, map_bind]

end Operation

/-- What a caller sees of a call: an exception, or a code and its array. -/
abbrev Result := Except String (WORD × Operation)

/-- The array, if the call returned `ERR_OK`. -/
def Result.got : Result → Option Operation
  | .error _ => none
  | .ok r => if r.1 = ERR_OK then some r.2 else none

structure Session where
  object : Object
  log : List (Operation × Result)

inductive SessionAction where
  | call (op : Operation)
  /-- `Retries(wRetries)` -/
  | retries (wRetries : WORD)
  /-- `ThrowException(bThrow)` -/
  | throwException (bThrow : Bool)

namespace Session

/-- A call ends in `object` with `result`. -/
def record (s : Session) (op : Operation) (result : Result) (object : Object) : Session :=
  ⟨object, s.log ++ [(op, result)]⟩

def step (s : Session) : SessionAction → Option Session
  | .call op =>
      match op.call.run s.object with
      | .ok r object => some (s.record op (.ok r) object)
      | .error text object => some (s.record op (.error text) object)
  | .retries wRetries => some { s with object := { s.object with retries := wRetries } }
  | .throwException bThrow => some { s with object := { s.object with throwing := bThrow } }

/-- `ForceMultipleCoils` begins without old bits in its part of the query. -/
def Prepared (s : Session) : SessionAction → Prop
  | .call op => op.Prepared s.object
  | _ => True

instance (s : Session) (a : SessionAction) : Decidable (s.Prepared a) :=
  match a with
  | .call op => inferInstanceAs (Decidable (op.Prepared s.object))
  | .retries _ | .throwException _ => inferInstanceAs (Decidable True)

/-- The calls and what the caller got. -/
def seen (s : Session) : List (Operation × Option Operation) :=
  s.log.map fun entry => (entry.1, entry.2.got)

end Session

/-! ## The slaves -/

/-- The messages that were sent, without their checksums. -/
def Object.transmitted (s : Object) : List (List BYTE) :=
  s.sent.map fun frame => frame.take (frame.length - 2)

/-- The slaves at the beginning, and what becomes of each message. -/
structure Slaves where
  bus : Bus
  conduct : Nat → Conduct

namespace Slaves

/-- The slaves after the messages, the first of which has the number `k`. -/
def follow (slaves : Slaves) : Nat → Bus → List (List BYTE) → Bus
  | _, bus, [] => bus
  | k, bus, message :: messages =>
      slaves.follow (k + 1) ((slaves.conduct k).effect message bus) messages

def after (slaves : Slaves) (messages : List (List BYTE)) : Bus := slaves.follow 0 slaves.bus messages

/-- The port delivers what correct slaves send. -/
def Obeyed (slaves : Slaves) (port : Nat → Exchange) (messages : List (List BYTE)) : Prop :=
  ∀ k message, messages[k]? = some message →
    Correct (slaves.after (messages.take k)) message (port k) (slaves.conduct k)

instance (slaves : Slaves) (port : Nat → Exchange) (messages : List (List BYTE)) :
    Decidable (slaves.Obeyed port messages) :=
  decidable_of_iff (∀ k, (below : k < messages.length) →
    Correct (slaves.after (messages.take k)) messages[k] (port k) (slaves.conduct k)) (by
      constructor
      · intro all k message found
        obtain ⟨below, rfl⟩ := List.getElem?_eq_some_iff.1 found
        exact all k below
      · exact fun obeyed k below => obeyed k _ (List.getElem?_eq_getElem below))

variable {slaves : Slaves} {port : Nat → Exchange} {messages : List (List BYTE)} {message : List BYTE}

theorem follow_append (k : Nat) (bus : Bus) (messages : List (List BYTE)) (message : List BYTE) :
    slaves.follow k bus (messages ++ [message]) =
      (slaves.conduct (k + messages.length)).effect message (slaves.follow k bus messages) := by
  induction messages generalizing k bus with
  | nil => rfl
  | cons first messages ih =>
      rw [List.cons_append, follow, ih, follow, List.length_cons, Nat.add_assoc, Nat.add_comm 1]

theorem after_append (messages : List (List BYTE)) (message : List BYTE) :
    slaves.after (messages ++ [message]) =
      (slaves.conduct messages.length).effect message (slaves.after messages) := by
  rw [after, follow_append, Nat.zero_add]
  rfl

theorem Obeyed.of_append (obeyed : slaves.Obeyed port (messages ++ [message])) :
    slaves.Obeyed port messages ∧
      Correct (slaves.after messages) message (port messages.length)
        (slaves.conduct messages.length) := by
  refine ⟨fun k m found => ?_, ?_⟩
  · obtain ⟨below, -⟩ := List.getElem?_eq_some_iff.1 found
    have earlier := obeyed k m (by rwa [List.getElem?_append_left below])
    rwa [List.take_append_of_le_length (Nat.le_of_lt below)] at earlier
  · have last := obeyed messages.length message (by simp)
    rwa [List.take_left'] at last
    rfl

end Slaves

/-! ## One call is one request -/

namespace Operation

/-- The slaves after the request is carried out. -/
def carry (op : Operation) (bus : Bus) : Bus :=
  Function.update bus op.asks.slave (op.asks.request.carryOut (bus op.asks.slave))

end Operation

theorem Request.carryOut_carryOut (request : Request) (memory : Memory) :
    request.carryOut (request.carryOut memory) = request.carryOut memory := by
  cases request with
  | read | loopback => rfl
  | presetRegister | forceCoil => simp [carryOut]
  | presetRegisters start values | forceCoils start values =>
      simp only [carryOut, Memory.mk.injEq, true_and, and_true]
      funext r
      simp only [List.getD_eq_getElem?_getD]
      cases values[(r - start).toNat]? <;> rfl

theorem Operation.carry_carry (op : Operation) (bus : Bus) : op.carry (op.carry bus) = op.carry bus := by
  simp [carry, Request.carryOut_carryOut]

/-- A read changes nothing, and what a write is answered with does not depend on the slaves. -/
theorem Operation.readFrom_carry (op : Operation) (bus : Bus) :
    op.readFrom (op.carry bus) = op.readFrom bus := by
  cases op with
  | readOutputRegisters | readInputRegisters | readOutputStatus | readInputStatus =>
      simp [readFrom, carry, asks, Request.carryOut]
  | _ => rfl

/-- What becomes of a call. -/
abbrev CallServed (op : Operation) : Option Operation → Bus → Bus → Prop :=
  Served Operation.carry (fun op bus => op.readFrom bus) op

/-- An attempt that was not answered and those that follow it are one call. -/
theorem callServed_again {op : Operation} {got : Option Operation} {bus bus' bus'' : Bus}
    (first : CallServed op none bus bus') (rest : CallServed op got bus' bus'') :
    CallServed op got bus bus'' :=
  first.again op.carry_carry op.readFrom_carry rest

/-- A message that asks for what the caller means is carried out or not. -/
theorem effect_of_asks {op : Operation} {message : List BYTE} {bus : Bus} (conduct : Conduct)
    (asks : ∀ order, decodeMessage message = some order → order = op.asks) :
    CallServed op none bus (conduct.effect message bus) := by
  unfold Conduct.effect
  cases found : decodeMessage message with
  | none =>
      cases conduct with
      | _ => exact .lost bus
  | some order =>
      rw [asks order found]
      cases conduct with
      | answers | carriesOut => exact .unanswered bus
      | refuses | ignores => exact .lost bus

/-! ## The attempts of a call -/

/-- The object of a session: in RTU mode, with an entry of the record for each exchange. -/
structure Object.InSession (s : Object) : Prop where
  rtu : s.mode = .rtu
  counted : s.exchanges = s.sent.length

/-- What happened between two states of the object, as the caller of `op` sees it. -/
structure Attempted (slaves : Slaves) (op : Operation) (s : Object) (got : Option Operation)
    (t : Object) : Prop where
  inSession : t.InSession
  port : t.port = s.port
  earlier : slaves.Obeyed t.port t.transmitted → slaves.Obeyed s.port s.transmitted
  served : slaves.Obeyed t.port t.transmitted →
    CallServed op got (slaves.after s.transmitted) (slaves.after t.transmitted)

variable {slaves : Slaves} {s t : Object} {op : Operation}

theorem Attempted.again {u : Object} {got : Option Operation} (first : Attempted slaves op s none t)
    (rest : Attempted slaves op t got u) : Attempted slaves op s got u where
  inSession := rest.inSession
  port := rest.port.trans first.port
  earlier obeyed := first.earlier (rest.earlier obeyed)
  served obeyed := callServed_again (first.served (rest.earlier obeyed)) (rest.served obeyed)

/-- A step that sends nothing and is not seen by the port. -/
theorem Attempted.of_sameLine {u : Object} {got : Option Operation} (attempted : Attempted slaves op s got t)
    (same : t.SameLine u) : Attempted slaves op s got u := by
  have sent : u.sent = t.sent := by rw [same]
  have port : u.port = t.port := by rw [same]
  have messages : u.transmitted = t.transmitted := by rw [Object.transmitted, sent, Object.transmitted]
  have inSession : u.InSession := by
    refine ⟨?_, ?_⟩
    · rw [same]
      exact attempted.inSession.rtu
    · rw [same]
      exact attempted.inSession.counted
  refine ⟨inSession, port.trans attempted.port, ?_, ?_⟩
  · rw [port, messages]
    exact attempted.earlier
  · rw [port, messages]
    exact attempted.served

theorem transmitted_sending (s : Object) (lq : Nat) :
    (s.sending lq).transmitted = s.transmitted ++ [s.block .abyQuery lq] := by
  have payload : ∀ message : List BYTE, (withChecksum message).take ((withChecksum message).length - 2) =
      message := by
    intro message
    simp [withChecksum]
  show (s.sent ++ [withChecksum (s.block .abyQuery lq)]).map _ = _
  rw [List.map_append, List.map_singleton, payload]
  rfl

theorem Object.length_transmitted (s : Object) : s.transmitted.length = s.sent.length := List.length_map ..

/-- What an exchange did to the line. -/
theorem Object.Exchanged.line_cases {lq : Nat} (exchanged : s.Exchanged lq t) (inSession : s.InSession) :
    t.InSession ∧ t.port = s.port ∧
      (s.opened = true ∧ t.transmitted = s.transmitted ++ [s.block .abyQuery lq] ∨
        ¬ s.opened = true ∧ t.transmitted = s.transmitted) := by
  obtain ⟨-, line⟩ := exchanged
  by_cases opened : s.opened = true
  · rw [if_pos opened] at line
    have messages : t.transmitted = (s.sending lq).transmitted := by rw [line]; rfl
    refine ⟨⟨?_, ?_⟩, ?_, .inl ⟨opened, messages.trans (transmitted_sending s lq)⟩⟩
    · rw [line]
      exact inSession.rtu
    · rw [line]
      show s.exchanges + 1 = (s.sent ++ [_]).length
      rw [inSession.counted, List.length_append, List.length_singleton]
    · rw [line]
      rfl
  · rw [if_neg opened] at line
    have messages : t.transmitted = s.transmitted := by rw [line]; rfl
    refine ⟨⟨?_, ?_⟩, ?_, .inr ⟨opened, messages⟩⟩
    · rw [line]
      exact inSession.rtu
    · rw [line]
      exact inSession.counted
    · rw [line]

/-- What an exchange of the query of `op` means to the slaves. -/
structure Conveyed (slaves : Slaves) (op : Operation) (s : Object) (code : WORD) (t : Object) : Prop where
  attempted : Attempted slaves op s none t
  ok : slaves.Obeyed t.port t.transmitted → code = ERR_OK →
    t.Answered op (slaves.after s.transmitted) ∧
      slaves.after t.transmitted = op.carry (slaves.after s.transmitted)

/-- Correct slaves carry the request out or not, and `ERR_OK` means that they did and answered. -/
theorem conveyed_of_correct {code : WORD} (inSession : s.InSession) (asks : s.Asks op)
    (exchanged : s.Exchanged op.wLengthQuery t)
    (answered : code = ERR_OK → (s.opened = true ∧ slaves.conduct s.exchanges = .answers) ∧
      decodeMessage (s.block .abyQuery op.wLengthQuery) = some op.asks ∧
        t.Answered op (slaves.after s.transmitted)) : Conveyed slaves op s code t := by
  have number : s.exchanges = s.transmitted.length :=
    inSession.counted.trans s.length_transmitted.symm
  obtain ⟨inSession', port, ⟨opened, sent⟩ | ⟨closed, sent⟩⟩ := exchanged.line_cases inSession
  · refine ⟨⟨inSession', port, fun obeyed => ?_, fun _ => ?_⟩, fun _ ok => ?_⟩
    · rw [sent, port] at obeyed
      exact obeyed.of_append.1
    · rw [sent, Slaves.after_append]
      exact effect_of_asks _ fun order found => (asks order found).1
    · obtain ⟨⟨-, answers⟩, found, reply⟩ := answered ok
      refine ⟨reply, ?_⟩
      rw [sent, Slaves.after_append, ← number, answers]
      simp only [Conduct.effect, found]
      rfl
  · refine ⟨⟨inSession', port, ?_, fun _ => ?_⟩, fun _ ok => absurd (answered ok).1.1 closed⟩
    · rw [sent, port]
      exact id
    · rw [sent]
      exact .lost _

/-- **An exchange.**  Nothing is assumed about the slaves beforehand; the record shows afterwards whether
they were correct. -/
theorem wp_exchange_conveyed (slaves : Slaves) (inSession : s.InSession) (asks : s.Asks op) :
    wp (txRxMessage op.wLengthQuery op.wLengthResponse)
      (fun code t => s.Exchanged op.wLengthQuery t ∧ Conveyed slaves op s code t)
      (fun _ _ => False) s := by
  by_cases correct : s.opened = true → Correct (slaves.after s.transmitted)
      (s.block .abyQuery op.wLengthQuery) (s.port s.exchanges) (slaves.conduct s.exchanges)
  · apply wp_imp (wp_exchange_answered inSession.rtu asks correct)
    rintro code t ⟨exchanged, answered⟩
    exact ⟨exchanged, conveyed_of_correct inSession asks exchanged answered⟩
  · -- the last message of the record is not what correct slaves would have delivered
    obtain ⟨opened, wrong⟩ := Classical.not_imp.1 correct
    have number : s.exchanges = s.transmitted.length :=
      inSession.counted.trans s.length_transmitted.symm
    apply wp_mono (wp_and (txRxMessage_returns op.wLengthQuery op.wLengthResponse_pos s)
      (wp_txRxMessage_exchanged inSession.rtu op.wLengthResponse_pos))
    · rintro code t ⟨-, exchanged⟩
      obtain ⟨inSession', port, ⟨-, sent⟩ | ⟨closed, -⟩⟩ := exchanged.line_cases inSession
      · have disobeyed : ¬ slaves.Obeyed t.port t.transmitted := by
          rw [sent, port]
          intro obeyed
          exact wrong (number ▸ obeyed.of_append.2)
        exact ⟨exchanged, ⟨inSession', port, fun obeyed => absurd obeyed disobeyed,
          fun obeyed => absurd obeyed disobeyed⟩, fun obeyed => absurd obeyed disobeyed⟩
      · exact absurd opened closed
    · exact fun _ _ raised => raised.1

theorem Object.OnlyRead.sameLine {u : Object} (only : t.OnlyRead u) : t.SameLine u := by
  rw [Object.SameLine, only]

/-- **One turn**: an exchange, and what is taken from the reply. -/
theorem wp_turn_attempted (slaves : Slaves) (inSession : s.InSession) (asks : s.Asks op) :
    wp op.turn (fun r t => t.Asks op ∧ (r.1 ≠ ERR_OK → r.2 = op) ∧
      Attempted slaves op s (Result.got (.ok r)) t) (fun _ _ => False) s := by
  rw [Operation.turn, wp_bind]
  apply wp_imp (wp_exchange_conveyed slaves inSession asks)
  rintro code t ⟨exchanged, conveyed⟩
  apply wp_imp (wp_take op code (slaves.after s.transmitted) t)
  rintro r u ⟨only, failed, took⟩
  refine ⟨fun order found => asks order ?_, failed, Attempted.of_sameLine (t := t) ?_ only.sameLine⟩
  · rw [← found, only]
    exact congrArg decodeMessage (Object.block_congr exchanged.query).symm
  · obtain ⟨inSession', port, earlier, served⟩ := conveyed.attempted
    refine ⟨inSession', port, earlier, fun obeyed => ?_⟩
    by_cases ok : r.1 = ERR_OK
    · obtain ⟨codeOk, array⟩ := took ok
      obtain ⟨answered, carried⟩ := conveyed.ok obeyed codeOk
      rw [Result.got, if_pos ok, array answered, carried]
      exact .answered _
    · rw [Result.got, if_neg ok]
      exact served obeyed

/-- **The loop of a call**, by induction on the exchanges still allowed. -/
theorem wp_retryLoop_attempted (slaves : Slaves) (further : Nat) (inSession : s.InSession)
    (asks : s.Asks op) :
    wp (retryLoop Operation.turn further op)
      (fun r t => Attempted slaves op s (Result.got (.ok r)) t) (fun _ _ => False) s := by
  induction further generalizing s with
  | zero => exact wp_imp (wp_turn_attempted slaves inSession asks) fun _ _ turned => turned.2.2
  | succ further ih =>
      rw [retryLoop, wp_bind]
      apply wp_imp (wp_turn_attempted slaves inSession asks)
      rintro r t ⟨asked, failed, first⟩
      by_cases ok : r.1 = ERR_OK
      · rw [if_neg (not_not_intro ok)]
        exact first
      · rw [if_pos ok, failed ok]
        rw [Result.got, if_neg ok] at first
        exact wp_imp (ih first.inSession asked) fun _ _ rest => first.again rest

/-- The end of a call: the exception tells as little as the code it is thrown for. -/
theorem wp_throw_attempted {r : WORD × Operation} (attempted : Attempted slaves op s (Result.got (.ok r)) t) :
    wp (throwModbusException r.1 >>= fun _ => pure r)
      (fun r t => Attempted slaves op s (Result.got (.ok r)) t)
      (fun text t => Attempted slaves op s (Result.got (.error text)) t) t := by
  rw [throwModbusException, wp_bind, wp_bind, wp_get]
  by_cases thrown : r.1 ≠ ERR_OK ∧ t.throwing = true
  · rw [if_pos thrown]
    rw [Result.got, if_neg thrown.1] at attempted
    exact attempted
  · rw [if_neg thrown]
    exact attempted

/-- **One call is one request**, however often it is sent. -/
theorem wp_call_attempted (slaves : Slaves) (inSession : s.InSession) (prepared : op.Prepared s) :
    wp op.call (fun r t => Attempted slaves op s (Result.got (.ok r)) t)
      (fun text t => Attempted slaves op s (Result.got (.error text)) t) s := by
  rw [Operation.call, wp_bind]
  apply wp_of_returns (wp_fill_asks op prepared)
  rintro _ filled ⟨same, asks⟩
  have begun : Attempted slaves op s none filled :=
    Attempted.of_sameLine ⟨inSession, rfl, id, fun _ => .lost _⟩ same
  rw [exchange, wp_bind, wp_get, wp_bind]
  apply wp_of_returns (wp_retryLoop_attempted slaves _ begun.inSession asks)
  intro r t attempted
  exact wp_throw_attempted (begun.again attempted)

/-! ## Whole sessions -/

/-- A history of requests, each carried out once or not at all. -/
abbrev RequestHistory : Bus → List (Operation × Option Operation) → Bus → Prop :=
  History Operation.carry fun op bus => op.readFrom bus

structure Session.Told (slaves : Slaves) (bus : Bus) (s : Session) : Prop where
  inSession : s.object.InSession
  history : slaves.Obeyed s.object.port s.object.transmitted →
    RequestHistory bus s.seen (slaves.after s.object.transmitted)

theorem Session.Told.record {slaves : Slaves} {bus : Bus} {s : Session} {op : Operation} {result : Result}
    {object : Object} (told : s.Told slaves bus)
    (attempted : Attempted slaves op s.object result.got object) :
    (s.record op result object).Told slaves bus := by
  refine ⟨attempted.inSession, fun obeyed => ?_⟩
  have seen : (s.record op result object).seen = s.seen ++ [(op, result.got)] := by
    simp [Session.seen, Session.record]
  rw [seen]
  exact .snoc (told.history (attempted.earlier obeyed)) (attempted.served obeyed)

theorem Session.Told.step {slaves : Slaves} {bus : Bus} {s s' : Session} {a : SessionAction}
    (told : s.Told slaves bus) (prepared : s.Prepared a) (took : s.step a = some s') :
    s'.Told slaves bus := by
  cases a with
  | call op =>
      have called := wp_call_attempted slaves told.inSession prepared
      unfold wp at called
      simp only [Session.step] at took
      split at took
      · rename_i r object ran
        rw [ran] at called
        obtain rfl := Option.some.inj took
        exact told.record called
      · rename_i text object ran
        rw [ran] at called
        obtain rfl := Option.some.inj took
        exact told.record called
  | retries wRetries =>
      obtain rfl := Option.some.inj took
      exact ⟨⟨told.inSession.rtu, told.inSession.counted⟩, told.history⟩
  | throwException bThrow =>
      obtain rfl := Option.some.inj took
      exact ⟨⟨told.inSession.rtu, told.inSession.counted⟩, told.history⟩

theorem told_of_run {slaves : Slaves} {object : Object} {actions : List SessionAction} {s : Session}
    (inSession : object.InSession) (run : Run Session.step Session.Prepared ⟨object, []⟩ actions s) :
    s.Told slaves (slaves.after object.transmitted) :=
  run.invariant (I := fun s => s.Told slaves (slaves.after object.transmitted))
    (fun _ _ _ told prepared took => told.step prepared took) ⟨inSession, fun _ => .nil _⟩

/-- **A session is a history of requests.**  In RTU mode, with any number of retries, with or without
exceptions, and whatever becomes of the messages, if each `ForceMultipleCoils` finds no old bits in its part
of the query and the port delivers what correct slaves send: a call that returned `ERR_OK` was carried out
once, and its array holds what the slaves had at that moment; any other call was carried out once or not at
all; and the calls took effect in their order. -/
theorem session_history (slaves : Slaves) {object : Object} {actions : List SessionAction} {s : Session}
    (inSession : object.InSession) (run : Run Session.step Session.Prepared ⟨object, []⟩ actions s)
    (obeyed : slaves.Obeyed s.object.port s.object.transmitted) :
    RequestHistory (slaves.after object.transmitted) s.seen (slaves.after s.object.transmitted) :=
  (told_of_run inSession run).history obeyed

/-- The code of a call that returned. -/
def Result.code : Result → Option WORD
  | .error _ => none
  | .ok r => some r.1

/-- With two attempts for each call: register 100 is preset to 7, where the first answer is lost; the
slave does not hear of the next call; registers 99 and 100 are read. -/
def lossyActions : List SessionAction :=
  [.retries 2, .call (.presetSingleRegister 1 100 7), .call (.presetSingleRegister 1 200 5),
    .call (.readOutputRegisters 1 99 2 fun _ => 0)]

def lossySlaves : Slaves where
  bus := fun _ => ⟨fun _ => false, fun _ => false, fun _ => 0, fun _ => 0⟩
  conduct k := [.carriesOut, .answers, .ignores, .ignores, .answers].getD k .ignores

def lossyPort (k : Nat) : Exchange :=
  [.silent, .delivering (withChecksum [1, 6, 0, 100, 0, 7]), .silent, .silent,
    .delivering (withChecksum [1, 3, 4, 0, 0, 0, 7])].getD k .silent

theorem fresh_inSession (port : Nat → Exchange) : (Object.fresh port).InSession := ⟨rfl, rfl⟩

theorem lossy_run : ∃ s, Run Session.step Session.Prepared ⟨.fresh lossyPort, []⟩ lossyActions s ∧
    (s.log.map (fun e => e.2.code) = [some ERR_OK, some ERR_TIMEOUT, some ERR_OK] ∧
      lossySlaves.Obeyed s.object.port s.object.transmitted) := by
  obtain ⟨s, run, shown⟩ := exists_run_of_exec Session.step Session.Prepared
    ⟨.fresh lossyPort, []⟩ lossyActions
    (fun s => (s.log.map (fun e => e.2.code),
      decide (lossySlaves.Obeyed s.object.port s.object.transmitted)))
    (b := ([some ERR_OK, some ERR_TIMEOUT, some ERR_OK], true)) (by decide +kernel)
  obtain ⟨codes, obeyed⟩ := Prod.mk.inj shown
  exact ⟨s, run, codes, of_decide_eq_true obeyed⟩

theorem session_history_lossy : ∃ s,
    Run Session.step Session.Prepared ⟨.fresh lossyPort, []⟩ lossyActions s ∧
      s.log.map (fun e => e.2.code) = [some ERR_OK, some ERR_TIMEOUT, some ERR_OK] ∧
      RequestHistory (lossySlaves.after []) s.seen (lossySlaves.after s.object.transmitted) := by
  obtain ⟨s, run, codes, obeyed⟩ := lossy_run
  exact ⟨s, run, codes, session_history lossySlaves (fresh_inSession lossyPort) run obeyed⟩

/-! ## Reading back -/

/-- The value a request gives a register, if it writes it. -/
def Request.presets (r : WORD) : Request → Option WORD
  | presetRegister register value => if r = register then some value else none
  | presetRegisters start values => values[(r - start).toNat]?
  | _ => none

/-- The value an operation gives a register of a slave, if it writes it. -/
def Operation.presets (op : Operation) (slave : BYTE) (r : WORD) : Option WORD :=
  if op.asks.slave = slave then op.asks.request.presets r else none

theorem Request.registers_carryOut (request : Request) (memory : Memory) (r : WORD) :
    (request.carryOut memory).registers r = (request.presets r).getD (memory.registers r) := by
  cases request with
  | presetRegister register value =>
      by_cases here : r = register
      · simp [carryOut, presets, here]
      · simp [carryOut, presets, here]
  | presetRegisters start values =>
      simp [carryOut, presets, List.getD_eq_getElem?_getD]
  | _ => rfl

theorem Operation.registers_carry (op : Operation) (bus : Bus) (slave : BYTE) (r : WORD) :
    (op.carry bus slave).registers r = (op.presets slave r).getD ((bus slave).registers r) := by
  by_cases here : op.asks.slave = slave
  · subst here
    rw [carry, Function.update_self, presets, if_pos rfl, Request.registers_carryOut]
  · rw [carry, Function.update_of_ne (Ne.symm here), presets, if_neg here]
    rfl

/-- **What was written is read.**  In RTU mode, in a session in which each `ForceMultipleCoils` finds no old
bits in its part of the query, and if the port delivers what correct slaves send: a call that presets
register `r` of a slave returns `ERR_OK`; no call between it and a `ReadOutputRegisters` of that slave can
write the register, though they may fail, be repeated and lose their answers; if the read returns `ERR_OK`
and covers the register, it delivers the value. -/
theorem register_read_back (slaves : Slaves) {object : Object} {actions : List SessionAction}
    {s : Session} (inSession : object.InSession)
    (run : Run Session.step Session.Prepared ⟨object, []⟩ actions s)
    (obeyed : slaves.Obeyed s.object.port s.object.transmitted)
    {before between behind : List (Operation × Result)} {write array : Operation} {a d n r value : WORD}
    {regs : Nat → WORD} {got : Operation} {k : Nat}
    (log : s.log = before ++ (write, .ok (ERR_OK, array)) :: between ++
      (.readOutputRegisters a d n regs, .ok (ERR_OK, got)) :: behind)
    (wrote : write.presets (lobyte a) r = some value)
    (spared : ∀ entry ∈ between, entry.1.presets (lobyte a) r = none)
    (covered : k < n.toNat) (place : d + BitVec.ofNat 16 k = r) :
    ∃ regs', got = .readOutputRegisters a d n regs' ∧ regs' k = value := by
  have history := (told_of_run inSession run).history obeyed
  have seen : s.seen = before.map (fun e => (e.1, e.2.got)) ++ (write, some array) ::
      (between.map (fun e => (e.1, e.2.got)) ++ (.readOutputRegisters a d n regs, some got) ::
        behind.map fun e => (e.1, e.2.got)) := by
    simp [Session.seen, log, Result.got]
  rw [seen] at history
  obtain ⟨bus₁, bus₂, -, written, rest⟩ := history.split
  obtain ⟨bus₃, bus₄, kept, read, -⟩ := rest.split
  -- the register right after the write, and right before the read
  have now : (bus₂ (lobyte a)).registers r = value := by
    rw [written.of_some.2, Operation.registers_carry, wrote]
    rfl
  have later : (bus₃ (lobyte a)).registers r = (bus₂ (lobyte a)).registers r := by
    refine kept.kept (fun bus => (bus (lobyte a)).registers r) fun call member bus => ?_
    obtain ⟨entry, found, rfl⟩ := List.mem_map.1 member
    rw [Operation.registers_carry, spared entry found]
    rfl
  refine ⟨_, read.of_some.1, ?_⟩
  show (if k < n.toNat then (bus₃ (lobyte a)).registers (d + BitVec.ofNat 16 k) else regs k) = value
  rw [if_pos covered, place, later, now]

theorem Session.step_call {s s' : Session} {op : Operation} (took : s.step (.call op) = some s') :
    ∃ result object, s' = s.record op result object := by
  simp only [Session.step] at took
  split at took <;> exact ⟨_, _, (Option.some.inj took).symm⟩

theorem Result.of_code {result : Result} {code : WORD} (returned : result.code = some code) :
    ∃ array, result = .ok (code, array) := by
  cases result with
  | error text => cases returned
  | ok r =>
      obtain rfl := Option.some.inj returned
      exact ⟨r.2, rfl⟩

/-- Register 100 is read as 7 although the first answer and the call in between were lost. -/
theorem register_read_back_lossy : ∃ s got,
    Run Session.step Session.Prepared ⟨.fresh lossyPort, []⟩ lossyActions s ∧
      s.log.map (fun e => e.2.code) = [some ERR_OK, some ERR_TIMEOUT, some ERR_OK] ∧
      s.log.getLast?.map (fun e => e.2) = some (.ok (ERR_OK, got)) ∧
      ∃ regs', got = .readOutputRegisters 1 99 2 regs' ∧ regs' 1 = 7 := by
  obtain ⟨s, run, codes, obeyed⟩ := lossy_run
  have whole := run
  obtain - | ⟨-, set, rest⟩ := run
  cases set
  obtain - | ⟨-, first, rest⟩ := rest
  obtain ⟨result₁, _, rfl⟩ := Session.step_call first
  obtain - | ⟨-, second, rest⟩ := rest
  obtain ⟨result₂, _, rfl⟩ := Session.step_call second
  obtain - | ⟨-, third, rest⟩ := rest
  obtain ⟨result₃, _, rfl⟩ := Session.step_call third
  cases rest
  have all : [result₁.code, result₂.code, result₃.code] =
      [some ERR_OK, some ERR_TIMEOUT, some ERR_OK] := codes
  simp only [List.cons.injEq] at all
  obtain ⟨array, rfl⟩ := Result.of_code all.1
  obtain ⟨got, rfl⟩ := Result.of_code all.2.2.1
  have entry : ∀ e ∈ [(Operation.presetSingleRegister 1 200 5, result₂)],
      e.1.presets (lobyte 1) 100 = none := by
    intro e member
    rw [List.mem_singleton.1 member]
    rfl
  exact ⟨_, got, whole, codes, rfl, register_read_back lossySlaves (fresh_inSession lossyPort) whole
    obeyed (show _ = [] ++ (Operation.presetSingleRegister 1 100 7, _) ::
      [(Operation.presetSingleRegister 1 200 5, result₂)] ++ _ :: [] from rfl)
    rfl entry (by decide) (by decide)⟩

end TizerVision.Modbus
