/-
# Modbus.Concurrent — two calls on one object

The query and the reply belong to the object, and the critical section covers `TxRxMessage` only.  A
call is a thread that fills the query, exchanges it and takes the reply, step by step; between two
steps the other call may take its own.

* `run_call` — a call whose steps follow one another is the operation of `Operations`.
* `calls_served` — with correct slaves, and if no call fills the query while the other one is between
  its first step and its return, a call that returns `ERR_OK` was served: its own request was carried
  out, and a read got the values it asked for.
* `overtaken_write_acknowledged` — otherwise a call can send the other's request, be satisfied with
  the answer to that, and report a write that never took place.
-/
import TizerVision.Theory.Run
import TizerVision.Modbus.Steps

namespace TizerVision.Modbus

set_option autoImplicit false

open Theory

/-! ## The system -/

/-- Where a call is: the step it takes next, with the exchanges still allowed after this one. -/
inductive Phase where
  | filling
  | exchanging (further : Nat)
  | taking (further : Nat) (code : WORD)
  | returned (code : WORD)
  | threw (message : String)
deriving DecidableEq, Repr

/-- Between the first step of a call and its return. -/
def Phase.Busy : Phase → Prop
  | exchanging _ | taking _ _ => True
  | _ => False

instance (phase : Phase) : Decidable phase.Busy :=
  match phase with
  | .exchanging _ | .taking _ _ => inferInstanceAs (Decidable True)
  | .filling | .returned _ | .threw _ => inferInstanceAs (Decidable False)

/-- A thread with its call.  `op` is the call with the caller's array as it is now; `heard` is the
request the last exchange had carried out and answered, and the slaves at that moment. -/
structure Thread where
  call : Operation
  op : Operation
  phase : Phase
  heard : Option (Addressed × Bus)

structure System where
  object : Object
  bus : Bus
  thread : Fin 2 → Thread

inductive Action where
  | fill (i : Fin 2)
  /-- the exchange, and what becomes of the message -/
  | exchange (i : Fin 2) (conduct : Conduct)
  | take (i : Fin 2)
  /-- the slaves change by themselves -/
  | change (bus : Bus)

/-- The next phase of a call whose turn ended with `code`: another turn, or the end of the
operation. -/
def Phase.after (code : WORD) (further : Nat) (throwing : Bool) : Phase :=
  if code ≠ ERR_OK ∧ further ≠ 0 then .exchanging (further - 1)
  else if code ≠ ERR_OK ∧ throwing then .threw (errorMessage code)
  else .returned code

theorem Phase.after_cases (code : WORD) (further : Nat) (throwing : Bool) :
    (code ≠ ERR_OK ∧ Phase.after code further throwing = .exchanging (further - 1)) ∨
      (∃ text, Phase.after code further throwing = .threw text) ∨
      Phase.after code further throwing = .returned code := by
  unfold Phase.after
  split
  · rename_i again
    exact .inl ⟨again.1, rfl⟩
  · split
    · exact .inr (.inl ⟨_, rfl⟩)
    · exact .inr (.inr rfl)

namespace System

/-- What thread `i` would send. -/
def message (s : System) (i : Fin 2) : List BYTE :=
  s.object.block .abyQuery (s.thread i).op.wLengthQuery

/-- The request that is carried out and answered when thread `i` exchanges the query. -/
def hears (s : System) (i : Fin 2) (conduct : Conduct) : Option (Addressed × Bus) :=
  if s.object.opened = true ∧ conduct = .answers then
    (decodeMessage (s.message i)).map fun order => (order, s.bus)
  else none

def fill (s : System) (i : Fin 2) : System :=
  { s with
    object := finalState (s.thread i).op.fill s.object
    thread := Function.update s.thread i
      { s.thread i with phase := .exchanging (s.object.retries.toNat - 1) } }

def exchanged (s : System) (i : Fin 2) (conduct : Conduct) (further : Nat) (code : WORD)
    (object : Object) : System where
  object := object
  bus := if s.object.opened then conduct.effect (s.message i) s.bus else s.bus
  thread := Function.update s.thread i
    { s.thread i with phase := .taking further code, heard := s.hears i conduct }

def taken (s : System) (i : Fin 2) (further : Nat) (r : WORD × Operation) (object : Object) :
    System :=
  { s with
    object := object
    thread := Function.update s.thread i
      { s.thread i with op := r.2, phase := .after r.1 further object.throwing } }

/-- One step of a call, or of the slaves. -/
def step (s : System) : Action → Option System
  | .fill i =>
      match (s.thread i).phase with
      | .filling => some (s.fill i)
      | _ => none
  | .exchange i conduct =>
      match (s.thread i).phase with
      | .exchanging further =>
          match (txRxMessage (s.thread i).op.wLengthQuery (s.thread i).op.wLengthResponse).run
              s.object with
          | .ok code object => some (s.exchanged i conduct further code object)
          | .error _ _ => none
      | _ => none
  | .take i =>
      match (s.thread i).phase with
      | .taking further code =>
          match ((s.thread i).op.take code).run s.object with
          | .ok r object => some (s.taken i further r object)
          | .error _ _ => none
      | _ => none
  | .change bus => some { s with bus := bus }

variable {s s' : System} {i : Fin 2}

theorem step_fill (took : s.step (.fill i) = some s') :
    (s.thread i).phase = .filling ∧ s' = s.fill i := by
  simp only [step] at took
  split at took
  · exact ⟨by assumption, (Option.some.inj took).symm⟩
  · cases took

theorem step_exchange {conduct : Conduct} (took : s.step (.exchange i conduct) = some s') :
    ∃ further code object, (s.thread i).phase = .exchanging further ∧
      (txRxMessage (s.thread i).op.wLengthQuery (s.thread i).op.wLengthResponse).run s.object =
        .ok code object ∧ s' = s.exchanged i conduct further code object := by
  simp only [step] at took
  split at took
  · split at took
    · exact ⟨_, _, _, by assumption, by assumption, (Option.some.inj took).symm⟩
    · cases took
  · cases took

theorem step_take (took : s.step (.take i) = some s') :
    ∃ further code r object, (s.thread i).phase = .taking further code ∧
      ((s.thread i).op.take code).run s.object = .ok r object ∧
      s' = s.taken i further r object := by
  simp only [step] at took
  split at took
  · split at took
    · exact ⟨_, _, _, _, by assumption, by assumption, (Option.some.inj took).symm⟩
    · cases took
  · cases took

end System

/-! ## A call alone -/

section Alone

variable {s : System} {i : Fin 2}

/-- From here thread `i` gets to the phase and the array, and the object to the state given. -/
def System.Reaches (s : System) (i : Fin 2) (phase : Phase) (object : Object) (op : Operation) :
    Prop :=
  ∃ as s', Run System.step Free s as s' ∧ s'.object = object ∧
    (s'.thread i).phase = phase ∧ (s'.thread i).op = op

/-- The two steps of a turn. -/
theorem run_turn {further : Nat} (exchanging : (s.thread i).phase = .exchanging further) :
    wp (s.thread i).op.turn (fun r object => ∃ as, ∃ s' : System, Run System.step Free s as s' ∧
      s'.object = object ∧ (s'.thread i).phase = .after r.1 further object.throwing ∧
        (s'.thread i).op = r.2) (fun _ _ => False) s.object := by
  obtain ⟨code, object, sent, -⟩ := (txRxMessage_returns (s.thread i).op.wLengthQuery
    (s.thread i).op.wLengthResponse_pos s.object).exists_ok
  obtain ⟨r, object', took, -⟩ := (wp_take (s.thread i).op code s.bus object).exists_ok
  have turned : (s.thread i).op.turn.run s.object = .ok r object' := by
    rw [Operation.turn, EStateM.run_bind, sent]
    exact took
  have first : s.step (.exchange i .ignores) = some (s.exchanged i .ignores further code object) := by
    simp only [System.step, exchanging, sent]
  have second : (s.exchanged i .ignores further code object).step (.take i) =
      some ((s.exchanged i .ignores further code object).taken i further r object') := by
    simp only [System.step, System.exchanged, Function.update_self, took]
  unfold wp
  rw [turned]
  refine ⟨_, _, .cons trivial first (.cons trivial second (.nil _)), rfl, ?_, ?_⟩
  · simp [System.taken]
  · simp [System.taken]

/-- A turn that is not followed by another ends the call. -/
theorem run_end {r : WORD × Operation} {object : Object} {as : List Action} {s' : System}
    (run : Run System.step Free s as s') (same : s'.object = object)
    (phase : (s'.thread i).phase = .after r.1 0 object.throwing) (array : (s'.thread i).op = r.2) :
    wp (throwModbusException r.1 >>= fun _ => pure r)
      (fun r object => s.Reaches i (.returned r.1) object r.2)
      (fun text object => ∃ op, s.Reaches i (.threw text) object op) object := by
  rw [Phase.after, if_neg (by simp)] at phase
  rw [throwModbusException, wp_bind, wp_bind, wp_get]
  by_cases thrown : r.1 ≠ ERR_OK ∧ object.throwing = true
  · rw [if_pos thrown] at phase ⊢
    exact ⟨_, as, s', run, same, phase, array⟩
  · rw [if_neg thrown] at phase ⊢
    exact ⟨as, s', run, same, phase, array⟩

theorem System.Reaches.of_run {as : List Action} {s' : System} {phase : Phase} {object : Object}
    {op : Operation} (run : Run System.step Free s as s') (reaches : s'.Reaches i phase object op) :
    s.Reaches i phase object op := by
  obtain ⟨more, s'', rest, reached⟩ := reaches
  exact ⟨as ++ more, s'', run.append rest, reached⟩

/-- The turns of a call and its end, by induction on the exchanges still allowed. -/
theorem run_turns (further : Nat) (exchanging : (s.thread i).phase = .exchanging further) :
    wp (retryLoop Operation.turn further (s.thread i).op >>= fun r => throwModbusException r.1 >>=
        fun _ => pure r)
      (fun r object => s.Reaches i (.returned r.1) object r.2)
      (fun text object => ∃ op, s.Reaches i (.threw text) object op) s.object := by
  induction further generalizing s with
  | zero =>
      rw [retryLoop, wp_bind]
      apply wp_of_returns (run_turn exchanging)
      rintro r object ⟨as, s', run, same, phase, array⟩
      exact run_end run same phase array
  | succ further ih =>
      rw [retryLoop, bind_assoc, wp_bind]
      apply wp_of_returns (run_turn exchanging)
      rintro r object ⟨as, s', run, same, phase, array⟩
      by_cases ok : r.1 = ERR_OK
      · rw [if_neg (not_not_intro ok), pure_bind]
        refine run_end run same ?_ array
        rw [phase, ok]
        rfl
      · rw [Phase.after, if_pos ⟨ok, Nat.succ_ne_zero further⟩] at phase
        have rest := ih phase
        rw [array, same] at rest
        rw [if_pos ok]
        exact wp_mono rest (fun _ _ reaches => reaches.of_run run)
          fun _ _ raised => raised.imp fun _ reaches => reaches.of_run run

/-- **A call alone is the operation.**  If no step of the other call comes between, the steps of a
call lead where `perform` does, and to the same code or exception. -/
theorem run_call (filling : (s.thread i).phase = .filling) :
    wp (perform (s.thread i).op) (fun code object => ∃ op, s.Reaches i (.returned code) object op)
      (fun text object => ∃ op, s.Reaches i (.threw text) object op) s.object := by
  have begun : Run System.step Free s [.fill i] (s.fill i) :=
    .cons trivial (by simp only [System.step, filling]) (.nil _)
  have turns := run_turns (s := s.fill i) (i := i) (s.object.retries.toNat - 1)
    (by simp [System.fill])
  have array : ((s.fill i).thread i).op = (s.thread i).op := by simp [System.fill]
  rw [array] at turns
  rw [Operation.perform_eq_turns]
  apply wp_fill_bind
  intro same
  have retries : (finalState (s.thread i).op.fill s.object).retries = s.object.retries := by
    rw [same]
  rw [wp_map, exchange, wp_bind, wp_get, retries]
  exact wp_mono turns (fun r _ reaches => ⟨r.2, reaches.of_run begun⟩)
    fun _ _ raised => raised.imp fun _ reaches => reaches.of_run begun

end Alone

/-! ## What the caller relies on -/

/-- If the call returned `ERR_OK`, the slave carried out the caller's own request in the last exchange
and answered it, and the caller's array has the values of the slave at that moment. -/
def Thread.Served (t : Thread) : Prop :=
  t.phase = .returned ERR_OK →
    ∃ bus, t.heard = some (t.call.asks, bus) ∧ t.op = t.call.readFrom bus

/-- Both calls are still to begin, on an object in RTU mode. -/
structure System.Initial (s : System) : Prop where
  rtu : s.object.mode = .rtu
  filling : ∀ i, (s.thread i).phase = .filling
  array : ∀ i, (s.thread i).op = (s.thread i).call

/-- The slaves are correct. -/
def System.Obeyed (s : System) : Action → Prop
  | .exchange i conduct => s.object.opened = true →
      Correct s.bus (s.message i) (s.object.port s.object.exchanges) conduct
  | _ => True

/-- A call begins only if no other is under way; `ForceMultipleCoils` finds no old bits. -/
def System.Apart (s : System) : Action → Prop
  | .fill i => (∀ j ≠ i, ¬ (s.thread j).phase.Busy) ∧ (s.thread i).op.Prepared s.object
  | _ => True

instance (s : System) (a : Action) : Decidable (s.Obeyed a) :=
  match a with
  | .exchange _ _ => inferInstanceAs (Decidable (_ → _))
  | .fill _ | .take _ | .change _ => inferInstanceAs (Decidable True)

instance (s : Object) (op : Operation) : Decidable (op.Prepared s) :=
  match op with
  | .forceMultipleCoils _ _ n v =>
      inferInstanceAs (Decidable (∀ k < 8 * ((n.toNat + 7) / 8), n.toNat ≤ k ∨ v k = 0 →
        s.dataBit k = false))
  | .readOutputRegisters .. | .readInputRegisters .. | .readOutputStatus .. | .readInputStatus ..
  | .presetMultipleRegisters .. | .presetSingleRegister .. | .presetSingleRegisterFloat ..
  | .presetSingleRegisterDouble .. | .forceSingleCoil .. | .loopbackTest _ =>
      inferInstanceAs (Decidable True)

instance (s : System) (a : Action) : Decidable (s.Apart a) :=
  match a with
  | .fill _ => inferInstanceAs (Decidable (_ ∧ _))
  | .exchange _ _ | .take _ | .change _ => inferInstanceAs (Decidable True)

/-! ## The invariant -/

/-- What holds of a thread: while it is busy, the query is its own, and once an exchange returned
`ERR_OK`, so is the reply. -/
def Thread.Sound (t : Thread) (object : Object) : Prop :=
  match t.phase with
  | .filling => t.op = t.call
  | .exchanging _ => t.op = t.call ∧ object.Asks t.call
  | .taking _ code => t.op = t.call ∧ object.Asks t.call ∧ (code = ERR_OK →
      ∃ bus, t.heard = some (t.call.asks, bus) ∧ object.Answered t.call bus)
  | .returned code => code = ERR_OK →
      ∃ bus, t.heard = some (t.call.asks, bus) ∧ t.op = t.call.readFrom bus
  | .threw _ => True

theorem Thread.Sound.of_idle {t : Thread} {object : Object} (object' : Object)
    (idle : ¬ t.phase.Busy) (sound : t.Sound object) : t.Sound object' := by
  unfold Thread.Sound at sound ⊢
  cases phase : t.phase with
  | exchanging | taking =>
      rw [phase] at idle
      exact absurd trivial idle
  | filling | returned | threw =>
      rw [phase] at sound
      exact sound

theorem Thread.Sound.served {t : Thread} {object : Object} (sound : t.Sound object) : t.Served := by
  intro returned
  unfold Thread.Sound at sound
  rw [returned] at sound
  exact sound rfl

structure System.Ordered (s : System) : Prop where
  rtu : s.object.mode = .rtu
  apart : ∀ i j, (s.thread i).phase.Busy → (s.thread j).phase.Busy → i = j
  sound : ∀ i, (s.thread i).Sound s.object

variable {s : System} {i : Fin 2} {object : Object}

theorem System.Initial.ordered (initial : s.Initial) : s.Ordered := by
  refine ⟨initial.rtu, fun i j busy => ?_, fun i => ?_⟩
  · rw [initial.filling i] at busy
    exact busy.elim
  · unfold Thread.Sound
    rw [initial.filling i]
    exact initial.array i

/-- A step of one thread, the others being idle. -/
theorem System.Ordered.update (ordered : s.Ordered) (bus : Bus) (t : Thread)
    (rtu : object.mode = .rtu) (alone : ∀ j ≠ i, ¬ (s.thread j).phase.Busy)
    (sound : t.Sound object) :
    (System.mk object bus (Function.update s.thread i t)).Ordered := by
  -- only thread `i` can be busy now, so what the others hold does not depend on the object
  have idle : ∀ j, (Function.update s.thread i t j).phase.Busy → j = i := by
    intro j busy
    by_contra other
    rw [Function.update_of_ne other] at busy
    exact alone j other busy
  refine ⟨rtu, fun j k busy busy' => (idle j busy).trans (idle k busy').symm, fun j => ?_⟩
  show (Function.update s.thread i t j).Sound object
  by_cases here : j = i
  · rw [here, Function.update_self]
    exact sound
  · rw [Function.update_of_ne here]
    exact (ordered.sound j).of_idle object (alone j here)

/-- While a thread is busy, the others are not. -/
theorem System.Ordered.alone (ordered : s.Ordered) (busy : (s.thread i).phase.Busy) :
    ∀ j ≠ i, ¬ (s.thread j).phase.Busy :=
  fun j other busy' => other (ordered.apart j i busy' busy)

theorem Object.Asks.of_query {object object' : Object} {op : Operation} (asks : object.Asks op)
    (query : ∀ k < op.wLengthQuery, object'.cell .abyQuery k = object.cell .abyQuery k) :
    object'.Asks op := by
  intro order found
  rw [Object.block_congr query] at found
  exact asks order found

/-! ## The steps keep it -/

theorem ordered_fill (ordered : s.Ordered) (filling : (s.thread i).phase = .filling)
    (apart : s.Apart (.fill i)) : (s.fill i).Ordered := by
  obtain ⟨alone, prepared⟩ := apart
  have same_call := ordered.sound i
  unfold Thread.Sound at same_call
  rw [filling] at same_call
  obtain ⟨same, asks⟩ := wp_iff_finalState.1 (wp_of_returns
    (wp_fill_asks (s.thread i).op prepared) fun _ _ filled => filled)
  refine ordered.update s.bus _ ?_ alone ⟨same_call, ?_⟩
  · rw [same]
    exact ordered.rtu
  · rwa [← same_call]

theorem ordered_exchange {conduct : Conduct} {further : Nat} {code : WORD} (ordered : s.Ordered)
    (exchanging : (s.thread i).phase = .exchanging further)
    (obeyed : s.Obeyed (.exchange i conduct))
    (sent : (txRxMessage (s.thread i).op.wLengthQuery (s.thread i).op.wLengthResponse).run s.object =
      .ok code object) : (s.exchanged i conduct further code object).Ordered := by
  have sound := ordered.sound i
  unfold Thread.Sound at sound
  rw [exchanging] at sound
  obtain ⟨same_call, asks⟩ := sound
  rw [← same_call] at asks
  obtain ⟨exchanged, answered⟩ := (wp_exchange_answered ordered.rtu asks obeyed).of_ok sent
  have rtu : object.mode = .rtu := by
    rw [exchanged.line, ← ordered.rtu]
    split <;> rfl
  refine ordered.update _ _ rtu (ordered.alone (by rw [exchanging]; trivial)) ⟨same_call, ?_, ?_⟩
  · rw [← same_call]
    exact asks.of_query exchanged.query
  · intro ok
    obtain ⟨came_back, asked, reply⟩ := answered ok
    rw [← same_call]
    refine ⟨s.bus, ?_, reply⟩
    show s.hears i conduct = _
    rw [System.hears, if_pos came_back, System.message, asked, Option.map_some]

theorem ordered_take {further : Nat} {code : WORD} {r : WORD × Operation} (ordered : s.Ordered)
    (taking : (s.thread i).phase = .taking further code)
    (took : ((s.thread i).op.take code).run s.object = .ok r object) :
    (s.taken i further r object).Ordered := by
  have sound := ordered.sound i
  unfold Thread.Sound at sound
  rw [taking] at sound
  obtain ⟨same_call, asks, heard⟩ := sound
  have spec := fun bus => (wp_take (s.thread i).op code bus s.object).of_ok took
  obtain ⟨only, failed, -⟩ := spec s.bus
  have rtu : object.mode = .rtu := by
    rw [only]
    exact ordered.rtu
  refine ordered.update _ _ rtu (ordered.alone (by rw [taking]; trivial)) ?_
  rcases Phase.after_cases r.1 further object.throwing with ⟨bad, phase⟩ | ⟨text, phase⟩ | phase
  · -- another turn sends the query as it is: it is not filled again
    rw [phase]
    refine ⟨(failed bad).trans same_call, asks.of_query fun k _ => ?_⟩
    rw [only]
  · rw [phase]
    trivial
  · rw [phase]
    intro ok
    obtain ⟨code_ok, -⟩ := (spec s.bus).2.2 ok
    obtain ⟨bus, carried_out, answered⟩ := heard code_ok
    refine ⟨bus, carried_out, ?_⟩
    rw [← same_call] at answered ⊢
    exact ((spec bus).2.2 ok).2 answered

/-- **Calls that do not overlap are served.**  In every run from a state in which both calls are still
to begin, with correct slaves, and with each call beginning only while the other is not under way (and
`ForceMultipleCoils` only without old bits in the query), every call that returned `ERR_OK` was
served. -/
theorem calls_served {s s' : System} {as : List Action} (initial : s.Initial)
    (run : Run System.step (fun s a => s.Obeyed a ∧ s.Apart a) s as s') (i : Fin 2) :
    (s'.thread i).Served := by
  have ordered : s'.Ordered := by
    refine run.invariant (I := System.Ordered) ?_ initial.ordered
    rintro s a s' ordered ⟨obeyed, apart⟩ took
    cases a with
    | fill i =>
        obtain ⟨filling, rfl⟩ := System.step_fill took
        exact ordered_fill ordered filling apart
    | exchange i conduct =>
        obtain ⟨further, code, object, exchanging, sent, rfl⟩ := System.step_exchange took
        exact ordered_exchange ordered exchanging obeyed sent
    | take i =>
        obtain ⟨further, code, r, object, taking, taken, rfl⟩ := System.step_take took
        exact ordered_take ordered taking taken
    | change bus =>
        obtain rfl := Option.some.inj took
        exact ⟨ordered.rtu, ordered.apart, ordered.sound⟩
  exact (ordered.sound i).served

/-! ## Two writes -/

/-- Slave 1 acknowledges `PresetSingleRegister(1, 200, 2)` in every exchange; one thread presets
register 100 to 1, the other register 200 to 2. -/
def twoWrites : System where
  object := .fresh fun _ => .delivering (withChecksum [1, 6, 0, 200, 0, 2])
  bus := fun _ => ⟨fun _ => false, fun _ => false, fun _ => 0, fun _ => 0⟩
  thread i :=
    let call := if i.val = 0 then Operation.presetSingleRegister 1 100 1
      else .presetSingleRegister 1 200 2
    ⟨call, call, .filling, none⟩

theorem twoWrites_initial : twoWrites.Initial := ⟨rfl, fun _ => rfl, fun _ => rfl⟩

/-- Thread 1 alone presets register 200 and is told so. -/
theorem calls_served_second_write :
    ∃ s', Run System.step (fun s a => s.Obeyed a ∧ s.Apart a) twoWrites
      [.fill 1, .exchange 1 .answers, .take 1] s' ∧
      (s'.thread 1).phase = .returned ERR_OK ∧ (s'.thread 1).Served := by
  obtain ⟨s', run, shown⟩ := exists_run_of_exec System.step (fun s a => s.Obeyed a ∧ s.Apart a)
    twoWrites [.fill 1, .exchange 1 .answers, .take 1] (fun s => (s.thread 1).phase)
    (b := .returned ERR_OK) (by decide +kernel)
  exact ⟨s', run, shown, calls_served twoWrites_initial run 1⟩

/-- Thread 0 fills the query, thread 1 fills it again, and thread 0 exchanges it: register 200 is
preset, register 100 is not, and thread 0 returns `ERR_OK`. -/
theorem overtaken_write_acknowledged :
    twoWrites.Initial ∧ ∃ s', Run System.step System.Obeyed twoWrites
      [.fill 0, .fill 1, .exchange 0 .answers, .take 0] s' ∧ ¬ (s'.thread 0).Served := by
  obtain ⟨s', run, shown⟩ := exists_run_of_exec System.step System.Obeyed twoWrites
    [.fill 0, .fill 1, .exchange 0 .answers, .take 0]
    (fun s => ((s.thread 0).phase, (s.thread 0).heard.map Prod.fst, (s.thread 0).call.asks))
    (b := (.returned ERR_OK, some ⟨1, .presetRegister 200 2⟩, ⟨1, .presetRegister 100 1⟩))
    (by decide +kernel)
  refine ⟨twoWrites_initial, s', run, fun served => ?_⟩
  simp only [Prod.mk.injEq] at shown
  obtain ⟨returned, heard, asks⟩ := shown
  obtain ⟨bus, own, -⟩ := served returned
  rw [own, asks] at heard
  revert heard
  simp

end TizerVision.Modbus
