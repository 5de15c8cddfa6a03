/-
# LibModbus.Session — whole sessions of a client with a device that answers in its own time

A call of the client sends its request and waits for one message.  A reply that comes too late is not
thrown away: it stays in the socket, and the next call finds it in front of its own.  The transaction
number makes that call fail instead of taking the wrong values, but the reply of that call is now the one
that is late.

* `exchange` — a call with what the network does to it: how much of the request is sent, in which pieces
  the replies come, where the wait ends.
* `in_step_until_silent` — with a device that answers every request in its order: as long as every request
  sent was answered in time, a reply is the device's own answer to the call's own request; after the first
  request without an answer every reply is the device's answer to an earlier request, and the call refuses it.
-/
import TizerVision.LibModbus.Client
import TizerVision.Theory.Run

namespace TizerVision.LibModbus

set_option autoImplicit false

open Theory

/-- The other end of the connection: what it answers to a message, after the messages before it. -/
abbrev Device : Type := List (List UInt8) → List UInt8 → List UInt8

/-- How a call ended. -/
inductive Outcome where
  /-- before anything was built -/
  | refused (errno : Errno)
  /-- with the request not sent whole -/
  | unsent (result : Except Errno Answer)
  /-- with no whole reply, some of which may have been taken -/
  | silent (errno : Errno) (part : List UInt8)
  /-- with a whole reply -/
  | replied (rsp : List UInt8) (result : Except Errno Answer)

/-- The call returns. -/
def Outcome.result : Outcome → Except Errno Answer
  | .refused errno => .error errno
  | .unsent result => result
  | .silent errno _ => .error errno
  | .replied _ result => result

def Outcome.isSilent : Outcome → Bool
  | .silent _ _ => true
  | _ => false

/-- What the call has taken of a reply it did not get whole. -/
def Outcome.part : Outcome → List UInt8
  | .silent _ part => part
  | _ => []

/-- A connection: the context, what has been sent, what the device has answered and the client has not
read, and how the calls ended. -/
structure Link where
  ctx : Ctx
  sends : List (List UInt8)
  incoming : List UInt8
  log : List Outcome

/-- A new connection. -/
def Link.fresh (ctx : Ctx) : Link := ⟨ctx, [], [], []⟩

/-- What `send` returns. -/
inductive Sent where
  | failed (errno : Errno)
  | sent (n : Nat)
  deriving DecidableEq, Repr

/-- The whole message is sent, or nothing of it. -/
def Sent.AllOrNone (length : Nat) : Sent → Prop
  | .failed _ => True
  | .sent n => n = length

instance (length : Nat) (send : Sent) : Decidable (send.AllOrNone length) := by
  cases send <;> unfold Sent.AllOrNone <;> infer_instance

/-- What a call meets: its send, its waits, and what its buffer holds before. -/
structure Turn where
  call : Call
  send : Sent
  waits : List Wait
  stale : List UInt8

/-- `send_msg`, without error recovery; a device answers what it gets. -/
def sendMsg (D : Device) (msg : List UInt8) (link : Link) : Sent → Except Errno Nat × Link
  | .failed errno => (.error errno, link)
  | .sent n =>
      let link := if n = 0 then link else
        { link with
          sends := link.sends ++ [msg.take n], incoming := link.incoming ++ D link.sends (msg.take n) }
      if 0 < n ∧ n ≠ msg.length then (.error .embBadData, link) else (.ok n, link)

/-- The common course of the client's functions. -/
def transact (D : Device) (turn : Turn) (link : Link) : Outcome × Link :=
  let plan := turn.call.plan
  match plan.refused with
  | some errno => (.refused errno, link)
  | none =>
      let (ctx, req) := plan.request link.ctx
      match sendMsg D req { link with ctx := ctx } turn.send with
      | (.error errno, link) => (.unsent (.error errno), link)
      | (.ok 0, link) => (.unsent (.ok (plan.decode.answer [] 0)), link)
      | (.ok (_ + 1), link) =>
          match receiveMsg .confirmation turn.waits link.incoming with
          | (.failed errno part, rest) => (.silent errno part, { link with incoming := rest })
          | (.whole rsp, rest) =>
              (.replied rsp (plan.finish req (rsp ++ turn.stale) rsp.length), { link with incoming := rest })

/-- One call on a connection. -/
def exchange (D : Device) (turn : Turn) (link : Link) : Outcome × Link :=
  let (outcome, link) := transact D turn link
  (outcome, { link with log := link.log ++ [outcome] })

/-- The calls of a session one after the other. -/
def step (D : Device) (link : Link) (turn : Turn) : Option Link := some (exchange D turn link).2

/-- The device answers every message with one message that has its transaction number. -/
def Device.Conforming (D : Device) : Prop :=
  ∀ before req, IsMessage .indication req →
    IsMessage .confirmation (D before req) ∧ (D before req).take 2 = req.take 2

/-- The caller's counts are counts, `send` takes the whole request or none of it, and no wait ends in the
middle of a reply. -/
def Orderly (D : Device) (link : Link) (turn : Turn) : Prop :=
  turn.call.Counted ∧ turn.send.AllOrNone (turn.call.plan.request link.ctx).2.length ∧
    (exchange D turn link).1.part = []

instance (D : Device) (link : Link) (turn : Turn) : Decidable (Orderly D link turn) :=
  inferInstanceAs (Decidable (_ ∧ _ ∧ _))

/-! ## Transaction numbers -/

theorem nextTId_eq (ctx : Ctx) {m : Nat} (here : ctx.tId = UInt16.ofNat m) :
    ctx.nextTId = UInt16.ofNat (m + 1) := by
  apply UInt16.toNat_inj.1
  have value : ctx.tId.toNat = m % 65536 := by rw [here, UInt16.toNat_ofNat']
  unfold Ctx.nextTId
  split_ifs with below
  · have below' : ctx.tId.toNat < 65535 := below
    rw [UInt16.toNat_add, UInt16.toNat_ofNat', value]
    simp
  · have above : ¬ ctx.tId.toNat < 65535 := below
    rw [UInt16.toNat_ofNat']
    simp
    omega

theorem tIdBytes_ofNat_ne {k m : Nat} (earlier : k < m) (near : m < k + 65536) :
    tIdBytes (UInt16.ofNat k) ≠ tIdBytes (UInt16.ofNat m) := by
  intro same
  simp only [tIdBytes, List.cons.injEq, and_true] at same
  have high := congrArg UInt8.toNat same.1
  have low := congrArg UInt8.toNat same.2
  rw [toNat_byte, toNat_byte, UInt16.toNat_ofNat', UInt16.toNat_ofNat'] at high low
  omega

/-- The transaction number of a request. -/
theorem Call.take_request (call : Call) {ctx : Ctx} {m : Nat} (here : ctx.tId = UInt16.ofNat m) :
    (call.plan.request ctx).2.take 2 = tIdBytes (UInt16.ofNat (m + 1)) := by
  rw [call.plan.request_eq ctx call.coherent.1, nextTId_eq ctx here]
  rfl

/-- A reply with another transaction number fails the check. -/
theorem Plan.finish_of_ne {plan : Plan} {req rsp : List UInt8} (stale : List UInt8) (n : Nat)
    (long : 2 ≤ rsp.length) (other : rsp.take 2 ≠ req.take 2) (whole : 2 ≤ req.length) :
    plan.finish req (rsp ++ stale) n = .error .embBadData := by
  obtain ⟨r₀, r₁, rsp, rfl⟩ : ∃ r₀ r₁ rest, rsp = r₀ :: r₁ :: rest := by
    match rsp, long with
    | r₀ :: r₁ :: rest, _ => exact ⟨r₀, r₁, rest, rfl⟩
  obtain ⟨q₀, q₁, req, rfl⟩ : ∃ q₀ q₁ rest, req = q₀ :: q₁ :: rest := by
    match req, whole with
    | q₀ :: q₁ :: rest, _ => exact ⟨q₀, q₁, rest, rfl⟩
  have differs : byteAt (q₀ :: q₁ :: req) 0 ≠ byteAt (r₀ :: r₁ :: rsp ++ stale) 0 ∨
      byteAt (q₀ :: q₁ :: req) 1 ≠ byteAt (r₀ :: r₁ :: rsp ++ stale) 1 := by
    by_contra same
    simp only [not_or, not_not] at same
    refine other ?_
    have first : q₀ = r₀ := UInt8.toNat_inj.1 same.1
    have second : q₁ = r₁ := UInt8.toNat_inj.1 same.2
    rw [first, second]
    rfl
  rw [Plan.finish, checkConfirmation, preCheckConfirmation, if_pos differs]

/-! ## One call -/

/-- The connection with a request sent whole. -/
def Link.sent (D : Device) (link : Link) (plan : Plan) : Link :=
  { link with
    ctx := (plan.request link.ctx).1
    sends := link.sends ++ [(plan.request link.ctx).2]
    incoming := link.incoming ++ D link.sends (plan.request link.ctx).2 }

/-- A call that sends its request whole waits for a reply. -/
theorem transact_of_sent (D : Device) {turn : Turn} {link : Link} (accepted : turn.call.plan.refused = none)
    (sent : turn.send = .sent (turn.call.plan.request link.ctx).2.length) :
    transact D turn link =
      match receiveMsg .confirmation turn.waits (link.sent D turn.call.plan).incoming with
      | (.failed errno part, rest) =>
          (.silent errno part, { link.sent D turn.call.plan with incoming := rest })
      | (.whole rsp, rest) =>
          (.replied rsp (turn.call.plan.finish (turn.call.plan.request link.ctx).2
            (rsp ++ turn.stale) rsp.length), { link.sent D turn.call.plan with incoming := rest }) := by
  have long : (turn.call.plan.request link.ctx).2.length =
      headerLength + turn.call.plan.body.length + 1 := by
    rw [turn.call.plan.request_length link.ctx turn.call.coherent.1]
    omega
  have sending : sendMsg D (turn.call.plan.request link.ctx).2
      { link with ctx := (turn.call.plan.request link.ctx).1 }
      (.sent (turn.call.plan.request link.ctx).2.length) =
        (.ok (headerLength + turn.call.plan.body.length + 1), link.sent D turn.call.plan) := by
    rw [sendMsg, if_neg (fun partly => partly.2 rfl), if_neg (by omega), List.take_length, long]
    rfl
  simp only [transact, accepted, sent, sending]

/-- What a call does that sends its request whole or not at all. -/
theorem transact_cases (D : Device) {turn : Turn} {link : Link}
    (whole : turn.send.AllOrNone (turn.call.plan.request link.ctx).2.length) :
    (∃ errno, turn.call.plan.refused = some errno ∧ transact D turn link = (.refused errno, link)) ∨
      turn.call.plan.refused = none ∧
        ((∃ errno, turn.send = .failed errno ∧ transact D turn link =
            (.unsent (.error errno), { link with ctx := (turn.call.plan.request link.ctx).1 })) ∨
          (∃ errno part rest,
            receiveMsg .confirmation turn.waits (link.sent D turn.call.plan).incoming =
              (.failed errno part, rest) ∧
            transact D turn link =
              (.silent errno part, { link.sent D turn.call.plan with incoming := rest })) ∨
          ∃ rsp rest,
            receiveMsg .confirmation turn.waits (link.sent D turn.call.plan).incoming = (.whole rsp, rest) ∧
            transact D turn link =
              (.replied rsp (turn.call.plan.finish (turn.call.plan.request link.ctx).2
                (rsp ++ turn.stale) rsp.length), { link.sent D turn.call.plan with incoming := rest })) := by
  cases refusal : turn.call.plan.refused with
  | some errno => exact .inl ⟨errno, rfl, by simp only [transact, refusal]⟩
  | none =>
      refine .inr ⟨rfl, ?_⟩
      cases sending : turn.send with
      | failed errno => exact .inl ⟨errno, rfl, by simp only [transact, refusal, sending, sendMsg]⟩
      | sent n =>
          rw [sending] at whole
          obtain rfl : n = _ := whole
          rw [transact_of_sent D refusal sending]
          cases receiveMsg .confirmation turn.waits (link.sent D turn.call.plan).incoming with
          | mk r rest =>
              cases r with
              | failed errno part => exact .inr (.inl ⟨errno, part, rest, rfl, rfl⟩)
              | whole rsp => exact .inr (.inr ⟨rsp, rest, rfl, rfl⟩)

/-! ## The replies that are owed -/

/-- A reply is the device's answer to one of the requests sent. -/
def Device.Answered (D : Device) (sends : List (List UInt8)) (rsp : List UInt8) : Prop :=
  ∃ before req after, sends = before ++ req :: after ∧ rsp = D before req

theorem Device.answered_last (D : Device) (sends : List (List UInt8)) (req : List UInt8) :
    D.Answered (sends ++ [req]) (D sends req) := ⟨sends, req, [], rfl, rfl⟩

theorem Device.Answered.append {D : Device} {sends : List (List UInt8)} {rsp : List UInt8}
    (answered : D.Answered sends rsp) (more : List (List UInt8)) : D.Answered (sends ++ more) rsp := by
  obtain ⟨before, req, after, rfl, own⟩ := answered
  exact ⟨before, req, after ++ more, by simp, own⟩

/-- The connection `n` requests after the transaction number `t`: the replies that the client has not read
yet are messages with transaction numbers it has given, answers to requests it has sent, and there are some
exactly when a call has ended without one. -/
structure Owes (D : Device) (t n : Nat) (owed : List (List UInt8)) (link : Link) : Prop where
  tId : link.ctx.tId = UInt16.ofNat (t + n)
  incoming : link.incoming = owed.flatten
  messages : ∀ rsp ∈ owed, IsMessage .confirmation rsp
  given : ∀ rsp ∈ owed, ∃ k ≤ n, rsp.take 2 = tIdBytes (UInt16.ofNat (t + k))
  answered : ∀ rsp ∈ owed, D.Answered link.sends rsp
  silent : (∃ o ∈ link.log, o.isSilent = true) ↔ owed ≠ []

variable {D : Device} {t n : Nat} {owed : List (List UInt8)} {link : Link} {turn : Turn}

/-- With a request sent one reply more is owed. -/
theorem Owes.sent (owes : Owes D t n owed link) (conforming : D.Conforming) (counted : turn.call.Counted)
    (accepted : turn.call.plan.refused = none) :
    ∃ own, own = D link.sends (turn.call.plan.request link.ctx).2 ∧
      (link.sent D turn.call.plan).ctx.tId = UInt16.ofNat (t + (n + 1)) ∧
      (link.sent D turn.call.plan).incoming = (owed ++ [own]).flatten ∧
      (∀ rsp ∈ owed ++ [own], IsMessage .confirmation rsp) ∧
      (∀ rsp ∈ owed ++ [own], ∃ k ≤ n + 1, rsp.take 2 = tIdBytes (UInt16.ofNat (t + k))) ∧
      ∀ rsp ∈ owed ++ [own], D.Answered (link.sent D turn.call.plan).sends rsp := by
  obtain ⟨message, same⟩ := conforming link.sends _ (turn.call.isMessage_request link.ctx counted accepted)
  refine ⟨_, rfl, ?_, ?_, ?_, ?_, ?_⟩
  · exact nextTId_eq link.ctx owes.tId
  · rw [List.flatten_append, ← owes.incoming]
    simp [Link.sent]
  · intro rsp here
    rcases List.mem_append.1 here with earlier | own
    · exact owes.messages rsp earlier
    · rw [List.mem_singleton.1 own]
      exact message
  · intro rsp here
    rcases List.mem_append.1 here with earlier | own
    · obtain ⟨k, given, number⟩ := owes.given rsp earlier
      exact ⟨k, Nat.le_succ_of_le given, number⟩
    · refine ⟨n + 1, Nat.le_refl _, ?_⟩
      rw [List.mem_singleton.1 own, same]
      exact turn.call.take_request owes.tId
  · intro rsp here
    rcases List.mem_append.1 here with earlier | own
    · exact (owes.answered rsp earlier).append _
    · rw [List.mem_singleton.1 own]
      exact D.answered_last _ _

/-- The reply in front is an earlier one, or the call's own where no other is owed. -/
theorem head_of_owed (owed : List (List UInt8)) (own : List UInt8) :
    ∃ first rest, owed ++ [own] = first :: rest ∧ (owed = [] → first = own) ∧
      (owed ≠ [] → first ∈ owed) ∧ (rest ≠ [] ↔ owed ≠ []) := by
  cases owed with
  | nil => exact ⟨own, [], rfl, fun _ => rfl, fun some => absurd rfl some, Iff.rfl⟩
  | cons first owed =>
      refine ⟨first, owed ++ [own], rfl, ?_, fun _ => List.mem_cons_self, iff_of_true (by simp) (by simp)⟩
      rintro ⟨⟩

theorem exchange_outcome (D : Device) (turn : Turn) (link : Link) :
    (exchange D turn link).1 = (transact D turn link).1 := rfl

theorem exchange_link (D : Device) (turn : Turn) (link : Link) :
    (exchange D turn link).2 =
      { (transact D turn link).2 with
        log := (transact D turn link).2.log ++ [(transact D turn link).1] } := rfl

/-- One more call that is not silent leaves the silence of a log as it is. -/
theorem silent_append {log : List Outcome} {o : Outcome} (heard : o.isSilent = false) :
    (∃ o' ∈ log ++ [o], o'.isSilent = true) ↔ ∃ o' ∈ log, o'.isSilent = true := by
  simp [or_and_right, exists_or, heard]

/-- The reply to an earlier call has another number, and fails the check. -/
theorem Owes.finish_earlier (owes : Owes D t n owed link) (few : n < 65535) {rsp : List UInt8}
    (earlier : rsp ∈ owed) :
    turn.call.plan.finish (turn.call.plan.request link.ctx).2 (rsp ++ turn.stale) rsp.length =
      .error .embBadData := by
  obtain ⟨k, given, number⟩ := owes.given rsp earlier
  have long : 2 ≤ rsp.length :=
    Nat.le_trans (by decide) (length_of_confirmation (owes.messages rsp earlier))
  refine Plan.finish_of_ne turn.stale _ long ?_ ?_
  · rw [number, turn.call.take_request owes.tId]
    exact tIdBytes_ofNat_ne (by omega) (by omega)
  · rw [turn.call.plan.request_length link.ctx turn.call.coherent.1, headerLength]
    omega

/-- **A call.**  What is owed after a call, and what a call that gets a reply has got. -/
theorem Owes.exchange (owes : Owes D t n owed link) (conforming : D.Conforming) (orderly : Orderly D link turn)
    (few : n < 65535) :
    (∃ n' owed', n' ≤ n + 1 ∧ Owes D t n' owed' (exchange D turn link).2) ∧
      ∀ rsp result, (LibModbus.exchange D turn link).1 = .replied rsp result →
        (owed = [] → rsp = D link.sends (turn.call.plan.request link.ctx).2 ∧
          result = turn.call.plan.finish (turn.call.plan.request link.ctx).2 rsp rsp.length) ∧
        (owed ≠ [] → D.Answered link.sends rsp ∧ result = .error .embBadData) := by
  obtain ⟨counted, whole, prompt⟩ := orderly
  rcases transact_cases D whole with ⟨errno, -, refused⟩ | ⟨accepted, sending⟩
  · rw [exchange_link, exchange_outcome, refused]
    refine ⟨⟨n, owed, Nat.le_succ n, ?_⟩, fun rsp result impossible => by cases impossible⟩
    exact { owes with silent := (silent_append rfl).trans owes.silent }
  rcases sending with ⟨errno, -, unsent⟩ | sending
  · rw [exchange_link, exchange_outcome, unsent]
    refine ⟨⟨n + 1, owed, Nat.le_refl _, ?_⟩, fun rsp result impossible => by cases impossible⟩
    refine ⟨nextTId_eq link.ctx owes.tId, owes.incoming, owes.messages, fun rsp here => ?_, owes.answered,
      (silent_append rfl).trans owes.silent⟩
    obtain ⟨k, given, number⟩ := owes.given rsp here
    exact ⟨k, Nat.le_succ_of_le given, number⟩
  -- the request is sent: the reply in front is the first of those owed
  obtain ⟨own, own_eq, tId, incoming, messages, given, answers⟩ := owes.sent conforming counted accepted
  obtain ⟨first, rest, split, alone, behind, left⟩ := head_of_owed owed own
  rw [split] at incoming messages given answers
  have message := messages first List.mem_cons_self
  rw [List.flatten_cons] at incoming
  have received := receiveMsg_of_isMessage turn.waits rest.flatten message
  rw [← incoming] at received
  rcases sending with ⟨errno, part, later, failed, silent⟩ | ⟨rsp, later, replied, answered⟩
  · -- no reply in time: all of them are still owed
    rw [exchange_outcome, silent] at prompt
    obtain rfl : part = [] := prompt
    have nothing : later = first ++ rest.flatten := by
      rcases received with whole_reply | ⟨errno', part', left', rfl, unread, given_up⟩
      · cases failed.symm.trans whole_reply
      · cases failed.symm.trans given_up
        rfl
    rw [exchange_link, exchange_outcome, silent]
    refine ⟨⟨n + 1, first :: rest, Nat.le_refl _, ⟨tId, ?_, messages, given, answers, ?_⟩⟩,
      fun rsp result impossible => by cases impossible⟩
    · rw [List.flatten_cons]
      exact nothing
    · exact iff_of_true ⟨_, List.mem_append_right _ (List.mem_singleton_self _), rfl⟩ (by simp)
  · -- a reply: it is the one in front
    obtain ⟨rfl, rfl⟩ : rsp = first ∧ later = rest.flatten := by
      rcases received with whole_reply | ⟨errno', part', left', _, unread, given_up⟩
      · cases replied.symm.trans whole_reply
        exact ⟨rfl, rfl⟩
      · cases replied.symm.trans given_up
    rw [exchange_link, exchange_outcome, answered]
    refine ⟨⟨n + 1, rest, Nat.le_refl _, ⟨tId, rfl, fun a here => messages a (List.mem_cons_of_mem _ here),
      fun a here => given a (List.mem_cons_of_mem _ here),
      fun a here => answers a (List.mem_cons_of_mem _ here), ?_⟩⟩, ?_⟩
    · exact (silent_append rfl).trans (owes.silent.trans left.symm)
    · intro rsp' result same
      cases same
      refine ⟨fun none => ⟨(alone none).trans own_eq, ?_⟩, fun some => ?_⟩
      · exact Plan.finish_append link.ctx turn.stale turn.call.coherent message
      · exact ⟨owes.answered rsp (behind some), owes.finish_earlier few (behind some)⟩

/-! ## Whole sessions -/

theorem owes_fresh (D : Device) (ctx : Ctx) : Owes D ctx.tId.toNat 0 [] (Link.fresh ctx) where
  tId := by
    rw [Nat.add_zero, UInt16.ofNat_toNat]
    rfl
  incoming := rfl
  messages := fun rsp impossible => by cases impossible
  given := fun rsp impossible => by cases impossible
  answered := fun rsp impossible => by cases impossible
  silent := iff_of_false (by simp [Link.fresh]) (by simp)

/-- What is owed at the end of a session. -/
theorem owes_of_run {ctx : Ctx} {past : List Turn} (conforming : D.Conforming)
    (run : Run (step D) (Orderly D) (Link.fresh ctx) past link) (few : past.length ≤ 65535) :
    ∃ n owed, n ≤ past.length ∧ Owes D ctx.tId.toNat n owed link := by
  let I : List Turn → Link → Prop := fun past link => past.length ≤ 65535 →
    ∃ n owed, n ≤ past.length ∧ Owes D ctx.tId.toNat n owed link
  have start : I [] (Link.fresh ctx) := fun _ => ⟨0, [], Nat.le_refl 0, owes_fresh D ctx⟩
  refine run.invariant_trace (I := I) ?_ start few
  rintro past link turn link' later orderly taken few
  rw [List.length_append, List.length_singleton] at few ⊢
  obtain ⟨n, owed, counted, owes⟩ := later (by omega)
  obtain ⟨n', owed', more, owes'⟩ := (owes.exchange conforming orderly (by omega)).1
  cases taken
  exact ⟨n', owed', by omega, owes'⟩

/-- **In step until the first silence.**  With a device that answers every request in its order, on one
connection: a call that gets a reply has got the device's answer to its own request, and returns what it
finds there, as long as no call before it ended without a reply.  After such a call every reply is the
device's answer to an earlier request, and the call that gets it refuses it. -/
theorem in_step_until_silent {ctx : Ctx} {past : List Turn} (conforming : D.Conforming)
    (run : Run (step D) (Orderly D) (Link.fresh ctx) past link) (few : past.length < 65535)
    (orderly : Orderly D link turn) {rsp : List UInt8} {result : Except Errno Answer}
    (replied : (exchange D turn link).1 = .replied rsp result) :
    ((∀ o ∈ link.log, o.isSilent = false) →
      rsp = D link.sends (turn.call.plan.request link.ctx).2 ∧
        result = turn.call.plan.finish (turn.call.plan.request link.ctx).2 rsp rsp.length) ∧
      ((∃ o ∈ link.log, o.isSilent = true) →
        (∃ before req after, link.sends = before ++ req :: after ∧ rsp = D before req) ∧
          result = .error .embBadData) := by
  obtain ⟨n, owed, counted, owes⟩ := owes_of_run conforming run (Nat.le_of_lt few)
  obtain ⟨alone, behind⟩ := (owes.exchange conforming orderly (by omega)).2 rsp result replied
  refine ⟨fun heard => alone ?_, fun silent => behind (owes.silent.1 silent)⟩
  by_contra some
  obtain ⟨o, here, silent⟩ := owes.silent.2 some
  rw [heard o here] at silent
  cases silent

/-- An example of a device: it echoes the requests that switch a coil and answers the others by an
exception. -/
def relay : Device := fun _ req =>
  if byteAt req headerLength = Fc.writeSingleCoil then req
  else req.take 2 ++ [0, 0, 0, 3, req.getD 6 0, byte (0x80 + byteAt req headerLength % 0x80), 1]

theorem relay_conforming : Device.Conforming relay := by
  intro before req message
  have long : 8 ≤ req.length := by
    rw [message.1, dataStart, headerLength]
    omega
  unfold relay
  split_ifs with switches
  · refine ⟨⟨?_, message.2⟩, rfl⟩
    rw [message.1]
    simp only [dataStart, computeDataLengthAfterMeta, switches]
    rfl
  · have two : (req.take 2).length = 2 := by
      rw [List.length_take]
      omega
    obtain ⟨a, b, here⟩ : ∃ a b, req.take 2 = [a, b] := List.length_eq_two.1 two
    rw [here]
    refine ⟨⟨?_, of_decide_eq_true rfl⟩, rfl⟩
    have code : byteAt ([a, b] ++ [0, 0, 0, 3, req.getD 6 0,
        byte (0x80 + byteAt req headerLength % 0x80), 1]) headerLength =
          0x80 + byteAt req headerLength % 0x80 := by
      show (byte (0x80 + byteAt req headerLength % 0x80)).toNat = _
      rw [toNat_byte]
      omega
    -- no function code of an exception is followed by more than the code of the exception
    simp only [dataStart, computeDataLengthAfterMeta, computeMetaLengthAfterFunction, code,
      Fc.writeSingleCoil, Fc.writeSingleRegister, Fc.writeMultipleCoils, Fc.writeMultipleRegisters,
      Fc.maskWriteRegister, Fc.readInputRegisters, Fc.reportSlaveId, Fc.writeAndReadRegisters]
    rw [if_neg (by omega), if_neg (by omega), if_neg (by omega)]
    rfl

/-- A first request whose reply is late: the second call finds it, in three pieces, and fails. -/
theorem in_step_until_silent_late :
    ∃ link rsp result,
      Run (step relay) (Orderly relay) (Link.fresh ⟨1, 0⟩) [⟨.writeBit 1 0xff, .sent 12, [], []⟩] link ∧
      (exchange relay ⟨.writeBit 1 0, .sent 12, [.ready 3, .ready 20, .ready 20], [7]⟩ link).1 =
        .replied rsp result ∧
      (∃ before req after, link.sends = before ++ req :: after ∧ rsp = relay before req) ∧
        result = .error .embBadData := by
  have run : Run (step relay) (Orderly relay) (Link.fresh ⟨1, 0⟩) [⟨.writeBit 1 0xff, .sent 12, [], []⟩] _ :=
    .cons (by decide +kernel) rfl (.nil _)
  have orderly : Orderly relay (exchange relay ⟨.writeBit 1 0xff, .sent 12, [], []⟩ (Link.fresh ⟨1, 0⟩)).2
      ⟨.writeBit 1 0, .sent 12, [.ready 3, .ready 20, .ready 20], [7]⟩ := by decide +kernel
  exact ⟨_, _, _, run, rfl, (in_step_until_silent relay_conforming run (by decide) orderly rfl).2
    ⟨_, List.mem_singleton_self _, rfl⟩⟩

-- A wait that ends in the middle of a reply is another matter: what is left of the first reply can pass
-- for the second one, here with the registers of the first call as the values of the second.
example :
    let device : Device := fun before req =>
      if before = [] then
        req.take 2 ++ [0, 0, 0, 15, 1, 3, 12] ++ [0, 2, 0, 0, 0, 5, 1, 3, 2, 0xAB, 0xCD, 0]
      else req.take 2 ++ [0, 0, 0, 5, 1, 3, 2, 0, 0]
    let link := (exchange device ⟨.readRegisters 0 6, .sent 12, [.ready 7, .ready 0], []⟩ (.fresh ⟨1, 0⟩)).2
    (exchange device ⟨.readRegisters 0 1, .sent 12, [.ready 20, .ready 20, .ready 20], []⟩ link).1.result =
      .ok ⟨1, [0xABCD]⟩ := rfl

end TizerVision.LibModbus
