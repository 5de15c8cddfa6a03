/-
# LibModbus.Relay — the pulse of a relay

`trigger_complete` connects to the relay, switches a coil on, waits five seconds and switches it off.
Each of the two steps can fail on its way to the relay, by a refusal of the relay and on the way back, and
the function returns at the first one that fails.

* `IsRelay` — what is assumed of the device: a switch is carried out and echoed, or refused by an exception.
* `triggerComplete_relay` — for every such device: the function returns true exactly when both requests
  reach the relay, are carried out and their echoes reach the client; and it leaves the coil on exactly when
  the first request is carried out and its echo does not come back in time, or the second request cannot be
  sent or is refused.
-/
import TizerVision.LibModbus.Session

namespace TizerVision.LibModbus

set_option autoImplicit false

open Theory

/-! ## The library of the relay -/

/-- What a call meets on the network. -/
structure Meeting where
  send : Sent
  waits : List Wait
  stale : List UInt8

/-- What `trigger_complete` meets: the two steps to a connection, and its two calls. -/
structure Environment where
  wsaStartup : Bool
  connected : Bool
  opening : Meeting
  closing : Meeting

namespace ModbusCom

/-- `ModbusCom::Connect`, to the slave 1. -/
def connect (connected : Bool) : Option Link := if connected then some (.fresh ⟨1, 0⟩) else none

/-- `ModbusCom::Open`. -/
def openCol (iCol : Int) : Call := .writeBit iCol 0xff

/-- `ModbusCom::Close` of a coil. -/
def closeCol (iCol : Int) : Call := .writeBit iCol 0x00

end ModbusCom

/-- The `int` a call returns. -/
def Outcome.rc (outcome : Outcome) : Int :=
  match outcome.result with
  | .error _ => -1
  | .ok answer => answer.rc

/-- A call at a meeting. -/
def Meeting.turn (meeting : Meeting) (call : Call) : Turn :=
  ⟨call, meeting.send, meeting.waits, meeting.stale⟩

/-- `trigger_complete`, with what has been sent to the relay. -/
def triggerComplete (D : Device) (env : Environment) (v : Int) : Bool × List (List UInt8) :=
  if ¬ env.wsaStartup then (false, [])
  else match ModbusCom.connect env.connected with
    | none => (false, [])
    | some link =>
        let (opened, link) := exchange D (env.opening.turn (ModbusCom.openCol v)) link
        if opened.rc = -1 then (false, link.sends)
        else
          let (closed, link) := exchange D (env.closing.turn (ModbusCom.closeCol v)) link
          if closed.rc = -1 then (false, link.sends) else (true, link.sends)

/-! ## The relay -/

/-- The request of a switch. -/
def switchRequest (ctx : Ctx) (addr status : Int) : List UInt8 :=
  ((Call.writeBit addr status).plan.request ctx).2

theorem length_switchRequest (ctx : Ctx) (addr status : Int) :
    (switchRequest ctx addr status).length = 12 := rfl

/-- An exception message. -/
def IsRefusal (rsp : List UInt8) : Prop :=
  IsMessage .confirmation rsp ∧ 0x80 ≤ byteAt rsp headerLength

/-- **What is assumed of the relay**, with a coil of it that is off before the messages and that no one else
switches: it carries a request to switch the coil out and echoes it, or refuses it by an exception and leaves
the coil as it is; and a piece of a request does nothing to the coil. -/
structure IsRelay (D : Device) (addr : Int) (coil : List (List UInt8) → Bool) : Prop where
  off : coil [] = false
  answers : ∀ before ctx status, D before (switchRequest ctx addr status) = switchRequest ctx addr status ∨
    IsRefusal (D before (switchRequest ctx addr status))
  carriesOut : ∀ before ctx status,
    D before (switchRequest ctx addr status) = switchRequest ctx addr status →
      coil (before ++ [switchRequest ctx addr status]) = decide (status ≠ 0)
  refuses : ∀ before ctx status,
    D before (switchRequest ctx addr status) ≠ switchRequest ctx addr status →
      coil (before ++ [switchRequest ctx addr status]) = coil before
  pieces : ∀ before part, part.length < 12 → coil (before ++ [part]) = coil before

/-- `send` takes some of the message, or fails. -/
def Sent.Possible (length : Nat) : Sent → Prop
  | .failed _ => True
  | .sent n => 0 < n ∧ n ≤ length

instance (length : Nat) (send : Sent) : Decidable (send.Possible length) :=
  match send with
  | .failed _ => .isTrue trivial
  | .sent n => @instDecidableAnd _ _ (Nat.decLt 0 n) (Nat.decLe n length)

/-- The echo of a message arrives whole before the wait for it ends. -/
def Arrives (waits : List Wait) (msg : List UInt8) : Prop :=
  (receiveMsg .confirmation waits msg).1 = .whole msg

instance (waits : List Wait) (msg : List UInt8) : Decidable (Arrives waits msg) :=
  inferInstanceAs (Decidable (_ = _))

/-! ## A switch -/

theorem switchRequest_isMessage (ctx : Ctx) (addr status : Int) :
    IsMessage .confirmation (switchRequest ctx addr status) := by
  have function : byteAt (switchRequest ctx addr status) headerLength = Fc.writeSingleCoil := rfl
  refine ⟨?_, ?_⟩
  · simp only [length_switchRequest, dataStart, computeDataLengthAfterMeta, function]
    rfl
  · rw [length_switchRequest]
    decide

/-- The echo of a switch passes the check. -/
theorem finish_echo (ctx : Ctx) (addr status : Int) (stale : List UInt8) :
    (Call.writeBit addr status).plan.finish (switchRequest ctx addr status)
      (switchRequest ctx addr status ++ stale) (switchRequest ctx addr status).length = .ok ⟨1, []⟩ := by
  have message := switchRequest_isMessage ctx addr status
  have front : preCheckConfirmation (switchRequest ctx addr status) (switchRequest ctx addr status) =
      .ok () := preCheckConfirmation_eq_ok.2 ⟨rfl, rfl, .inl rfl⟩
  have function : byteAt (switchRequest ctx addr status) headerLength = Fc.writeSingleCoil := rfl
  have passed : checkConfirmation (switchRequest ctx addr status) (switchRequest ctx addr status)
      (switchRequest ctx addr status).length = .ok 1 := by
    rw [checkConfirmation_eq_ok, computeResponseLengthFromRequest, length_switchRequest, function]
    exact ⟨front, by decide, .inl rfl, rfl, rfl, rfl⟩
  rw [Plan.finish, checkConfirmation_append _ stale _ message, passed]
  rfl

/-- A refusal does not. -/
theorem finish_refusal (plan : Plan) (req stale : List UInt8) {rsp : List UInt8} (refusal : IsRefusal rsp) :
    ∃ errno, plan.finish req (rsp ++ stale) rsp.length = .error errno := by
  rw [Plan.finish, checkConfirmation_append _ stale _ refusal.1]
  cases checked : checkConfirmation req rsp rsp.length with
  | error errno => exact ⟨errno, rfl⟩
  | ok rc => exact absurd (checkConfirmation_eq_ok.1 checked).2.1 (Nat.not_lt.2 refusal.2)

/-- A request that is sent whole to a device that answers it, with nothing else owed: the answer is what
the call gets, if it arrives. -/
theorem transact_of_answer {D : Device} {turn : Turn} {link : Link} {own : List UInt8}
    (accepted : turn.call.plan.refused = none)
    (sent : turn.send = .sent (turn.call.plan.request link.ctx).2.length) (idle : link.incoming = [])
    (answers : D link.sends (turn.call.plan.request link.ctx).2 = own)
    (message : IsMessage .confirmation own) :
    (Arrives turn.waits own ∧ transact D turn link =
        (.replied own (turn.call.plan.finish (turn.call.plan.request link.ctx).2
          (own ++ turn.stale) own.length), { link.sent D turn.call.plan with incoming := [] })) ∨
      ¬ Arrives turn.waits own ∧ ∃ errno part rest, transact D turn link =
        (.silent errno part, { link.sent D turn.call.plan with incoming := rest }) := by
  have incoming : (link.sent D turn.call.plan).incoming = own := by
    rw [Link.sent, idle, answers, List.nil_append]
  have reception := receiveMsg_of_isMessage turn.waits [] message
  rw [List.append_nil] at reception
  rw [transact_of_sent D accepted sent, incoming, Arrives]
  rcases reception with all | ⟨errno, part, left, -, -, given_up⟩
  · rw [all]
    exact .inl ⟨rfl, rfl⟩
  · rw [given_up]
    refine .inr ⟨?_, errno, part, _, rfl⟩
    rintro ⟨⟩

/-- What becomes of a switch: a piece of it at most reaches the relay, or it is refused, or its echo is late,
or that arrives. -/
inductive Switching (D : Device) (turn : Turn) (link : Link) (req : List UInt8) (outcome : Outcome)
    (link' : Link) : Prop where
  | unsent {parts : List (List UInt8)} (unsent : turn.send ≠ .sent 12) (failed : outcome.rc = -1)
      (sends : link'.sends = link.sends ++ parts)
      (pieces : parts = [] ∨ ∃ part, parts = [part] ∧ part.length < 12) :
      Switching D turn link req outcome link'
  | refused (sent : turn.send = .sent 12) (refused : D link.sends req ≠ req) (failed : outcome.rc = -1)
      (sends : link'.sends = link.sends ++ [req]) : Switching D turn link req outcome link'
  | late (sent : turn.send = .sent 12) (echoed : D link.sends req = req) (late : ¬ Arrives turn.waits req)
      (failed : outcome.rc = -1) (sends : link'.sends = link.sends ++ [req]) :
      Switching D turn link req outcome link'
  | echoed (sent : turn.send = .sent 12) (echoed : D link.sends req = req)
      (arrives : Arrives turn.waits req) (passed : outcome.rc ≠ -1)
      (sends : link'.sends = link.sends ++ [req]) (idle : link'.incoming = [])
      (ctx : link'.ctx = { link.ctx with tId := link.ctx.nextTId }) :
      Switching D turn link req outcome link'

variable {D : Device} {addr status : Int} {coil : List (List UInt8) → Bool} {turn : Turn} {link : Link}

theorem switching_of_sent (answers : D link.sends (switchRequest link.ctx addr status) =
      switchRequest link.ctx addr status ∨ IsRefusal (D link.sends (switchRequest link.ctx addr status)))
    (call : turn.call = .writeBit addr status) (idle : link.incoming = []) (sent : turn.send = .sent 12) :
    Switching D turn link (switchRequest link.ctx addr status) (exchange D turn link).1
      (exchange D turn link).2 := by
  have request : (turn.call.plan.request link.ctx).2 = switchRequest link.ctx addr status := by
    rw [call, switchRequest]
  have message := switchRequest_isMessage link.ctx addr status
  have passed := finish_echo link.ctx addr status turn.stale
  rw [← request] at answers message passed ⊢
  rw [← call] at passed
  have accepted : turn.call.plan.refused = none := by
    rw [call]
    rfl
  have whole : turn.send = .sent (turn.call.plan.request link.ctx).2.length := by
    rw [request, length_switchRequest, sent]
  rw [exchange_link, exchange_outcome]
  by_cases echo : D link.sends (turn.call.plan.request link.ctx).2 = (turn.call.plan.request link.ctx).2
  · rcases transact_of_answer accepted whole idle echo message with
      ⟨arrives, did⟩ | ⟨late, errno, part, rest, did⟩
    · rw [did, passed]
      exact .echoed sent echo arrives (show ¬ (1 : Int) = -1 by decide) rfl rfl rfl
    · rw [did]
      exact .late sent echo late rfl rfl
  · -- a refusal: the call fails whether it arrives or not
    have refusal := answers.resolve_left echo
    rcases transact_of_answer accepted whole idle rfl refusal.1 with
      ⟨-, did⟩ | ⟨-, errno, part, rest, did⟩
    · obtain ⟨errno, failed⟩ := finish_refusal turn.call.plan
        (turn.call.plan.request link.ctx).2 turn.stale refusal
      rw [did, failed]
      exact .refused sent echo rfl rfl
    · rw [did]
      exact .refused sent echo rfl rfl

theorem switching_of_unsent (call : turn.call = .writeBit addr status) (possible : turn.send.Possible 12)
    (unsent : turn.send ≠ .sent 12) :
    Switching D turn link (switchRequest link.ctx addr status) (exchange D turn link).1
      (exchange D turn link).2 := by
  have accepted : turn.call.plan.refused = none := by
    rw [call]
    rfl
  have length : (turn.call.plan.request link.ctx).2.length = 12 := by
    rw [call]
    rfl
  rw [exchange_link, exchange_outcome]
  cases sending : turn.send with
  | failed errno =>
      simp only [transact, accepted, sending, sendMsg]
      exact .unsent unsent rfl (List.append_nil _).symm (.inl rfl)
  | sent n =>
      rw [sending] at possible
      obtain ⟨some_sent, within⟩ : 0 < n ∧ n ≤ 12 := possible
      have short : n ≠ 12 := fun all => unsent (by rw [sending, all])
      simp only [transact, accepted, sending, sendMsg, length, if_neg (Nat.ne_of_gt some_sent),
        if_pos (And.intro some_sent short)]
      refine .unsent unsent rfl rfl (.inr ⟨_, rfl, ?_⟩)
      rw [List.length_take, length]
      omega

/-- A switch on an idle connection. -/
theorem switching (isRelay : IsRelay D addr coil) (call : turn.call = .writeBit addr status)
    (idle : link.incoming = []) (possible : turn.send.Possible 12) :
    Switching D turn link (switchRequest link.ctx addr status) (exchange D turn link).1
      (exchange D turn link).2 := by
  by_cases sent : turn.send = .sent 12
  · exact switching_of_sent (isRelay.answers _ _ _) call idle sent
  · exact switching_of_unsent call possible sent

/-! ## The pulse -/

/-- The request that switches the coil on, and the one that switches it off. -/
def onRequest (v : Int) : List UInt8 := switchRequest ⟨1, 0⟩ v 0xff
def offRequest (v : Int) : List UInt8 := switchRequest ⟨1, 1⟩ v 0x00

/-- `trigger_complete` gets a connection. -/
def Environment.Connects (env : Environment) : Prop := env.wsaStartup = true ∧ env.connected = true

/-- The request that switches the coil on reaches the relay and is carried out. -/
def Environment.SwitchesOn (env : Environment) (D : Device) (v : Int) : Prop :=
  env.Connects ∧ env.opening.send = .sent 12 ∧ D [] (onRequest v) = onRequest v

/-- And then the request that switches it off. -/
def Environment.SwitchesOff (env : Environment) (D : Device) (v : Int) : Prop :=
  Arrives env.opening.waits (onRequest v) ∧ env.closing.send = .sent 12 ∧
    D [onRequest v] (offRequest v) = offRequest v

/-- How far `trigger_complete` gets: what it returns, and whether the coil is left on. -/
inductive Course (env : Environment) (D : Device) (v : Int) : Bool → Bool → Prop where
  | neverOn (never : ¬ env.SwitchesOn D v) : Course env D v false false
  | neverOff (on : env.SwitchesOn D v) (never : ¬ env.SwitchesOff D v) : Course env D v false true
  | off (on : env.SwitchesOn D v) (off : env.SwitchesOff D v) :
      Course env D v (decide (Arrives env.closing.waits (offRequest v))) false

variable {env : Environment} {v : Int}

theorem IsRelay.coil_pieces (isRelay : IsRelay D v coil) (before : List (List UInt8))
    {parts : List (List UInt8)} (pieces : parts = [] ∨ ∃ part, parts = [part] ∧ part.length < 12) :
    coil (before ++ parts) = coil before := by
  rcases pieces with rfl | ⟨part, rfl, short⟩
  · rw [List.append_nil]
  · exact isRelay.pieces before part short

theorem IsRelay.coil_on (isRelay : IsRelay D v coil) (on : D [] (onRequest v) = onRequest v) :
    coil [onRequest v] = true := isRelay.carriesOut [] ⟨1, 0⟩ 0xff on

/-- The second switch, once the echo of the first is there. -/
theorem course_closing (isRelay : IsRelay D v coil) (on : env.SwitchesOn D v)
    (arrives : Arrives env.opening.waits (onRequest v)) (sends : link.sends = [onRequest v])
    {closed : Outcome} {link' : Link}
    (closes : Switching D (env.closing.turn (ModbusCom.closeCol v)) link (offRequest v) closed link') :
    Course env D v (if closed.rc = -1 then (false, link'.sends) else (true, link'.sends)).1
      (coil (if closed.rc = -1 then (false, link'.sends) else (true, link'.sends)).2) := by
  have still := isRelay.coil_on on.2.2
  cases closes with
  | unsent unsent failed sends' pieces =>
      rw [if_pos failed, sends', sends, isRelay.coil_pieces _ pieces, still]
      exact .neverOff on fun off => unsent off.2.1
  | refused sent refused failed sends' =>
      rw [sends] at refused
      rw [if_pos failed, sends', sends, offRequest, isRelay.refuses _ _ _ refused, still]
      exact .neverOff on fun off => refused off.2.2
  | late sent echoed late failed sends' =>
      rw [sends] at echoed
      rw [if_pos failed, sends', sends, offRequest, isRelay.carriesOut _ _ _ echoed,
        ← decide_eq_false late]
      exact .off on ⟨arrives, sent, echoed⟩
  | echoed sent echoed arrives_off passed sends' _ _ =>
      rw [sends] at echoed
      rw [if_neg passed, sends', sends, offRequest, isRelay.carriesOut _ _ _ echoed,
        ← decide_eq_true arrives_off]
      exact .off on ⟨arrives, sent, echoed⟩

theorem course_triggerComplete (isRelay : IsRelay D v coil) (opening : env.opening.send.Possible 12)
    (closing : env.closing.send.Possible 12) :
    Course env D v (triggerComplete D env v).1 (coil (triggerComplete D env v).2) := by
  by_cases connects : env.Connects
  · have opens : Switching D (env.opening.turn (ModbusCom.openCol v)) (.fresh ⟨1, 0⟩) (onRequest v)
        (exchange D (env.opening.turn (ModbusCom.openCol v)) (.fresh ⟨1, 0⟩)).1
        (exchange D (env.opening.turn (ModbusCom.openCol v)) (.fresh ⟨1, 0⟩)).2 :=
      switching isRelay rfl rfl opening
    simp only [triggerComplete, connects.1, connects.2, ModbusCom.connect, if_true, not_true, if_false]
    generalize exchange D (env.opening.turn (ModbusCom.openCol v)) (.fresh ⟨1, 0⟩) = first
      at opens ⊢
    obtain ⟨opened, link⟩ := first
    cases opens with
    | unsent unsent failed sends pieces =>
        have untouched : coil link.sends = false := by
          rw [sends, isRelay.coil_pieces _ pieces]
          exact isRelay.off
        simp only [if_pos failed, untouched]
        exact .neverOn fun on => unsent on.2.1
    | refused sent refused failed sends =>
        have untouched : coil link.sends = false := by
          rw [sends]
          exact (isRelay.refuses _ _ _ refused).trans isRelay.off
        simp only [if_pos failed, untouched]
        exact .neverOn fun on => refused on.2.2
    | late sent echoed late failed sends =>
        have on : coil link.sends = true := by
          rw [sends]
          exact isRelay.coil_on echoed
        simp only [if_pos failed, on]
        exact .neverOff ⟨connects, sent, echoed⟩ fun off => late off.1
    | echoed sent echoed arrives passed sends idle ctx =>
        have closes := @switching D v 0 coil (env.closing.turn (ModbusCom.closeCol v)) link isRelay rfl idle
          closing
        rw [ctx] at closes
        rw [if_neg passed]
        exact course_closing isRelay ⟨connects, sent, echoed⟩ arrives sends closes
  · have nothing : triggerComplete D env v = (false, []) := by
      unfold triggerComplete ModbusCom.connect
      split_ifs with startup connected
      · exact absurd ⟨startup, connected⟩ connects
      · rfl
      · rfl
    rw [nothing, isRelay.off]
    exact .neverOn fun on => connects on.1

/-- **The pulse.**  For every relay: `trigger_complete` returns true exactly when both requests reach the
relay, are carried out and both echoes arrive in time.  The coil is left on exactly when the request that
switches it on is carried out and then the echo is late or the request that switches it off is not sent whole
or is refused. -/
theorem triggerComplete_relay (env : Environment) (v : Int) (isRelay : IsRelay D v coil)
    (opening : env.opening.send.Possible 12) (closing : env.closing.send.Possible 12) :
    ((triggerComplete D env v).1 = true ↔
      env.SwitchesOn D v ∧ env.SwitchesOff D v ∧ Arrives env.closing.waits (offRequest v)) ∧
      (coil (triggerComplete D env v).2 = true ↔ env.SwitchesOn D v ∧ ¬ env.SwitchesOff D v) := by
  have course := course_triggerComplete isRelay opening closing
  generalize (triggerComplete D env v).1 = returned, coil (triggerComplete D env v).2 = on at course
  cases course with
  | neverOn never => simp [never]
  | neverOff on never => simp [on, never]
  | off on off => simp [on, off]

/-! ## An example: a relay that never refuses a switch -/

/-- What a message does to a coil: a whole request for this coil switches it. -/
def switched (coil : Nat) (on : Bool) (msg : List UInt8) : Bool :=
  if msg.length = 12 ∧ byteAt msg headerLength = Fc.writeSingleCoil ∧
      wordAt msg (headerLength + 1) = coil then
    if wordAt msg (headerLength + 3) = 0xFF00 then true
    else if wordAt msg (headerLength + 3) = 0 then false
    else on
  else on

/-- A coil that was off, after the messages. -/
def coilAfter (coil : Nat) (msgs : List (List UInt8)) : Bool := msgs.foldl (switched coil) false

theorem coilAfter_append (coil : Nat) (msgs : List (List UInt8)) (msg : List UInt8) :
    coilAfter coil (msgs ++ [msg]) = switched coil (coilAfter coil msgs) msg := by
  rw [coilAfter, List.foldl_append]
  rfl

/-- A switch switches its coil. -/
theorem switched_switchRequest (ctx : Ctx) (addr status : Int) (on : Bool) :
    switched (addr % 65536).toNat on (switchRequest ctx addr status) = decide (status ≠ 0) := by
  have address : wordAt (switchRequest ctx addr status) (headerLength + 1) = (addr % 65536).toNat :=
    word_of_bytes addr
  have value : wordAt (switchRequest ctx addr status) (headerLength + 3) =
      ((if status ≠ 0 then 0xFF00 else 0 : Int) % 65536).toNat := word_of_bytes _
  rw [switched, if_pos ⟨rfl, rfl, address⟩, value]
  by_cases off : status = 0
  · simp [off]
  · simp [off]

theorem relay_isRelay (addr : Int) : IsRelay relay addr (coilAfter (addr % 65536).toNat) where
  off := rfl
  answers _ _ _ := .inl (if_pos rfl)
  carriesOut before ctx status _ := by
    rw [coilAfter_append, switched_switchRequest]
  refuses _ _ _ refused := absurd (if_pos rfl) refused
  pieces before part short := by
    rw [coilAfter_append]
    exact if_neg fun request => Nat.ne_of_lt short request.1

/-- An echo that is late by one wait: the function reports a failure, and the coil stays on. -/
theorem triggerComplete_relay_late :
    coilAfter 1 (triggerComplete relay
      ⟨true, true, ⟨.sent 12, [.ready 7], []⟩, ⟨.sent 12, [], []⟩⟩ 1).2 = true :=
  (triggerComplete_relay ⟨true, true, ⟨.sent 12, [.ready 7], []⟩, ⟨.sent 12, [], []⟩⟩ 1 (relay_isRelay 1)
    (by decide) (by decide)).2.2 ⟨⟨⟨rfl, rfl⟩, rfl, rfl⟩, fun off => absurd off.1 (by decide +kernel)⟩

end TizerVision.LibModbus
