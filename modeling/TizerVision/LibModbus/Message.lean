/-
# LibModbus.Message — receiving one message of Modbus/TCP, in whatever pieces it comes

`_modbus_receive_msg` reads a message step by step: the header with the function code, the bytes whose
number the function code tells, the bytes whose number these tell.  Each turn of its loop waits for the
socket and takes what `recv` gives, at most as much as the step misses.  The model has the loop with its
steps, its length computations and its failures, for the TCP backend and without error recovery, as
`modbus_new_tcp` leaves it; what the socket brings is a script of the environment.

* `IsMessage` — a whole message, told by its own bytes; the steps of the loop come to nothing else
  (`isMessage_of_framed`, `framed_of_isMessage`).
* `receiveMsg_takes_one_message` — whatever arrives in whatever pieces, no more than the caller's buffer
  holds is taken, nothing but whole messages is returned, and in front of a message no byte behind it is
  touched.
-/
import TizerVision.Theory.Stream
import Mathlib.Tactic.Common
import Mathlib.Data.List.GetD

namespace TizerVision.LibModbus

set_option autoImplicit false

open Theory

/-! ## Bytes -/

/-- An `int` stored in a `uint8_t`. -/
def byte (v : Int) : UInt8 := UInt8.ofNat (v % 256).toNat

@[simp] theorem toNat_byte (v : Int) : (byte v).toNat = (v % 256).toNat := by
  rw [byte, UInt8.toNat_ofNat']
  omega

/-- The byte at a position of a message, as an `int`. -/
def byteAt (msg : List UInt8) (i : Nat) : Nat := (msg.getD i 0).toNat

theorem byteAt_append_left {msg : List UInt8} (more : List UInt8) {i : Nat} (inside : i < msg.length) :
    byteAt (msg ++ more) i = byteAt msg i := by
  rw [byteAt, byteAt, List.getD_append _ _ _ _ inside]

/-- The two bytes at a position, `(msg[i] << 8) + msg[i + 1]`. -/
def wordAt (msg : List UInt8) (i : Nat) : Nat := 256 * byteAt msg i + byteAt msg (i + 1)

theorem wordAt_append_left {msg : List UInt8} (more : List UInt8) {i : Nat} (inside : i + 1 < msg.length) :
    wordAt (msg ++ more) i = wordAt msg i := by
  rw [wordAt, wordAt, byteAt_append_left more (by omega), byteAt_append_left more inside]

/-! ## The TCP backend and the function codes -/

/-- `_MODBUS_TCP_HEADER_LENGTH`. -/
def headerLength : Nat := 7

/-- `_MODBUS_TCP_CHECKSUM_LENGTH`. -/
def checksumLength : Nat := 0

/-- `MODBUS_TCP_MAX_ADU_LENGTH`. -/
def maxAduLength : Nat := 260

/-- `MAX_MESSAGE_LENGTH`, the size of the buffers the callers hand in. -/
def maxMessageLength : Nat := 260

namespace Fc

def readCoils : Nat := 0x01
def readDiscreteInputs : Nat := 0x02
def readHoldingRegisters : Nat := 0x03
def readInputRegisters : Nat := 0x04
def writeSingleCoil : Nat := 0x05
def writeSingleRegister : Nat := 0x06
def readExceptionStatus : Nat := 0x07
def writeMultipleCoils : Nat := 0x0F
def writeMultipleRegisters : Nat := 0x10
def reportSlaveId : Nat := 0x11
def maskWriteRegister : Nat := 0x16
def writeAndReadRegisters : Nat := 0x17

end Fc

/-- The error numbers the library sets; `exception code` is `MODBUS_ENOBASE + code`. -/
inductive Errno where
  | embBadData
  | embBadExc
  | embMData
  | exception (code : Nat)
  | einval
  | etimedout
  | econnreset
  | os (code : Int)
  deriving DecidableEq, Repr

/-- `msg_type_t`. -/
inductive MsgType where
  | indication
  | confirmation
  deriving DecidableEq, Repr

/-- `_step_t`. -/
inductive Step where
  | stepFunction
  | stepMeta
  | stepData
  deriving DecidableEq, Repr

/-! ## How long a message is -/

/-- `compute_meta_length_after_function`. -/
def computeMetaLengthAfterFunction (function : Nat) : MsgType → Nat
  | .indication =>
      if function ≤ Fc.writeSingleRegister then 4
      else if function = Fc.writeMultipleCoils ∨ function = Fc.writeMultipleRegisters then 5
      else if function = Fc.maskWriteRegister then 6
      else if function = Fc.writeAndReadRegisters then 9
      else 0
  | .confirmation =>
      if function = Fc.writeSingleCoil ∨ function = Fc.writeSingleRegister ∨
          function = Fc.writeMultipleCoils ∨ function = Fc.writeMultipleRegisters then 4
      else if function = Fc.maskWriteRegister then 6
      else 1

/-- `compute_data_length_after_meta`. -/
def computeDataLengthAfterMeta (msg : List UInt8) (type : MsgType) : Nat :=
  let function := byteAt msg headerLength
  let length := match type with
    | .indication =>
        if function = Fc.writeMultipleCoils ∨ function = Fc.writeMultipleRegisters then
          byteAt msg (headerLength + 5)
        else if function = Fc.writeAndReadRegisters then byteAt msg (headerLength + 9)
        else 0
    | .confirmation =>
        if function ≤ Fc.readInputRegisters ∨ function = Fc.reportSlaveId ∨
            function = Fc.writeAndReadRegisters then byteAt msg (headerLength + 1)
        else 0
  length + checksumLength

/-- The case `_STEP_META` of the loop: the data are asked for where they fit. -/
def afterMeta (type : MsgType) (msg : List UInt8) : Except Errno (Step × Nat) :=
  let lengthToRead := computeDataLengthAfterMeta msg type
  if msg.length + lengthToRead > maxAduLength then .error .embBadData else .ok (.stepData, lengthToRead)

/-- The `switch` of the loop, when a step has been read whole.  `_STEP_FUNCTION` falls through to
`_STEP_META` where there is nothing between the two. -/
def nextStep (type : MsgType) : Step → List UInt8 → Except Errno (Step × Nat)
  | .stepFunction, msg =>
      let lengthToRead := computeMetaLengthAfterFunction (byteAt msg headerLength) type
      if lengthToRead ≠ 0 then .ok (.stepMeta, lengthToRead) else afterMeta type msg
  | .stepMeta, msg => afterMeta type msg
  | .stepData, _ => .ok (.stepData, 0)

/-- The reader of a message. -/
def reader (type : MsgType) : Reader Step UInt8 Errno := ⟨nextStep type⟩

/-- The reader before the first byte. -/
def start : Reading Step UInt8 := ⟨.stepFunction, headerLength + 1, []⟩

/-- Where the data of a message begin. -/
def dataStart (type : MsgType) (msg : List UInt8) : Nat :=
  headerLength + 1 + computeMetaLengthAfterFunction (byteAt msg headerLength) type

/-- One whole message: as long as its own bytes say, and no longer than a message may be. -/
def IsMessage (type : MsgType) (msg : List UInt8) : Prop :=
  msg.length = dataStart type msg + computeDataLengthAfterMeta msg type ∧ msg.length ≤ maxAduLength

instance (type : MsgType) (msg : List UInt8) : Decidable (IsMessage type msg) :=
  inferInstanceAs (Decidable (_ ∧ _))

/-! ## The steps come to a whole message -/

theorem computeMetaLengthAfterFunction_le (function : Nat) (type : MsgType) :
    computeMetaLengthAfterFunction function type ≤ 9 := by
  cases type <;> simp only [computeMetaLengthAfterFunction] <;> split_ifs <;> omega

theorem dataStart_append {type : MsgType} {msg : List UInt8} (more : List UInt8)
    (inside : headerLength < msg.length) : dataStart type (msg ++ more) = dataStart type msg := by
  rw [dataStart, dataStart, byteAt_append_left more inside]

/-- The length of the data is told by bytes in front of them. -/
theorem computeDataLengthAfterMeta_append {type : MsgType} {msg : List UInt8} (more : List UInt8)
    (inside : dataStart type msg ≤ msg.length) :
    computeDataLengthAfterMeta (msg ++ more) type = computeDataLengthAfterMeta msg type := by
  have header : headerLength < msg.length := by
    rw [dataStart] at inside
    omega
  have function := byteAt_append_left more header
  cases type with
  | indication =>
      simp only [computeDataLengthAfterMeta, function]
      split_ifs with many both
      · rw [byteAt_append_left more ?_]
        have after : ¬ byteAt msg headerLength ≤ Fc.writeSingleRegister := by
          rcases many with many | many <;> rw [many] <;> decide
        rw [dataStart, computeMetaLengthAfterFunction, if_neg after, if_pos many] at inside
        omega
      · rw [byteAt_append_left more ?_]
        rw [dataStart, both] at inside
        exact inside
      · rfl
  | confirmation =>
      simp only [computeDataLengthAfterMeta, function]
      split_ifs with counted
      · rw [byteAt_append_left more ?_]
        rw [dataStart] at inside
        have some_meta : 1 ≤ computeMetaLengthAfterFunction (byteAt msg headerLength) .confirmation := by
          simp only [computeMetaLengthAfterFunction]
          split_ifs <;> omega
        omega
      · rfl

/-- Where a reader of one message is: how much it has and misses agrees with what it has read. -/
def Upto (type : MsgType) (s : Reading Step UInt8) : Prop :=
  match s.stage with
  | .stepFunction => 0 < s.want ∧ s.got.length + s.want = headerLength + 1
  | .stepMeta => 0 < s.want ∧ headerLength < s.got.length ∧ s.got.length + s.want = dataStart type s.got
  | .stepData => dataStart type s.got ≤ s.got.length ∧
      s.got.length + s.want = dataStart type s.got + computeDataLengthAfterMeta s.got type ∧
      s.got.length + s.want ≤ maxAduLength

theorem upto_start (type : MsgType) : Upto type start := ⟨by decide, rfl⟩

/-- The data are asked for as the message says. -/
theorem upto_afterMeta {type : MsgType} {msg : List UInt8} {next : Step × Nat}
    (whole : dataStart type msg = msg.length) (follows : afterMeta type msg = .ok next) :
    Upto type ⟨next.1, next.2, msg⟩ := by
  unfold afterMeta at follows
  dsimp only at follows
  split_ifs at follows with long
  cases follows
  exact ⟨Nat.le_of_eq whole, by rw [whole], Nat.le_of_not_gt long⟩

/-- A step read whole leads to the next one. -/
theorem upto_nextStep {type : MsgType} {s : Reading Step UInt8} {piece : List UInt8} {next : Step × Nat}
    (upto : Upto type s) (whole : piece.length = s.want)
    (follows : nextStep type s.stage (s.got ++ piece) = .ok next) :
    Upto type ⟨next.1, next.2, s.got ++ piece⟩ := by
  have length : (s.got ++ piece).length = s.got.length + s.want := by rw [List.length_append, whole]
  obtain ⟨stage, want, got⟩ := s
  cases stage with
  | stepFunction =>
      obtain ⟨-, header⟩ := upto
      simp only [nextStep] at follows
      split_ifs at follows with some_meta
      · cases follows
        exact ⟨Nat.pos_of_ne_zero some_meta, by rw [length]; omega, by rw [length, header]; rfl⟩
      · refine upto_afterMeta ?_ follows
        rw [dataStart, length, header, not_not.1 some_meta]
  | stepMeta =>
      obtain ⟨-, header, ends⟩ := upto
      exact upto_afterMeta (by rw [dataStart_append piece header, length, ends]) follows
  | stepData =>
      obtain ⟨begun, ends, fits⟩ := upto
      cases follows
      have header : headerLength < got.length := Nat.lt_of_lt_of_le (by rw [dataStart]; omega) begun
      refine ⟨?_, ?_, ?_⟩
      · rw [dataStart_append piece header, length]
        exact Nat.le_trans begun (Nat.le_add_right _ _)
      · rw [dataStart_append piece header, computeDataLengthAfterMeta_append piece begun, length]
        exact ends
      · rw [length]
        exact fits

theorem upto_accept {type : MsgType} {s t : Reading Step UInt8} {piece : List UInt8}
    (upto : Upto type s) (within : piece.length ≤ s.want)
    (taken : (reader type).accept s piece = .ok t) : Upto type t := by
  obtain ⟨whole, next, follows, rfl⟩ | ⟨short, rfl⟩ := Reader.accept_cases taken
  · exact upto_nextStep upto (Nat.le_antisymm within whole) follows
  · obtain ⟨stage, want, got⟩ := s
    dsimp only at short ⊢
    have length : (got ++ piece).length + (want - piece.length) = got.length + want := by
      rw [List.length_append]
      omega
    have longer : got.length ≤ (got ++ piece).length := by
      rw [List.length_append]
      exact Nat.le_add_right _ _
    have wants : 0 < want - piece.length := Nat.sub_pos_of_lt short
    cases stage with
    | stepFunction => exact ⟨wants, length.trans upto.2⟩
    | stepMeta =>
        obtain ⟨-, header, ends⟩ := upto
        exact ⟨wants, Nat.lt_of_lt_of_le header longer,
          length.trans (ends.trans (dataStart_append piece header).symm)⟩
    | stepData =>
        obtain ⟨begun, ends, fits⟩ := upto
        dsimp only at begun ends fits
        have header : headerLength < got.length := Nat.lt_of_lt_of_le (by rw [dataStart]; omega) begun
        have same : dataStart type (got ++ piece) = dataStart type got := dataStart_append piece header
        refine ⟨?_, ?_, ?_⟩
        · dsimp only
          rw [same]
          exact Nat.le_trans begun longer
        · dsimp only
          rw [length, same, computeDataLengthAfterMeta_append piece begun, ends]
        · dsimp only
          rw [length]
          exact fits

theorem upto_reads {type : MsgType} {s t : Reading Step UInt8} {bs : List UInt8}
    (upto : Upto type s) (reads : (reader type).Reads s bs t) : Upto type t := by
  induction reads with
  | nil s => exact upto
  | cons wants taken _ ih => exact ih (upto_accept upto (List.length_singleton ▸ wants) taken)

/-- A reader of one message has room for what it asks. -/
theorem Upto.fits {type : MsgType} {s : Reading Step UInt8} (upto : Upto type s) :
    s.got.length + s.want ≤ maxMessageLength := by
  obtain ⟨stage, want, got⟩ := s
  cases stage with
  | stepFunction =>
      rw [upto.2]
      decide
  | stepMeta =>
      rw [upto.2.2, dataStart]
      have := computeMetaLengthAfterFunction_le (byteAt got headerLength) type
      exact Nat.le_trans (Nat.add_le_add_left this _) (by decide)
  | stepData => exact upto.2.2

/-- The reader stops behind one whole message. -/
theorem isMessage_of_framed {type : MsgType} {msg : List UInt8}
    (framed : (reader type).Framed start msg) : IsMessage type msg := by
  obtain ⟨t, reads, ended⟩ := framed
  have upto := upto_reads (upto_start type) reads
  have got : t.got = msg := reads.got_eq
  obtain ⟨stage, want, got'⟩ := t
  obtain rfl : got' = msg := got
  obtain rfl : want = 0 := ended
  cases stage with
  | stepFunction => exact absurd upto.1 (Nat.lt_irrefl 0)
  | stepMeta => exact absurd upto.1 (Nat.lt_irrefl 0)
  | stepData => exact ⟨upto.2.1, upto.2.2⟩

/-- The data of a message are read in one step, if there are any. -/
theorem framed_data (type : MsgType) (got data : List UInt8) :
    (reader type).Framed ⟨.stepData, data.length, got⟩ data := by
  by_cases nothing : data = []
  · subst nothing
    exact ⟨_, .nil _, rfl⟩
  · rw [← List.append_nil data]
    exact .stage _ (.stepData, 0) nothing (by simp) rfl ⟨_, .nil _, rfl⟩

/-- A whole message is read to its end. -/
theorem framed_of_isMessage {type : MsgType} {msg : List UInt8} (message : IsMessage type msg) :
    (reader type).Framed start msg := by
  obtain ⟨length, fits⟩ := message
  -- the header with the function code, what lies between, the data
  generalize told : dataStart type msg = begins at length
  have begins_eq := told
  rw [dataStart] at told
  generalize between_eq : computeMetaLengthAfterFunction (byteAt msg headerLength) type = m at told
  have header : headerLength + 1 ≤ msg.length := by omega
  obtain ⟨front, data, rfl, front_length⟩ : ∃ front data, msg = front ++ data ∧ front.length = begins :=
    ⟨msg.take begins, msg.drop begins, (List.take_append_drop _ _).symm, by
      rw [List.length_take]; omega⟩
  obtain ⟨head, between, rfl, head_length⟩ :
      ∃ head between, front = head ++ between ∧ head.length = headerLength + 1 :=
    ⟨front.take (headerLength + 1), front.drop (headerLength + 1), (List.take_append_drop _ _).symm, by
      rw [List.length_take]; omega⟩
  have between_length : between.length = m := by
    rw [List.length_append] at front_length
    omega
  have inside : headerLength < (head ++ between).length := by omega
  have function : byteAt (head ++ between) headerLength = byteAt head headerLength :=
    byteAt_append_left _ (by omega)
  rw [dataStart_append data inside] at begins_eq
  rw [computeDataLengthAfterMeta_append data (by omega), List.length_append] at length
  rw [List.length_append] at fits
  have follows : afterMeta type (head ++ between) = .ok (.stepData, data.length) := by
    have data_length : computeDataLengthAfterMeta (head ++ between) type = data.length := by omega
    unfold afterMeta
    dsimp only
    rw [data_length, if_neg (by omega)]
  have function_eq : computeMetaLengthAfterFunction (byteAt head headerLength) type = m := by
    rw [byteAt_append_left data inside, function] at between_eq
    exact between_eq
  have rest := framed_data type (head ++ between) data
  have some_head : head ≠ [] := List.ne_nil_of_length_pos (by omega)
  rw [List.append_assoc]
  by_cases nothing : m = 0
  · obtain rfl : between = [] := List.eq_nil_of_length_eq_zero (by omega)
    rw [List.append_nil] at follows rest
    refine .stage start (.stepData, data.length) some_head head_length ?_ rest
    show nextStep type .stepFunction head = _
    rw [nextStep, function_eq, if_neg (not_not.2 nothing), follows]
  · have some_between : between ≠ [] := List.ne_nil_of_length_pos (by omega)
    have inner : (reader type).Framed ⟨.stepMeta, m, head⟩ (between ++ data) :=
      .stage _ (Step.stepData, data.length) some_between between_length
        (show nextStep type .stepMeta (head ++ between) = _ from follows) rest
    refine .stage start (.stepMeta, m) some_head head_length ?_ inner
    show nextStep type .stepFunction head = _
    rw [nextStep, function_eq, if_pos nothing]

/-! ## The loop -/

/-- What a turn of the loop gets from the socket. -/
inductive Wait where
  /-- there are bytes, and `recv` returns `n + 1` of them if so many are there and asked for -/
  | ready (n : Nat)
  /-- `recv` returns 0 -/
  | closed
  /-- `select` or `recv` fails -/
  | failed (errno : Errno)
  deriving DecidableEq, Repr

/-- How the loop ends, with the bytes it has taken. -/
inductive Received where
  | whole (msg : List UInt8)
  | failed (errno : Errno) (part : List UInt8)
  deriving DecidableEq, Repr

def Received.bytes : Received → List UInt8
  | .whole msg => msg
  | .failed _ part => part

/-- The loop of `_modbus_receive_msg` on the bytes that come in; with them what it leaves.  A wait for
which the environment has nothing in store ends by the timeout of `select`. -/
def receiveLoop (type : MsgType) : List Wait → Reading Step UInt8 → List UInt8 → Received × List UInt8
  | [], s, incoming =>
      if s.want = 0 then (.whole s.got, incoming) else (.failed .etimedout s.got, incoming)
  | .failed errno :: _, s, incoming =>
      if s.want = 0 then (.whole s.got, incoming) else (.failed errno s.got, incoming)
  | .closed :: _, s, incoming =>
      if s.want = 0 then (.whole s.got, incoming) else (.failed .econnreset s.got, incoming)
  | .ready n :: waits, s, incoming =>
      if s.want = 0 then (.whole s.got, incoming)
      else if incoming = [] then (.failed .etimedout s.got, incoming)
      else
        let piece := incoming.take (min (n + 1) s.want)
        match (reader type).accept s piece with
        | .error errno => (.failed errno (s.got ++ piece), incoming.drop (min (n + 1) s.want))
        | .ok t => receiveLoop type waits t (incoming.drop (min (n + 1) s.want))

/-- `_modbus_receive_msg`. -/
def receiveMsg (type : MsgType) (waits : List Wait) (incoming : List UInt8) : Received × List UInt8 :=
  receiveLoop type waits start incoming

/-- **The rule of the loop.**  A turn finds the message whole, or gives up, or takes some of the bytes it
asks for; with these the message is refused or the loop goes on.  What holds of the ends and passes from
behind a turn to in front of it holds of the loop. -/
theorem receiveLoop_rule {type : MsgType}
    {P : Reading Step UInt8 → List UInt8 → Received × List UInt8 → Prop}
    (done : ∀ s incoming, s.want = 0 → P s incoming (.whole s.got, incoming))
    (gives_up : ∀ s incoming errno, s.want ≠ 0 → P s incoming (.failed errno s.got, incoming))
    (refused : ∀ s piece rest errno, piece ≠ [] → piece.length ≤ s.want →
      (reader type).accept s piece = .error errno →
      P s (piece ++ rest) (.failed errno (s.got ++ piece), rest))
    (goes_on : ∀ s t piece rest r, piece ≠ [] → piece.length ≤ s.want →
      (reader type).accept s piece = .ok t → P t rest r → P s (piece ++ rest) r)
    (waits : List Wait) (s : Reading Step UInt8) (incoming : List UInt8) :
    P s incoming (receiveLoop type waits s incoming) := by
  induction waits generalizing s incoming with
  | nil =>
      rw [receiveLoop]
      split
      · exact done s incoming ‹_›
      · exact gives_up s incoming _ ‹_›
  | cons wait waits ih =>
      cases wait with
      | closed =>
          rw [receiveLoop]
          split
          · exact done s incoming ‹_›
          · exact gives_up s incoming _ ‹_›
      | failed errno =>
          rw [receiveLoop]
          split
          · exact done s incoming ‹_›
          · exact gives_up s incoming errno ‹_›
      | ready n =>
          rw [receiveLoop]
          split_ifs with whole nothing
          · exact done s incoming whole
          · exact gives_up s incoming _ whole
          have there : 0 < incoming.length := List.length_pos_of_ne_nil nothing
          have some_piece : incoming.take (min (n + 1) s.want) ≠ [] := by
            apply List.ne_nil_of_length_pos
            rw [List.length_take]
            omega
          have within : (incoming.take (min (n + 1) s.want)).length ≤ s.want := by
            rw [List.length_take]
            omega
          have cut := List.take_append_drop (min (n + 1) s.want) incoming
          dsimp only
          generalize incoming.take (min (n + 1) s.want) = piece at some_piece within cut ⊢
          generalize incoming.drop (min (n + 1) s.want) = rest at cut ⊢
          subst cut
          cases taken : (reader type).accept s piece with
          | error errno => exact refused s piece rest errno some_piece within taken
          | ok t => exact goes_on s t piece rest _ some_piece within taken (ih t rest)

/-! ## What the loop takes and returns -/

/-- What the loop takes it takes from the head of what comes in, no more than the buffer holds, and a
message it returns has been read whole. -/
theorem receiveLoop_takes {type : MsgType} (waits : List Wait) {s : Reading Step UInt8}
    (incoming : List UInt8) (upto : Upto type s) :
    ∃ taken, incoming = taken ++ (receiveLoop type waits s incoming).2 ∧
      (receiveLoop type waits s incoming).1.bytes = s.got ++ taken ∧
      (receiveLoop type waits s incoming).1.bytes.length ≤ maxMessageLength ∧
      ∀ msg, (receiveLoop type waits s incoming).1 = .whole msg → (reader type).Framed s taken := by
  refine receiveLoop_rule (P := fun s incoming r => Upto type s → ∃ taken, incoming = taken ++ r.2 ∧
    r.1.bytes = s.got ++ taken ∧ r.1.bytes.length ≤ maxMessageLength ∧
    ∀ msg, r.1 = .whole msg → (reader type).Framed s taken) ?_ ?_ ?_ ?_ waits s incoming upto
  · intro s incoming whole upto
    exact ⟨[], rfl, (List.append_nil _).symm, Nat.le_trans (Nat.le_add_right _ _) upto.fits,
      fun _ _ => ⟨s, .nil s, whole⟩⟩
  · intro s incoming errno _ upto
    exact ⟨[], rfl, (List.append_nil _).symm, Nat.le_trans (Nat.le_add_right _ _) upto.fits,
      fun msg impossible => by cases impossible⟩
  · intro s piece rest errno _ within _ upto
    refine ⟨piece, rfl, rfl, ?_, fun msg impossible => by cases impossible⟩
    have fits := upto.fits
    rw [Received.bytes, List.length_append]
    omega
  · rintro s t piece rest ⟨r, last⟩ some_piece within taken later upto
    obtain ⟨more, rfl, bytes, fits, framed⟩ := later (upto_accept upto within taken)
    refine ⟨piece ++ more, (List.append_assoc _ _ _).symm, ?_, fits, fun msg whole => ?_⟩
    · rw [bytes, Reader.got_of_accept taken, List.append_assoc]
    · obtain ⟨u, reads, ended⟩ := framed msg whole
      exact ⟨u, ((Reader.accept_reads some_piece within).1 t taken).append reads, ended⟩

/-- In front of a message the loop returns it and leaves what is behind it, or gives up inside it. -/
theorem receiveLoop_of_framed (type : MsgType) (waits : List Wait) {s : Reading Step UInt8}
    {frame : List UInt8} (more : List UInt8) (framed : (reader type).Framed s frame) :
    receiveLoop type waits s (frame ++ more) = (.whole (s.got ++ frame), more) ∨
      ∃ errno part left, frame = part ++ left ∧ left ≠ [] ∧
        receiveLoop type waits s (frame ++ more) = (.failed errno (s.got ++ part), left ++ more) := by
  refine receiveLoop_rule (P := fun s incoming r => ∀ frame, (reader type).Framed s frame →
    incoming = frame ++ more → r = (.whole (s.got ++ frame), more) ∨
      ∃ errno part left, frame = part ++ left ∧ left ≠ [] ∧
        r = (.failed errno (s.got ++ part), left ++ more)) ?_ ?_ ?_ ?_ waits s _ frame framed rfl
  · rintro s _ whole frame framed rfl
    obtain rfl := framed.ends whole
    exact .inl (by rw [List.append_nil, List.nil_append])
  · rintro s _ errno wants frame framed rfl
    refine .inr ⟨errno, [], frame, rfl, ?_, by rw [List.append_nil]⟩
    rintro rfl
    obtain ⟨t, reads, ended⟩ := framed
    cases reads
    exact wants ended
  · intro s piece rest errno some_piece within refused frame framed stream
    obtain ⟨t, left, taken, -⟩ := framed.accept some_piece within stream
    cases refused.symm.trans taken
  · intro s t piece rest r some_piece within taken later frame framed stream
    obtain ⟨t', left, taken', rfl, here, framed'⟩ := framed.accept some_piece within stream
    cases taken.symm.trans taken'
    have got := Reader.got_of_accept taken
    rcases later left framed' here with whole | ⟨errno, part, left', rfl, unread, given_up⟩
    · exact .inl (by rw [whole, got, List.append_assoc])
    · exact .inr ⟨errno, piece ++ part, left', (List.append_assoc _ _ _).symm, unread,
        by rw [given_up, got, List.append_assoc]⟩

/-- What the function returns is one whole message, taken from the head of what came in. -/
theorem isMessage_of_whole {type : MsgType} {waits : List Wait} {incoming rest msg : List UInt8}
    (received : receiveMsg type waits incoming = (.whole msg, rest)) :
    IsMessage type msg ∧ incoming = msg ++ rest := by
  obtain ⟨taken, here, bytes, -, framed⟩ := receiveLoop_takes waits incoming (upto_start type)
  rw [← receiveMsg, received] at here bytes framed
  obtain rfl : msg = taken := bytes
  exact ⟨isMessage_of_framed (framed msg rfl), here⟩

/-- The function in front of a message: it returns it, or gives up inside it. -/
theorem receiveMsg_of_isMessage {type : MsgType} (waits : List Wait) {msg : List UInt8}
    (more : List UInt8) (message : IsMessage type msg) :
    receiveMsg type waits (msg ++ more) = (.whole msg, more) ∨
      ∃ errno part left, msg = part ++ left ∧ left ≠ [] ∧
        receiveMsg type waits (msg ++ more) = (.failed errno part, left ++ more) :=
  receiveLoop_of_framed type waits more (framed_of_isMessage message)

/-- **One message at a time.**  With the TCP backend and no error recovery, whatever a peer sends and in
whatever pieces it arrives: the function takes its bytes in their order and no more than its caller's buffer
holds, it returns nothing but whole messages, and where the bytes begin with a message it takes no byte behind
that message, which it returns exactly when it has read it all. -/
theorem receiveMsg_takes_one_message (type : MsgType) (waits : List Wait) (incoming : List UInt8) :
    incoming = (receiveMsg type waits incoming).1.bytes ++ (receiveMsg type waits incoming).2 ∧
      (receiveMsg type waits incoming).1.bytes.length ≤ maxMessageLength ∧
      (∀ msg, (receiveMsg type waits incoming).1 = .whole msg → IsMessage type msg) ∧
      ∀ msg more, IsMessage type msg → incoming = msg ++ more →
        (receiveMsg type waits incoming).1.bytes <+: msg ∧
        ((receiveMsg type waits incoming).1.bytes = msg ↔
          (receiveMsg type waits incoming).1 = .whole msg) := by
  obtain ⟨taken, here, bytes, fits, framed⟩ := receiveLoop_takes waits incoming (upto_start type)
  rw [← receiveMsg] at here bytes fits framed
  obtain rfl : (receiveMsg type waits incoming).1.bytes = taken := bytes
  refine ⟨here, fits, fun msg whole => ?_, ?_⟩
  · exact (isMessage_of_whole (Prod.ext whole rfl)).1
  · rintro msg more message rfl
    rcases receiveMsg_of_isMessage waits more message with whole | ⟨errno, part, left, rfl, unread, given_up⟩
    · rw [whole]
      exact ⟨List.prefix_rfl, iff_of_true rfl rfl⟩
    · rw [given_up]
      refine ⟨List.prefix_append _ _, iff_of_false (fun all => unread ?_) (by rintro ⟨⟩)⟩
      have lengths := congrArg List.length all
      rw [Received.bytes, List.length_append] at lengths
      exact List.eq_nil_of_length_eq_zero (by omega)

end TizerVision.LibModbus
