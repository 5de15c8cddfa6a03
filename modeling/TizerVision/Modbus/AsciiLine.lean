/-
# Modbus.AsciiLine — an exchange in ASCII mode

`TxRxMessageAscii` writes the frame of the query into the buffer, clears the buffer, and only then
hands it to the port: what goes out begins with twelve zeros, whatever the query
(`ascii_frame_not_sent`).  `ReadResponseASCII` then reads characters one by one until a line end or a
pause, and the code returned depends on the characters read only (`wp_txRxMessageAscii`).

What the exchange does to the arrays and hands to the port is what `TxRxMessage` makes of one of the
answers it is given in `Modbus.Transport` (`txRxMessageAscii_is_answer`).
-/
import TizerVision.Modbus.Ascii
import TizerVision.Modbus.Serial
import TizerVision.Theory.Polling

namespace TizerVision.Modbus.Ascii

set_option autoImplicit false

open Theory

/-! ## ReadResponseASCII -/

/-- What `ReadFile` does when asked for one character. -/
inductive ReadFile where
  | fails
  | nothing
  | byte (b : BYTE)
deriving DecidableEq, Repr

/-- What the Windows calls of one turn answer: `ReadFile`, `timeGetTime` and `cstStatus.cbInQue>0`. -/
structure ReadTurn where
  read : ReadFile
  now : DWORD
  inQue : Bool
deriving DecidableEq, Repr

/-- The variables of `ReadResponseASCII`; `response` is `abyResponse` up to `dwRead`. -/
structure Reading where
  response : List BYTE
  dwTimeOut : DWORD
  bFirstNull : Bool
  dwFirstNullTime : DWORD
  dwNullTime : DWORD
deriving DecidableEq, Repr

namespace Reading

def start (m : LocalModbus) : Reading := ⟨[], m.timeOut, false, 0, 0⟩

/-- A character was read. -/
def noteByte (m : LocalModbus) (r : Reading) (b : BYTE) : Reading :=
  { r with
    response := r.response ++ [b], dwTimeOut := m.silentInterval, bFirstNull := false, dwNullTime := 0 }

/-- No character was read. -/
def noteNull (r : Reading) (now : DWORD) : Reading :=
  if r.bFirstNull then { r with dwNullTime := now }
  else { r with bFirstNull := true, dwFirstNullTime := now }

/-- `dwNullTime<(dwTimeOut+dwFirstNullTime)` -/
def timeCondition (r : Reading) : Bool := decide (r.dwNullTime < r.dwTimeOut + r.dwFirstNullTime)

/-- `bAsciiCompleted` -/
def completed (m : LocalModbus) (r : Reading) : Bool :=
  decide (m.mode = .ascii ∧ r.response.length > 5 ∧
    carriageReturn = r.response.getD (r.response.length - 2) 0 ∧
    lineFeed = r.response.getD (r.response.length - 1) 0)

/-- The condition at the end of a turn; the call returns TRUE if it fails. -/
def loopEnd (m : LocalModbus) (r : Reading) (inQue : Bool) : Turn Reading (Bool × List BYTE) :=
  if (inQue || r.timeCondition) && !r.completed m then .again r else .stop (true, r.response)

end Reading

/-- One turn of the loop of `ReadResponseASCII` -/
def readTurn (m : LocalModbus) (dwNeedRead : Nat) (r : Reading) (t : ReadTurn) :
    Turn Reading (Bool × List BYTE) :=
  if r.response.length > (dwNeedRead + 2 ^ 32 - 1) % 2 ^ 32 then .stop (false, r.response)
  else
    match t.read with
    | .fails => .stop (false, r.response)
    | .byte b =>
        if (r.noteByte m b).response.length > dwNeedRead then .stop (false, (r.noteByte m b).response)
        else (r.noteByte m b).loopEnd m t.inQue
    | .nothing => (r.noteNull t.now).loopEnd m t.inQue

/-- `ReadResponseASCII`: its answer and the characters read, `none` while it has not returned. -/
def readResponseASCII (m : LocalModbus) (dwNeedRead : Nat) (turns : List ReadTurn) :
    Option (Bool × List BYTE) :=
  poll (readTurn m dwNeedRead) (.start m) turns

/-! ## TxRxMessageAscii -/

/-- What the port answers in one exchange: `WriteQuery`, and the turns of `ReadResponseASCII`. -/
structure Line where
  writeQuery : Bool
  turns : List ReadTurn
deriving DecidableEq, Repr

/-- The frame of the query is written into the buffer. -/
def buildFrame (wLengthQuery : Nat) : Call Unit := do
  storeBlock .abyBuffer 0 (List.replicate (wLengthQuery * 2 + 5) 0)
  let query ← loadBlock .abyQuery wLengthQuery
  storeBlock .abyBuffer 1 (rtu2Ascii query)
  let byLRC := lrc query
  store .abyBuffer 0 (asciiCode ':')
  store .abyBuffer (wLengthQuery * 2 + 1) (num2Ascii (hi4Bits byLRC))
  store .abyBuffer (wLengthQuery * 2 + 2) (num2Ascii (lo4Bits byLRC))
  store .abyBuffer (wLengthQuery * 2 + 3) carriageReturn
  store .abyBuffer (wLengthQuery * 2 + 4) lineFeed

/-- The buffer is cleared and handed to the port. -/
def sendBuffer (wLengthQuery : Nat) : Call Unit := do
  storeBlock .abyBuffer 0 (List.replicate bufferSize 0)
  let frame ← loadBlock .abyBuffer (wLengthQuery * 2 + 5)
  modify (·.send frame)

/-- The end of `TxRxMessageAscii`, once `dwRead` characters are in the buffer. -/
def acceptResponse (dwRead : Nat) : Call WORD := do
  let s ← get
  let buffer := s.cell .abyBuffer
  if dwRead = 0 then pure ERR_TIMEOUT
  else if verifyRespLRC buffer dwRead then
    if byteAt buffer 3 > 0x80 then pure (ERR_EXCPTION_CODE + (byteAt buffer 5).setWidth 16)
    else do
      storeBlock .abyReply 0 (decodeAscii buffer (min ((dwRead - 5) / 2) bufferSize))
      pure ERR_OK
  else pure ERR_CRC

/-- `TxRxMessageAscii`, with the code it returns once it has returned.  The answer of `ClearBuffers` is
not used. -/
def txRxMessageAscii (m : LocalModbus) (line : Line) (wLengthQuery : Nat) : Call (Option WORD) := do
  buildFrame wLengthQuery
  sendBuffer wLengthQuery
  if line.writeQuery then
    match readResponseASCII m bufferSize line.turns with
    | none => pure none
    | some (answer, response) => do
        storeBlock .abyBuffer 0 response
        if answer then some <$> acceptResponse response.length else pure (some ERR_RD_PORT)
  else pure (some ERR_WR_PORT)

/-! ## What is sent -/

section Sending

variable {s : Object}

theorem block_front (t : Object) {first : BYTE} {digits : List BYTE} {n : Nat}
    (length : digits.length = n) :
    ((t.writeBlock .abyBuffer 1 digits).write .abyBuffer 0 first).block .abyBuffer (n + 1) =
      first :: digits := by
  refine Object.block_eq (by simp [length]) fun i below => ?_
  cases i with
  | zero => simp
  | succ i => simp [show i < digits.length by omega, Nat.add_comm 1]

/-- The frame is in the buffer, and the query is as before. -/
theorem wp_buildFrame (lq : Nat) :
    wp (buildFrame lq) (fun _ t =>
      t.block .abyBuffer (lq * 2 + 5) = asciiFrame (s.block .abyQuery lq) ∧
      t.cell .abyQuery = s.cell .abyQuery ∧ t.cell .abyReply = s.cell .abyReply ∧ t.sent = s.sent)
      (fun _ _ => False) s := by
  simp only [buildFrame, wp_bind, wp_storeBlock, wp_loadBlock, wp_store]
  have query : (s.writeBlock .abyBuffer 0 (List.replicate (lq * 2 + 5) 0)).block .abyQuery lq =
      s.block .abyQuery lq := by
    apply Object.block_congr
    intro i _
    simp
  rw [query]
  refine ⟨?_, ?_, ?_, rfl⟩
  · rw [Object.block_write, Object.block_write, Object.block_write, Object.block_write]
    rw [block_front _ (by simp; omega), asciiFrame]
    simp
  · funext i
    simp
  · funext i
    simp

theorem block_cleared (t : Object) (n : Nat) :
    (t.writeBlock .abyBuffer 0 (List.replicate bufferSize 0)).block .abyBuffer n =
      cleared (t.block .abyBuffer n) := by
  refine Object.block_eq (by simp [cleared]; omega) fun i below => ?_
  rw [Object.writeBlock_zero, cleared, Object.length_block]
  by_cases early : i < bufferSize
  · rw [List.getD_append _ _ _ _ (by simp; omega)]
    simp [early]
  · have front : ((List.replicate bufferSize (0 : BYTE)).take n).length = bufferSize := by
      simp
      omega
    have kept : ((t.block .abyBuffer n).drop bufferSize).getD (i - bufferSize) 0 =
        t.cell .abyBuffer i := by
      rw [List.getD_eq_getElem?_getD, List.getElem?_drop,
        Nat.add_sub_cancel' (Nat.le_of_not_lt early), ← List.getD_eq_getElem?_getD,
        t.getD_block .abyBuffer below]
    rw [List.getD_append_right _ _ _ _ (by omega), front, kept]
    simp [early]

theorem wp_sendBuffer (lq : Nat) :
    wp (sendBuffer lq) (fun _ t => t.sent = s.sent ++ [cleared (s.block .abyBuffer (lq * 2 + 5))] ∧
      t.cell .abyQuery = s.cell .abyQuery ∧ t.cell .abyReply = s.cell .abyReply ∧
      ∀ i < bufferSize, t.cell .abyBuffer i = 0) (fun _ _ => False) s := by
  simp only [sendBuffer, wp_bind, wp_storeBlock, wp_loadBlock, wp_modify, block_cleared]
  refine ⟨rfl, ?_, ?_, fun i below => ?_⟩
  · funext i
    simp
  · funext i
    simp
  · simp [below]

end Sending

/-! ## What is received -/

/-- The characters are enough for a checksum, and the two in front of the last two are, as digits,
the checksum of the pairs behind the first. -/
def Checked (bytes : List BYTE) : Prop :=
  5 ≤ bytes.length ∧ lrc (decodeAscii (zeroPadded bytes) ((bytes.length - 5) / 2)) =
    byteAt (zeroPadded bytes) (bytes.length - 4)

instance (bytes : List BYTE) : Decidable (Checked bytes) := inferInstanceAs (Decidable (_ ∧ _))

/-- The code `TxRxMessageAscii` returns for the characters received. -/
def codeOf (bytes : List BYTE) : WORD :=
  if bytes = [] then ERR_TIMEOUT
  else if Checked bytes then
    if byteAt (zeroPadded bytes) 3 > 0x80 then
      ERR_EXCPTION_CODE + (byteAt (zeroPadded bytes) 5).setWidth 16
    else ERR_OK
  else ERR_CRC

/-- The code it returns over a line, once it has returned. -/
def Line.code (m : LocalModbus) (line : Line) : Option WORD :=
  if line.writeQuery then
    (readResponseASCII m bufferSize line.turns).map fun (answer, bytes) =>
      if answer then codeOf bytes else ERR_RD_PORT
  else some ERR_WR_PORT

theorem byteAt_congr {f g : Nat → BYTE} {i : Nat} (here : f i = g i) (next : f (i + 1) = g (i + 1)) :
    byteAt f i = byteAt g i := by
  rw [byteAt, byteAt, here, next]

theorem decodeAscii_congr {f g : Nat → BYTE} {k : Nat}
    (agree : ∀ i, 1 ≤ i → i < 1 + 2 * k → f i = g i) : decodeAscii f k = decodeAscii g k := by
  apply List.map_congr_left
  intro i inside
  have below := List.mem_range.1 inside
  exact byteAt_congr (agree _ (by omega) (by omega)) (agree _ (by omega) (by omega))

/-- The check reads the characters behind the first and in front of the last two. -/
theorem checksum_congr {f g : Nat → BYTE} {n : Nat} (long : 5 ≤ n)
    (agree : ∀ i, 1 ≤ i → i < n → f i = g i) :
    lrc (decodeAscii f ((n - 5) / 2)) = byteAt f (n - 4) ↔
      lrc (decodeAscii g ((n - 5) / 2)) = byteAt g (n - 4) := by
  have payload : decodeAscii f ((n - 5) / 2) = decodeAscii g ((n - 5) / 2) :=
    decodeAscii_congr fun i positive below => agree i positive (by omega)
  have check : byteAt f (n - 4) = byteAt g (n - 4) :=
    byteAt_congr (agree _ (by omega) (by omega)) (agree _ (by omega) (by omega))
  rw [payload, check]

/-- With the buffer of the object the second test of the size changes nothing. -/
theorem readTurn_eq (m : LocalModbus) (r : Reading) (t : ReadTurn) :
    readTurn m bufferSize r t =
      if bufferSize ≤ r.response.length then .stop (false, r.response)
      else match t.read with
        | .fails => .stop (false, r.response)
        | .byte b => (r.noteByte m b).loopEnd m t.inQue
        | .nothing => (r.noteNull t.now).loopEnd m t.inQue := by
  have last : (bufferSize + 2 ^ 32 - 1) % 2 ^ 32 = bufferSize - 1 := by decide
  unfold readTurn
  rw [last]
  by_cases full : bufferSize ≤ r.response.length
  · have beyond : r.response.length > bufferSize - 1 := by omega
    rw [if_pos full, if_pos beyond]
  · have room : ¬ r.response.length > bufferSize - 1 := by omega
    rw [if_neg full, if_neg room]
    cases t.read with
    | byte b =>
        have fits : ¬ (r.noteByte m b).response.length > bufferSize := by
          simp [Reading.noteByte]
          omega
        simp only [if_neg fits]
    | fails => rfl
    | nothing => rfl

@[simp] theorem Reading.noteNull_response (r : Reading) (now : DWORD) :
    (r.noteNull now).response = r.response := by
  unfold Reading.noteNull
  split <;> rfl

theorem Reading.loopEnd_meets {m : LocalModbus} {r : Reading} {inQue : Bool} {I : Reading → Prop}
    {Q : Bool × List BYTE → Prop} (again : I r) (stop : Q (true, r.response)) :
    (r.loopEnd m inQue).Meets I Q := by
  unfold Reading.loopEnd
  split
  · exact again
  · exact stop

/-- No more characters are read than fit the buffer. -/
theorem length_response_le {m : LocalModbus} {turns : List ReadTurn} {answer : Bool}
    {bytes : List BYTE} (received : readResponseASCII m bufferSize turns = some (answer, bytes)) :
    bytes.length ≤ bufferSize := by
  refine poll_invariant (I := fun r : Reading => r.response.length ≤ bufferSize)
    (Q := fun result => result.2.length ≤ bufferSize) ?_ (Nat.zero_le _) received
  intro r t short
  rw [readTurn_eq]
  split
  · exact short
  · cases t.read with
    | fails => exact short
    | byte b =>
        have fits : (r.noteByte m b).response.length ≤ bufferSize := by
          simp [Reading.noteByte]
          omega
        exact Reading.loopEnd_meets fits fits
    | nothing =>
        have fits : (r.noteNull t.now).response.length ≤ bufferSize := by
          rwa [Reading.noteNull_response]
        exact Reading.loopEnd_meets fits fits

section Receiving

variable {s : Object}

/-- The end of the exchange judges the characters in the cleared buffer. -/
theorem wp_acceptResponse {bytes : List BYTE} (short : bytes.length ≤ bufferSize)
    (buffer : ∀ i < bufferSize, s.cell .abyBuffer i = zeroPadded bytes i) :
    wp (acceptResponse bytes.length) (fun code t => code = codeOf bytes ∧
      t.cell .abyQuery = s.cell .abyQuery ∧ t.sent = s.sent) (fun _ _ => False) s := by
  have size : bufferSize = 12 := rfl
  have valid : verifyRespLRC (s.cell .abyBuffer) bytes.length = true ↔ Checked bytes := by
    rw [verifyRespLRC_eq_true_iff _ (by omega), Checked]
    refine and_congr_right fun long => checksum_congr long fun i _ below => buffer i (by omega)
  have function : byteAt (s.cell .abyBuffer) 3 = byteAt (zeroPadded bytes) 3 :=
    byteAt_congr (buffer 3 (by omega)) (buffer 4 (by omega))
  have exception : byteAt (s.cell .abyBuffer) 5 = byteAt (zeroPadded bytes) 5 :=
    byteAt_congr (buffer 5 (by omega)) (buffer 6 (by omega))
  simp only [acceptResponse, wp_bind, wp_get, function, exception, valid, List.length_eq_zero_iff]
  rw [codeOf]
  by_cases empty : bytes = []
  · rw [if_pos empty, if_pos empty]
    exact ⟨rfl, rfl, rfl⟩
  · rw [if_neg empty, if_neg empty]
    by_cases checked : Checked bytes
    · rw [if_pos checked, if_pos checked]
      by_cases refused : byteAt (zeroPadded bytes) 3 > 0x80
      · rw [if_pos refused, if_pos refused]
        exact ⟨rfl, rfl, rfl⟩
      · rw [if_neg refused, if_neg refused]
        refine ⟨rfl, ?_, rfl⟩
        funext i
        simp
    · rw [if_neg checked, if_neg checked]
      exact ⟨rfl, rfl, rfl⟩

/-- **One exchange in ASCII mode.**  The buffer is sent as it was cleared, and the code depends on the
characters received only. -/
theorem wp_txRxMessageAscii (m : LocalModbus) (line : Line) (lq : Nat) :
    wp (txRxMessageAscii m line lq) (fun code t => code = line.code m ∧
      t.sent = s.sent ++ [cleared (asciiFrame (s.block .abyQuery lq))] ∧
      t.cell .abyQuery = s.cell .abyQuery) (fun _ _ => False) s := by
  rw [txRxMessageAscii, wp_bind]
  apply wp_imp (wp_buildFrame lq)
  rintro _ t ⟨built, query, -, sent⟩
  rw [wp_bind]
  apply wp_imp (wp_sendBuffer lq)
  rintro _ u ⟨handed, query', -, zeros⟩
  rw [built, sent] at handed
  have same : u.cell .abyQuery = s.cell .abyQuery := query'.trans query
  rw [wp_ite, Line.code]
  by_cases taken : line.writeQuery = true
  · rw [if_pos taken, if_pos taken]
    cases received : readResponseASCII m bufferSize line.turns with
    | none => exact ⟨rfl, handed, same⟩
    | some result =>
        obtain ⟨answer, bytes⟩ := result
        have buffer : ∀ i < bufferSize,
            (u.writeBlock .abyBuffer 0 bytes).cell .abyBuffer i = zeroPadded bytes i := by
          intro i below
          rw [Object.writeBlock_zero, zeros i below, zeroPadded]
        have kept : (u.writeBlock .abyBuffer 0 bytes).cell .abyQuery = u.cell .abyQuery := by
          funext i
          simp
        simp only [wp_bind, wp_storeBlock, wp_ite, wp_map, wp_pure, Option.map_some]
        cases answer with
        | false => exact ⟨rfl, handed, kept.trans same⟩
        | true =>
            apply wp_imp (wp_acceptResponse (length_response_le received) buffer)
            rintro code v ⟨rfl, query'', sent'⟩
            exact ⟨rfl, sent'.trans handed, query''.trans (kept.trans same)⟩
  · rw [if_neg taken, if_neg taken]
    exact ⟨rfl, handed, same⟩

/-- The exchange is one of those `TxRxMessage` was given in ASCII mode. -/
theorem txRxMessageAscii_is_answer (m : LocalModbus) (line : Line) (lq : Nat) :
    wp (txRxMessageAscii m line lq) (fun code t => ∀ c, code = some c → ∃ e : Exchange,
      wp (Modbus.txRxMessageAscii e lq) (fun c' t' => c' = c ∧ t'.sent = t.sent ∧ t'.cell = t.cell)
        (fun _ _ => False) s) (fun _ _ => False) s := by
  apply wp_imp (wp_txRxMessageAscii m line lq)
  rintro _ t ⟨-, sent, query⟩ c rfl
  refine ⟨{ Exchange.silent with
    asciiError := c, asciiReply := t.cell .abyReply, asciiBuffer := t.cell .abyBuffer },
    rfl, sent.symm, ?_⟩
  funext a i
  cases a with
  | abyQuery => exact (congrFun query i).symm
  | abyReply => rfl
  | abyBuffer => rfl

/-! ## No query is sent as a frame -/

/-- The bytes handed to the port are the frame of the query. -/
def SendsFrame (s : Object) (m : LocalModbus) (line : Line) (wLengthQuery : Nat) : Prop :=
  wp (txRxMessageAscii m line wLengthQuery) (fun _ t =>
    t.sent = s.sent ++ [asciiFrame (s.block .abyQuery wLengthQuery)]) (fun _ _ => True) s

theorem cleared_ne (message : List BYTE) : cleared (asciiFrame message) ≠ asciiFrame message := by
  intro same
  have first := congrArg List.head? same
  have zero : (cleared (asciiFrame message)).head? = some 0 := by
    simp [cleared, bufferSize, respBuffer, List.replicate_succ]
  rw [zero] at first
  revert first
  show some (0 : BYTE) = some (asciiCode ':') → False
  decide

/-- **The frame is cleared before it is sent.**  For every query, what is handed to the port is its
frame with zeros in the first twelve places, and so never the frame. -/
theorem ascii_frame_not_sent (s : Object) (m : LocalModbus) (line : Line) (wLengthQuery : Nat) :
    wp (txRxMessageAscii m line wLengthQuery) (fun _ t =>
      t.sent = s.sent ++ [cleared (asciiFrame (s.block .abyQuery wLengthQuery))])
      (fun _ _ => False) s ∧
    ¬ SendsFrame s m line wLengthQuery := by
  refine ⟨wp_imp (wp_txRxMessageAscii m line wLengthQuery) fun _ _ ended => ended.2.1, ?_⟩
  intro sends
  apply not_wp_false (p := txRxMessageAscii m line wLengthQuery) (s := s)
  apply wp_mono (wp_and sends (wp_txRxMessageAscii m line wLengthQuery))
  · rintro _ t ⟨frame, -, sent, -⟩
    rw [sent, List.append_cancel_left_eq, List.cons.injEq] at frame
    exact cleared_ne _ frame.1
  · exact fun _ _ raised => raised.2

/-- The query for register 107 of slave 17, over a line on which nothing comes back. -/
theorem query_sent_as_zeros :
    ¬ SendsFrame ((Object.fresh fun _ => .silent).writeBlock .abyQuery 0 [17, 3, 0, 107, 0, 1])
      .init ⟨true, []⟩ 6 := by
  intro sends
  have frame : ([List.replicate 12 0 ++ [49, 56, 48, 13, 10]] : List (List BYTE)) =
      [asciiFrame [17, 3, 0, 107, 0, 1]] := sends
  revert frame
  decide

end Receiving

end TizerVision.Modbus.Ascii
