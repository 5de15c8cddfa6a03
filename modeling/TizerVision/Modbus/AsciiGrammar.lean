/-
# Modbus.AsciiGrammar — which responses are accepted in ASCII mode

Of the characters `ReadResponseASCII` has read, the checksum is all that is checked: not the colon, not
the alphabet, not the line end, not the parity of the length.  A sequence that is accepted need not be a
frame, and none is protected against the change of a character: the first may be anything
(`ascii_parser_iff`).  The grammar that is meant is that of the frames (`grammatical_iff_frame`).
-/
import TizerVision.Modbus.AsciiLine

namespace TizerVision.Modbus.Ascii

set_option autoImplicit false

open Theory

/-! ## The grammar -/

def IsHexDigit (c : BYTE) : Prop :=
  (asciiCode '0' ≤ c ∧ c ≤ asciiCode '9') ∨ (asciiCode 'A' ≤ c ∧ c ≤ asciiCode 'F')

instance (c : BYTE) : Decidable (IsHexDigit c) := inferInstanceAs (Decidable (_ ∨ _))

/-- A colon, an even number of digits, at least four, two more digits, and a line end. -/
structure Shaped (bytes : List BYTE) : Prop where
  long : 1 + 4 + 2 + 2 ≤ bytes.length
  even : (bytes.length - 5) % 2 = 0
  colon : bytes.getD 0 0 = asciiCode ':'
  digits : ∀ i, 1 ≤ i → i < bytes.length - 2 → IsHexDigit (bytes.getD i 0)
  carriageReturn : bytes.getD (bytes.length - 2) 0 = Modbus.carriageReturn
  lineFeed : bytes.getD (bytes.length - 1) 0 = Modbus.lineFeed

/-- The two digits in front of the line end are the checksum of the bytes the others stand for. -/
structure Grammatical (bytes : List BYTE) : Prop extends Shaped bytes where
  checksum : lrc (decodeAscii (zeroPadded bytes) ((bytes.length - 5) / 2)) =
    byteAt (zeroPadded bytes) (bytes.length - 4)

theorem hexDigit_round_trip {high low : BYTE} (digit : IsHexDigit high) (digit' : IsHexDigit low) :
    num2Ascii (hi4Bits (hiLo4BitsToByte (ascii2Num high) (ascii2Num low))) = high ∧
      num2Ascii (lo4Bits (hiLo4BitsToByte (ascii2Num high) (ascii2Num low))) = low := by
  have small : ∀ c : BYTE, IsHexDigit c → num2Ascii (ascii2Num c) = c ∧ ascii2Num c ≤ 15 := by
    decide +kernel
  have halves : ∀ x y : Fin 16,
      hi4Bits (hiLo4BitsToByte (BitVec.ofNat 8 x) (BitVec.ofNat 8 y)) = BitVec.ofNat 8 x ∧
        lo4Bits (hiLo4BitsToByte (BitVec.ofNat 8 x) (BitVec.ofNat 8 y)) = BitVec.ofNat 8 y := by
    decide +kernel
  obtain ⟨back, fits⟩ := small high digit
  obtain ⟨back', fits'⟩ := small low digit'
  have parts := halves ⟨(ascii2Num high).toNat, Nat.lt_succ_of_le fits⟩
    ⟨(ascii2Num low).toNat, Nat.lt_succ_of_le fits'⟩
  simp only [BitVec.ofNat_toNat, BitVec.setWidth_eq] at parts
  rw [parts.1, parts.2, back, back']
  exact ⟨rfl, rfl⟩

theorem isHexDigit_num2Ascii (b : BYTE) :
    IsHexDigit (num2Ascii (hi4Bits b)) ∧ IsHexDigit (num2Ascii (lo4Bits b)) := by
  revert b
  decide +kernel

theorem isHexDigit_rtu2Ascii {message : List BYTE} {k : Nat} (inside : k < 2 * message.length) :
    IsHexDigit ((rtu2Ascii message).getD k 0) := by
  have mem : (rtu2Ascii message).getD k 0 ∈ rtu2Ascii message := by
    rw [List.getD_eq_getElem _ _ (by simpa using inside)]
    exact List.getElem_mem _
  obtain ⟨b, -, isDigit⟩ := List.mem_flatMap.1 mem
  obtain ⟨high, low⟩ := isHexDigit_num2Ascii b
  rcases List.mem_cons.1 isDigit with is_high | others
  · rwa [is_high]
  · rwa [List.mem_singleton.1 others]

theorem grammatical_asciiFrame {message : List BYTE} (two : 2 ≤ message.length) :
    Grammatical (asciiFrame message) := by
  have length : (asciiFrame message).length = 1 + 2 * message.length + 4 := by
    rw [length_asciiFrame]
    omega
  refine ⟨⟨by omega, by omega, rfl, fun i positive below => ?_, ?_, ?_⟩, ?_⟩
  · show IsHexDigit (zeroPadded (asciiFrame message) i)
    by_cases payload : i < 1 + 2 * message.length
    · obtain ⟨k, rfl⟩ := Nat.exists_eq_add_of_le positive
      rw [asciiFrame_payload (by omega)]
      exact isHexDigit_rtu2Ascii (by omega)
    · obtain ⟨k, rfl⟩ := Nat.exists_eq_add_of_le (Nat.le_of_not_lt payload)
      have isDigit := isHexDigit_num2Ascii (lrc message)
      rw [asciiFrame_tail]
      rcases (by omega : k = 0 ∨ k = 1) with rfl | rfl
      · exact isDigit.1
      · exact isDigit.2
  · rw [length]
    exact asciiFrame_tail message 2
  · rw [length]
    exact asciiFrame_tail message 3
  · rw [length, show (1 + 2 * message.length + 4 - 5) / 2 = message.length by omega,
      decodeAscii_asciiFrame, Nat.add_sub_cancel, byteAt_asciiFrame_lrc]

/-- Digits decoded are written as they were. -/
theorem rtu2Ascii_decodeAscii {f : Nat → BYTE} {n i : Nat}
    (digits : ∀ j < 2 * n, IsHexDigit (f (1 + j))) (inside : i < 2 * n) :
    (rtu2Ascii (decodeAscii f n)).getD i 0 = f (1 + i) := by
  obtain ⟨j, half⟩ : ∃ j, i = 2 * j ∨ i = 2 * j + 1 := ⟨i / 2, by omega⟩
  have found : (decodeAscii f n)[j]? = some (byteAt f (1 + 2 * j)) := by
    rw [decodeAscii, List.getElem?_map, List.getElem?_range (by omega), Nat.mul_comm 2 j]
    rfl
  obtain ⟨high, low⟩ := rtu2Ascii_getElem? found
  obtain ⟨first, second⟩ :=
    hexDigit_round_trip (digits (2 * j) (by omega)) (digits (2 * j + 1) (by omega))
  rcases half with rfl | rfl
  · rw [List.getD_eq_getElem?_getD, high]
    exact first
  · rw [List.getD_eq_getElem?_getD, low]
    exact second

/-- **The grammar is that of the frames** of messages with an address and a function. -/
theorem grammatical_iff_frame (bytes : List BYTE) :
    Grammatical bytes ↔ ∃ message, 2 ≤ message.length ∧ bytes = asciiFrame message := by
  constructor
  · rintro ⟨⟨long, even, colon, digits, carriageReturn, lineFeed⟩, checksum⟩
    obtain ⟨n, length⟩ : ∃ n, bytes.length = 1 + 2 * n + 4 := ⟨(bytes.length - 5) / 2, by omega⟩
    rw [length] at digits carriageReturn lineFeed checksum
    rw [show (1 + 2 * n + 4 - 5) / 2 = n by omega, Nat.add_sub_cancel] at checksum
    generalize sent : decodeAscii (zeroPadded bytes) n = message at checksum
    have size : message.length = n := by simp [← sent, decodeAscii]
    refine ⟨message, by omega, eq_of_zeroPadded (by rw [length_asciiFrame]; omega) ?_⟩
    intro i below
    by_cases payload : i < 1 + 2 * n
    · cases i with
      | zero => exact colon
      | succ i =>
          rw [Nat.add_comm i 1, asciiFrame_payload (by omega), ← sent]
          exact (rtu2Ascii_decodeAscii (fun j inside => digits (1 + j) (by omega) (by omega))
            (by omega)).symm
    · -- the two digits of the checksum, and the line end
      obtain ⟨k, rfl⟩ := Nat.exists_eq_add_of_le (Nat.le_of_not_lt payload)
      obtain ⟨first, second⟩ := hexDigit_round_trip (digits (1 + 2 * n) (by omega) (by omega))
        (digits (1 + 2 * n + 1) (by omega) (by omega))
      rw [← size, asciiFrame_tail, size, checksum]
      rcases (by omega : k = 0 ∨ k = 1 ∨ k = 2 ∨ k = 3) with rfl | rfl | rfl | rfl
      · exact first.symm
      · exact second.symm
      · exact carriageReturn
      · exact lineFeed
  · rintro ⟨message, two, rfl⟩
    exact grammatical_asciiFrame two

/-! ## The line with one character changed -/

/-- The turns, with the `k`-th character delivered replaced by `c`. -/
def changeByte (c : BYTE) : Nat → List ReadTurn → List ReadTurn
  | _, [] => []
  | k, t :: turns =>
      match t.read, k with
      | .byte _, 0 => { t with read := .byte c } :: turns
      | .byte _, k + 1 => t :: changeByte c k turns
      | _, k => t :: changeByte c k turns

def Line.change (line : Line) (k : Nat) (c : BYTE) : Line :=
  { line with turns := changeByte c k line.turns }

def Reading.withFirst (r : Reading) (c : BYTE) : Reading :=
  { r with response := r.response.set 0 c }

/-- The second reading differs from the first in its first character. -/
def DiffersFirst (c : BYTE) (r r' : Reading) : Prop := r.response ≠ [] ∧ r' = r.withFirst c

def ResultDiffersFirst (c : BYTE) (result result' : Bool × List BYTE) : Prop :=
  result' = (result.1, result.2.set 0 c)

theorem getD_set_first {bytes : List BYTE} {i : Nat} (positive : 0 < i) (c : BYTE) :
    (bytes.set 0 c).getD i 0 = bytes.getD i 0 := by
  rw [List.getD_eq_getElem?_getD, List.getD_eq_getElem?_getD,
    List.getElem?_set_ne (Nat.ne_of_lt positive)]

/-- Whether the line end was read depends on the last characters only. -/
theorem completed_withFirst (m : LocalModbus) (r : Reading) (c : BYTE) :
    (r.withFirst c).completed m = r.completed m := by
  unfold Reading.completed Reading.withFirst
  rw [decide_eq_decide, List.length_set]
  refine and_congr_right fun _ => and_congr_right fun long => ?_
  rw [getD_set_first (by omega), getD_set_first (by omega)]

theorem loopEnd_matches {m : LocalModbus} {c : BYTE} {r : Reading} {inQue : Bool}
    (some_read : r.response ≠ []) :
    (r.loopEnd m inQue).Matches (DiffersFirst c) (ResultDiffersFirst c)
      ((r.withFirst c).loopEnd m inQue) := by
  unfold Reading.loopEnd
  rw [completed_withFirst, show (r.withFirst c).timeCondition = r.timeCondition from rfl]
  split
  · exact .again ⟨some_read, rfl⟩
  · exact .stop rfl

theorem noteByte_withFirst {m : LocalModbus} {c b : BYTE} {r : Reading}
    (some_read : r.response ≠ []) :
    (r.withFirst c).noteByte m b = (r.noteByte m b).withFirst c := by
  simp [Reading.noteByte, Reading.withFirst, List.length_pos_iff.2 some_read]

theorem noteNull_withFirst (r : Reading) (c : BYTE) (now : DWORD) :
    (r.withFirst c).noteNull now = (r.noteNull now).withFirst c := by
  unfold Reading.noteNull Reading.withFirst
  split <;> rfl

/-- The turns that follow do the same with both readings. -/
theorem readTurn_matches (m : LocalModbus) (c : BYTE) (r r' : Reading) (t : ReadTurn)
    (differs : DiffersFirst c r r') :
    (readTurn m bufferSize r t).Matches (DiffersFirst c) (ResultDiffersFirst c)
      (readTurn m bufferSize r' t) := by
  obtain ⟨some_read, rfl⟩ := differs
  have length : (r.withFirst c).response.length = r.response.length := List.length_set
  rw [readTurn_eq, readTurn_eq, length]
  split
  · exact .stop rfl
  · cases t.read with
    | fails => exact .stop rfl
    | byte b =>
        simp only [noteByte_withFirst some_read]
        exact loopEnd_matches (by simp [Reading.noteByte])
    | nothing =>
        simp only [noteNull_withFirst]
        exact loopEnd_matches (by rwa [Reading.noteNull_response])

/-- Before the first character there is room. -/
theorem not_full {r : Reading} (nothing_read : r.response = []) :
    ¬ bufferSize ≤ r.response.length := by
  rw [nothing_read]
  decide

/-- A turn without a character keeps the reading empty. -/
theorem readTurn_matches_empty {m : LocalModbus} (c : BYTE) {r : Reading} {t : ReadTurn}
    (nothing_read : r.response = []) (no_byte : ∀ b, t.read ≠ .byte b) :
    (readTurn m bufferSize r t).Matches (fun r r' => r' = r ∧ r.response = [])
      (ResultDiffersFirst c) (readTurn m bufferSize r t) := by
  rw [readTurn_eq, if_neg (not_full nothing_read)]
  cases read : t.read with
  | byte b => exact absurd read (no_byte b)
  | fails => exact .stop (by simp [ResultDiffersFirst, nothing_read])
  | nothing =>
      have still : (r.noteNull t.now).response = [] := by rw [Reading.noteNull_response, nothing_read]
      simp only
      unfold Reading.loopEnd
      split
      · exact .again ⟨rfl, still⟩
      · exact .stop (by simp [ResultDiffersFirst, nothing_read])

/-- The first character, and another in its place. -/
theorem readTurn_matches_first {m : LocalModbus} (c : BYTE) {r : Reading} {t : ReadTurn} {b : BYTE}
    (nothing_read : r.response = []) (read : t.read = .byte b) :
    (readTurn m bufferSize r t).Matches (DiffersFirst c) (ResultDiffersFirst c)
      (readTurn m bufferSize r { t with read := .byte c }) := by
  have first : r.noteByte m c = (r.noteByte m b).withFirst c := by
    simp [Reading.noteByte, Reading.withFirst, nothing_read]
  rw [readTurn_eq, readTurn_eq, if_neg (not_full nothing_read), if_neg (not_full nothing_read), read]
  simp only [first]
  exact loopEnd_matches (by simp [Reading.noteByte])

/-- **The first character does not matter to the reading.** -/
theorem poll_change_first {m : LocalModbus} (c : BYTE) {turns : List ReadTurn} {r : Reading}
    {result : Bool × List BYTE} (nothing_read : r.response = [])
    (received : poll (readTurn m bufferSize) r turns = some result) :
    ∃ result', poll (readTurn m bufferSize) r (changeByte c 0 turns) = some result' ∧
      ResultDiffersFirst c result result' := by
  induction turns generalizing r with
  | nil => cases received
  | cons t turns ih =>
      -- up to the first character both lines deliver the same, behind it again
      cases read : t.read with
      | byte b =>
          simp only [changeByte, read]
          exact poll_cons_matches (readTurn_matches_first c nothing_read read)
            (fun _ _ differs => poll_simulates (readTurn_matches m c) differs) received
      | fails | nothing =>
          simp only [changeByte, read]
          refine poll_cons_matches (readTurn_matches_empty c nothing_read (by simp [read])) ?_ received
          rintro r' _ ⟨rfl, still⟩ rest
          exact ih still rest

/-! ## What is accepted -/

/-- A response was accepted: `ERR_OK`, or the exception the device returned. -/
def Taken (code : WORD) : Prop := code = ERR_OK ∨ ERR_EXCPTION_CODE ≤ code

instance (code : WORD) : Decidable (Taken code) := inferInstanceAs (Decidable (_ ∨ _))

/-- The exchange ends with a response that was accepted. -/
def Accepts (s : Object) (m : LocalModbus) (line : Line) (wLengthQuery : Nat) : Prop :=
  wp (txRxMessageAscii m line wLengthQuery) (fun code _ => ∃ c, code = some c ∧ Taken c)
    (fun _ _ => False) s

/-- The query was written, and these characters were read. -/
def Line.Receives (m : LocalModbus) (line : Line) (bytes : List BYTE) : Prop :=
  line.writeQuery = true ∧ readResponseASCII m bufferSize line.turns = some (true, bytes)

instance (m : LocalModbus) (line : Line) (bytes : List BYTE) : Decidable (line.Receives m bytes) :=
  inferInstanceAs (Decidable (_ ∧ _))

theorem taken_exception (code : BYTE) : Taken (ERR_EXCPTION_CODE + code.setWidth 16) := by
  right
  revert code
  decide +kernel

/-- **Only the checksum is checked.** -/
theorem taken_codeOf (bytes : List BYTE) : Taken (codeOf bytes) ↔ Checked bytes := by
  unfold codeOf
  by_cases empty : bytes = []
  · subst empty
    decide
  · rw [if_neg empty]
    by_cases checked : Checked bytes
    · rw [if_pos checked]
      refine iff_of_true ?_ checked
      split
      · exact taken_exception _
      · exact .inl rfl
    · rw [if_neg checked]
      exact iff_of_false (by decide) checked

theorem accepts_iff_code (s : Object) (m : LocalModbus) (line : Line) (lq : Nat) :
    Accepts s m line lq ↔ ∃ c, line.code m = some c ∧ Taken c := by
  have ran := wp_txRxMessageAscii (s := s) m line lq
  constructor
  · intro accepts
    obtain ⟨code, _, ended, taken⟩ := accepts.exists_ok
    obtain ⟨rfl, -⟩ := ran.of_ok ended
    exact taken
  · intro taken
    apply wp_imp ran
    rintro _ _ ⟨rfl, -⟩
    exact taken

/-- **Which responses are accepted**: those received with the checksum their digits have. -/
theorem accepts_iff (s : Object) (m : LocalModbus) (line : Line) (lq : Nat) :
    Accepts s m line lq ↔ ∃ bytes, line.Receives m bytes ∧ Checked bytes := by
  rw [accepts_iff_code]
  unfold Line.code
  by_cases written : line.writeQuery = true
  · rw [if_pos written]
    constructor
    · rintro ⟨c, code, taken⟩
      obtain ⟨⟨answer, bytes⟩, received, rfl⟩ := Option.map_eq_some_iff.1 code
      cases answer with
      | false => exact absurd taken (show ¬ Taken ERR_RD_PORT by decide)
      | true => exact ⟨bytes, ⟨written, received⟩, (taken_codeOf bytes).1 taken⟩
    · rintro ⟨bytes, ⟨-, received⟩, checked⟩
      rw [received]
      exact ⟨codeOf bytes, rfl, (taken_codeOf bytes).2 checked⟩
  · rw [if_neg written]
    constructor
    · rintro ⟨c, code, taken⟩
      obtain rfl := Option.some.inj code
      exact absurd taken (by decide)
    · rintro ⟨bytes, ⟨taken, -⟩, -⟩
      exact absurd taken written

theorem accepts_iff_checked {s : Object} {m : LocalModbus} {line : Line} {lq : Nat}
    {bytes : List BYTE} (received : line.Receives m bytes) :
    Accepts s m line lq ↔ Checked bytes := by
  rw [accepts_iff]
  constructor
  · rintro ⟨bytes', ⟨-, received'⟩, checked⟩
    rw [received.2] at received'
    cases received'
    exact checked
  · exact fun checked => ⟨bytes, received, checked⟩

theorem grammatical_iff_shaped {bytes : List BYTE} (checked : Checked bytes) :
    Grammatical bytes ↔ Shaped bytes :=
  ⟨fun grammatical => grammatical.toShaped, fun shaped => ⟨shaped, checked.2⟩⟩

/-- The check does not read the first character. -/
theorem Checked.set_first {bytes : List BYTE} (checked : Checked bytes) (c : BYTE) :
    Checked (bytes.set 0 c) := by
  obtain ⟨long, same⟩ := checked
  rw [Checked, List.length_set]
  exact ⟨long, (checksum_congr long fun i positive _ => (getD_set_first positive c).symm).1 same⟩

/-- **An accepted response is accepted with any first character.** -/
theorem accepts_change_first {s : Object} {m : LocalModbus} {line : Line} {lq : Nat}
    (accepts : Accepts s m line lq) (c : BYTE) : Accepts s m (line.change 0 c) lq := by
  obtain ⟨bytes, ⟨written, received⟩, checked⟩ := (accepts_iff s m line lq).1 accepts
  obtain ⟨_, received', rfl⟩ := poll_change_first c rfl received
  exact (accepts_iff s m _ lq).2 ⟨bytes.set 0 c, ⟨written, received'⟩, checked.set_first c⟩

/-- No other character in place of a received one is accepted. -/
def ChangesRejected (s : Object) (m : LocalModbus) (line : Line) (wLengthQuery : Nat)
    (bytes : List BYTE) : Prop :=
  ∀ k c, k < bytes.length → c ≠ bytes.getD k 0 → ¬ Accepts s m (line.change k c) wLengthQuery

/-- What is accepted is a frame, and with a character changed it is not. -/
def AcceptsFramesOnly (s : Object) (m : LocalModbus) (line : Line) (wLengthQuery : Nat)
    (bytes : List BYTE) : Prop :=
  Accepts s m line wLengthQuery → Grammatical bytes ∧ ChangesRejected s m line wLengthQuery bytes

theorem not_changesRejected {s : Object} {m : LocalModbus} {line : Line} {lq : Nat}
    {bytes : List BYTE} (accepts : Accepts s m line lq) (some_read : bytes ≠ []) :
    ¬ ChangesRejected s m line lq bytes := by
  intro rejected
  have other : bytes.getD 0 0 + 1 ≠ bytes.getD 0 0 := by simp
  exact rejected 0 _ (List.length_pos_iff.2 some_read) other (accepts_change_first accepts _)

/-- **What the parser accepts.**  A received sequence is accepted only as a frame iff it has the shape
of one or its checksum fails; and with the protection against changed characters, which no accepted
sequence has, only if its checksum fails. -/
theorem ascii_parser_iff (s : Object) (m : LocalModbus) (line : Line) (wLengthQuery : Nat)
    (bytes : List BYTE) (received : line.Receives m bytes) :
    (AcceptsFramesOnly s m line wLengthQuery bytes ↔ ¬ Checked bytes) ∧
    ((Accepts s m line wLengthQuery → Grammatical bytes) ↔ Shaped bytes ∨ ¬ Checked bytes) := by
  have accepted : Accepts s m line wLengthQuery ↔ Checked bytes := accepts_iff_checked received
  constructor
  · constructor
    · intro frames checked
      have accepts := accepted.2 checked
      have some_read : bytes ≠ [] := List.length_pos_iff.1 (by have := checked.1; omega)
      exact not_changesRejected accepts some_read (frames accepts).2
    · intro fails accepts
      exact absurd (accepted.1 accepts) fails
  · rw [accepted]
    constructor
    · intro frames
      by_cases checked : Checked bytes
      · exact .inl ((grammatical_iff_shaped checked).1 (frames checked))
      · exact .inr checked
    · rintro (shaped | fails) checked
      · exact (grammatical_iff_shaped checked).2 shaped
      · exact absurd checked fails

/-- A line that takes every query and delivers these characters, one in each turn. -/
def Line.delivering (bytes : List BYTE) : Line :=
  ⟨true, bytes.map fun b => ⟨.byte b, 0, true⟩⟩

/-- The frame with the address and the function only. -/
theorem ascii_parser_iff_shortest_frame :
    (Line.delivering (asciiFrame [1, 3])).Receives { LocalModbus.init with mode := .ascii }
      (asciiFrame [1, 3]) ∧
    (Accepts (Object.fresh fun _ => .silent) { LocalModbus.init with mode := .ascii }
      (Line.delivering (asciiFrame [1, 3])) 6 → Grammatical (asciiFrame [1, 3])) := by
  have received : (Line.delivering (asciiFrame [1, 3])).Receives
      { LocalModbus.init with mode := .ascii } (asciiFrame [1, 3]) := by
    decide +kernel
  have shaped : Shaped (asciiFrame [1, 3]) := (grammatical_asciiFrame (by decide)).toShaped
  exact ⟨received, (ascii_parser_iff _ _ _ 6 _ received).2.2 (.inl shaped)⟩

/-- The same characters behind a letter in place of the colon: they are accepted. -/
theorem frame_without_colon_accepted :
    (Line.delivering ((asciiFrame [1, 3]).set 0 (asciiCode 'X'))).Receives
      { LocalModbus.init with mode := .ascii } ((asciiFrame [1, 3]).set 0 (asciiCode 'X')) ∧
    ¬ AcceptsFramesOnly (Object.fresh fun _ => .silent) { LocalModbus.init with mode := .ascii }
      (Line.delivering ((asciiFrame [1, 3]).set 0 (asciiCode 'X'))) 6
      ((asciiFrame [1, 3]).set 0 (asciiCode 'X')) := by
  have received : (Line.delivering ((asciiFrame [1, 3]).set 0 (asciiCode 'X'))).Receives
      { LocalModbus.init with mode := .ascii } ((asciiFrame [1, 3]).set 0 (asciiCode 'X')) := by
    decide +kernel
  refine ⟨received, fun frames => ?_⟩
  obtain ⟨grammatical, -⟩ := frames ((accepts_iff_checked received).2 (by decide +kernel))
  exact absurd grammatical.colon (by decide)

end TizerVision.Modbus.Ascii
