/-
# Modbus.Ascii — the text form of a frame

In ASCII mode a byte goes over the line as two hexadecimal digits, between a colon and a line end,
with a longitudinal checksum (LRC) in front of the line end.  The checksum is computed twice in the
source: over the bytes (`CRC16::LRC`) and over the characters (`LRCASCII`), where everything that is
not a digit counts as 0.

`ascii_round_trip` — the frame of a message is accepted, and its payload decodes to the message.
-/
import Mathlib.Data.List.GetD
import TizerVision.Modbus.Reception

namespace TizerVision.Modbus

set_option autoImplicit false

open Theory

/-! ## Reading digits -/

def ascii2Num (byChar : BYTE) : BYTE :=
  if byChar ≥ asciiCode '0' ∧ byChar ≤ asciiCode '9' then byChar - asciiCode '0'
  else if byChar ≥ asciiCode 'A' ∧ byChar ≤ asciiCode 'F' then (byChar - asciiCode 'A') + 0xA
  else 0

def hiLo4BitsToByte (byHi byLo : BYTE) : BYTE := ((0xF &&& byHi) <<< 4) ||| (0xF &&& byLo)

/-- What the decoding loops make of the characters at `i` and `i + 1`. -/
def byteAt (aAscii : Nat → BYTE) (i : Nat) : BYTE :=
  hiLo4BitsToByte (ascii2Num (aAscii i)) (ascii2Num (aAscii (i + 1)))

/-- The loop of `TxRxMessageAscii` over `iDataSize` payload positions -/
def decodeAscii (aAscii : Nat → BYTE) (iDataSize : Nat) : List BYTE :=
  (List.range iDataSize).map fun i => byteAt aAscii (1 + i * 2)

/-- `LRCASCII`.  The difference is an `int`, and the quotient is rounded towards zero. -/
def lrcAscii (auchMsgASCII : Nat → BYTE) (usDataLen : WORD) : BYTE :=
  let iDataSize := ((usDataLen.toNat : Int) - 5).tdiv 2
  let uchLRC := (List.range iDataSize.toNat).foldl
    (fun uchLRC i => uchLRC + byteAt auchMsgASCII (1 + i * 2)) 0
  (-uchLRC)

def verifyRespLRC (aResp : Nat → BYTE) (dwLength : Nat) : Bool :=
  if dwLength < 5 then false
  else decide (lrcAscii aResp (BitVec.ofNat 16 dwLength) = byteAt aResp (dwLength - 4))

/-! ## Digits there and back -/

theorem digits_round_trip (b : BYTE) :
    hiLo4BitsToByte (ascii2Num (num2Ascii (hi4Bits b))) (ascii2Num (num2Ascii (lo4Bits b))) = b := by
  revert b
  decide +kernel

@[simp] theorem length_rtu2Ascii (message : List BYTE) :
    (rtu2Ascii message).length = 2 * message.length := by
  induction message with
  | nil => rfl
  | cons b rest ih =>
      rw [rtu2Ascii, List.flatMap_cons, List.length_append, ← rtu2Ascii, ih, List.length_cons]
      simp only [List.length_cons, List.length_nil]
      omega

@[simp] theorem length_asciiFrame (message : List BYTE) :
    (asciiFrame message).length = 2 * message.length + 5 := by
  simp [asciiFrame]

/-- The two digits of byte `i`. -/
theorem rtu2Ascii_getElem? {message : List BYTE} {i : Nat} {b : BYTE} (found : message[i]? = some b) :
    (rtu2Ascii message)[2 * i]? = some (num2Ascii (hi4Bits b)) ∧
      (rtu2Ascii message)[2 * i + 1]? = some (num2Ascii (lo4Bits b)) := by
  induction message generalizing i with
  | nil => simp at found
  | cons first rest ih =>
      cases i with
      | zero =>
          obtain rfl : first = b := by simpa using found
          exact ⟨rfl, rfl⟩
      | succ i =>
          -- two digits of `first` stand in front
          have shifted : ∀ k, (rtu2Ascii (first :: rest))[k + 2]? = (rtu2Ascii rest)[k]? :=
            fun _ => rfl
          rw [show 2 * (i + 1) = 2 * i + 2 by omega, show 2 * i + 2 + 1 = 2 * i + 1 + 2 by omega,
            shifted, shifted]
          exact ih (by simpa using found)

/-- Behind the colon stand the digits of the message. -/
theorem asciiFrame_payload {message : List BYTE} {k : Nat} (inside : k < 2 * message.length) :
    zeroPadded (asciiFrame message) (1 + k) = (rtu2Ascii message).getD k 0 := by
  rw [zeroPadded, asciiFrame, List.append_assoc, List.getD_append_right _ _ _ _ (by simp),
    List.getD_append _ _ _ _ (by simp; omega)]
  simp

/-- Behind the digits stand the checksum and the line end. -/
theorem asciiFrame_tail (message : List BYTE) (k : Nat) :
    zeroPadded (asciiFrame message) (1 + 2 * message.length + k) =
      [num2Ascii (hi4Bits (lrc message)), num2Ascii (lo4Bits (lrc message)), carriageReturn,
        lineFeed].getD k 0 := by
  rw [zeroPadded, asciiFrame, List.getD_append_right _ _ _ _ (by simp; omega)]
  congr 1
  simp
  omega

/-- Byte `i` of the message is read back. -/
theorem byteAt_asciiFrame {message : List BYTE} {i : Nat} {b : BYTE} (found : message[i]? = some b) :
    byteAt (zeroPadded (asciiFrame message)) (1 + i * 2) = b := by
  obtain ⟨below, -⟩ := List.getElem?_eq_some_iff.1 found
  obtain ⟨high, low⟩ := rtu2Ascii_getElem? found
  rw [byteAt, Nat.add_assoc, asciiFrame_payload (by omega), asciiFrame_payload (by omega),
    Nat.mul_comm i 2, List.getD_eq_getElem?_getD, List.getD_eq_getElem?_getD, high, low]
  exact digits_round_trip b

/-- Clearing the front changes no byte behind it. -/
theorem byteAt_cleared (frame : List BYTE) {i : Nat} (behind : bufferSize ≤ i) :
    byteAt (zeroPadded (cleared frame)) i = byteAt (zeroPadded frame) i := by
  have kept : ∀ j, bufferSize ≤ j → zeroPadded (cleared frame) j = zeroPadded frame j := by
    intro j later
    by_cases inside : j < frame.length
    · have front : ((List.replicate bufferSize (0 : BYTE)).take frame.length).length = bufferSize := by
        simp
        omega
      rw [zeroPadded, cleared, List.getD_append_right _ _ _ _ (by omega), front, zeroPadded,
        List.getD_eq_getElem?_getD, List.getElem?_drop, Nat.add_sub_cancel' later,
        List.getD_eq_getElem?_getD]
    · have beyond : (cleared frame).length ≤ j := by
        simp [cleared]
        omega
      rw [zeroPadded, zeroPadded, List.getD_eq_default _ _ beyond,
        List.getD_eq_default _ _ (Nat.le_of_not_lt inside)]
  rw [byteAt, byteAt, kept i behind, kept (i + 1) (Nat.le_succ_of_le behind)]

/-- The two characters in front of the line end are the checksum. -/
theorem byteAt_asciiFrame_lrc (message : List BYTE) :
    byteAt (zeroPadded (asciiFrame message)) (1 + 2 * message.length) = lrc message := by
  have first := asciiFrame_tail message 0
  rw [Nat.add_zero] at first
  rw [byteAt, first, asciiFrame_tail message 1]
  exact digits_round_trip (lrc message)

theorem decodeAscii_asciiFrame (message : List BYTE) :
    decodeAscii (zeroPadded (asciiFrame message)) message.length = message := by
  apply List.ext_getElem?
  intro i
  rw [decodeAscii, List.getElem?_map]
  by_cases inside : i < message.length
  · have found : message[i]? = some message[i] := List.getElem?_eq_getElem inside
    rw [List.getElem?_range inside, Option.map_some, byteAt_asciiFrame found, found]
  · rw [List.getElem?_eq_none (by simpa using inside), List.getElem?_eq_none (by simpa using inside)]
    rfl

/-- **The two checksums agree**: `LRCASCII` is the checksum of the bytes decoded. -/
theorem lrcAscii_eq (aAscii : Nat → BYTE) {n : Nat} (long : 5 ≤ n) (small : n < 2 ^ 16) :
    lrcAscii aAscii (BitVec.ofNat 16 n) = lrc (decodeAscii aAscii ((n - 5) / 2)) := by
  have size : ((((BitVec.ofNat 16 n).toNat : Int) - 5).tdiv 2).toNat = (n - 5) / 2 := by
    rw [BitVec.toNat_ofNat, Nat.mod_eq_of_lt small, Int.tdiv_eq_ediv_of_nonneg (by omega)]
    omega
  rw [lrcAscii, size, lrc, decodeAscii, List.foldl_map]

theorem verifyRespLRC_eq_true_iff (aResp : Nat → BYTE) {n : Nat} (small : n < 2 ^ 16) :
    verifyRespLRC aResp n = true ↔
      5 ≤ n ∧ lrc (decodeAscii aResp ((n - 5) / 2)) = byteAt aResp (n - 4) := by
  unfold verifyRespLRC
  by_cases short : n < 5
  · have no : ¬ 5 ≤ n := Nat.not_le_of_lt short
    simp [short, no]
  · have long : 5 ≤ n := Nat.le_of_not_lt short
    rw [if_neg short, decide_eq_true_iff, lrcAscii_eq aResp long small]
    exact (and_iff_right long).symm

/-- **The round trip.**  A message in its frame is accepted and read back. -/
theorem ascii_round_trip (message : List BYTE) (fits : 2 * message.length + 5 < 65536) :
    verifyRespLRC (zeroPadded (asciiFrame message)) (asciiFrame message).length = true ∧
      decodeAscii (zeroPadded (asciiFrame message)) (((asciiFrame message).length - 5) / 2) =
        message := by
  have positions : (2 * message.length + 5 - 5) / 2 = message.length := by omega
  rw [length_asciiFrame, verifyRespLRC_eq_true_iff _ fits, positions, decodeAscii_asciiFrame,
    show 2 * message.length + 5 - 4 = 1 + 2 * message.length by omega, byteAt_asciiFrame_lrc]
  exact ⟨⟨by omega, rfl⟩, rfl⟩

/-- The query for register 107 of slave 17. -/
theorem ascii_round_trip_query :
    verifyRespLRC (zeroPadded (asciiFrame [17, 3, 0, 107, 0, 1])) 17 = true ∧
      decodeAscii (zeroPadded (asciiFrame [17, 3, 0, 107, 0, 1])) 6 = [17, 3, 0, 107, 0, 1] :=
  ascii_round_trip [17, 3, 0, 107, 0, 1] (by decide)

end TizerVision.Modbus
