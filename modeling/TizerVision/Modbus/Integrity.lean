/-
# Modbus.Integrity — what the checksum of an RTU frame guards

A frame is a message and the two bytes of its checksum.  `VerifyRespCRC` compares the checksum with
the one it computes; that is to say, the CRC-16/MODBUS of the whole frame is zero
(`crcValid_iff_residue`).  In this form the check is linear in the bits of the frame, and a burst of
errors of at most sixteen bits, in the message, in the checksum or across both, is always noticed
(`burst_rejected`).
-/
import Mathlib.Tactic.ByContra
import TizerVision.Modbus.Reception

namespace TizerVision.Modbus

set_option autoImplicit false

open Theory

/-- The word with its two bytes exchanged. -/
def swapBytes (w : WORD) : WORD := lobyte w ++ hibyte w

/-- The top bit of the polynomial is set. -/
theorem polynomial_monic : (0xA001#16).getLsbD (16 - 1) = true := by decide

/-! ## The residue of a frame -/

theorem crc16Modbus_range (f : Nat → BYTE) (n : Nat) :
    crc16Modbus ((List.range n).map f) =
      Crc.crcBits 0xA001#16 0xFFFF#16 (Crc.bitAt f) (8 * n) :=
  Crc.crc_range 0xA001#16 0xFFFF#16 (by decide) f n

/-- Two bytes in the order of transmission make a word, the first of them its low byte. -/
theorem word_bitAt (f : Nat → BYTE) (n : Nat) :
    Crc.word 16 (fun i => Crc.bitAt f (8 * n + i)) 16 = f (n + 1) ++ f n := by
  apply BitVec.eq_of_getLsbD_eq
  intro i below
  rw [Crc.getLsbD_word, BitVec.getLsbD_append, Crc.bitAt]
  by_cases low : i < 8
  · rw [show (8 * n + i) / 8 = n by omega, show (8 * n + i) % 8 = i by omega]
    simp [low, below]
  · rw [show (8 * n + i) / 8 = n + 1 by omega, show (8 * n + i) % 8 = i - 8 by omega]
    simp [low, below]

theorem append_eq_iff (hi lo : BYTE) (w : WORD) :
    hi ++ lo = w ↔ lo = lobyte w ∧ hi = hibyte w := by
  constructor
  · rintro rfl
    exact ⟨(lobyte_append hi lo).symm, (hibyte_append hi lo).symm⟩
  · rintro ⟨rfl, rfl⟩
    exact hibyte_append_lobyte w

/-- **The checksum fits exactly when the CRC of the whole frame is zero.** -/
theorem crcValid_iff_residue (frame : Nat → BYTE) (n : Nat) :
    CrcValid frame n ↔ crc16Modbus ((List.range (n + 2)).map frame) = 0#16 := by
  rw [crc16Modbus_range, show 8 * (n + 2) = 8 * n + 16 by omega, Crc.crcBits_add,
    ← crc16Modbus_range, Crc.crcBits_eq_zero_iff polynomial_monic, word_bitAt, append_eq_iff,
    CrcValid]

/-- **The table-driven checksum is the bitwise one.**  `CalcCrcFast` returns the CRC-16/MODBUS with its
bytes exchanged, and `VerifyRespCRC` accepts a frame exactly when the CRC-16/MODBUS of the frame with
its checksum is zero. -/
theorem checksum_bitwise :
    (∀ message : List BYTE, calcCrcFast message = swapBytes (crc16Modbus message)) ∧
    ∀ (s : Object) (wLength : Nat), wp (verifyRespCRC wLength) (fun valid _ =>
      valid = true ↔ crc16Modbus (s.block .abyBuffer (wLength + 2)) = 0#16) (fun _ _ => False) s := by
  refine ⟨calcCrcFast_eq, fun s wLength => ?_⟩
  apply wp_imp (wp_verifyRespCRC wLength s)
  rintro valid t ⟨rfl, -⟩
  rw [decide_eq_true_iff, crcValid_iff_residue]
  rfl

/-! ## Bursts -/

/-- The bits in which two frames differ leave a register that starts at zero. -/
theorem difference_residue {frame frame' : Nat → BYTE} {n : Nat} (valid : CrcValid frame n)
    (valid' : CrcValid frame' n) :
    Crc.crcBits 0xA001#16 0#16 (fun i => Crc.bitAt frame i ^^ Crc.bitAt frame' i) (8 * (n + 2)) =
      0#16 := by
  rw [crcValid_iff_residue, crc16Modbus_range] at valid valid'
  have linear := Crc.crcBits_xor 0xA001#16 0xFFFF#16 0xFFFF#16 (Crc.bitAt frame)
    (Crc.bitAt frame') (8 * (n + 2))
  rw [valid, valid', BitVec.xor_self, BitVec.xor_self] at linear
  exact linear

/-- Different frames differ in a bit. -/
theorem exists_bitAt_ne {frame frame' : Nat → BYTE} {n : Nat}
    (different : (List.range n).map frame ≠ (List.range n).map frame') :
    ∃ i < 8 * n, Crc.bitAt frame i ≠ Crc.bitAt frame' i := by
  by_contra agree
  apply different
  apply List.map_congr_left
  intro k inside
  have below := List.mem_range.1 inside
  apply BitVec.eq_of_getLsbD_eq
  intro j small
  by_contra bit
  refine agree ⟨8 * k + j, by omega, ?_⟩
  rwa [Crc.bitAt, Crc.bitAt, show (8 * k + j) / 8 = k by omega, show (8 * k + j) % 8 = j by omega]

/-- **Bursts of up to sixteen bits are rejected.**  If a frame is accepted, a different frame of the
same length whose bits differ within sixteen consecutive places only, in the order of transmission, is
not. -/
theorem burst_rejected (s t : Object) (wLength start : Nat)
    (accepted : wp (verifyRespCRC wLength) (fun valid _ => valid = true) (fun _ _ => False) s)
    (different : s.block .abyBuffer (wLength + 2) ≠ t.block .abyBuffer (wLength + 2))
    (burst : ∀ i < 8 * (wLength + 2),
      Crc.bitAt (s.cell .abyBuffer) i ≠ Crc.bitAt (t.cell .abyBuffer) i →
        start ≤ i ∧ i < start + 16) :
    wp (verifyRespCRC wLength) (fun valid _ => valid = false) (fun _ _ => False) t := by
  have valid : CrcValid (s.cell .abyBuffer) wLength := by
    obtain ⟨_, _, -, ⟨rfl, verified, -⟩⟩ := (wp_mono (wp_and accepted (wp_verifyRespCRC wLength s))
      (fun _ _ both => both) fun _ _ both => both.1).exists_ok
    exact of_decide_eq_true verified.symm
  apply wp_imp (wp_verifyRespCRC wLength t)
  rintro _ u ⟨rfl, -⟩
  apply decide_eq_false
  intro valid'
  obtain ⟨i, below, differs⟩ := exists_bitAt_ne different
  refine Crc.crcBits_burst polynomial_monic start ⟨i, below, ?_⟩ (fun j inside set => ?_)
    (difference_residue valid valid')
  · simpa using differs
  · exact burst j inside (by simpa using set)

/-- The first byte of the echo 1, 6, 0, 100, 0, 51 with its checksum is garbled. -/
theorem burst_rejected_garbled_address :
    wp (verifyRespCRC 6) (fun valid _ => valid = false) (fun _ _ => False)
      ((Object.fresh fun _ => .silent).writeBlock .abyBuffer 0 [0xFE, 6, 0, 100, 0, 51, 0x88, 0]) := by
  refine burst_rejected
    ((Object.fresh fun _ => .silent).writeBlock .abyBuffer 0 [1, 6, 0, 100, 0, 51, 0x88, 0])
    _ 6 0 ?_ ?_ ?_
  · show decide _ = true
    decide +kernel
  · decide +kernel
  · decide +kernel

end TizerVision.Modbus
