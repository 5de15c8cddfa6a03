/-
# Modbus.Crc16 — the checksum of crc16.cpp

`CalcCrcFast` keeps the register as two bytes and drives it by two tables.  Its high byte is the low
byte of the register of the standard: the word it returns is the CRC-16/MODBUS of the message with
the two bytes exchanged (`hibyte_calcCrcFast`, `lobyte_calcCrcFast`), which is why `TxRxMessage`
sends the high byte first.
-/
import Mathlib.Logic.Basic
import TizerVision.Theory.Crc

namespace TizerVision.Modbus

set_option autoImplicit false

open Theory

abbrev BYTE := BitVec 8

abbrev WORD := BitVec 16

/-- `HIBYTE` -/
def hibyte (w : WORD) : BYTE := (w >>> 8).setWidth 8

/-- `LOBYTE` -/
def lobyte (w : WORD) : BYTE := w.setWidth 8

/-- Table of CRC values for high-order byte -/
def auchCRCHi : List BYTE :=
  [
    0x00, 0xC1, 0x81, 0x40, 0x01, 0xC0, 0x80, 0x41, 0x01, 0xC0, 0x80, 0x41, 0x00, 0xC1, 0x81, 0x40,
    0x01, 0xC0, 0x80, 0x41, 0x00, 0xC1, 0x81, 0x40, 0x00, 0xC1, 0x81, 0x40, 0x01, 0xC0, 0x80, 0x41,
    0x01, 0xC0, 0x80, 0x41, 0x00, 0xC1, 0x81, 0x40, 0x00, 0xC1, 0x81, 0x40, 0x01, 0xC0, 0x80, 0x41,
    0x00, 0xC1, 0x81, 0x40, 0x01, 0xC0, 0x80, 0x41, 0x01, 0xC0, 0x80, 0x41, 0x00, 0xC1, 0x81, 0x40,
    0x01, 0xC0, 0x80, 0x41, 0x00, 0xC1, 0x81, 0x40, 0x00, 0xC1, 0x81, 0x40, 0x01, 0xC0, 0x80, 0x41,
    0x00, 0xC1, 0x81, 0x40, 0x01, 0xC0, 0x80, 0x41, 0x01, 0xC0, 0x80, 0x41, 0x00, 0xC1, 0x81, 0x40,
    0x00, 0xC1, 0x81, 0x40, 0x01, 0xC0, 0x80, 0x41, 0x01, 0xC0, 0x80, 0x41, 0x00, 0xC1, 0x81, 0x40,
    0x01, 0xC0, 0x80, 0x41, 0x00, 0xC1, 0x81, 0x40, 0x00, 0xC1, 0x81, 0x40, 0x01, 0xC0, 0x80, 0x41,
    0x01, 0xC0, 0x80, 0x41, 0x00, 0xC1, 0x81, 0x40, 0x00, 0xC1, 0x81, 0x40, 0x01, 0xC0, 0x80, 0x41,
    0x00, 0xC1, 0x81, 0x40, 0x01, 0xC0, 0x80, 0x41, 0x01, 0xC0, 0x80, 0x41, 0x00, 0xC1, 0x81, 0x40,
    0x00, 0xC1, 0x81, 0x40, 0x01, 0xC0, 0x80, 0x41, 0x01, 0xC0, 0x80, 0x41, 0x00, 0xC1, 0x81, 0x40,
    0x01, 0xC0, 0x80, 0x41, 0x00, 0xC1, 0x81, 0x40, 0x00, 0xC1, 0x81, 0x40, 0x01, 0xC0, 0x80, 0x41,
    0x00, 0xC1, 0x81, 0x40, 0x01, 0xC0, 0x80, 0x41, 0x01, 0xC0, 0x80, 0x41, 0x00, 0xC1, 0x81, 0x40,
    0x01, 0xC0, 0x80, 0x41, 0x00, 0xC1, 0x81, 0x40, 0x00, 0xC1, 0x81, 0x40, 0x01, 0xC0, 0x80, 0x41,
    0x01, 0xC0, 0x80, 0x41, 0x00, 0xC1, 0x81, 0x40, 0x00, 0xC1, 0x81, 0x40, 0x01, 0xC0, 0x80, 0x41,
    0x00, 0xC1, 0x81, 0x40, 0x01, 0xC0, 0x80, 0x41, 0x01, 0xC0, 0x80, 0x41, 0x00, 0xC1, 0x81, 0x40]

/-- Table of CRC values for low-order byte -/
def auchCRCLo : List BYTE :=
  [
    0x00, 0xC0, 0xC1, 0x01, 0xC3, 0x03, 0x02, 0xC2, 0xC6, 0x06, 0x07, 0xC7, 0x05, 0xC5, 0xC4, 0x04,
    0xCC, 0x0C, 0x0D, 0xCD, 0x0F, 0xCF, 0xCE, 0x0E, 0x0A, 0xCA, 0xCB, 0x0B, 0xC9, 0x09, 0x08, 0xC8,
    0xD8, 0x18, 0x19, 0xD9, 0x1B, 0xDB, 0xDA, 0x1A, 0x1E, 0xDE, 0xDF, 0x1F, 0xDD, 0x1D, 0x1C, 0xDC,
    0x14, 0xD4, 0xD5, 0x15, 0xD7, 0x17, 0x16, 0xD6, 0xD2, 0x12, 0x13, 0xD3, 0x11, 0xD1, 0xD0, 0x10,
    0xF0, 0x30, 0x31, 0xF1, 0x33, 0xF3, 0xF2, 0x32, 0x36, 0xF6, 0xF7, 0x37, 0xF5, 0x35, 0x34, 0xF4,
    0x3C, 0xFC, 0xFD, 0x3D, 0xFF, 0x3F, 0x3E, 0xFE, 0xFA, 0x3A, 0x3B, 0xFB, 0x39, 0xF9, 0xF8, 0x38,
    0x28, 0xE8, 0xE9, 0x29, 0xEB, 0x2B, 0x2A, 0xEA, 0xEE, 0x2E, 0x2F, 0xEF, 0x2D, 0xED, 0xEC, 0x2C,
    0xE4, 0x24, 0x25, 0xE5, 0x27, 0xE7, 0xE6, 0x26, 0x22, 0xE2, 0xE3, 0x23, 0xE1, 0x21, 0x20, 0xE0,
    0xA0, 0x60, 0x61, 0xA1, 0x63, 0xA3, 0xA2, 0x62, 0x66, 0xA6, 0xA7, 0x67, 0xA5, 0x65, 0x64, 0xA4,
    0x6C, 0xAC, 0xAD, 0x6D, 0xAF, 0x6F, 0x6E, 0xAE, 0xAA, 0x6A, 0x6B, 0xAB, 0x69, 0xA9, 0xA8, 0x68,
    0x78, 0xB8, 0xB9, 0x79, 0xBB, 0x7B, 0x7A, 0xBA, 0xBE, 0x7E, 0x7F, 0xBF, 0x7D, 0xBD, 0xBC, 0x7C,
    0xB4, 0x74, 0x75, 0xB5, 0x77, 0xB7, 0xB6, 0x76, 0x72, 0xB2, 0xB3, 0x73, 0xB1, 0x71, 0x70, 0xB0,
    0x50, 0x90, 0x91, 0x51, 0x93, 0x53, 0x52, 0x92, 0x96, 0x56, 0x57, 0x97, 0x55, 0x95, 0x94, 0x54,
    0x9C, 0x5C, 0x5D, 0x9D, 0x5F, 0x9F, 0x9E, 0x5E, 0x5A, 0x9A, 0x9B, 0x5B, 0x99, 0x59, 0x58, 0x98,
    0x88, 0x48, 0x49, 0x89, 0x4B, 0x8B, 0x8A, 0x4A, 0x4E, 0x8E, 0x8F, 0x4F, 0x8D, 0x4D, 0x4C, 0x8C,
    0x44, 0x84, 0x85, 0x45, 0x87, 0x47, 0x46, 0x86, 0x82, 0x42, 0x43, 0x83, 0x41, 0x81, 0x80, 0x40]

/-- One turn of the loop of `CalcCrcFast`, on `uchCRCHi` and `uchCRCLo`. -/
def crcTurn (crc : BYTE × BYTE) (b : BYTE) : BYTE × BYTE :=
  let uIndex := (crc.1 ^^^ b).toNat
  (crc.2 ^^^ auchCRCHi.getD uIndex 0, auchCRCLo.getD uIndex 0)

/-- `CRC16::CalcCrcFast` on the bytes `puchMsg[0 .. usDataLen)` -/
def calcCrcFast (puchMsg : List BYTE) : WORD :=
  let crc := puchMsg.foldl crcTurn (0xFF, 0xFF)
  crc.1 ++ crc.2

/-- The CRC-16/MODBUS of a message: reflected polynomial 0xA001, initial value 0xFFFF, no final
exclusive or. -/
def crc16Modbus (message : List BYTE) : WORD := Crc.crc 0xA001#16 0xFFFF#16 message

/-! ## The two bytes of a word -/

@[simp] theorem hibyte_append (hi lo : BYTE) : hibyte (hi ++ lo) = hi := by
  apply BitVec.eq_of_getLsbD_eq
  intro i below
  have bit : (hi ++ lo).getLsbD (8 + i) = hi.getLsbD i := by
    rw [BitVec.getLsbD_append, if_neg (by omega), Nat.add_sub_cancel_left]
  simpa only [hibyte, BitVec.getLsbD_setWidth, BitVec.getLsbD_ushiftRight, below, decide_true,
    Bool.true_and] using bit

@[simp] theorem lobyte_append (hi lo : BYTE) : lobyte (hi ++ lo) = lo := by
  apply BitVec.eq_of_getLsbD_eq
  intro i below
  have bit : (hi ++ lo).getLsbD i = lo.getLsbD i := by
    rw [BitVec.getLsbD_append, if_pos below]
  simpa only [lobyte, BitVec.getLsbD_setWidth, below, decide_true, Bool.true_and] using bit

theorem hibyte_append_lobyte (w : WORD) : hibyte w ++ lobyte w = w := by
  apply BitVec.eq_of_getLsbD_eq
  intro i small
  simp only [hibyte, lobyte, BitVec.getLsbD_append, BitVec.getLsbD_setWidth, BitVec.getLsbD_ushiftRight]
  by_cases low : i < 8
  · simp [low]
  · simp [low, show i - 8 < 8 by omega, show 8 + (i - 8) = i by omega]

/-! ## The tables -/

/-- The tables are the two halves of the table of the polynomial. -/
theorem tables_list :
    auchCRCHi = (List.range 256).map (fun i => lobyte (Crc.table 0xA001#16 (BitVec.ofNat 8 i))) ∧
      auchCRCLo = (List.range 256).map fun i => hibyte (Crc.table 0xA001#16 (BitVec.ofNat 8 i)) := by
  decide +kernel

theorem tables_eq (b : BYTE) :
    auchCRCHi.getD b.toNat 0 = lobyte (Crc.table 0xA001#16 b) ∧
      auchCRCLo.getD b.toNat 0 = hibyte (Crc.table 0xA001#16 b) := by
  obtain ⟨hi, lo⟩ := tables_list
  have inside : b.toNat < 256 := b.isLt
  rw [hi, lo]
  simp [List.getD_eq_getElem?_getD, List.getElem?_range inside]

theorem lobyte_xor (x y : WORD) : lobyte (x ^^^ y) = lobyte x ^^^ lobyte y := by
  simp [lobyte, BitVec.setWidth_xor]

theorem hibyte_xor (x y : WORD) : hibyte (x ^^^ y) = hibyte x ^^^ hibyte y := by
  simp [hibyte, BitVec.ushiftRight_xor_distrib, BitVec.setWidth_xor]

/-- One turn is one byte of the bitwise register, held with its two halves exchanged. -/
theorem crcTurn_eq (r : WORD) (b : BYTE) :
    crcTurn (lobyte r, hibyte r) b =
      (lobyte (Crc.absorb 0xA001#16 r b), hibyte (Crc.absorb 0xA001#16 r b)) := by
  have low : lobyte (r >>> 8) = hibyte r := rfl
  have high : hibyte (r >>> 8) = 0#8 := by
    unfold hibyte
    rw [← BitVec.shiftRight_add]
    exact BitVec.eq_of_toNat_eq (by simp [Nat.shiftRight_eq_div_pow, Nat.div_eq_of_lt r.isLt])
  obtain ⟨tableHi, tableLo⟩ := tables_eq (lobyte r ^^^ b)
  rw [Crc.absorb_eq_table, lobyte_xor, hibyte_xor, low, high]
  show (hibyte r ^^^ auchCRCHi.getD (lobyte r ^^^ b).toNat 0,
    auchCRCLo.getD (lobyte r ^^^ b).toNat 0) = _
  rw [tableHi, tableLo, BitVec.xor_comm, BitVec.xor_zero]
  rfl

theorem foldl_crcTurn (message : List BYTE) (r : WORD) :
    message.foldl crcTurn (lobyte r, hibyte r) =
      (lobyte (Crc.crc 0xA001#16 r message), hibyte (Crc.crc 0xA001#16 r message)) := by
  induction message generalizing r with
  | nil => rfl
  | cons b rest ih =>
      rw [List.foldl_cons, crcTurn_eq, ih]
      rfl

/-- **The table-driven checksum is the bitwise one**, its bytes exchanged. -/
theorem calcCrcFast_eq (message : List BYTE) :
    calcCrcFast message = lobyte (crc16Modbus message) ++ hibyte (crc16Modbus message) := by
  have turned := foldl_crcTurn message 0xFFFF#16
  unfold calcCrcFast
  rw [show ((0xFF, 0xFF) : BYTE × BYTE) = (lobyte 0xFFFF#16, hibyte 0xFFFF#16) by decide, turned]
  rfl

@[simp] theorem hibyte_calcCrcFast (message : List BYTE) :
    hibyte (calcCrcFast message) = lobyte (crc16Modbus message) := by
  rw [calcCrcFast_eq, hibyte_append]

@[simp] theorem lobyte_calcCrcFast (message : List BYTE) :
    lobyte (calcCrcFast message) = hibyte (crc16Modbus message) := by
  rw [calcCrcFast_eq, lobyte_append]

end TizerVision.Modbus
