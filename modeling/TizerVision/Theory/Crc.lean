/-
# Theory.Crc — the reflected cyclic redundancy check, bit by bit and byte by byte

The register shifts right; when a one falls out, the reflected polynomial is added.  A byte is added
to the low end of the register, and then shifted through.  A shift is linear in exclusive or, so
what a byte does to the register depends on the table value of one byte only (`absorb_eq_table`):
this is what a table-driven implementation computes.

* `crc_range` — the register takes the bits of a message one by one, the low bit of a byte first.
* `shifts_eq_zero` — a polynomial with its top bit set lets no register but zero shift to zero.
* `crcBits_eq_zero_iff` — bits as many as the register is wide clear it only if they are the register.
* `crcBits_burst` — a burst of errors no longer than the register does not go unnoticed.
-/
import Mathlib.Logic.Basic

namespace TizerVision.Theory.Crc

set_option autoImplicit false

variable {w : Nat}

/-- One bit is shifted out of the register. -/
def shift (poly r : BitVec w) : BitVec w :=
  if r.getLsbD 0 then (r >>> 1) ^^^ poly else r >>> 1

def shifts (poly : BitVec w) : Nat → BitVec w → BitVec w
  | 0, r => r
  | n + 1, r => shift poly (shifts poly n r)

/-- The register after one more byte. -/
def absorb (poly r : BitVec w) (b : BitVec 8) : BitVec w :=
  shifts poly 8 (r ^^^ b.setWidth w)

/-- The register after a message. -/
def crc (poly init : BitVec w) (bytes : List (BitVec 8)) : BitVec w :=
  bytes.foldl (absorb poly) init

/-- What a table for the polynomial holds for a byte. -/
def table (poly : BitVec w) (b : BitVec 8) : BitVec w := shifts poly 8 (b.setWidth w)

theorem shift_xor (poly x y : BitVec w) :
    shift poly (x ^^^ y) = shift poly x ^^^ shift poly y := by
  have cancel : ∀ a b : BitVec w, a ^^^ b = a ^^^ poly ^^^ (b ^^^ poly) := by
    intro a b
    rw [BitVec.xor_assoc, ← BitVec.xor_assoc poly b poly, BitVec.xor_comm poly b,
      BitVec.xor_assoc b poly poly, BitVec.xor_self, BitVec.xor_zero]
  unfold shift
  rw [BitVec.getLsbD_xor, BitVec.ushiftRight_xor_distrib]
  cases x.getLsbD 0 <;> cases y.getLsbD 0
  · rfl
  · exact BitVec.xor_assoc _ _ _
  · show (x >>> 1) ^^^ (y >>> 1) ^^^ poly = (x >>> 1) ^^^ poly ^^^ (y >>> 1)
    rw [BitVec.xor_assoc, BitVec.xor_assoc, BitVec.xor_comm poly]
  · exact cancel _ _

theorem shifts_xor (poly x y : BitVec w) (n : Nat) :
    shifts poly n (x ^^^ y) = shifts poly n x ^^^ shifts poly n y := by
  induction n with
  | zero => rfl
  | succ n ih => rw [shifts, shifts, shifts, ih, shift_xor]

/-- As long as only zeros fall out, the register is only moved. -/
theorem shifts_of_low_zero (poly r : BitVec w) (n : Nat) (low : ∀ i < n, r.getLsbD i = false) :
    shifts poly n r = r >>> n := by
  induction n with
  | zero => rfl
  | succ n ih =>
      have out : (r >>> n).getLsbD 0 = false := by
        rw [BitVec.getLsbD_ushiftRight]
        exact low n (Nat.lt_succ_self n)
      rw [shifts, ih fun i below => low i (Nat.lt_succ_of_lt below), shift, out,
        BitVec.shiftRight_add]
      rfl

/-- The byte added touches the low eight bits only. -/
theorem xor_setWidth_eq (r : BitVec w) (b : BitVec 8) :
    r ^^^ b.setWidth w = (r.setWidth 8 ^^^ b).setWidth w ^^^ ((r >>> 8) <<< 8) := by
  apply BitVec.eq_of_getLsbD_eq
  intro i below
  simp only [BitVec.getLsbD_xor, BitVec.getLsbD_setWidth, BitVec.getLsbD_shiftLeft,
    BitVec.getLsbD_ushiftRight, below, decide_true, Bool.true_and]
  by_cases low : i < 8
  · simp [low]
  · have none : b.getLsbD i = false := BitVec.getLsbD_of_ge b i (by omega)
    simp [low, none, show 8 + (i - 8) = i by omega]

/-- **The table step.**  A byte moves the register by eight and adds one table value to it. -/
theorem absorb_eq_table (poly r : BitVec w) (b : BitVec 8) :
    absorb poly r b = table poly (r.setWidth 8 ^^^ b) ^^^ (r >>> 8) := by
  have moved : shifts poly 8 ((r >>> 8) <<< 8) = r >>> 8 := by
    rw [shifts_of_low_zero poly _ 8 (by intro i below; simp [below])]
    apply BitVec.eq_of_getLsbD_eq
    intro i below
    simp only [BitVec.getLsbD_ushiftRight, BitVec.getLsbD_shiftLeft]
    by_cases inside : 8 + i < w
    · simp [inside]
    · have none : r.getLsbD (8 + i) = false := BitVec.getLsbD_of_ge r _ (by omega)
      simp [none]
  rw [absorb, xor_setWidth_eq, shifts_xor, moved, table]

/-! ## Bit by bit -/

/-- The register after one more bit. -/
def absorbBit (poly r : BitVec w) (b : Bool) : BitVec w :=
  shift poly (r ^^^ (BitVec.ofBool b).setWidth w)

/-- The register after the bits `b 0` to `b (n - 1)`. -/
def crcBits (poly init : BitVec w) (b : Nat → Bool) : Nat → BitVec w
  | 0 => init
  | n + 1 => absorbBit poly (crcBits poly init b n) (b n)

/-- The bits `b 0` to `b (n - 1)` as a word, the first of them lowest. -/
def word (w : Nat) (b : Nat → Bool) : Nat → BitVec w
  | 0 => 0#w
  | n + 1 => word w b n ^^^ (BitVec.ofBool (b n)).setWidth w <<< n

/-- The bits of a message in the order of transmission. -/
def bitAt (f : Nat → BitVec 8) (i : Nat) : Bool := (f (i / 8)).getLsbD (i % 8)

theorem getLsbD_word (b : Nat → Bool) (n i : Nat) :
    (word w b n).getLsbD i = (decide (i < w) && decide (i < n) && b i) := by
  induction n with
  | zero => simp [word]
  | succ n ih =>
      rw [word, BitVec.getLsbD_xor, ih, BitVec.getLsbD_shiftLeft, BitVec.getLsbD_setWidth,
        BitVec.getLsbD_ofBool]
      by_cases inside : i < w
      · rcases Nat.lt_trichotomy i n with before | rfl | behind
        · simp [inside, before, Nat.lt_succ_of_lt before]
        · simp [inside, Nat.zero_lt_of_lt inside]
        · have far : i - n ≠ 0 := by omega
          simp [far, Nat.not_lt_of_lt behind, Nat.not_lt_of_le (Nat.succ_le_of_lt behind)]
      · simp [inside]

theorem crcBits_congr {poly r : BitVec w} {b b' : Nat → Bool} {n : Nat}
    (agree : ∀ i < n, b i = b' i) : crcBits poly r b n = crcBits poly r b' n := by
  induction n with
  | zero => rfl
  | succ n ih =>
      rw [crcBits, crcBits, ih fun i below => agree i (Nat.lt_succ_of_lt below),
        agree n (Nat.lt_succ_self n)]

theorem crcBits_add (poly r : BitVec w) (b : Nat → Bool) (n m : Nat) :
    crcBits poly r b (n + m) = crcBits poly (crcBits poly r b n) (fun i => b (n + i)) m := by
  induction m with
  | zero => rfl
  | succ m ih => rw [← Nat.add_assoc, crcBits, crcBits, ih]

/-- The register is linear in what it holds and what it takes. -/
theorem crcBits_xor (poly r r' : BitVec w) (b b' : Nat → Bool) (n : Nat) :
    crcBits poly (r ^^^ r') (fun i => b i ^^ b' i) n =
      crcBits poly r b n ^^^ crcBits poly r' b' n := by
  induction n with
  | zero => rfl
  | succ n ih =>
      have bit : (BitVec.ofBool (b n ^^ b' n)).setWidth w =
          (BitVec.ofBool (b n)).setWidth w ^^^ (BitVec.ofBool (b' n)).setWidth w := by
        rw [← BitVec.ofBool_xor_ofBool, BitVec.setWidth_xor]
      rw [crcBits, crcBits, crcBits, ih]
      simp only [absorbBit]
      rw [bit, ← shift_xor]
      congr 1
      ac_rfl

/-- Up to as many bits as the register is wide can be added at once. -/
theorem crcBits_eq_shifts (poly r : BitVec w) (b : Nat → Bool) {n : Nat} (fits : n ≤ w) :
    crcBits poly r b n = shifts poly n (r ^^^ word w b n) := by
  induction n with
  | zero => simp [crcBits, shifts, word]
  | succ n ih =>
      -- bit `n` is still at place `n` when the `n` bits before it are out
      have arrives : shifts poly n ((BitVec.ofBool (b n)).setWidth w <<< n) =
          (BitVec.ofBool (b n)).setWidth w := by
        rw [shifts_of_low_zero poly _ n (by intro i below; simp [below])]
        apply BitVec.eq_of_getLsbD_eq
        intro i below
        simp only [BitVec.getLsbD_ushiftRight, BitVec.getLsbD_shiftLeft, BitVec.getLsbD_setWidth,
          BitVec.getLsbD_ofBool]
        by_cases first : i = 0
        · simp [first, show n < w by omega, show 0 < w by omega]
        · simp [first]
      rw [crcBits, absorbBit, ih (by omega), shifts, word, ← BitVec.xor_assoc, shifts_xor poly (r ^^^ _),
        arrives]

theorem absorb_eq_crcBits (poly r : BitVec w) (x : BitVec 8) (wide : 8 ≤ w) :
    absorb poly r x = crcBits poly r x.getLsbD 8 := by
  have same : word w x.getLsbD 8 = x.setWidth w := by
    apply BitVec.eq_of_getLsbD_eq
    intro i below
    rw [getLsbD_word, BitVec.getLsbD_setWidth]
    by_cases low : i < 8
    · simp [low]
    · simp [low, BitVec.getLsbD_of_ge x i (by omega)]
  rw [crcBits_eq_shifts poly r _ wide, same, absorb]

/-- **The checksum bit by bit.** -/
theorem crc_range (poly init : BitVec w) (wide : 8 ≤ w) (f : Nat → BitVec 8) (n : Nat) :
    crc poly init ((List.range n).map f) = crcBits poly init (bitAt f) (8 * n) := by
  induction n with
  | zero => rfl
  | succ n ih =>
      have byte : ∀ i < 8, (f n).getLsbD i = bitAt f (8 * n + i) := by
        intro i below
        rw [bitAt, show (8 * n + i) / 8 = n by omega, show (8 * n + i) % 8 = i by omega]
      have step : crc poly init ((List.range (n + 1)).map f) =
          absorb poly (crc poly init ((List.range n).map f)) (f n) := by
        simp [crc, List.range_succ]
      rw [step, ih, absorb_eq_crcBits poly _ _ wide, crcBits_congr byte, ← crcBits_add, Nat.mul_succ]

/-! ## Nothing is forgotten -/

theorem shifts_zero (poly : BitVec w) (n : Nat) : shifts poly n 0#w = 0#w := by
  rw [shifts_of_low_zero poly _ n (by simp)]
  simp

theorem crcBits_of_false {poly r : BitVec w} {b : Nat → Bool} {n : Nat}
    (zeros : ∀ i < n, b i = false) : crcBits poly r b n = shifts poly n r := by
  induction n with
  | zero => rfl
  | succ n ih =>
      rw [crcBits, absorbBit, zeros n (Nat.lt_succ_self n),
        ih fun i below => zeros i (Nat.lt_succ_of_lt below), shifts]
      simp

section Monic

variable {poly : BitVec w} (monic : poly.getLsbD (w - 1) = true)

include monic

theorem shift_eq_zero {r : BitVec w} (zero : shift poly r = 0#w) : r = 0#w := by
  have wide : 0 < w := by
    rcases Nat.eq_zero_or_pos w with rfl | positive
    · simp at monic
    · exact positive
  unfold shift at zero
  cases low : r.getLsbD 0 with
  | true =>
      -- the polynomial sets the top bit, where the shifted register has none
      have top := congrArg (fun x => x.getLsbD (w - 1)) zero
      rw [if_pos low] at top
      simp [monic, show 1 + (w - 1) = w by omega] at top
  | false =>
      rw [if_neg (by simp [low])] at zero
      apply BitVec.eq_of_getLsbD_eq
      intro i below
      cases i with
      | zero => simpa using low
      | succ i =>
          have bit := congrArg (fun x => x.getLsbD i) zero
          simpa [Nat.add_comm] using bit

theorem shifts_eq_zero {r : BitVec w} {n : Nat} (zero : shifts poly n r = 0#w) : r = 0#w := by
  induction n with
  | zero => exact zero
  | succ n ih => exact ih (shift_eq_zero monic zero)

/-- Bits as many as the register is wide leave zero exactly when they are what it held. -/
theorem crcBits_eq_zero_iff (r : BitVec w) (b : Nat → Bool) :
    crcBits poly r b w = 0#w ↔ word w b w = r := by
  rw [crcBits_eq_shifts poly r b (Nat.le_refl w)]
  constructor
  · intro zero
    exact (BitVec.xor_eq_zero_iff.1 (shifts_eq_zero monic zero)).symm
  · rintro rfl
    rw [BitVec.xor_self, shifts_zero]

/-- **Bursts are detected.**  Ones that all lie within the width of the register leave it different
from zero, however many zeros surround them. -/
theorem crcBits_burst {e : Nat → Bool} {m : Nat} (start : Nat) (hit : ∃ i < m, e i = true)
    (burst : ∀ i < m, e i = true → start ≤ i ∧ i < start + w) : crcBits poly 0#w e m ≠ 0#w := by
  obtain ⟨i, below, one⟩ := hit
  obtain ⟨after, before⟩ := burst i below one
  have quiet : ∀ j < m, ¬ (start ≤ j ∧ j < start + w) → e j = false := by
    intro j inside outside
    exact Bool.eq_false_iff.2 fun set => outside (burst j inside set)
  obtain ⟨a, rest, within, covers, parts⟩ : ∃ a rest, a ≤ w ∧ (rest = 0 ∨ a = w) ∧
      m = start + (a + rest) :=
    ⟨min w (m - start), m - start - min w (m - start), by omega, by omega, by omega⟩
  -- zeros in front leave the register empty, the burst does not, and zeros behind keep it so
  have front : crcBits poly 0#w e start = 0#w := by
    rw [crcBits_of_false fun j inside => quiet j (by omega) (by omega), shifts_zero]
  have struck : word w (fun j => e (start + j)) a ≠ 0#w := by
    intro zero
    have bit : (word w (fun j => e (start + j)) a).getLsbD (i - start) = false := by
      rw [zero, BitVec.getLsbD_zero]
    have early : i - start < w ∧ i - start < a := by omega
    rw [getLsbD_word, Nat.add_sub_cancel' after, one] at bit
    simp [early] at bit
  have behind : ∀ j < rest, e (start + (a + j)) = false := by
    intro j inside
    exact quiet _ (by omega) (by omega)
  rw [parts, crcBits_add, front, crcBits_add, crcBits_of_false behind,
    crcBits_eq_shifts poly 0#w _ within, BitVec.zero_xor]
  intro zero
  exact struck (shifts_eq_zero monic (shifts_eq_zero monic zero))

end Monic

end TizerVision.Theory.Crc
