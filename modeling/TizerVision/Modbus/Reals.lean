/-
# Modbus.Reals — floats and doubles as registers

`Word2Dbl`, `Word2Float`, `Dbl2Word` and `Float2Word` copy arrays of numbers to arrays of words and back,
word by word through a `WORD*`, with the words of each number in order (`REAL_NORMAL`) or reversed (any
other type).  `PresetSingleRegister` has its own copy of the two permutations for one number.

A destination is the state of the program that fills it, so that what it held before is part of the
model.  Numbers are bit patterns: nothing here looks at their value.

* `wp_word2Real`, `wp_real2Word` — what the loops leave, word by word, and that the rest is untouched.
* `reals_round_trip` — the two directions are inverse for both orders and every length, and one number
  is sent as an array of one would be.
-/
import TizerVision.Modbus.Frame

namespace TizerVision.Modbus

set_option autoImplicit false

open Theory

/-! ## Words of a number -/

/-- `*(pwDest+i) = word` for a `WORD*` into a number -/
def setWord {w : Nat} (number : BitVec w) (i : Nat) (word : WORD) : BitVec w :=
  number &&& ~~~((BitVec.allOnes 16).setWidth w <<< (16 * i)) ||| word.setWidth w <<< (16 * i)

section Words

variable {w : Nat}

theorem getLsbD_wordOf (number : BitVec w) (i bit : Nat) :
    (wordOf number i).getLsbD bit = (decide (bit < 16) && number.getLsbD (16 * i + bit)) := by
  rw [wordOf, BitVec.getLsbD_setWidth, BitVec.getLsbD_ushiftRight]

theorem getLsbD_setWord (number : BitVec w) (word : WORD) {i place : Nat} (inside : place < w) :
    (setWord number i word).getLsbD place =
      (number.getLsbD place && !(!decide (place < 16 * i) && decide (place - 16 * i < 16)) ||
        !decide (place < 16 * i) && word.getLsbD (place - 16 * i)) := by
  have narrow : place - 16 * i < w := by omega
  simp only [setWord, BitVec.getLsbD_or, BitVec.getLsbD_and, BitVec.getLsbD_not,
    BitVec.getLsbD_shiftLeft, BitVec.getLsbD_setWidth, BitVec.getLsbD_allOnes, inside, narrow,
    decide_true, Bool.true_and]

/-- A bit of the word that is set. -/
theorem getLsbD_setWord_same (number : BitVec w) (word : WORD) {i bit : Nat} (low : bit < 16)
    (inside : 16 * i + bit < w) :
    (setWord number i word).getLsbD (16 * i + bit) = word.getLsbD bit := by
  have place : 16 * i + bit - 16 * i = bit := by omega
  have above : ¬ 16 * i + bit < 16 * i := by omega
  simp [getLsbD_setWord number word inside, place, above, low]

/-- A bit of another word. -/
theorem getLsbD_setWord_other (number : BitVec w) (word : WORD) {i place : Nat}
    (other : place < 16 * i ∨ 16 * (i + 1) ≤ place) :
    (setWord number i word).getLsbD place = number.getLsbD place := by
  by_cases inside : place < w
  · rcases other with below | above
    · simp [getLsbD_setWord number word inside, below]
    · have high : ¬ place - 16 * i < 16 := by omega
      have none : word.getLsbD (place - 16 * i) = false := BitVec.getLsbD_of_ge _ _ (by omega)
      simp [getLsbD_setWord number word inside, high, none]
  · rw [BitVec.getLsbD_of_ge _ _ (by omega), BitVec.getLsbD_of_ge _ _ (by omega)]

theorem wordOf_setWord_same (number : BitVec w) (word : WORD) {i : Nat} (inside : 16 * (i + 1) ≤ w) :
    wordOf (setWord number i word) i = word := by
  apply BitVec.eq_of_getLsbD_eq
  intro bit low
  rw [getLsbD_wordOf, getLsbD_setWord_same number word low (by omega), decide_eq_true low,
    Bool.true_and]

theorem wordOf_setWord_other (number : BitVec w) (word : WORD) {i j : Nat} (other : j ≠ i) :
    wordOf (setWord number i word) j = wordOf number j := by
  apply BitVec.eq_of_getLsbD_eq
  intro bit low
  rw [getLsbD_wordOf, getLsbD_wordOf, getLsbD_setWord_other number word (by omega)]

/-- A number is its words. -/
theorem eq_of_wordOf_eq {k : Nat} (size : w = 16 * k) {x y : BitVec w}
    (words : ∀ i < k, wordOf x i = wordOf y i) : x = y := by
  apply BitVec.eq_of_getLsbD_eq
  intro place inside
  have bits := congrArg (fun word => word.getLsbD (place % 16)) (words (place / 16) (by omega))
  have split : 16 * (place / 16) + place % 16 = place := by omega
  have low : place % 16 < 16 := by omega
  simpa only [getLsbD_wordOf, split, low, decide_true, Bool.true_and] using bits

end Words

/-! ## The order of the words -/

/-- `REAL_REVERSE` -/
def REAL_REVERSE : WORD := 1

/-- The word of a number of `k` words that is copied from or to the `j`-th: `j` itself, or `k - 1 - j`. -/
def wordIndex (k : Nat) (wRealType : WORD) (j : Nat) : Nat :=
  if wRealType = REAL_NORMAL then j else k - 1 - j

section Order

variable {k j : Nat} (wRealType : WORD)

theorem wordIndex_lt (inside : j < k) : wordIndex k wRealType j < k := by
  unfold wordIndex
  split <;> omega

/-- The order is its own inverse. -/
theorem wordIndex_wordIndex (inside : j < k) : wordIndex k wRealType (wordIndex k wRealType j) = j := by
  unfold wordIndex
  split
  · rfl
  · omega

end Order

/-! ## The four loops -/

/-- An `ASSERT` that does not hold. -/
inductive Assertion where
  | failed

/-- A function that fills an array. -/
abbrev Filling (α : Type) := EStateM Assertion (Nat → α)

/-- One turn of `Word2Dbl` and `Word2Float`: the `k` words of number `i`. -/
def copyNumber (k : Nat) {w : Nat} (pawSrc : Nat → WORD) (wRealType : WORD) (i : Nat) :
    Filling (BitVec w) Unit :=
  loop (fun j _ => modify fun padDest : Nat → BitVec w => Function.update padDest i
    (setWord (padDest i) j (pawSrc (k * i + wordIndex k wRealType j)))) k ()

def word2Real (k : Nat) {w : Nat} (pawSrc : Nat → WORD) (iSrcSize iDestSize : Nat)
    (wRealType : WORD) : Filling (BitVec w) Unit :=
  if iSrcSize = k * iDestSize then loop (fun i _ => copyNumber k pawSrc wRealType i) iDestSize ()
  else throw Assertion.failed

def word2Dbl (pawSrc : Nat → WORD) (iSrcSize iDestSize : Nat) (wRealType : WORD) :
    Filling (BitVec 64) Unit :=
  word2Real 4 pawSrc iSrcSize iDestSize wRealType

def word2Float (pawSrc : Nat → WORD) (iSrcSize iDestSize : Nat) (wRealType : WORD) :
    Filling (BitVec 32) Unit :=
  word2Real 2 pawSrc iSrcSize iDestSize wRealType

/-- One turn of `Dbl2Word` and `Float2Word`. -/
def copyWords (k : Nat) {w : Nat} (padSrc : Nat → BitVec w) (wRealType : WORD) (i : Nat) :
    Filling WORD Unit :=
  loop (fun j _ => modify fun pawDest : Nat → WORD => Function.update pawDest (k * i + j)
    (wordOf (padSrc i) (wordIndex k wRealType j))) k ()

def real2Word (k : Nat) {w : Nat} (padSrc : Nat → BitVec w) (iSrcSize iDestSize : Nat)
    (wRealType : WORD) : Filling WORD Unit :=
  if k * iSrcSize = iDestSize then loop (fun i _ => copyWords k padSrc wRealType i) iSrcSize ()
  else throw Assertion.failed

def dbl2Word (padSrc : Nat → BitVec 64) (iSrcSize iDestSize : Nat) (wRealType : WORD) :
    Filling WORD Unit :=
  real2Word 4 padSrc iSrcSize iDestSize wRealType

def float2Word (padSrc : Nat → BitVec 32) (iSrcSize iDestSize : Nat) (wRealType : WORD) :
    Filling WORD Unit :=
  real2Word 2 padSrc iSrcSize iDestSize wRealType

section Loops

variable {k w : Nat} (wRealType : WORD)

theorem wp_copyNumber (room : 16 * k ≤ w) (pawSrc : Nat → WORD) (i : Nat) (before : Nat → BitVec w) :
    wp (copyNumber k pawSrc wRealType i) (fun _ filled =>
      (∀ j < k, wordOf (filled i) j = pawSrc (k * i + wordIndex k wRealType j)) ∧
      ∀ a ≠ i, filled a = before a) (fun _ _ => False) before := by
  refine wp_loop (fun b (_ : Unit) (filled : Nat → BitVec w) =>
    (∀ j < b, wordOf (filled i) j = pawSrc (k * i + wordIndex k wRealType j)) ∧
    ∀ a ≠ i, filled a = before a) ⟨fun j below => absurd below (Nat.not_lt_zero j), fun _ _ => rfl⟩ ?_
  rintro b _ filled below ⟨copied, others⟩
  rw [wp_modify]
  refine ⟨fun j upTo => ?_, fun a other => ?_⟩
  · rw [Function.update_self]
    by_cases same : j = b
    · rw [same, wordOf_setWord_same _ _ (by omega)]
    · rw [wordOf_setWord_other _ _ same]
      exact copied j (by omega)
  · rw [Function.update_of_ne other]
    exact others a other

/-- **The numbers after the loop**, word by word; what is behind them is untouched. -/
theorem wp_word2Real (room : 16 * k ≤ w) (pawSrc : Nat → WORD) (n : Nat) (padDest : Nat → BitVec w) :
    wp (word2Real k pawSrc (k * n) n wRealType) (fun _ filled =>
      (∀ i < n, ∀ j < k, wordOf (filled i) j = pawSrc (k * i + wordIndex k wRealType j)) ∧
      ∀ i ≥ n, filled i = padDest i) (fun _ _ => False) padDest := by
  rw [word2Real, if_pos rfl]
  refine wp_loop (fun i (_ : Unit) (filled : Nat → BitVec w) =>
    (∀ a < i, ∀ j < k, wordOf (filled a) j = pawSrc (k * a + wordIndex k wRealType j)) ∧
    ∀ a ≥ i, filled a = padDest a) ⟨fun a below => absurd below (Nat.not_lt_zero a), fun _ _ => rfl⟩ ?_
  rintro i _ before - ⟨done, rest⟩
  apply wp_imp (wp_copyNumber wRealType room pawSrc i before)
  rintro _ filled ⟨copied, others⟩
  refine ⟨fun a below => ?_, fun a above => ?_⟩
  · by_cases same : a = i
    · exact same ▸ copied
    · rw [others a same]
      exact done a (by omega)
  · rw [others a (by omega)]
    exact rest a (by omega)

theorem wp_copyWords (padSrc : Nat → BitVec w) (i : Nat) (before : Nat → WORD) :
    wp (copyWords k padSrc wRealType i) (fun _ filled =>
      (∀ j < k, filled (k * i + j) = wordOf (padSrc i) (wordIndex k wRealType j)) ∧
      ∀ place, place < k * i ∨ k * i + k ≤ place → filled place = before place)
      (fun _ _ => False) before := by
  refine wp_loop (fun b (_ : Unit) (filled : Nat → WORD) =>
    (∀ j < b, filled (k * i + j) = wordOf (padSrc i) (wordIndex k wRealType j)) ∧
    ∀ place, place < k * i ∨ k * i + b ≤ place → filled place = before place)
    ⟨fun j below => absurd below (Nat.not_lt_zero j), fun _ _ => rfl⟩ ?_
  rintro b _ filled below ⟨copied, others⟩
  rw [wp_modify]
  refine ⟨fun j upTo => ?_, fun place outside => ?_⟩
  · by_cases same : j = b
    · rw [same, Function.update_self]
    · rw [Function.update_of_ne (by omega)]
      exact copied j (by omega)
  · rw [Function.update_of_ne (by omega)]
    exact others place (by omega)

/-- **The words after the loop.** -/
theorem wp_real2Word (padSrc : Nat → BitVec w) (n : Nat) (pawDest : Nat → WORD) :
    wp (real2Word k padSrc n (k * n) wRealType) (fun _ filled =>
      (∀ i < n, ∀ j < k, filled (k * i + j) = wordOf (padSrc i) (wordIndex k wRealType j)) ∧
      ∀ place ≥ k * n, filled place = pawDest place) (fun _ _ => False) pawDest := by
  rw [real2Word, if_pos rfl]
  refine wp_loop (fun i (_ : Unit) (filled : Nat → WORD) =>
    (∀ a < i, ∀ j < k, filled (k * a + j) = wordOf (padSrc a) (wordIndex k wRealType j)) ∧
    ∀ place ≥ k * i, filled place = pawDest place)
    ⟨fun a below => absurd below (Nat.not_lt_zero a), fun _ _ => rfl⟩ ?_
  rintro i _ before - ⟨done, rest⟩
  apply wp_imp (wp_copyWords wRealType padSrc i before)
  rintro _ filled ⟨copied, others⟩
  have next : k * (i + 1) = k * i + k := Nat.mul_succ k i
  refine ⟨fun a below j inside => ?_, fun place above => ?_⟩
  · by_cases same : a = i
    · rw [same]
      exact copied j inside
    · have earlier : k * (a + 1) ≤ k * i := Nat.mul_le_mul_left k (by omega)
      rw [Nat.mul_succ] at earlier
      rw [others _ (by omega)]
      exact done a (by omega) j inside
  · rw [others place (by omega)]
    exact rest place (by omega)

end Loops

/-! ## There and back -/

/-- The program fills an array with what meets `Q`, whatever the array held; no `ASSERT` fails. -/
def Fills {α : Type} (p : Filling α Unit) (Q : (Nat → α) → Prop) : Prop :=
  ∀ before, wp p (fun _ => Q) (fun _ _ => False) before

section RoundTrip

variable {k w : Nat} (size : w = 16 * k) (wRealType : WORD) (n : Nat)

include size

theorem word2Real_real2Word (padSrc : Nat → BitVec w) :
    Fills (real2Word k padSrc n (k * n) wRealType) fun words =>
      Fills (word2Real k words (k * n) n wRealType) fun numbers : Nat → BitVec w =>
        ∀ i < n, numbers i = padSrc i := by
  intro pawDest
  apply wp_imp (wp_real2Word wRealType padSrc n pawDest)
  rintro _ words ⟨written, -⟩ padDest
  apply wp_imp (wp_word2Real wRealType (Nat.le_of_eq size.symm) words n padDest)
  rintro _ numbers ⟨read, -⟩ i below
  apply eq_of_wordOf_eq size
  intro j inside
  rw [read i below j inside, written i below _ (wordIndex_lt wRealType inside),
    wordIndex_wordIndex wRealType inside]

theorem real2Word_word2Real (pawSrc : Nat → WORD) :
    Fills (word2Real k pawSrc (k * n) n wRealType) fun numbers : Nat → BitVec w =>
      Fills (real2Word k numbers n (k * n) wRealType) fun words =>
        ∀ place < k * n, words place = pawSrc place := by
  intro padDest
  apply wp_imp (wp_word2Real wRealType (Nat.le_of_eq size.symm) pawSrc n padDest)
  rintro _ numbers ⟨read, -⟩ pawDest
  apply wp_imp (wp_real2Word wRealType numbers n pawDest)
  rintro _ words ⟨written, -⟩ place inside
  have some_word : 0 < k := Nat.pos_of_ne_zero fun none => by simp [none] at inside
  have below : place / k < n := Nat.div_lt_of_lt_mul inside
  have low : place % k < k := Nat.mod_lt place some_word
  have copied := written (place / k) below (place % k) low
  rw [read _ below _ (wordIndex_lt wRealType low), wordIndex_wordIndex wRealType low,
    Nat.div_add_mod] at copied
  exact copied

end RoundTrip

/-! ## One number -/

/-- The query depends on the registers that are written only. -/
theorem presetMultipleRegisters_congr (txRxMessage : Nat → Nat → Call WORD)
    (nAddr nDataStart : WORD) {nQtd : WORD} {value value' : Nat → WORD}
    (same : ∀ i < nQtd.toNat, value i = value' i) :
    presetMultipleRegisters txRxMessage nAddr nDataStart nQtd value =
      presetMultipleRegisters txRxMessage nAddr nDataStart nQtd value' := by
  have packed : loop (packRegister value) nQtd.toNat () = loop (packRegister value') nQtd.toNat () := by
    apply loop_congr
    intro i _ below
    rw [packRegister, packRegister, same i below]
  rw [presetMultipleRegisters, presetMultipleRegisters, fillRegisters, fillRegisters, packed]

/-- The registers of one number. -/
theorem fills_one {k w : Nat} (wRealType : WORD) (number : BitVec w) :
    Fills (real2Word k (fun _ => number) 1 k wRealType) fun anRegs =>
      ∀ i < k, anRegs i = wordOf number (wordIndex k wRealType i) := by
  intro pawDest
  have copied := wp_real2Word (k := k) wRealType (fun _ => number) 1 pawDest
  rw [Nat.mul_one] at copied
  apply wp_imp copied
  rintro _ anRegs ⟨written, -⟩ i below
  have first := written 0 Nat.zero_lt_one i below
  rwa [Nat.mul_zero, Nat.zero_add] at first

/-- The float 1.0, its high word first. -/
example : (List.range 2).map (fun i => wordOf 0x3F800000#32 (wordIndex 2 REAL_REVERSE i)) =
    [0x3F80, 0] := by decide

/-- The call sends exactly these registers: it is `PresetMultipleRegisters` of them, over an open port
it sends a frame, and every frame of it on an RTU line decodes to them. -/
structure SendsRegisters (call : (Nat → Nat → Call WORD) → Call WORD) (nAddr nRegister nQtd : WORD)
    (anRegs : Nat → WORD) : Prop where
  preset : ∀ txRxMessage, call txRxMessage =
    presetMultipleRegisters txRxMessage nAddr nRegister nQtd anRegs
  sends : ∀ s : Object, s.opened = true → s.messagesOf (call txRxMessage) ≠ []
  frames : ∀ s : Object, s.mode = .rtu → nAddr.toNat < 256 →
    ∀ frame ∈ s.messagesOf (call txRxMessage),
      Presets frame nAddr nRegister nQtd ((List.range nQtd.toNat).map anRegs)

/-- A call that presets these registers sends them. -/
theorem sendsRegisters_of_preset {call : (Nat → Nat → Call WORD) → Call WORD}
    {nAddr nRegister nQtd : WORD} {anRegs : Nat → WORD} (few : nQtd.toNat ≤ 123)
    (preset : ∀ txRxMessage, call txRxMessage =
      presetMultipleRegisters txRxMessage nAddr nRegister nQtd anRegs) :
    SendsRegisters call nAddr nRegister nQtd anRegs := by
  refine ⟨preset, fun s opened => ?_, fun s rtu address frame member => ?_⟩
  · rw [preset]
    exact preset_sends s nAddr nRegister nQtd anRegs opened few
  · rw [preset] at member
    rw [preset_frame_eq s nAddr nRegister nQtd anRegs rtu few frame member]
    exact presets_presetMessage nRegister anRegs address few

theorem presetSingleRegisterFloat_sends (nAddr nRegister : WORD) (fRegValue : BitVec 32)
    (wRealType : WORD) :
    Fills (float2Word (fun _ => fRegValue) 1 2 wRealType) fun anRegs => SendsRegisters
      (fun txRxMessage => presetSingleRegisterFloat txRxMessage nAddr nRegister fRegValue wRealType)
      nAddr nRegister 2 anRegs := by
  intro pawDest
  apply wp_imp (fills_one wRealType fRegValue pawDest)
  intro _ anRegs copied
  apply sendsRegisters_of_preset (by decide)
  intro txRxMessage
  apply presetMultipleRegisters_congr
  intro i below
  rw [copied i below, wordIndex, apply_ite (wordOf fRegValue)]

theorem presetSingleRegisterDouble_sends (nAddr nRegister : WORD) (dRegValue : BitVec 64)
    (wRealType : WORD) :
    Fills (dbl2Word (fun _ => dRegValue) 1 4 wRealType) fun anRegs => SendsRegisters
      (fun txRxMessage => presetSingleRegisterDouble txRxMessage nAddr nRegister dRegValue wRealType)
      nAddr nRegister 4 anRegs := by
  intro pawDest
  apply wp_imp (fills_one wRealType dRegValue pawDest)
  intro _ anRegs copied
  apply sendsRegisters_of_preset (by decide)
  intro txRxMessage
  apply presetMultipleRegisters_congr
  intro i below
  rw [copied i below, wordIndex, apply_ite (wordOf dRegValue)]

/-- **The codec of floats and doubles.**  For every type and length, words made of numbers give the
numbers back and numbers made of words give the words back; `PresetSingleRegister` sends for one number,
over every open port, the words the array functions make of it. -/
theorem reals_round_trip (wRealType : WORD) (n : Nat) :
    (∀ padSrc, Fills (dbl2Word padSrc n (4 * n) wRealType) fun words =>
      Fills (word2Dbl words (4 * n) n wRealType) fun numbers => ∀ i < n, numbers i = padSrc i) ∧
    (∀ pawSrc, Fills (word2Dbl pawSrc (4 * n) n wRealType) fun numbers =>
      Fills (dbl2Word numbers n (4 * n) wRealType) fun words => ∀ i < 4 * n, words i = pawSrc i) ∧
    (∀ padSrc, Fills (float2Word padSrc n (2 * n) wRealType) fun words =>
      Fills (word2Float words (2 * n) n wRealType) fun numbers => ∀ i < n, numbers i = padSrc i) ∧
    (∀ pawSrc, Fills (word2Float pawSrc (2 * n) n wRealType) fun numbers =>
      Fills (float2Word numbers n (2 * n) wRealType) fun words => ∀ i < 2 * n, words i = pawSrc i) ∧
    (∀ nAddr nRegister fRegValue, Fills (float2Word (fun _ => fRegValue) 1 2 wRealType) fun anRegs =>
      SendsRegisters (fun txRxMessage =>
        presetSingleRegisterFloat txRxMessage nAddr nRegister fRegValue wRealType)
        nAddr nRegister 2 anRegs) ∧
    ∀ nAddr nRegister dRegValue, Fills (dbl2Word (fun _ => dRegValue) 1 4 wRealType) fun anRegs =>
      SendsRegisters (fun txRxMessage =>
        presetSingleRegisterDouble txRxMessage nAddr nRegister dRegValue wRealType)
        nAddr nRegister 4 anRegs := by
  refine ⟨?_, ?_, ?_, ?_, ?_, ?_⟩
  · exact word2Real_real2Word (by decide) wRealType n
  · exact real2Word_word2Real (by decide) wRealType n
  · exact word2Real_real2Word (by decide) wRealType n
  · exact real2Word_word2Real (by decide) wRealType n
  · exact fun nAddr nRegister fRegValue =>
      presetSingleRegisterFloat_sends nAddr nRegister fRegValue wRealType
  · exact fun nAddr nRegister dRegValue =>
      presetSingleRegisterDouble_sends nAddr nRegister dRegValue wRealType

end TizerVision.Modbus
