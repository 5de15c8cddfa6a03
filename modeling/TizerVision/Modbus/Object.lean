/-
# Modbus.Object — the state of a CLocalModbus object, and the port at its other end

`CModbus` keeps one query and one reply array for all its operations, `CLocalModbus` adds the buffer
responses are read into.  All three have `RESP_BUFFER*2` elements and no access to them is checked.
The model gives them every index, so that an operation means what its text says, and keeps a record
of the elements touched: what the declared size allows is then a question about the record.

The port is a parameter of the object: `port n` is all that the Windows calls of exchange `n` answer.
-/
import Mathlib.Algebra.Order.Ring.Int
import Mathlib.Tactic.Simps.Basic
import TizerVision.Theory.Hoare
import TizerVision.Modbus.Crc16

namespace TizerVision.Modbus

set_option autoImplicit false

open Theory

/-! ## The state -/

/-- The arrays that live as long as the object. -/
inductive Arr where
  | abyQuery
  | abyReply
  | abyBuffer
deriving DecidableEq, Repr

/-- `RESP_BUFFER` -/
def respBuffer : Nat := 6

/-- An element read or written. -/
structure Access where
  arr : Arr
  index : Nat
deriving DecidableEq, Repr

/-- `MODE_RTU`, `MODE_ASCII` -/
inductive Mode where
  | rtu
  | ascii
deriving DecidableEq, Repr

/-- What the port answers in one exchange.  `writeQuery` is the answer of `WriteQuery`; the two
`ReadFile` calls of `ReadResponseRTU` deliver bytes or fail.  In ASCII mode the exchange is the
business of `TxRxMessageAscii`, which may not write the query: its error code and the reply and the
buffer it leaves are taken as answers too. -/
structure Exchange where
  writeQuery : Bool
  firstRead : Option (List BYTE)
  secondRead : Option (List BYTE)
  asciiError : WORD
  asciiReply : Nat → BYTE
  asciiBuffer : Nat → BYTE

/-- A `CLocalModbus` object.  `touched` and `sent` record the elements accessed, the latest first, and
the messages handed to the open port, the latest last: in RTU mode the query with its checksum, in
ASCII mode its text. -/
structure Object where
  cell : Arr → Nat → BYTE
  /-- `m_wRetries` -/
  retries : WORD
  /-- `m_bThrowModbusException` -/
  throwing : Bool
  /-- `m_hComHandle != INVALID_HANDLE_VALUE` -/
  opened : Bool
  /-- `m_wTranmitionMode` -/
  mode : Mode
  port : Nat → Exchange
  /-- the number of exchanges made -/
  exchanges : Nat
  touched : List Access
  sent : List (List BYTE)

/-- An exchange in which the query is taken and nothing comes back. -/
def Exchange.silent : Exchange where
  writeQuery := true
  firstRead := some []
  secondRead := some []
  asciiError := 0
  asciiReply := fun _ => 0
  asciiBuffer := fun _ => 0

/-- An object with the values of the constructor, on an opened port.  The constructor leaves the
arrays as they are; here they are zero. -/
def Object.fresh (port : Nat → Exchange) : Object where
  cell := fun _ _ => 0
  retries := 1
  throwing := false
  opened := true
  mode := .rtu
  port := port
  exchanges := 0
  touched := []
  sent := []

/-- Operations end by returning or by throwing the text of `ErrorMessage`. -/
abbrev Call := EStateM String Object

/-! ## Reading and writing the arrays -/

namespace Object

/-- The first `n` elements of an array. -/
def block (s : Object) (a : Arr) (n : Nat) : List BYTE := (List.range n).map (s.cell a)

@[simps] def touch (s : Object) (a : Arr) (i : Nat) : Object :=
  { s with touched := ⟨a, i⟩ :: s.touched }

@[simps] def touchBlock (s : Object) (a : Arr) (n : Nat) : Object :=
  { s with touched := (List.range n).map (Access.mk a) ++ s.touched }

@[simps] def write (s : Object) (a : Arr) (i : Nat) (v : BYTE) : Object :=
  { s with
    cell := fun a' j => if a' = a ∧ j = i then v else s.cell a' j
    touched := ⟨a, i⟩ :: s.touched }

/-- `bytes` written from index `i` on. -/
@[simps] def writeBlock (s : Object) (a : Arr) (i : Nat) (bytes : List BYTE) : Object :=
  { s with
    cell := fun a' j =>
      if a' = a ∧ i ≤ j ∧ j < i + bytes.length then bytes.getD (j - i) 0 else s.cell a' j
    touched := (List.range bytes.length).map (fun k => ⟨a, i + k⟩) ++ s.touched }

/-- The next exchange begins. -/
@[simps] def beginExchange (s : Object) : Object := { s with exchanges := s.exchanges + 1 }

/-- An array gets new contents, without a record. -/
@[simps] def replace (s : Object) (a : Arr) (contents : Nat → BYTE) : Object :=
  { s with cell := fun a' i => if a' = a then contents i else s.cell a' i }

@[simps] def send (s : Object) (frame : List BYTE) : Object := { s with sent := s.sent ++ [frame] }

end Object

def load (a : Arr) (i : Nat) : Call BYTE := fun s => .ok (s.cell a i) (s.touch a i)

def loadBlock (a : Arr) (n : Nat) : Call (List BYTE) :=
  fun s => .ok (s.block a n) (s.touchBlock a n)

def store (a : Arr) (i : Nat) (v : BYTE) : Call Unit := modify (·.write a i v)

def storeBlock (a : Arr) (i : Nat) (bytes : List BYTE) : Call Unit :=
  modify (·.writeBlock a i bytes)

/-! ## Their rules -/

section Rules

variable {a : Arr} {i n : Nat} {v : BYTE} {bytes : List BYTE} {E : String → Object → Prop}
  {s : Object}

@[simp] theorem wp_load {Q : BYTE → Object → Prop} :
    wp (load a i) Q E s ↔ Q (s.cell a i) (s.touch a i) := Iff.rfl

@[simp] theorem wp_loadBlock {Q : List BYTE → Object → Prop} :
    wp (loadBlock a n) Q E s ↔ Q (s.block a n) (s.touchBlock a n) := Iff.rfl

@[simp] theorem wp_store {Q : Unit → Object → Prop} :
    wp (store a i v) Q E s ↔ Q () (s.write a i v) := Iff.rfl

@[simp] theorem wp_storeBlock {Q : Unit → Object → Prop} :
    wp (storeBlock a i bytes) Q E s ↔ Q () (s.writeBlock a i bytes) := Iff.rfl

theorem load_returns (a : Arr) (i : Nat) : Returns (load a i) := fun _ => trivial

variable {I : Object → Prop}

theorem keeps_load (kept : ∀ s, I s → I (s.touch a i)) : Keeps I (load a i) := kept

theorem keeps_loadBlock (kept : ∀ s, I s → I (s.touchBlock a n)) : Keeps I (loadBlock a n) := kept

theorem keeps_store (kept : ∀ s, I s → I (s.write a i v)) : Keeps I (store a i v) := kept

theorem keeps_storeBlock (kept : ∀ s, I s → I (s.writeBlock a i bytes)) :
    Keeps I (storeBlock a i bytes) := kept

end Rules

@[simp] theorem Object.length_block (s : Object) (a : Arr) (n : Nat) : (s.block a n).length = n := by
  simp [Object.block]

theorem Object.getD_block (s : Object) (a : Arr) {n i : Nat} (below : i < n) (d : BYTE) :
    (s.block a n).getD i d = s.cell a i := by
  simp [Object.block, below]

theorem Object.block_succ (s : Object) (a : Arr) (n : Nat) :
    s.block a (n + 1) = s.block a n ++ [s.cell a n] := by
  simp [Object.block, List.range_succ]

theorem Object.block_add (s : Object) (a : Arr) (n m : Nat) :
    s.block a (n + m) = s.block a n ++ (List.range m).map fun j => s.cell a (n + j) := by
  simp only [Object.block, List.range_add, List.map_append, List.map_map]
  rfl

@[simp] theorem Object.writeBlock_nil (s : Object) (a : Arr) (i : Nat) : s.writeBlock a i [] = s := by
  have nowhere : ∀ j, ¬ (i ≤ j ∧ j < i) := fun j => by omega
  simp [Object.writeBlock, nowhere]

theorem Object.block_congr {s t : Object} {a : Arr} {n : Nat}
    (agree : ∀ i < n, t.cell a i = s.cell a i) : t.block a n = s.block a n := by
  apply List.map_congr_left
  intro i inside
  exact agree i (List.mem_range.1 inside)

/-- An array that holds a list from its start. -/
theorem Object.block_eq {s : Object} {a : Arr} {bytes : List BYTE} {n : Nat}
    (length : bytes.length = n) (holds : ∀ i < n, s.cell a i = bytes.getD i 0) :
    s.block a n = bytes := by
  subst length
  apply List.ext_getElem
  · rw [Object.length_block]
  · intro i _ below
    simp [Object.block, holds i below, below]

theorem Object.take_block (s : Object) (a : Arr) {n m : Nat} (shorter : m ≤ n) :
    (s.block a n).take m = s.block a m := by
  rw [Object.block, ← List.map_take, List.take_range, Nat.min_eq_left shorter, Object.block]

/-- A byte written behind a block makes it longer by one. -/
theorem Object.block_write (s : Object) (a : Arr) (n : Nat) (v : BYTE) :
    (s.write a n v).block a (n + 1) = s.block a n ++ [v] := by
  have before : (s.write a n v).block a n = s.block a n := by
    apply Object.block_congr
    intro i inside
    rw [Object.write_cell, if_neg (by omega)]
  rw [Object.block_succ, before, Object.write_cell, if_pos ⟨rfl, rfl⟩]

theorem Object.block_writeBlock (s : Object) (a : Arr) (bytes : List BYTE) :
    (s.writeBlock a 0 bytes).block a bytes.length = bytes := by
  apply Object.block_eq rfl
  intro i below
  simp [below]

/-- Bytes written from the start of an array. -/
theorem Object.writeBlock_zero (s : Object) (a : Arr) (bytes : List BYTE) (j : Nat) :
    (s.writeBlock a 0 bytes).cell a j = bytes.getD j (s.cell a j) := by
  by_cases inside : j < bytes.length
  · simp [inside]
  · simp [inside]

/-- Bytes written behind others. -/
theorem Object.writeBlock_append (s : Object) (a : Arr) (first second : List BYTE) (j : Nat) :
    ((s.writeBlock a 0 first).writeBlock a first.length second).cell a j =
      (first ++ second).getD j (s.cell a j) := by
  by_cases inFirst : j < first.length
  · simp [inFirst, Nat.not_le_of_lt inFirst, List.getElem?_append_left]
  · have behind : first.length ≤ j := Nat.le_of_not_lt inFirst
    by_cases inSecond : j < first.length + second.length
    · have inside : j - first.length < second.length := by omega
      simp [inSecond, behind, inside]
    · simp [inSecond, inFirst]

end TizerVision.Modbus
