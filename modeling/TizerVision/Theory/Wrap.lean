/-
# Theory.Wrap — counters that start again at 1

A counter is increased before it is used and set back to 1 when it has passed its maximum.  `bump` is that
step; `iterate_bump` says which value the counter has after any number of steps, and `iterate_bump_eq_iff`
when two of these values are the same.
-/
import Mathlib.Data.Nat.ModEq
import Mathlib.Logic.Function.Iterate

namespace TizerVision.Theory

set_option autoImplicit false

/-- `counter++; if (counter > maximum) counter = 1;` -/
def bump (maximum counter : Nat) : Nat := if counter + 1 > maximum then 1 else counter + 1

section Values

variable {maximum : Nat} (positive : 0 < maximum)

include positive

/-- **The value after some steps**, from a start that is not above the maximum. -/
theorem iterate_bump {start : Nat} (below : start ≤ maximum) (steps : Nat) :
    (bump maximum)^[steps + 1] start = (start + steps) % maximum + 1 := by
  induction steps with
  | zero =>
      show bump maximum start = _
      unfold bump
      split
      · have full : start + 0 = maximum := by omega
        rw [full, Nat.mod_self]
      · rw [Nat.add_zero, Nat.mod_eq_of_lt (by omega)]
  | succ steps ih =>
      have less := Nat.mod_lt (start + steps) positive
      have shift : (start + (steps + 1)) % maximum = ((start + steps) % maximum + 1) % maximum := by
        rw [← Nat.add_assoc, Nat.mod_add_mod]
      rw [Function.iterate_succ_apply', ih, bump, shift]
      by_cases last : (start + steps) % maximum + 1 = maximum
      · rw [if_pos (by omega), last, Nat.mod_self]
      · have before : (start + steps) % maximum + 1 < maximum := by omega
        rw [if_neg (by omega), Nat.mod_eq_of_lt before]

/-- Two values of a counter that starts at 0 are the same when the numbers of steps are, or when they
differ by whole rounds. -/
theorem iterate_bump_eq_iff (a b : Nat) :
    (bump maximum)^[a] 0 = (bump maximum)^[b] 0 ↔
      a = b ∨ 1 ≤ a ∧ 1 ≤ b ∧ a % maximum = b % maximum := by
  have next : ∀ k, (bump maximum)^[k + 1] 0 = k % maximum + 1 := fun k => by
    rw [iterate_bump positive (Nat.zero_le _), Nat.zero_add]
  have shifted : ∀ j k, j % maximum = k % maximum ↔ (j + 1) % maximum = (k + 1) % maximum :=
    fun j k => ⟨Nat.ModEq.add_right 1, Nat.ModEq.add_right_cancel' 1⟩
  cases a with
  | zero =>
      cases b with
      | zero => simp
      | succ b =>
          rw [next]
          simp
  | succ a =>
      cases b with
      | zero =>
          rw [next]
          simp
      | succ b =>
          rw [next, next, Nat.add_right_cancel_iff, shifted]
          constructor
          · intro same
            exact .inr ⟨by omega, by omega, same⟩
          · rintro (same | ⟨-, -, same⟩)
            · rw [same]
            · exact same

end Values

end TizerVision.Theory
