/-
# Theory.Mutex — one lock and the threads inside its section

A lock is seen as its owner together with the threads that are between taking and releasing it.  A step
of a thread leaves both alone, takes the lock when it is free, releases it, or leaves the section
without releasing it, as an exception does that no destructor answers.

* `Move.exclusive` — whoever is inside owns the lock, whatever the threads do.
* `Move.orphaned` — once its owner has left the section without releasing it, nothing changes any more.
* `Move.attended` — while no thread abandons the lock, its owner is inside, so that a taken lock is
  always given back by a step of its owner.
-/
import Mathlib.Logic.Function.Basic

namespace TizerVision.Theory

set_option autoImplicit false

universe u

/-- The owner of a lock and the threads in its section. -/
structure Mutex (T : Type u) where
  owner : Option T
  inside : T → Bool

namespace Mutex

variable {T : Type u} [DecidableEq T]

/-- Only the owner is inside. -/
def Exclusive (m : Mutex T) : Prop := ∀ t, m.inside t = true → m.owner = some t

/-- The owner is inside. -/
def Attended (m : Mutex T) : Prop := ∀ t, m.owner = some t → m.inside t = true

/-- What a step of a thread does with the lock; `orderly` when it does not abandon it. -/
inductive Move (t : T) (m : Mutex T) : (orderly : Bool) → Mutex T → Prop where
  | stay : Move t m true m
  | acquire (free : m.owner = none) : Move t m true ⟨some t, Function.update m.inside t true⟩
  | release (inside : m.inside t = true) : Move t m true ⟨none, Function.update m.inside t false⟩
  | abandon (inside : m.inside t = true) :
      Move t m false ⟨m.owner, Function.update m.inside t false⟩

theorem Move.exclusive {t : T} {m m' : Mutex T} {orderly : Bool} (move : Move t m orderly m')
    (exclusive : m.Exclusive) : m'.Exclusive := by
  -- a thread other than `t` is inside after the step only if it was before
  have others : ∀ (b : Bool) (t' : T), t' ≠ t → Function.update m.inside t b t' = true →
      m.owner = some t' := fun b t' other inside' =>
    exclusive t' (by rwa [Function.update_of_ne other] at inside')
  cases move with
  | stay => exact exclusive
  | acquire free =>
      intro t' inside'
      by_cases same : t' = t
      · rw [same]
      · exact absurd (free.symm.trans (others _ t' same inside')) (by simp)
  | release inside =>
      intro t' inside'
      by_cases same : t' = t
      · simp [same] at inside'
      · have owners := (exclusive t inside).symm.trans (others _ t' same inside')
        exact absurd (Option.some.inj owners).symm same
  | abandon inside =>
      intro t' inside'
      by_cases same : t' = t
      · simp [same] at inside'
      · exact others _ t' same inside'

/-- No thread gets past a lock whose owner is not inside. -/
theorem Move.orphaned {t u : T} {m m' : Mutex T} {orderly : Bool} (move : Move t m orderly m')
    (exclusive : m.Exclusive) (owner : m.owner = some u) (left : m.inside u = false) : m' = m := by
  -- whoever is inside would be the owner
  have nobody : m.inside t ≠ true := by
    intro inside
    have same := (exclusive t inside).symm.trans owner
    cases same
    rw [left] at inside
    cases inside
  cases move with
  | stay => rfl
  | acquire free => exact absurd (free.symm.trans owner) (by simp)
  | release inside => exact absurd inside nobody
  | abandon inside => exact absurd inside nobody

theorem Move.attended {t : T} {m m' : Mutex T} (move : Move t m true m') (attended : m.Attended) :
    m'.Attended := by
  cases move with
  | stay => exact attended
  | acquire free =>
      intro t' owner
      cases owner
      exact Function.update_self _ _ _
  | release inside => exact fun t' owner => nomatch owner

end Mutex

end TizerVision.Theory
