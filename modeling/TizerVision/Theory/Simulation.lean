/-
# Theory.Simulation — programs with state and exceptions, seen through an observation

A program `EStateM ε σ α` simulates a smaller one over `o` when observing its final state and its
answer gives exactly what the smaller program does from the observed initial state: it returns or
raises at the same point, with the same observed state.  The rules follow the program text, so a
simulation of a long program is assembled statement by statement.
-/
import TizerVision.Theory.Hoare
import Mathlib.Logic.Function.Basic

namespace TizerVision.Theory

set_option autoImplicit false

variable {ε σ o α β γ δ : Type}

/-- The result of a run with its state and its answer observed. -/
def observe (obs : σ → o) (view : α → β) : EStateM.Result ε σ α → EStateM.Result ε o β
  | .ok a s => .ok (view a) (obs s)
  | .error e s => .error e (obs s)

/-- **Simulation.** Observing a run of `p` gives the run of `q` from the observed state. -/
def Simulates (obs : σ → o) (view : α → β) (p : EStateM ε σ α) (q : EStateM ε o β) : Prop :=
  ∀ s, observe obs view (p.run s) = q.run (obs s)

/-- A sequence that returns: its first program returned, and so did the rest. -/
theorem run_bind_eq_ok {p : EStateM ε σ α} {f : α → EStateM ε σ β} {s s' : σ} {b : β}
    (returned : (p >>= f).run s = .ok b s') :
    ∃ a s₁, p.run s = .ok a s₁ ∧ (f a).run s₁ = .ok b s' := by
  rw [EStateM.run_bind] at returned
  cases first : p.run s with
  | ok a s₁ =>
      rw [first] at returned
      exact ⟨a, s₁, rfl, returned⟩
  | error e s₁ =>
      rw [first] at returned
      cases returned

namespace Simulates

variable {obs : σ → o} {view : α → β} {view' : γ → δ}

theorem pure {a : α} {b : β} (seen : view a = b) :
    Simulates (ε := ε) obs view (pure a) (pure b) := by
  intro s
  subst seen
  rfl

theorem throw (e : ε) :
    Simulates obs view (throw e : EStateM ε σ α) (throw e : EStateM ε o β) := fun _ => rfl

/-- One statement after another: the continuation may use only what is seen of the answer. -/
theorem bind {p : EStateM ε σ α} {q : EStateM ε o β} {f : α → EStateM ε σ γ}
    {g : β → EStateM ε o δ} (first : Simulates obs view p q)
    (rest : ∀ a, Simulates obs view' (f a) (g (view a))) :
    Simulates obs view' (p >>= f) (q >>= g) := by
  intro s
  have seen := first s
  rw [EStateM.run_bind, EStateM.run_bind, ← seen]
  cases p.run s with
  | ok a s₁ => exact rest a s₁
  | error e s₁ => rfl

/-- A statement whose answer and effect are not observed. -/
theorem skip {p : EStateM ε σ α} {f : α → EStateM ε σ γ} {q : EStateM ε o δ}
    (silent : ∀ s, ∃ a s', p.run s = .ok a s' ∧ obs s' = obs s)
    (rest : ∀ a, Simulates obs view' (f a) q) :
    Simulates obs view' (p >>= f) q := by
  intro s
  obtain ⟨a, s', ran, same⟩ := silent s
  rw [EStateM.run_bind, ran, ← same]
  exact rest a s'

/-- A last statement that only repacks the answer. -/
theorem repack {p : EStateM ε σ α} {q : EStateM ε o β} {f : α → γ} {view' : γ → β}
    (body : Simulates obs view p q) (seen : ∀ a, view' (f a) = view a) :
    Simulates obs view' (p >>= fun a => Pure.pure (f a)) q := by
  intro s
  rw [← body s, EStateM.run_bind]
  cases p.run s with
  | ok a s₁ =>
      show EStateM.Result.ok (view' (f a)) (obs s₁) = _
      rw [seen]
      rfl
  | error e s₁ => rfl

/-- A handler that catches everything, on both sides. -/
theorem tryCatch {p p' : EStateM ε σ α} {q q' : EStateM ε o β} (body : Simulates obs view p q)
    (handler : Simulates obs view p' q') :
    Simulates obs view (tryCatch p fun _ => p') (tryCatch q fun _ => q') := by
  intro s
  have seen := body s
  rw [run_tryCatch, run_tryCatch, ← seen]
  cases p.run s with
  | ok a s₁ => rfl
  | error e s₁ => exact handler s₁

/-- Both branches of a test that both programs make. -/
theorem ite {c : Prop} [Decidable c] {p p' : EStateM ε σ α} {q q' : EStateM ε o β}
    (yes : c → Simulates obs view p q) (no : ¬ c → Simulates obs view p' q') :
    Simulates obs view (if c then p else p') (if c then q else q') := by
  by_cases h : c
  · rw [if_pos h, if_pos h]
    exact yes h
  · rw [if_neg h, if_neg h]
    exact no h

end Simulates

end TizerVision.Theory
