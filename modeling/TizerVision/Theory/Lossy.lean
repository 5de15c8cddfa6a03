/-
# Theory.Lossy — calls over a link that loses requests and answers

A call has an effect on a store and is answered from the store.  Over a link that loses messages the
caller gets the answer, or nothing: the request may then have been carried out or not.  `Served` says
what a store can be after a call, by what the caller got.

* `Served.again` — a call that changes nothing when it is repeated may be repeated until it is answered:
  for the store and for the caller that is one call.
* `History.kept` — what no call of a history can change is as it was, whatever was lost.
* `History.split` — a history up to one of its calls, the call, and what follows.
-/
import Mathlib.Logic.Basic
import Mathlib.Data.List.Induction

namespace TizerVision.Theory

set_option autoImplicit false

universe u v w

variable {σ : Type u} {κ : Type v} {ρ : Type w}

/-- The store before and after a call, and what the caller got. -/
inductive Served (effect : κ → σ → σ) (answer : κ → σ → ρ) (k : κ) : Option ρ → σ → σ → Prop where
  | answered (s : σ) : Served effect answer k (some (answer k s)) s (effect k s)
  /-- the request was lost -/
  | lost (s : σ) : Served effect answer k none s s
  /-- the answer was lost -/
  | unanswered (s : σ) : Served effect answer k none s (effect k s)

/-- The calls of a history with what their caller got, and the store before and after it. -/
inductive History (effect : κ → σ → σ) (answer : κ → σ → ρ) : σ → List (κ × Option ρ) → σ → Prop where
  | nil (s : σ) : History effect answer s [] s
  | snoc {s s' s'' : σ} {log : List (κ × Option ρ)} {k : κ} {got : Option ρ}
      (before : History effect answer s log s') (last : Served effect answer k got s' s'') :
      History effect answer s (log ++ [(k, got)]) s''

variable {effect : κ → σ → σ} {answer : κ → σ → ρ} {k : κ} {got : Option ρ} {s s' s'' : σ}

namespace Served

/-- **Repeating a call.**  An attempt without an answer and the attempts that follow it are one call. -/
theorem again (idempotent : ∀ s, effect k (effect k s) = effect k s)
    (stable : ∀ s, answer k (effect k s) = answer k s)
    (first : Served effect answer k none s s') (rest : Served effect answer k got s' s'') :
    Served effect answer k got s s'' := by
  cases first with
  | lost => exact rest
  | unanswered =>
      cases rest with
      | answered =>
          rw [stable, idempotent]
          exact .answered s
      | lost => exact .unanswered s
      | unanswered =>
          rw [idempotent]
          exact .unanswered s

/-- A call that was answered was carried out. -/
theorem of_some {r : ρ} (served : Served effect answer k (some r) s s') :
    r = answer k s ∧ s' = effect k s := by
  cases served with
  | answered => exact ⟨rfl, rfl⟩

theorem kept {τ : Type*} (f : σ → τ) (blind : ∀ s, f (effect k s) = f s)
    (served : Served effect answer k got s s') : f s' = f s := by
  cases served with
  | answered => exact blind s
  | lost => rfl
  | unanswered => exact blind s

end Served

namespace History

variable {log : List (κ × Option ρ)}

/-- **What no call changes.** -/
theorem kept {τ : Type*} (f : σ → τ) (history : History effect answer s log s')
    (blind : ∀ call ∈ log, ∀ s, f (effect call.1 s) = f s) : f s' = f s := by
  induction history with
  | nil => rfl
  | snoc _ last ih =>
      rw [last.kept f (blind _ (List.mem_append_right _ (List.mem_singleton_self _)))]
      exact ih fun call member => blind call (List.mem_append_left _ member)

theorem of_append {log log' : List (κ × Option ρ)} (history : History effect answer s (log ++ log') s'') :
    ∃ s', History effect answer s log s' ∧ History effect answer s' log' s'' := by
  -- from the back: the last call of `log'` is the last of the history
  induction log' using List.reverseRecOn generalizing s'' with
  | nil =>
      rw [List.append_nil] at history
      exact ⟨s'', history, .nil s''⟩
  | append_singleton log' call ih =>
      rw [← List.append_assoc] at history
      generalize whole : log ++ log' ++ [call] = all at history
      cases history with
      | nil => simp at whole
      | snoc before last =>
          obtain ⟨rfl, same⟩ := List.append_inj' whole rfl
          obtain rfl := List.singleton_inj.1 same
          obtain ⟨s', first, second⟩ := ih before
          exact ⟨s', first, .snoc second last⟩

/-- A history around one of its calls. -/
theorem split {before behind : List (κ × Option ρ)}
    (history : History effect answer s (before ++ (k, got) :: behind) s'') :
    ∃ s₁ s₂, History effect answer s before s₁ ∧ Served effect answer k got s₁ s₂ ∧
      History effect answer s₂ behind s'' := by
  rw [List.append_cons] at history
  obtain ⟨s₂, first, rest⟩ := history.of_append
  generalize whole : before ++ [(k, got)] = all at first
  cases first with
  | nil => simp at whole
  | snoc earlier last =>
      obtain ⟨rfl, same⟩ := List.append_inj' whole rfl
      cases List.singleton_inj.1 same
      exact ⟨_, s₂, earlier, last, rest⟩

end History

end TizerVision.Theory
