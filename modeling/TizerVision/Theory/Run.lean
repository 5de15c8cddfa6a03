/-
# Theory.Run — runs of a step function, and runs whose every step meets a condition

A system is a step function `σ → α → Option σ`: the action `α` is the scheduler's choice and
everything the environment decides, `none` is an action that is not enabled.  `Run step ok s as s'`
says that the actions `as` lead from `s` to `s'` and that each of them met `ok` in the state it was
taken in.  `ok := Free` leaves the scheduler free.

* `Run.invariant` — an invariant every conforming step keeps holds wherever a conforming run ends.
* `Run.invariant_trace` — the same for an invariant about the actions taken and the state.
* `Run.free` — a conforming run is a run.
* `Run.simulate` — where each step of one system is a run of another, seen through an abstraction, so is
  each run.
* `Run.reach` — a condition is reached where every state short of it has a step that lowers a rank.
* `forall_prefix_iff` — where an invariant makes a property of the next state equivalent to a condition
  on the action, the property holds all along exactly when every action meets the condition.
* `exec_run` — a computed execution is a run, so a concrete interleaving is checked by evaluation.
-/
import Mathlib.Logic.Basic
import Mathlib.Data.Option.Basic

namespace TizerVision.Theory

set_option autoImplicit false

universe u v

variable {σ : Type u} {α : Type v}

/-- The condition every step meets. -/
def Free (_ : σ) (_ : α) : Prop := True

instance (s : σ) (a : α) : Decidable (Free s a) := inferInstanceAs (Decidable True)

/-- The actions `as` lead from `s` to `s'`, each of them meeting `ok` where it is taken. -/
inductive Run (step : σ → α → Option σ) (ok : σ → α → Prop) : σ → List α → σ → Prop where
  | nil (s : σ) : Run step ok s [] s
  | cons {s s' s'' : σ} {a : α} {as : List α} (met : ok s a) (taken : step s a = some s')
      (rest : Run step ok s' as s'') : Run step ok s (a :: as) s''

/-- The execution of a list of actions, `none` as soon as one of them is not enabled or does not
meet the condition. -/
def exec (step : σ → α → Option σ) (ok : σ → α → Prop) [∀ s a, Decidable (ok s a)] :
    σ → List α → Option σ
  | s, [] => some s
  | s, a :: as => if ok s a then (step s a).bind fun s' => exec step ok s' as else none

namespace Run

variable {step : σ → α → Option σ} {ok : σ → α → Prop}

/-- **The invariant rule.**  What one conforming step keeps, a conforming run keeps. -/
theorem invariant {I : σ → Prop}
    (keeps : ∀ s a s', I s → ok s a → step s a = some s' → I s')
    {s s' : σ} {as : List α} (run : Run step ok s as s') (start : I s) : I s' := by
  induction run with
  | nil s => exact start
  | cons met taken _ ih => exact ih (keeps _ _ _ start met taken)

/-- The invariant rule for an invariant that also speaks about the actions taken so far. -/
theorem invariant_trace {I : List α → σ → Prop}
    (keeps : ∀ past s a s', I past s → ok s a → step s a = some s' → I (past ++ [a]) s')
    {s s' : σ} {as past : List α} (run : Run step ok s as s') (start : I past s) :
    I (past ++ as) s' := by
  induction run generalizing past with
  | nil s => rwa [List.append_nil]
  | cons met taken _ ih =>
      have rest := ih (keeps past _ _ _ start met taken)
      rwa [List.append_assoc] at rest

theorem mono {ok' : σ → α → Prop} (weaker : ∀ s a, ok s a → ok' s a)
    {s s' : σ} {as : List α} (run : Run step ok s as s') : Run step ok' s as s' := by
  induction run with
  | nil s => exact .nil s
  | cons met taken _ ih => exact .cons (weaker _ _ met) taken ih

theorem free {s s' : σ} {as : List α} (run : Run step ok s as s') : Run step Free s as s' :=
  run.mono fun _ _ _ => trivial

theorem append {s s' s'' : σ} {as bs : List α} (first : Run step ok s as s')
    (second : Run step ok s' bs s'') : Run step ok s (as ++ bs) s'' := by
  induction first with
  | nil s => exact second
  | cons met taken _ ih => exact .cons met taken (ih second)

theorem split {s s'' : σ} {as bs : List α} (run : Run step ok s (as ++ bs) s'') :
    ∃ s', Run step ok s as s' ∧ Run step ok s' bs s'' := by
  induction as generalizing s with
  | nil => exact ⟨s, .nil s, run⟩
  | cons a as ih =>
      cases run with
      | cons met taken rest =>
          obtain ⟨s', first, second⟩ := ih rest
          exact ⟨s', .cons met taken first, second⟩

/-- **The simulation rule.**  Under an invariant, what one step does is seen through `abs` as a run of
another system; then so is what a run does. -/
theorem simulate {τ : Type*} {β : Type*} {step' : τ → β → Option τ} {ok' : τ → β → Prop}
    {I : σ → Prop} (abs : σ → τ)
    (keeps : ∀ s a s', I s → ok s a → step s a = some s' → I s')
    (follows : ∀ s a s', I s → ok s a → step s a = some s' →
      ∃ bs, Run step' ok' (abs s) bs (abs s'))
    {s s' : σ} {as : List α} (run : Run step ok s as s') (start : I s) :
    ∃ bs, Run step' ok' (abs s) bs (abs s') := by
  induction run with
  | nil s => exact ⟨[], .nil _⟩
  | cons met taken _ ih =>
      obtain ⟨bs, first⟩ := follows _ _ _ start met taken
      obtain ⟨cs, second⟩ := ih (keeps _ _ _ start met taken)
      exact ⟨bs ++ cs, first.append second⟩

/-- **The ranking rule.**  Under an invariant, every state short of the goal has a conforming step that
lowers the rank; then the goal is reached. -/
theorem reach {I goal : σ → Prop} (rank : σ → Nat)
    (advance : ∀ s, I s → ¬ goal s → ∃ a s', ok s a ∧ step s a = some s' ∧ I s' ∧ rank s' < rank s)
    {s : σ} (start : I s) : ∃ as s', Run step ok s as s' ∧ I s' ∧ goal s' := by
  -- strong induction on the rank, by a bound that the rank stays below
  suffices bounded : ∀ n s, rank s < n → I s → ∃ as s', Run step ok s as s' ∧ I s' ∧ goal s' from
    bounded (rank s + 1) s (Nat.lt_succ_self _) start
  intro n
  induction n with
  | zero => exact fun s below => absurd below (Nat.not_lt_zero _)
  | succ n ih =>
      intro s below inv
      by_cases done : goal s
      · exact ⟨[], s, .nil s, inv, done⟩
      · obtain ⟨a, s', met, taken, inv', lower⟩ := advance s inv done
        obtain ⟨as, s'', rest, ends⟩ := ih s' (by omega) inv'
        exact ⟨a :: as, s'', .cons met taken rest, ends⟩

end Run

theorem exec_run {step : σ → α → Option σ} {ok : σ → α → Prop} [∀ s a, Decidable (ok s a)]
    {s s' : σ} {as : List α} (computed : exec step ok s as = some s') : Run step ok s as s' := by
  induction as generalizing s with
  | nil =>
      cases computed
      exact .nil _
  | cons a as ih =>
      simp only [exec] at computed
      split at computed
      · rename_i met
        obtain ⟨middle, taken, rest⟩ := Option.bind_eq_some_iff.1 computed
        exact .cons met taken (ih rest)
      · cases computed

/-- What a computed execution shows of its last state, some conforming run reaches. -/
theorem exists_run_of_exec {β : Type*} (step : σ → α → Option σ) (ok : σ → α → Prop)
    [∀ s a, Decidable (ok s a)] (s : σ) (as : List α) (f : σ → β) {b : β}
    (computed : (exec step ok s as).map f = some b) : ∃ s', Run step ok s as s' ∧ f s' = b := by
  obtain ⟨s', reached, shown⟩ := Option.map_eq_some_iff.1 computed
  exact ⟨s', exec_run reached, shown⟩

/-- **The prefix rule**, for a step function that is total.  While the invariant `J` holds, the property
`P` of the next state is equivalent to the condition `M` on the action, and an action that meets it
keeps `J`: then `P` holds after every prefix of the actions exactly when each of them meets `M`. -/
theorem forall_prefix_iff {step : σ → α → σ} {J P : σ → Prop} {M : σ → α → Prop}
    (holds : ∀ s, J s → P s) (exact_step : ∀ s a, J s → (P (step s a) ↔ M s a))
    (keeps : ∀ s a, J s → M s a → J (step s a)) (as : List α) {s : σ} (start : J s) :
    (∀ n, P ((as.take n).foldl step s)) ↔
      ∀ n a, as[n]? = some a → M ((as.take n).foldl step s) a := by
  induction as generalizing s with
  | nil =>
      refine iff_of_true (fun n => ?_) fun n a found => by simp at found
      rw [List.take_nil]
      exact holds s start
  | cons a as ih =>
      -- state `n + 1` of the run is state `n` of the run behind the first action
      have shift : ∀ n, ((a :: as).take (n + 1)).foldl step s =
          (as.take n).foldl step (step s a) := fun _ => rfl
      constructor
      · intro all
        have meets : M s a := (exact_step s a start).1 (all 1)
        have rest := (ih (keeps s a start meets)).1 fun n => shift n ▸ all (n + 1)
        intro n b found
        cases n with
        | zero =>
            obtain rfl : a = b := by simpa using found
            exact meets
        | succ n =>
            rw [shift]
            exact rest n b (by simpa using found)
      · intro all
        have meets : M s a := all 0 a rfl
        have rest := (ih (keeps s a start meets)).2 fun n b found =>
          shift n ▸ all (n + 1) b (by simpa using found)
        intro n
        cases n with
        | zero => exact holds s start
        | succ n =>
            rw [shift]
            exact rest n

end TizerVision.Theory
