/-
# Theory.Polling — loops that ask their environment in every turn

A polling loop takes one answer of its environment in every turn and then goes on or stops.  The
answers are a list.  A loop that has not stopped when the list is used up is still running and has no
result; whether it ever stops is a question about the answers.

* `poll_invariant` — what every turn keeps holds in the turn that stops.
* `poll_simulates` — two loops whose turns match on the same answers stop together.
* `exists_taken_iff` — an answer that stops the loop was among those it has taken.
* `stops_again_iff`, `stops_stop_iff` — one turn of a loop whose environment never stops answering.
* `exists_stops` — such a loop stops if every turn that goes on comes nearer to the end.
-/
import Mathlib.Logic.Basic

namespace TizerVision.Theory

set_option autoImplicit false

universe u v w

variable {σ σ' : Type u} {α : Type v} {ρ ρ' : Type w}

/-- What a turn comes to. -/
inductive Turn (σ : Type u) (ρ : Type w) where
  | again (s : σ)
  | stop (r : ρ)

/-- The result of the loop from state `s` on these answers, `none` while it is running. -/
def poll (turn : σ → α → Turn σ ρ) (s : σ) : List α → Option ρ
  | [] => none
  | a :: answers =>
      match turn s a with
      | .again s' => poll turn s' answers
      | .stop r => some r

section Rules

variable {turn : σ → α → Turn σ ρ} {turn' : σ' → α → Turn σ' ρ'} {s : σ} {a : α}
  {answers : List α}

/-- A turn that goes on meets `I`, and one that stops meets `Q`. -/
def Turn.Meets (I : σ → Prop) (Q : ρ → Prop) : Turn σ ρ → Prop
  | .again s => I s
  | .stop r => Q r

theorem Turn.Meets.imp {I J : σ → Prop} {Q : ρ → Prop} {x : Turn σ ρ} (met : x.Meets I Q)
    (weaker : ∀ s, I s → J s) : x.Meets J Q := by
  cases x with
  | again s => exact weaker s met
  | stop r => exact met

/-- **The invariant rule.** -/
theorem poll_invariant {I : σ → Prop} {Q : ρ → Prop} (turns : ∀ s a, I s → (turn s a).Meets I Q)
    {r : ρ} (start : I s) (result : poll turn s answers = some r) : Q r := by
  induction answers generalizing s with
  | nil => cases result
  | cons a answers ih =>
      have met := turns s a start
      rw [poll] at result
      generalize turn s a = x at met result
      cases x with
      | again s' => exact ih met result
      | stop r' =>
          cases result
          exact met

/-- The turns of two loops come to the same. -/
inductive Turn.Matches (R : σ → σ' → Prop) (T : ρ → ρ' → Prop) : Turn σ ρ → Turn σ' ρ' → Prop where
  | again {s : σ} {s' : σ'} (related : R s s') : Matches R T (.again s) (.again s')
  | stop {r : ρ} {r' : ρ'} (related : T r r') : Matches R T (.stop r) (.stop r')

/-- Turns that match, in front of rests that match. -/
theorem poll_cons_matches {R : σ → σ' → Prop} {T : ρ → ρ' → Prop} {s' : σ'} {a' : α}
    {answers' : List α} {r : ρ} (both : (turn s a).Matches R T (turn' s' a'))
    (rest : ∀ t t', R t t' → poll turn t answers = some r →
      ∃ r', poll turn' t' answers' = some r' ∧ T r r')
    (result : poll turn s (a :: answers) = some r) :
    ∃ r', poll turn' s' (a' :: answers') = some r' ∧ T r r' := by
  rw [poll] at result ⊢
  generalize turn s a = x at both result
  generalize turn' s' a' = y at both ⊢
  cases both with
  | again related => exact rest _ _ related result
  | stop related =>
      cases result
      exact ⟨_, rfl, related⟩

/-- **The simulation rule.** -/
theorem poll_simulates {R : σ → σ' → Prop} {T : ρ → ρ' → Prop}
    (turns : ∀ s s' a, R s s' → (turn s a).Matches R T (turn' s' a)) {s' : σ'} {r : ρ}
    (start : R s s') (result : poll turn s answers = some r) :
    ∃ r', poll turn' s' answers = some r' ∧ T r r' := by
  induction answers generalizing s s' with
  | nil => cases result
  | cons a answers ih =>
      exact poll_cons_matches (turns s s' a start) (fun _ _ related => ih related) result

/-- The answers the loop has taken. -/
def taken (turn : σ → α → Turn σ ρ) (s : σ) : List α → List α
  | [] => []
  | a :: answers =>
      a :: match turn s a with
        | .again s' => taken turn s' answers
        | .stop _ => []

/-- If exactly the answers in `bad` stop the loop with a result in `Bad`, then it has such a result iff
it has taken such an answer. -/
theorem exists_taken_iff {bad : α → Prop} {Bad : ρ → Prop}
    (turns : ∀ s a, bad a ↔ ∃ r, turn s a = .stop r ∧ Bad r) :
    (∃ a ∈ taken turn s answers, bad a) ↔ ∃ r, poll turn s answers = some r ∧ Bad r := by
  induction answers generalizing s with
  | nil => simp [taken, poll]
  | cons a answers ih =>
      simp only [taken, poll, List.mem_cons, exists_eq_or_imp, turns s a]
      cases turn s a with
      | again s' => simp [ih]
      | stop r => simp

end Rules

/-! ## An environment that never stops answering -/

/-- On this sequence of answers the loop stops with `r`. -/
def Stops (turn : σ → α → Turn σ ρ) (s : σ) (answers : Nat → α) (r : ρ) : Prop :=
  ∃ n, poll turn s ((List.range n).map answers) = some r

section Stops

variable {turn : σ → α → Turn σ ρ} {s : σ} {answers : Nat → α} {r : ρ}

theorem stops_iff_succ :
    Stops turn s answers r ↔
      ∃ n, poll turn s (answers 0 :: (List.range n).map fun k => answers (k + 1)) = some r := by
  have first : ∀ n, (List.range (n + 1)).map answers =
      answers 0 :: (List.range n).map fun k => answers (k + 1) := by
    intro n
    rw [List.range_succ_eq_map, List.map_cons, List.map_map]
    rfl
  constructor
  · rintro ⟨n, stops⟩
    cases n with
    | zero => cases stops
    | succ n => exact ⟨n, first n ▸ stops⟩
  · rintro ⟨n, stops⟩
    exact ⟨n + 1, (first n).symm ▸ stops⟩

theorem stops_again_iff {s' : σ} (again : turn s (answers 0) = .again s') :
    Stops turn s answers r ↔ Stops turn s' (fun k => answers (k + 1)) r := by
  simp only [stops_iff_succ (s := s), poll, again]
  rfl

theorem stops_stop_iff {r' : ρ} (stop : turn s (answers 0) = .stop r') :
    Stops turn s answers r ↔ r = r' := by
  simp only [stops_iff_succ, poll, stop, Option.some.injEq, exists_const]
  exact eq_comm

/-- **The termination rule.**  `I n` is what holds before turn `n`. -/
theorem exists_stops {I : Nat → σ → Prop} {Q : ρ → Prop} (measure : σ → Nat)
    (turns : ∀ n s, I n s →
      (turn s (answers n)).Meets (fun s' => I (n + 1) s' ∧ measure s' < measure s) Q)
    {n : Nat} (start : I n s) : ∃ r, Stops turn s (fun k => answers (n + k)) r ∧ Q r := by
  induction size : measure s using Nat.strongRecOn generalizing n s with
  | ind size ih =>
      have met := turns n s start
      cases first : turn s (answers n) with
      | again s' =>
          rw [first] at met
          obtain ⟨r, stops, ends⟩ := ih (measure s') (size ▸ met.2) met.1 rfl
          refine ⟨r, (stops_again_iff first).2 ?_, ends⟩
          have shifted : (fun k => answers (n + (k + 1))) = fun k => answers (n + 1 + k) :=
            funext fun k => congrArg answers (by omega)
          rw [shifted]
          exact stops
      | stop r =>
          rw [first] at met
          exact ⟨r, (stops_stop_iff first).2 rfl, met⟩

end Stops

end TizerVision.Theory
