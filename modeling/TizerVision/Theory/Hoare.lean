/-
# Theory.Hoare — what a program with state and exceptions guarantees of its end

`wp p Q E s` says of the run of `p` from `s` that, if it returns, the answer and the final state meet
`Q`, and if it raises, the exception and the state it is raised in meet `E`.  The programs terminate,
so `E := fun _ _ => False` says that the program returns.

* `wp_bind` and its companions follow the program text, and are a simp set.
* `wp_loop` — an invariant each turn of a counted loop keeps holds when the loop is done.
* `Keeps I p` — the invariant `I` survives `p`, however `p` ends; the rules follow the text again.
* `Returns p` — `p` does not raise.
-/
import Mathlib.Logic.Basic

namespace TizerVision.Theory

set_option autoImplicit false

variable {ε σ α β : Type}

/-! ## Postconditions -/

/-- The run of `p` from `s` ends in `Q` when it returns and in `E` when it raises. -/
def wp (p : EStateM ε σ α) (Q : α → σ → Prop) (E : ε → σ → Prop) (s : σ) : Prop :=
  match p.run s with
  | .ok a s' => Q a s'
  | .error e s' => E e s'

/-- What a `catch (...)` does to a run: it keeps the state the exception was raised in. -/
theorem run_tryCatch (p : EStateM ε σ α) (handler : ε → EStateM ε σ α) (s : σ) :
    (tryCatch p handler).run s = match p.run s with
      | .ok a s' => .ok a s'
      | .error e s' => (handler e).run s' := by
  show EStateM.tryCatch p handler s = _
  unfold EStateM.tryCatch
  cases h : p s with
  | ok a s' => simp only [EStateM.run, h]
  | error e s' =>
      simp only [EStateM.run, h]
      rfl

section Rules

variable {p : EStateM ε σ α} {f : α → EStateM ε σ β} {Q Q' : α → σ → Prop}
  {E E' : ε → σ → Prop} {s : σ}

@[simp] theorem wp_pure {a : α} : wp (pure a) Q E s ↔ Q a s := Iff.rfl

@[simp] theorem wp_throw {e : ε} : wp (throw e) Q E s ↔ E e s := Iff.rfl

@[simp] theorem wp_get {Q : σ → σ → Prop} : wp get Q E s ↔ Q s s := Iff.rfl

@[simp] theorem wp_modify {g : σ → σ} {Q : PUnit → σ → Prop} :
    wp (modify g) Q E s ↔ Q ⟨⟩ (g s) := Iff.rfl

@[simp] theorem wp_modifyGet {g : σ → α × σ} :
    wp (modifyGet g) Q E s ↔ Q (g s).1 (g s).2 := Iff.rfl

@[simp] theorem wp_bind {Q : β → σ → Prop} :
    wp (p >>= f) Q E s ↔ wp p (fun a => wp (f a) Q E) E s := by
  unfold wp
  rw [EStateM.run_bind]
  cases p.run s with
  | ok a s' => rfl
  | error e s' => rfl

@[simp] theorem wp_map {g : α → β} {Q : β → σ → Prop} :
    wp (g <$> p) Q E s ↔ wp p (fun a => Q (g a)) E s := by
  rw [← bind_pure_comp, wp_bind]
  rfl

@[simp] theorem wp_ite {c : Prop} [Decidable c] {q : EStateM ε σ α} :
    wp (if c then p else q) Q E s ↔ if c then wp p Q E s else wp q Q E s := by
  split <;> rfl

@[simp] theorem wp_tryCatch {handler : ε → EStateM ε σ α} :
    wp (tryCatch p handler) Q E s ↔ wp p Q (fun e => wp (handler e) Q E) s := by
  unfold wp
  rw [run_tryCatch]
  cases p.run s with
  | ok a s' => rfl
  | error e s' => rfl

/-- Consequence. -/
theorem wp_mono (ends : wp p Q E s) (returned : ∀ a s', Q a s' → Q' a s')
    (raised : ∀ e s', E e s' → E' e s') : wp p Q' E' s := by
  unfold wp at ends ⊢
  cases ran : p.run s with
  | ok a s' =>
      rw [ran] at ends
      exact returned a s' ends
  | error e s' =>
      rw [ran] at ends
      exact raised e s' ends

/-- Consequence for what is returned. -/
theorem wp_imp (ends : wp p Q E s) (returned : ∀ a s', Q a s' → Q' a s') : wp p Q' E s :=
  wp_mono ends returned fun _ _ raised => raised

/-- A program that returns needs no postcondition for exceptions. -/
theorem wp_of_returns (ends : wp p Q (fun _ _ => False) s)
    (returned : ∀ a s', Q a s' → Q' a s') : wp p Q' E s :=
  wp_mono ends returned fun _ _ raised => raised.elim

/-- Two facts about one run. -/
theorem wp_and (left : wp p Q E s) (right : wp p Q' E' s) :
    wp p (fun a s' => Q a s' ∧ Q' a s') (fun e s' => E e s' ∧ E' e s') s := by
  unfold wp at *
  cases ran : p.run s with
  | ok a s' =>
      rw [ran] at left right
      exact ⟨left, right⟩
  | error e s' =>
      rw [ran] at left right
      exact ⟨left, right⟩

/-- What holds of every end holds of the one that is computed. -/
theorem wp.of_ok {a : α} {s' : σ} (ends : wp p Q E s) (ran : p.run s = .ok a s') : Q a s' := by
  unfold wp at ends
  rwa [ran] at ends

/-- A program that returns is computed to an answer. -/
theorem wp.exists_ok (ends : wp p Q (fun _ _ => False) s) : ∃ a s', p.run s = .ok a s' ∧ Q a s' := by
  unfold wp at ends
  cases ran : p.run s with
  | ok a s' =>
      rw [ran] at ends
      exact ⟨a, s', rfl, ends⟩
  | error e s' =>
      rw [ran] at ends
      exact ends.elim

/-- A run ends somehow. -/
theorem not_wp_false : ¬ wp p (fun _ _ => False) (fun _ _ => False) s := by
  intro ends
  unfold wp at ends
  split at ends
  · exact ends
  · exact ends

/-- A postcondition that is equivalent to `X` wherever the run ends. -/
theorem wp_iff_of_ends {X : Prop} (ends : wp p (fun a s' => Q a s' ↔ X) (fun e s' => E e s' ↔ X) s) :
    wp p Q E s ↔ X := by
  unfold wp at ends ⊢
  split at ends
  · exact ends
  · exact ends

end Rules

/-- The state a program ends in, whether it returns or raises. -/
def finalState (p : EStateM ε σ α) (s : σ) : σ :=
  match p.run s with
  | .ok _ s' => s'
  | .error _ s' => s'

theorem wp_iff_finalState {p : EStateM ε σ α} {I : σ → Prop} {s : σ} :
    wp p (fun _ => I) (fun _ => I) s ↔ I (finalState p s) := by
  unfold wp finalState
  cases p.run s with
  | ok a s' => rfl
  | error e s' => rfl

/-! ## Counted loops -/

/-- `for (k = 0; k < n; k++)`, with the variables the body carries from turn to turn. -/
def loop (body : Nat → α → EStateM ε σ α) : Nat → α → EStateM ε σ α
  | 0, a => pure a
  | n + 1, a => do
      let a ← loop body n a
      body n a

/-- **The loop rule.**  What every turn carries one step further holds after the last. -/
theorem wp_loop {body : Nat → α → EStateM ε σ α} (I : Nat → α → σ → Prop) {E : ε → σ → Prop}
    {n : Nat} {a : α} {s : σ} (start : I 0 a s)
    (turn : ∀ k a s, k < n → I k a s → wp (body k a) (I (k + 1)) E s) :
    wp (loop body n a) (I n) E s := by
  induction n with
  | zero => exact start
  | succ n ih =>
      have before : wp (loop body n a) (I n) E s :=
        ih fun k a s below => turn k a s (Nat.lt_succ_of_lt below)
      show wp (loop body n a >>= fun a => body n a) (I (n + 1)) E s
      rw [wp_bind]
      exact wp_imp before fun a s' => turn n a s' (Nat.lt_succ_self n)

/-- A loop only depends on the turns it makes. -/
theorem loop_congr {body body' : Nat → α → EStateM ε σ α} {n : Nat}
    (same : ∀ k a, k < n → body k a = body' k a) (a : α) : loop body n a = loop body' n a := by
  induction n with
  | zero => rfl
  | succ n ih =>
      have before := ih fun k a below => same k a (Nat.lt_succ_of_lt below)
      have last : body n = body' n := funext fun a => same n a (Nat.lt_succ_self n)
      rw [loop, loop, before, last]

/-! ## Invariants -/

/-- `I` survives the program, whether it returns or raises. -/
def Keeps (I : σ → Prop) (p : EStateM ε σ α) : Prop :=
  ∀ s, I s → wp p (fun _ => I) (fun _ => I) s

namespace Keeps

variable {I : σ → Prop} {p q : EStateM ε σ α} {f : α → EStateM ε σ β}

theorem pure (a : α) : Keeps I (pure a : EStateM ε σ α) := fun _ holds => holds

theorem throw (e : ε) : Keeps I (throw e : EStateM ε σ α) := fun _ holds => holds

theorem get_bind {f : σ → EStateM ε σ α} (rest : ∀ s, Keeps I (f s)) : Keeps I (get >>= f) :=
  fun s holds => rest s s holds

/-- What was read stays known of the part of the state that the rest keeps. -/
theorem get_bind_fixed {κ : Type} (part : σ → κ) {f : σ → EStateM ε σ α}
    (rest : ∀ s, Keeps (fun t => I t ∧ part t = part s) (f s)) : Keeps I (get >>= f) :=
  fun s holds => wp_mono (rest s s ⟨holds, rfl⟩) (fun _ _ => And.left) fun _ _ => And.left

theorem modify {g : σ → σ} (kept : ∀ s, I s → I (g s)) :
    Keeps I (modify g : EStateM ε σ PUnit) := kept

theorem bind (first : Keeps I p) (rest : ∀ a, Keeps I (f a)) : Keeps I (p >>= f) := by
  intro s holds
  rw [wp_bind]
  exact wp_imp (first s holds) fun a s' kept => rest a s' kept

theorem ite {c : Prop} [Decidable c] (yes : c → Keeps I p) (no : ¬ c → Keeps I q) :
    Keeps I (if c then p else q) := by
  split
  · exact yes ‹c›
  · exact no ‹¬ c›

theorem loop {body : Nat → α → EStateM ε σ α} {n : Nat} (turn : ∀ k a, k < n → Keeps I (body k a))
    (a : α) : Keeps I (loop body n a) := by
  induction n with
  | zero => exact Keeps.pure a
  | succ n ih =>
      exact (ih fun k a below => turn k a (Nat.lt_succ_of_lt below)).bind fun a =>
        turn n a (Nat.lt_succ_self n)

/-- What the first program establishes and the second keeps, holds at the end of both. -/
theorem wp_bind_left {s : σ} (first : wp p (fun _ => I) (fun _ => I) s)
    (rest : ∀ a, Keeps I (f a)) : wp (p >>= f) (fun _ => I) (fun _ => I) s := by
  rw [wp_bind]
  exact wp_imp first fun a s' holds => rest a s' holds

end Keeps

/-! ## Programs that do not raise -/

/-- The program returns, whatever state it starts in. -/
def Returns (p : EStateM ε σ α) : Prop := ∀ s, wp p (fun _ _ => True) (fun _ _ => False) s

namespace Returns

variable {p q : EStateM ε σ α} {f : α → EStateM ε σ β}

theorem pure (a : α) : Returns (pure a : EStateM ε σ α) := fun _ => trivial

theorem modify (g : σ → σ) : Returns (modify g : EStateM ε σ PUnit) := fun _ => trivial

theorem bind (first : Returns p) (rest : ∀ a, Returns (f a)) : Returns (p >>= f) := by
  intro s
  rw [wp_bind]
  exact wp_imp (first s) fun a s' _ => rest a s'

theorem ite {c : Prop} [Decidable c] (yes : Returns p) (no : Returns q) :
    Returns (if c then p else q) := by
  split
  · exact yes
  · exact no

theorem loop {body : Nat → α → EStateM ε σ α} (turn : ∀ k a, Returns (body k a)) (n : Nat) (a : α) :
    Returns (loop body n a) := by
  induction n with
  | zero => exact Returns.pure a
  | succ n ih => exact ih.bind fun a => turn n a

theorem keeps {I : σ → Prop} {s : σ} (returns : Returns p) (kept : Keeps I p) (holds : I s) :
    wp p (fun _ => I) (fun _ _ => False) s :=
  wp_mono (wp_and (returns s) (kept s holds)) (fun _ _ both => both.2) fun _ _ both => both.1

end Returns

end TizerVision.Theory
