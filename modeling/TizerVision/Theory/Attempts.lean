/-
# Theory.Attempts — a loop that gives up at the first failure

`forUntil body l b` runs `body` for the elements of a list, carrying a value along, until it answers
`none` for one: a `for` with a `return` in it.  `untilFails ok l` are the elements it gets to, the one
that fails included.

* `wp_forUntil` — if each turn puts its entries in front of a ledger, the loop puts those of the elements
  it gets to there, the latest first.
* `mem_untilFails_iff` — in a list that is ordered, it gets to the elements before which none fails.
-/
import TizerVision.Theory.Hoare

namespace TizerVision.Theory

set_option autoImplicit false

variable {ε σ α β γ : Type}

def forUntil (body : α → β → EStateM ε σ (Option β)) : List α → β → EStateM ε σ (Option β)
  | [], b => pure (some b)
  | a :: l, b => do
      match ← body a b with
      | some b => forUntil body l b
      | none => pure none

/-- The elements up to the first that is not `ok`, and that one. -/
def untilFails (ok : α → Prop) [DecidablePred ok] : List α → List α
  | [] => []
  | a :: l => a :: if ok a then untilFails ok l else []

section Rules

variable {ok : α → Prop} [DecidablePred ok]

/-- **The loop rule.**  `left a` is what the turn for `a` enters in the ledger, `next` the value it goes
on with. -/
theorem wp_forUntil {body : α → β → EStateM ε σ (Option β)} {ledger : σ → List γ} {left : α → List γ}
    {E : ε → σ → Prop} {l : List α} (next : β → α → β)
    (turn : ∀ a ∈ l, ∀ b s, wp (body a b) (fun r s' =>
      r = (if ok a then some (next b a) else none) ∧ ledger s' = left a ++ ledger s) E s)
    (b : β) (s : σ) :
    wp (forUntil body l b) (fun r s' =>
      r = (if ∀ a ∈ l, ok a then some (l.foldl next b) else none) ∧
      ledger s' = (untilFails ok l).reverse.flatMap left ++ ledger s) E s := by
  induction l generalizing b s with
  | nil => exact ⟨(if_pos fun a member => absurd member List.not_mem_nil).symm, rfl⟩
  | cons a l ih =>
      rw [forUntil, wp_bind]
      apply wp_imp (turn a List.mem_cons_self b s)
      rintro r s' ⟨rfl, entered⟩
      by_cases good : ok a
      · rw [if_pos good]
        apply wp_imp (ih (fun a' member => turn a' (List.mem_cons_of_mem a member)) (next b a) s')
        rintro r s'' ⟨rfl, rest⟩
        refine ⟨?_, ?_⟩
        · simp only [List.forall_mem_cons, good, true_and, List.foldl_cons]
        · rw [rest, entered, untilFails, if_pos good, List.reverse_cons, List.flatMap_append,
            List.flatMap_singleton, List.append_assoc]
      · rw [if_neg good]
        refine ⟨?_, ?_⟩
        · exact (if_neg fun all => good (all a List.mem_cons_self)).symm
        · rw [entered, untilFails, if_neg good, List.reverse_singleton, List.flatMap_singleton]

theorem untilFails_eq_self {l : List α} (all : ∀ a ∈ l, ok a) : untilFails ok l = l := by
  induction l with
  | nil => rfl
  | cons a l ih =>
      rw [untilFails, if_pos (all a List.mem_cons_self),
        ih fun a' member => all a' (List.mem_cons_of_mem a member)]

/-- **What a loop over an ordered list gets to.** -/
theorem mem_untilFails_iff {before : α → α → Prop} (asymm : ∀ a b, before a b → ¬ before b a)
    {l : List α} (ordered : l.Pairwise before) {a : α} :
    a ∈ untilFails ok l ↔ a ∈ l ∧ ∀ b ∈ l, before b a → ok b := by
  induction l with
  | nil => simp [untilFails]
  | cons first l ih =>
      obtain ⟨least, rest⟩ := List.pairwise_cons.1 ordered
      have head : ∀ b ∈ first :: l, before b first → ok b := by
        intro b member earlier
        rcases List.mem_cons.1 member with rfl | member
        · exact absurd earlier (asymm b b earlier)
        · exact absurd earlier (asymm first b (least b member))
      rw [untilFails, List.mem_cons, List.mem_cons]
      constructor
      · rintro (rfl | reached)
        · exact ⟨.inl rfl, head⟩
        · by_cases good : ok first
          · rw [if_pos good] at reached
            obtain ⟨member, earlier⟩ := (ih rest).1 reached
            refine ⟨.inr member, fun b other => ?_⟩
            rcases List.mem_cons.1 other with rfl | other
            · exact fun _ => good
            · exact earlier b other
          · rw [if_neg good] at reached
            cases reached
      · rintro ⟨rfl | member, earlier⟩
        · exact .inl rfl
        · have good := earlier first List.mem_cons_self (least a member)
          rw [if_pos good]
          exact .inr ((ih rest).2 ⟨member, fun b other => earlier b (List.mem_cons_of_mem _ other)⟩)

end Rules

end TizerVision.Theory
