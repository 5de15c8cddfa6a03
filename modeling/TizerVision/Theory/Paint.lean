/-
# Theory.Paint — a function changed at one place after the other

`paint f updates` carries out assignments in order.  A place that is assigned to once shows the value
assigned, and a place that is not assigned to keeps its own.  `paint_image` is for assignments to the
places an injective function gives: the places it reaches show the value of their origin.
-/
import Mathlib.Logic.Function.Basic
import Mathlib.Data.List.Nodup

namespace TizerVision.Theory

set_option autoImplicit false

universe u v

variable {α : Type u} {β : Type v} [DecidableEq α]

def paint (f : α → β) (updates : List (α × β)) : α → β :=
  updates.foldl (fun g update => Function.update g update.1 update.2) f

@[simp] theorem paint_nil (f : α → β) : paint f [] = f := rfl

@[simp] theorem paint_cons (f : α → β) (update : α × β) (updates : List (α × β)) :
    paint f (update :: updates) = paint (Function.update f update.1 update.2) updates := rfl

theorem paint_of_not_mem (f : α → β) {updates : List (α × β)} {a : α}
    (other : ∀ update ∈ updates, update.1 ≠ a) : paint f updates a = f a := by
  induction updates generalizing f with
  | nil => rfl
  | cons update updates ih =>
      rw [paint_cons, ih _ fun u member => other u (List.mem_cons_of_mem _ member)]
      exact Function.update_of_ne (other update List.mem_cons_self).symm _ _

/-- A value assigned for every point of a list, to the place an injective function gives it. -/
theorem paint_image {γ : Type*} (f : α → β) (place : γ → α) (value : γ → β) {points : List γ}
    (apart : ∀ p ∈ points, ∀ q ∈ points, place p = place q → p = q) {p : γ} (member : p ∈ points) :
    paint f (points.map fun q => (place q, value q)) (place p) = value p := by
  induction points generalizing f with
  | nil => cases member
  | cons q points ih =>
      rw [List.map_cons, paint_cons]
      by_cases later : p ∈ points
      · exact ih _ (fun a ha b hb => apart a (List.mem_cons_of_mem _ ha) b (List.mem_cons_of_mem _ hb))
          later
      · -- the first point is painted over by none of the others
        obtain rfl : p = q := (List.mem_cons.1 member).resolve_right later
        rw [paint_of_not_mem]
        · exact Function.update_self _ _ _
        · intro update painted same
          obtain ⟨r, old, rfl⟩ := List.mem_map.1 painted
          have : r = p := apart r (List.mem_cons_of_mem _ old) p List.mem_cons_self same
          exact later (this ▸ old)

end TizerVision.Theory
