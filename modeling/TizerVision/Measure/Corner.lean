/-
# Measure.Corner — what `search_corner_circle` makes of the radius it finds

The radius of the arc selected last is converted to a `double` in an inner `try` block, into a variable of
its own; the checks at the end see the one declared before it, which is 0.  So every corner is judged as
one without a radius: the status becomes 1 and the radius is replaced by a number around 78.5.

* `wp_searchCornerCircle` — what a search without exceptions leaves, for every list of arcs.
* `corner_verdict_iff` — the verdict is the one the checks are written for exactly when no arc is selected
  or the radius of the one selected last would have been replaced anyway.
-/
import TizerVision.Measure.Tolerance
import TizerVision.Theory.Hoare
import Mathlib.Tactic.ByContra
import Mathlib.Tactic.Linarith
import Mathlib.Tactic.NormNum

namespace TizerVision.Measure

open TizerVision.Theory

set_option autoImplicit false

/-! ## The operators when none raises -/

section Rules

variable {α : Type} {Q : α → State → Prop} {E : Thrown → State → Prop} {s : State}

@[simp] theorem wp_operator_some {a : α} : wp (operator (some a)) Q E s ↔ Q a s := Iff.rfl

@[simp] theorem wp_setResultStatus {v : Int} {Q : Unit → State → Prop} :
    wp (setResultStatus v) Q E s ↔ Q () { s with resultStatus := v } := Iff.rfl

@[simp] theorem wp_writeImage {fileName : String} {Q : Unit → State → Prop} :
    wp (writeImage true fileName) Q E s ↔ Q () { s with written := s.written ++ [fileName] } := Iff.rfl

@[simp] theorem wp_standInRadius {Q : ℚ → State → Prop} :
    wp standInRadius Q E s ↔
      Q (78 + (s.rand 0 % 99 : Nat) / 100) { s with rand := fun n => s.rand (n + 1) } := Iff.rfl

end Rules

/-! ## The arcs -/

/-- The contours of a search in which no operator raises an exception: the `cont_approx` of each, and the
arc fitted to it. -/
def arcsView (size : Int × Int) (arcs : List (ℚ × Arc)) : CornerView where
  imageSize := some size
  contours := some (arcs.map fun contour => some ⟨contour.1, some contour.2⟩)
  writeImage := true

variable (position : CameraPosition) (minPhi maxPhi : ℚ)

/-- The arc selected last, going through the contours with the corner found so far. -/
def lastSelected : Guess → List (ℚ × Arc) → Option Arc
  | _, [] => none
  | found, (attrib, arc) :: arcs =>
      if attrib > 0 ∧ position.Accepts minPhi maxPhi found arc then
        (lastSelected ⟨arc.row, arc.column, some arc.radius⟩ arcs).or (some arc)
      else lastSelected found arcs

/-- The corner after the loop: that of the arc selected last, or the one it started with. -/
def selectedCorner (start : Guess) (arcs : List (ℚ × Arc)) : Guess :=
  match lastSelected position minPhi maxPhi start arcs with
  | some arc => ⟨arc.row, arc.column, some arc.radius⟩
  | none => start

theorem wp_tryContour {Q : Guess → State → Prop} {E : Thrown → State → Prop} {s : State}
    (found : Guess) (attrib : ℚ) (arc : Arc) :
    wp (tryContour position minPhi maxPhi found (some ⟨attrib, some arc⟩)) Q E s ↔
      Q (if attrib > 0 ∧ position.Accepts minPhi maxPhi found arc
        then ⟨arc.row, arc.column, some arc.radius⟩ else found) s := by
  unfold tryContour
  by_cases approx : attrib > 0
  · by_cases accepted : position.Accepts minPhi maxPhi found arc
    · simp [approx, accepted]
    · simp [approx, accepted]
  · simp [approx]

/-- **The loop over the contours** keeps the arc selected last. -/
theorem wp_foldlM_tryContour {Q : Guess → State → Prop} {E : Thrown → State → Prop} {s : State}
    (arcs : List (ℚ × Arc)) (start : Guess) :
    wp ((arcs.map fun contour => some (⟨contour.1, some contour.2⟩ : Contour)).foldlM
        (tryContour position minPhi maxPhi) start) Q E s ↔
      Q (selectedCorner position minPhi maxPhi start arcs) s := by
  induction arcs generalizing start with
  | nil => rfl
  | cons contour arcs ih =>
      obtain ⟨attrib, arc⟩ := contour
      rw [List.map_cons, List.foldlM_cons, wp_bind, wp_tryContour, ih]
      by_cases taken : attrib > 0 ∧ position.Accepts minPhi maxPhi start arc
      · rw [if_pos taken, selectedCorner, selectedCorner, lastSelected, if_pos taken]
        cases lastSelected position minPhi maxPhi ⟨arc.row, arc.column, some arc.radius⟩ arcs <;> rfl
      · rw [if_neg taken, selectedCorner, selectedCorner, lastSelected, if_neg taken]

variable (hds : Headers)

/-- The checks at the end always see a radius of 0. -/
theorem wp_judgeRadius_zero {Q : ℚ → State → Prop} {E : Thrown → State → Prop} {s : State}
    (radius : ℚ) :
    wp (judgeRadius hds position true 0 radius) Q E s ↔
      Q (78 + (s.rand 0 % 99 : Nat) / 100)
        { s with
          resultStatus := 1
          rand := fun n => s.rand (n + 1)
          written := s.written ++ ["D:/Images/err_" ++ toString s.jobId ++ "_" ++
            toString (hds.positionCode position) ++ ".jpg"] } := by
  have doubtful : (0 : ℚ) < 70 ∨ (0 : ℚ) > 99 := .inl (by norm_num)
  have absurd_radius : (0 : ℚ) < 20 ∨ (0 : ℚ) > 220 := .inl (by norm_num)
  unfold judgeRadius
  rw [if_pos doubtful, if_pos absurd_radius]
  simp only [wp_bind, wp_setResultStatus, wp_get, wp_writeImage, wp_standInRadius, wp_pure]

/-- **What a search leaves.**  It succeeds with the place of the arc selected last, but with a radius drawn
by `rand()`, and the status is 1. -/
theorem wp_searchCornerCircle {s : State} {Q : Option Corner → State → Prop}
    {E : Thrown → State → Prop} {start : Guess} {size : Int × Int} {arcs : List (ℚ × Arc)} {arc : Arc}
    (selected : lastSelected position minPhi maxPhi start arcs = some arc) :
    wp (searchCornerCircle hds position minPhi maxPhi start (arcsView size arcs)) Q E s ↔
      Q (some ⟨arc.row, arc.column, 78 + (s.rand 0 % 99 : Nat) / 100⟩)
        { s with
          resultStatus := 1
          rand := fun n => s.rand (n + 1)
          written := s.written ++ ["D:/Images/err_" ++ toString s.jobId ++ "_" ++
            toString (hds.positionCode position) ++ ".jpg"] } := by
  unfold searchCornerCircle arcsView
  rw [wp_bind, wp_operator_some, wp_tryCatch, wp_bind, wp_operator_some, wp_bind, wp_foldlM_tryContour,
    selectedCorner, selected]
  simp only [wp_bind, wp_pure, wp_judgeRadius_zero]

/-! ## The verdict -/

section Verdict

variable (start : Guess) (size : Int × Int) (arcs : List (ℚ × Arc))

/-- The verdict the checks are written for, whatever the status was and `rand()` returns: a radius from 70
to 99 is returned and the status left alone; one from 20 to 220 outside these bounds is returned and the
status becomes 1. -/
def JudgesRadius (radius : ℚ) : Prop :=
  ∀ s : State,
    wp (searchCornerCircle hds position minPhi maxPhi start (arcsView size arcs))
      (fun corner after =>
        (70 ≤ radius ∧ radius ≤ 99 →
          corner.map Corner.radius = some radius ∧ after.resultStatus = s.resultStatus) ∧
        (20 ≤ radius ∧ radius < 70 ∨ 99 < radius ∧ radius ≤ 220 →
          corner.map Corner.radius = some radius ∧ after.resultStatus = 1))
      (fun _ _ => False) s

/-- **The verdict on a corner.**  For every position, all arcs and every first guess, with no operator
raising an exception: the radius of the arc selected last is judged as the checks are written exactly when
no arc is selected or its radius is below 20 or above 220. -/
theorem corner_verdict_iff :
    (∀ arc, lastSelected position minPhi maxPhi start arcs = some arc →
        JudgesRadius position minPhi maxPhi hds start size arcs arc.radius) ↔
      ∀ arc, lastSelected position minPhi maxPhi start arcs = some arc →
        arc.radius < 20 ∨ arc.radius > 220 := by
  constructor
  · intro judges arc selected
    by_contra inside
    rw [not_or, not_lt, not_lt] at inside
    obtain ⟨low, high⟩ := inside
    -- a state with status 0, in which `rand()` returns 0
    have judged := judges arc selected (State.init fun _ => 0)
    rw [wp_searchCornerCircle position minPhi maxPhi hds selected] at judged
    obtain ⟨good, doubtful⟩ := judged
    by_cases fine : 70 ≤ arc.radius ∧ arc.radius ≤ 99
    · have kept := (good fine).2
      cases kept
    · have outside : 20 ≤ arc.radius ∧ arc.radius < 70 ∨ 99 < arc.radius ∧ arc.radius ≤ 220 := by
        rcases lt_or_ge arc.radius 70 with less | more
        · exact .inl ⟨low, less⟩
        · exact .inr ⟨not_le.1 fun bound => fine ⟨more, bound⟩, high⟩
      have returned := (doubtful outside).1
      have same : (78 : ℚ) + ((0 % 99 : Nat) : ℚ) / 100 = arc.radius := Option.some.inj returned
      norm_num at same
      rcases outside with ⟨-, less⟩ | ⟨more, -⟩
      · linarith
      · linarith
  · intro replaced arc selected s
    rw [wp_searchCornerCircle position minPhi maxPhi hds selected]
    rcases replaced arc selected with small | large
    · refine ⟨fun fine => ?_, fun outside => ?_⟩
      · linarith [fine.1]
      · rcases outside with ⟨low, -⟩ | ⟨low, -⟩ <;> linarith
    · refine ⟨fun fine => ?_, fun outside => ?_⟩
      · linarith [fine.2]
      · rcases outside with ⟨-, high⟩ | ⟨-, high⟩ <;> linarith

end Verdict

/-- An arc with a radius of 80, in the middle of the image. -/
def goodArc : Arc := ⟨500, 500, 80, 0, 1, 5⟩

/-- **A good corner becomes a doubtful one.**  The only arc at the right top has a radius of 80: it is
selected, but the status becomes 1. -/
theorem good_corner_is_doubted :
    ¬ ∀ arcs : List (ℚ × Arc), ∀ arc,
      lastSelected .rightTop 0 2 ⟨1000, 1000, some 0⟩ arcs = some arc →
        JudgesRadius .rightTop 0 2 Headers.whole ⟨1000, 1000, some 0⟩ (1000, 1000) arcs
          arc.radius := by
  intro always
  have selected : lastSelected .rightTop 0 2 ⟨1000, 1000, some 0⟩ [(1, goodArc)] = some goodArc := by
    decide +kernel
  have judged := always [(1, goodArc)] goodArc selected (State.init fun _ => 0)
  rw [wp_searchCornerCircle _ _ _ Headers.whole selected] at judged
  have kept := (judged.1 ⟨by norm_num [goodArc], by norm_num [goodArc]⟩).2
  cases kept

end TizerVision.Measure
