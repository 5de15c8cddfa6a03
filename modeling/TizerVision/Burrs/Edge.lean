/-
# Burrs.Edge — the burrs at the edges of a pole piece

`action` measures the left and the right edge in each scanned row and goes through the widths in windows.
The variables of a burr are set when a window has one, but the burr is inserted in any case, with what the
variables then hold; its length is measured on the left side, whichever side it is reported on; and the
width it is compared with is 25, whatever the parameter `polesWidth` is.

* `length_insertedFrom` — one burr is inserted for each window with an inflection.
* `edge_burrs_iff` — there is exactly one burr for each window with one wider than `polesWidth`, on the side
  and with the length of the larger protrusion, exactly when every window with an inflection has such a
  burr, and that is also wider than 25 and protrudes on the left at least as far as on the right, or the
  burr left over from an earlier window happens to be the same.
-/
import TizerVision.Burrs.Scan
import Mathlib.Data.List.Forall2

namespace TizerVision.Burrs

set_option autoImplicit false

/-! ## The source -/

/-- `left`, `right` and `width`. -/
structure EdgeArrays where
  left : Nat → Int
  right : Nat → Int
  width : Nat → Int

/-- The arrays after the scan: 0 where one of the edges is not found. -/
def edgeArrays (leftEdges rightEdges : Edges) (memory : EdgeArrays) (findEdgeNum : Nat) : EdgeArrays :=
  let found : Nat → Option (Int × Int) := fun row =>
    match foundAt leftEdges row, foundAt rightEdges row with
    | some left, some right => some (left, right)
    | _, _ => none
  { left := fun k => match (scanRows findEdgeNum)[k]? with
      | some row => ((found row).map Prod.fst).getD 0
      | none => memory.left k
    right := fun k => match (scanRows findEdgeNum)[k]? with
      | some row => ((found row).map Prod.snd).getD 0
      | none => memory.right k
    width := fun k => match (scanRows findEdgeNum)[k]? with
      | some row => ((found row).map fun edge => edge.2 - edge.1).getD 0
      | none => memory.width k }

/-- `BurrX`, `BurrY` and `BurrValue`, which are declared before the loop over the windows. -/
structure BurrVariables where
  burrX : Int
  burrY : Int
  burrValue : Int

/-- `hv_zoom_scale` -/
def zoomScale (v2h : Bool) : ℚ := if v2h then 0.7286 * 20 / 24 else 0.7286

section Source

variable (helpers : Helpers) (polesWidth : Int) (zoom : ℚ) (n : Nat) (arrays : EdgeArrays)

/-- What the loop does to the variables in a window with the inflection `k`. -/
def setBurr (i k : Nat) (burr : BurrVariables) : BurrVariables :=
  let leftAvg := helpers.getArrayAverage arrays.left n i (i + step)
  let rightAvg := helpers.getArrayAverage arrays.right n i (i + step)
  let widthAvg := helpers.getArrayAverage arrays.width n i (i + step)
  if arrays.width k > polesWidth ∧ arrays.width k - widthAvg > (step / 10 : Nat) then
    { burrX := if leftAvg - arrays.left k > arrays.right k - rightAvg then arrays.left k
        else arrays.right k
      burrY := k * 2
      burrValue := leftAvg - arrays.left k }
  else burr

/-- One window, with the burrs inserted so far. -/
def edgeWindow (state : BurrVariables × List Burr) (i : Nat) : BurrVariables × List Burr :=
  let widthInflection := helpers.findInflection arrays.width n i (i + step)
  if widthInflection < 0 then state
  else
    let burr := setBurr helpers polesWidth n arrays i widthInflection.toNat state.1
    (burr, state.2 ++ [⟨burr.burrX, burr.burrY, adjustDis burr.burrValue zoom⟩])

/-- The burrs inserted for the arrays, with `polesWidth` for `hv_polesWidth[0]`. -/
def edgeBurrs : List Burr :=
  ((windows n).foldl (edgeWindow helpers polesWidth zoom n arrays) (⟨0, 0, 0⟩, [])).2

/-- The burrs `action` inserts for an image of the given size; it sets `hv_polesWidth` to 25 and does not
use its parameter. -/
def actionBurrs (v2h : Bool) (_polesWidth : Int) (width height : Nat) (leftEdges rightEdges : Edges)
    (memory : EdgeArrays) : List Burr :=
  edgeBurrs helpers 25 (zoomScale v2h) (findEdgeNum .action width height)
    (edgeArrays leftEdges rightEdges memory (findEdgeNum .action width height))

end Source

/-! ## What it is for -/

section Purpose

variable (helpers : Helpers) (polesWidth : Int) (zoom : ℚ) (n : Nat) (arrays : EdgeArrays)

/-- The window that starts at `i` has its inflection at `k`. -/
def InflectionAt (i k : Nat) : Prop := helpers.findInflection arrays.width n i (i + step) = k

/-- An inflection that is wider than a pole piece and sticks out of its window by more than a tenth of the
step. -/
def Protrudes (i k : Nat) : Prop :=
  arrays.width k > polesWidth ∧
    arrays.width k - helpers.getArrayAverage arrays.width n i (i + step) > (step / 10 : Nat)

instance (i k : Nat) : Decidable (Protrudes helpers polesWidth n arrays i k) :=
  inferInstanceAs (Decidable (_ ∧ _))

/-- How far the inflection sticks out on either side. -/
def leftProtrusion (i k : Nat) : Int :=
  helpers.getArrayAverage arrays.left n i (i + step) - arrays.left k

def rightProtrusion (i k : Nat) : Int :=
  arrays.right k - helpers.getArrayAverage arrays.right n i (i + step)

/-- The burr of a window: the edge column on the side with the larger protrusion, and that protrusion. -/
def Describes (i : Nat) (burr : Burr) : Prop :=
  ∃ k, InflectionAt helpers n arrays i k ∧
    (burr.x = arrays.left k ∧
        rightProtrusion helpers n arrays i k ≤ leftProtrusion helpers n arrays i k ∧
        burr.length = adjustDis (leftProtrusion helpers n arrays i k) zoom ∨
      burr.x = arrays.right k ∧
        leftProtrusion helpers n arrays i k ≤ rightProtrusion helpers n arrays i k ∧
        burr.length = adjustDis (rightProtrusion helpers n arrays i k) zoom)

/-- What the variables of a burr hold is the burr of the window. -/
def Matches (i k : Nat) (burr : BurrVariables) : Prop :=
  burr.burrX = arrays.left k ∧
      rightProtrusion helpers n arrays i k ≤ leftProtrusion helpers n arrays i k ∧
      burr.burrValue = leftProtrusion helpers n arrays i k ∨
    burr.burrX = arrays.right k ∧
      leftProtrusion helpers n arrays i k ≤ rightProtrusion helpers n arrays i k ∧
      burr.burrValue = rightProtrusion helpers n arrays i k

/-- The window has a burr. -/
def hasBurr (i : Nat) : Bool :=
  0 ≤ helpers.findInflection arrays.width n i (i + step) ∧
    Protrudes helpers polesWidth n arrays i (helpers.findInflection arrays.width n i (i + step)).toNat

/-- **One burr for each window that has one**, as it should be described, and no other. -/
def CollectsBurrs (inserted : List Burr) : Prop :=
  List.Forall₂ (Describes helpers zoom n arrays)
    ((windows n).filter (hasBurr helpers polesWidth n arrays)) inserted

/-- The burr set in a window: the column of the larger protrusion, but always the left protrusion. -/
def burrAt (i k : Nat) : BurrVariables where
  burrX := if leftProtrusion helpers n arrays i k > rightProtrusion helpers n arrays i k then arrays.left k
    else arrays.right k
  burrY := k * 2
  burrValue := leftProtrusion helpers n arrays i k

/-- The burr left over at the window `i`: that of the last window of `starts` before it that has one, and
`initial` if none has. -/
def leftOver (starts : List Nat) (initial : BurrVariables) (i : Nat) : BurrVariables :=
  match (starts.filter fun j => j < i && hasBurr helpers polesWidth n arrays j).getLast? with
  | none => initial
  | some j => burrAt helpers n arrays j (helpers.findInflection arrays.width n j (j + step)).toNat

end Purpose

/-! ## The loop -/

section Loop

variable (helpers : Helpers) (limit polesWidth : Int) (zoom : ℚ) (n : Nat) (arrays : EdgeArrays)

/-- The burrs inserted for a list of windows, from what the variables hold before. -/
def insertedFrom (burr : BurrVariables) : List Nat → List Burr
  | [] => []
  | i :: starts =>
      if helpers.findInflection arrays.width n i (i + step) < 0 then insertedFrom burr starts
      else
        let burr := setBurr helpers limit n arrays i
          (helpers.findInflection arrays.width n i (i + step)).toNat burr
        ⟨burr.burrX, burr.burrY, adjustDis burr.burrValue zoom⟩ :: insertedFrom burr starts

theorem foldl_edgeWindow (starts : List Nat) (burr : BurrVariables) (inserted : List Burr) :
    (starts.foldl (edgeWindow helpers limit zoom n arrays) (burr, inserted)).2 =
      inserted ++ insertedFrom helpers limit zoom n arrays burr starts := by
  induction starts generalizing burr inserted with
  | nil => simp [insertedFrom]
  | cons i starts ih =>
      rw [List.foldl_cons, edgeWindow, insertedFrom]
      split
      · exact ih burr inserted
      · rw [ih, List.append_assoc, List.singleton_append]

/-- One burr is inserted for each window with an inflection. -/
theorem length_insertedFrom (starts : List Nat) (burr : BurrVariables) :
    (insertedFrom helpers limit zoom n arrays burr starts).length =
      (starts.filter fun i => 0 ≤ helpers.findInflection arrays.width n i (i + step)).length := by
  induction starts generalizing burr with
  | nil => rfl
  | cons i starts ih =>
      rw [insertedFrom]
      split
      · rename_i none
        rw [ih, List.filter_cons_of_neg (by simpa using none)]
      · rename_i found
        rw [List.length_cons, ih, List.filter_cons_of_pos (by simpa using found), List.length_cons]

/-- There are at least as many windows with an inflection as windows with a burr. -/
theorem length_filter_hasBurr_le (starts : List Nat) (burr : BurrVariables) :
    (starts.filter (hasBurr helpers polesWidth n arrays)).length ≤
      (insertedFrom helpers limit zoom n arrays burr starts).length := by
  rw [length_insertedFrom]
  refine List.Sublist.length_le (List.monotone_filter_right _ fun i burrs => ?_)
  simp only [hasBurr, decide_eq_true_eq] at burrs ⊢
  exact burrs.1

variable {helpers limit polesWidth zoom n arrays}

/-- The length of a burr determines the protrusion. -/
theorem describes_iff_matches {i k : Nat} (positive : zoom ≠ 0)
    (found : InflectionAt helpers n arrays i k) (burr : BurrVariables) :
    Describes helpers zoom n arrays i ⟨burr.burrX, burr.burrY, adjustDis burr.burrValue zoom⟩ ↔
      Matches helpers n arrays i k burr := by
  have only : ∀ other, InflectionAt helpers n arrays i other ↔ other = k := by
    intro other
    rw [InflectionAt] at found ⊢
    omega
  have length (value : Int) : adjustDis burr.burrValue zoom = adjustDis value zoom ↔
      burr.burrValue = value := by
    constructor
    · intro same
      have product : (burr.burrValue : ℚ) * zoom = value * zoom := same
      exact_mod_cast mul_right_cancel₀ positive product
    · intro same
      rw [same]
  simp only [Describes, Matches, only, exists_eq_left, length]

/-- The burr set in a window describes it when it sticks out on the left at least as far as on the right. -/
theorem matches_burrAt_iff (i k : Nat) :
    Matches helpers n arrays i k (burrAt helpers n arrays i k) ↔
      rightProtrusion helpers n arrays i k ≤ leftProtrusion helpers n arrays i k := by
  constructor
  · rintro (⟨-, larger, -⟩ | ⟨-, -, value⟩)
    · exact larger
    · -- the value is that of the left side
      exact value.ge
  · intro larger
    rcases larger.lt_or_eq with less | same
    · exact .inl ⟨if_pos less, larger, rfl⟩
    · exact .inr ⟨if_neg (by rw [same]; exact lt_irrefl _), same.ge, same.symm⟩

theorem setBurr_of_protrudes {i k : Nat} (protrudes : Protrudes helpers limit n arrays i k)
    (burr : BurrVariables) : setBurr helpers limit n arrays i k burr = burrAt helpers n arrays i k :=
  if_pos protrudes

theorem setBurr_of_not_protrudes {i k : Nat} (flat : ¬ Protrudes helpers limit n arrays i k)
    (burr : BurrVariables) : setBurr helpers limit n arrays i k burr = burr :=
  if_neg flat

theorem hasBurr_iff {i k : Nat} (found : InflectionAt helpers n arrays i k) :
    hasBurr helpers polesWidth n arrays i = true ↔ Protrudes helpers polesWidth n arrays i k := by
  rw [InflectionAt] at found
  simp only [hasBurr, found, Int.toNat_natCast, decide_eq_true_eq]
  exact ⟨fun both => both.2, fun protrudes => ⟨Int.natCast_nonneg k, protrudes⟩⟩

theorem not_hasBurr_of_none {i : Nat}
    (none : helpers.findInflection arrays.width n i (i + step) < 0) :
    ¬ hasBurr helpers polesWidth n arrays i = true := by
  intro burrs
  simp only [hasBurr, decide_eq_true_eq] at burrs
  omega

/-! ## The burr left over -/

/-- Nothing is left over at the first window. -/
theorem leftOver_head {i : Nat} {starts : List Nat} (later : ∀ j ∈ starts, i < j)
    (initial : BurrVariables) :
    leftOver helpers limit n arrays (i :: starts) initial i = initial := by
  have none : (i :: starts).filter (fun j => j < i && hasBurr helpers limit n arrays j) = [] := by
    refine List.filter_eq_nil_iff.2 fun j visited => ?_
    have notBefore : ¬ j < i := by
      rcases List.mem_cons.1 visited with rfl | inside
      · exact lt_irrefl j
      · exact (later j inside).le.not_gt
    simp [notBefore]
  rw [leftOver, none]
  rfl

/-- A window without a burr leaves none over. -/
theorem leftOver_cons_of_not {i j : Nat} {starts : List Nat}
    (flat : ¬ hasBurr helpers limit n arrays i = true) (initial : BurrVariables) :
    leftOver helpers limit n arrays (i :: starts) initial j =
      leftOver helpers limit n arrays starts initial j := by
  rw [leftOver, List.filter_cons_of_neg (by simp [flat])]
  rfl

/-- A window with a burr leaves that over for the windows behind it. -/
theorem leftOver_cons_of_protrudes {i j k : Nat} {starts : List Nat}
    (found : InflectionAt helpers n arrays i k) (protrudes : Protrudes helpers limit n arrays i k)
    (before : i < j) (initial : BurrVariables) :
    leftOver helpers limit n arrays (i :: starts) initial j =
      leftOver helpers limit n arrays starts (burrAt helpers n arrays i k) j := by
  have burrs := (hasBurr_iff found).2 protrudes
  rw [InflectionAt] at found
  rw [leftOver, List.filter_cons_of_pos (by simp [burrs, before]), List.getLast?_cons, leftOver]
  cases (starts.filter fun j' => j' < j && hasBurr helpers limit n arrays j').getLast? with
  | none => simp [found]
  | some _ => rfl

/-- **The loop over some windows.** -/
theorem forall₂_insertedFrom_iff (positive : zoom ≠ 0) {starts : List Nat}
    (increasing : starts.Pairwise (· < ·)) (burr : BurrVariables) :
    List.Forall₂ (Describes helpers zoom n arrays)
        (starts.filter (hasBurr helpers polesWidth n arrays))
        (insertedFrom helpers limit zoom n arrays burr starts) ↔
      ∀ i ∈ starts, ∀ k, InflectionAt helpers n arrays i k →
        Protrudes helpers polesWidth n arrays i k ∧
          (limit < arrays.width k ∧
              rightProtrusion helpers n arrays i k ≤ leftProtrusion helpers n arrays i k ∨
            arrays.width k ≤ limit ∧
              Matches helpers n arrays i k (leftOver helpers limit n arrays starts burr i)) := by
  induction starts generalizing burr with
  | nil => simp [insertedFrom]
  | cons i starts ih =>
      obtain ⟨later, increasing⟩ := List.pairwise_cons.1 increasing
      rw [insertedFrom, List.forall_mem_cons]
      by_cases none : helpers.findInflection arrays.width n i (i + step) < 0
      · have vacuous : ∀ k, ¬ InflectionAt helpers n arrays i k := by
          intro k found
          rw [InflectionAt] at found
          omega
        rw [if_pos none, List.filter_cons_of_neg (not_hasBurr_of_none none), ih increasing]
        simp only [leftOver_cons_of_not (not_hasBurr_of_none none)]
        exact ⟨fun rest => ⟨fun k found => absurd found (vacuous k), rest⟩, fun both => both.2⟩
      obtain ⟨k, found⟩ := Int.eq_ofNat_of_zero_le (not_lt.1 none)
      have only : ∀ other, InflectionAt helpers n arrays i other ↔ other = k := by
        intro other
        rw [InflectionAt]
        omega
      simp only [only, forall_eq, leftOver_head later]
      rw [if_neg none, found, Int.toNat_natCast]
      by_cases protrudes : Protrudes helpers polesWidth n arrays i k
      swap
      · -- a burr too many has been inserted
        rw [List.filter_cons_of_neg fun burrs => protrudes ((hasBurr_iff found).1 burrs)]
        refine iff_of_false (fun described => ?_) fun both => protrudes both.1.1
        have count := described.length_eq
        have bound := length_filter_hasBurr_le helpers limit polesWidth zoom n arrays starts
          (setBurr helpers limit n arrays i k burr)
        rw [List.length_cons] at count
        omega
      rw [List.filter_cons_of_pos ((hasBurr_iff found).2 protrudes), List.forall₂_cons, ih increasing,
        describes_iff_matches positive found]
      by_cases wide : limit < arrays.width k
      · -- the variables are set here, and the windows behind start from that
        have set : Protrudes helpers limit n arrays i k := ⟨wide, protrudes.2⟩
        rw [setBurr_of_protrudes set, matches_burrAt_iff]
        refine and_congr ?_ (forall₂_congr fun j visited => ?_)
        · simp [protrudes, wide, not_le.2 wide]
        · rw [leftOver_cons_of_protrudes found set (later j visited)]
      · -- the variables keep what they held
        have kept : ¬ Protrudes helpers limit n arrays i k := fun set => wide set.1
        have flat : ¬ hasBurr helpers limit n arrays i = true := fun burrs =>
          kept ((hasBurr_iff found).1 burrs)
        rw [setBurr_of_not_protrudes kept]
        simp only [leftOver_cons_of_not flat]
        refine and_congr_left fun _ => ?_
        simp [protrudes, wide, not_lt.1 wide]

end Loop

theorem windowsFrom_pairwise (n fuel start : Nat) : (windowsFrom n fuel start).Pairwise (· < ·) := by
  induction fuel generalizing start with
  | zero => exact .nil
  | succ fuel ih =>
      rw [windowsFrom]
      split
      · refine .cons (fun j visited => ?_) (ih _)
        obtain ⟨w, -, rfl, -⟩ := mem_windowsFrom.1 visited
        rw [step]
        omega
      · exact .nil

theorem zoomScale_ne_zero (v2h : Bool) : zoomScale v2h ≠ 0 := by
  cases v2h <;> decide +kernel

/-- **The burrs at the edges.**  For all edges measured in an image, every `polesWidth` and whatever the
helpers return: `action` inserts exactly one burr for each window with an inflection that is wider than
`polesWidth` and sticks out of its window by more than a tenth of the step, at the column and with the
length of the side it sticks out on farther, and no other burr, exactly when every window with an inflection
has such a one, and that is also wider than 25 and sticks out on the left at least as far as on the right;
or it is not wider than 25, which can only be for a smaller `polesWidth`, and the burr left over from the
last window with one wider than 25 happens to have its column and its length. -/
theorem edge_burrs_iff (helpers : Helpers) (v2h : Bool) (polesWidth : Int) (width height : Nat)
    (leftEdges rightEdges : Edges) (memory : EdgeArrays) :
    let n := findEdgeNum .action width height
    let arrays := edgeArrays leftEdges rightEdges memory n
    CollectsBurrs helpers polesWidth (zoomScale v2h) n arrays
        (actionBurrs helpers v2h polesWidth width height leftEdges rightEdges memory) ↔
      ∀ w k, 99 * w < n → InflectionAt helpers n arrays (99 * w) k →
        Protrudes helpers polesWidth n arrays (99 * w) k ∧
          (25 < arrays.width k ∧
              rightProtrusion helpers n arrays (99 * w) k ≤ leftProtrusion helpers n arrays (99 * w) k ∨
            arrays.width k ≤ 25 ∧
              Matches helpers n arrays (99 * w) k
                (leftOver helpers 25 n arrays (windows n) ⟨0, 0, 0⟩ (99 * w))) := by
  intro n arrays
  have inserted : actionBurrs helpers v2h polesWidth width height leftEdges rightEdges memory =
      insertedFrom helpers 25 (zoomScale v2h) n arrays ⟨0, 0, 0⟩ (windows n) :=
    foldl_edgeWindow helpers 25 (zoomScale v2h) n arrays (windows n) ⟨0, 0, 0⟩ []
  have increasing : (windows n).Pairwise (· < ·) := windowsFrom_pairwise n n 0
  rw [CollectsBurrs, inserted, forall₂_insertedFrom_iff (zoomScale_ne_zero v2h) increasing]
  constructor
  · intro all w k starts found
    exact all (99 * w) (mem_windows.2 ⟨w, rfl, starts⟩) k found
  · intro all i visited k found
    obtain ⟨w, rfl, starts⟩ := mem_windows.1 visited
    exact all w k starts found

/-- The first element of a window, which is also the average. -/
def firstElement : Helpers where
  findInflection _ _ start _ := start
  getArrayAverage array _ start _ := array start

/-- **A burr where there is none.**  Both edges are straight: the width of 40 does not stick out, and a burr
is inserted at column 0 and row 0. -/
theorem straight_edges_have_burr :
    ¬ ∀ leftEdges rightEdges : Edges,
      CollectsBurrs firstElement 15 (zoomScale false) (findEdgeNum .action 6 4)
        (edgeArrays leftEdges rightEdges ⟨fun _ => 0, fun _ => 0, fun _ => 0⟩ (findEdgeNum .action 6 4))
        (actionBurrs firstElement false 15 6 4 leftEdges rightEdges
          ⟨fun _ => 0, fun _ => 0, fun _ => 0⟩) := by
  intro always
  have count := (always (fun _ => some (1, 10)) fun _ => some (1, 50)).length_eq
  revert count
  decide +kernel

end TizerVision.Burrs
