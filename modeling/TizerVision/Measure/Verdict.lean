/-
# Measure.Verdict — what a call does to the status word

The texts of a result, the random numbers and the measured values do not reach the status word.
This module states what does: for each function a program over the status word, the count of saved
images and the two outputs (`Track`), and proves that the embedded function simulates it
(`halconAction_simulates`).  Properties of the status are then properties of `trackAction`.
-/
import TizerVision.Measure.Action
import TizerVision.Theory.Simulation
import Mathlib.Tactic.NormNum

namespace TizerVision.Measure

open TizerVision.Theory

set_option autoImplicit false

/-! ## The tracked part of the state -/

structure Track where
  /-- `_result_status` -/
  status : Int
  /-- `g_image_saved_count` -/
  saved : Nat
  /-- `result_status`, once assigned -/
  outStatus : Option Int
  /-- the `msg` of the JSON, once written -/
  msg : Option Int
deriving DecidableEq, Repr

def State.track (s : State) : Track :=
  ⟨s.resultStatus, s.imageSavedCount, s.outStatus, s.out.map Report.msg⟩

abbrev Tracked := EStateM Thrown Track

def storeStatus (v : Int) : Tracked Unit := modify fun t => { t with status := v }

/-- An operator outside every `try`. -/
def mustAnswer (answered : Bool) : Tracked Unit :=
  if answered then pure () else throw .hException

/-- Reads of `adjust_values` at the indices `is`, when it has `n` entries. -/
def mustReach (n : Nat) (is : List Nat) : Tracked Unit :=
  if ∀ i ∈ is, i < n then pure () else throw .outOfRange

/-! ## The searches -/

/-- No operator raises on a contour that is looked at. -/
def Contour.readable : Option Contour → Bool
  | none => false
  | some contour => contour.attrib ≤ 0 || contour.fit.isSome

/-- No operator inside the `try` of `search_corner_circle` raises. -/
def CornerView.found (view : CornerView) : Bool :=
  view.contours.isSome && (view.contours.getD []).all Contour.readable && view.writeImage

def trackCorner (view : CornerView) : Tracked Bool := do
  mustAnswer view.imageSize.isSome
  if view.found then
    storeStatus 1
    return true
  else
    storeStatus 2
    return false

/-- The ear is large enough and both edge searches succeed. -/
def LeftView.edgesFound (view : LeftView) : Bool :=
  (match view.ear with
    | none => false
    | some ear => 100 ≤ ear.area) && (searchRect view.heriz).isSome && (searchRect view.vert).isSome

def trackLeft (view : LeftView) : Tracked Bool := do
  mustAnswer view.imageSize.isSome
  if view.edgesFound then
    mustAnswer view.distanceH.isSome
    if ← trackCorner view.leftTop then
      trackCorner view.leftBottom
    else return false
  else return false

def trackRight (view : RightView) : Tracked Bool := do
  mustAnswer view.rotateImage
  mustAnswer view.imageSize.isSome
  if (searchRect view.vert).isSome then
    if ← trackCorner view.rightTop then
      trackCorner view.rightBottom
    else return false
  else return false

def trackResult (left : LeftView) (right : RightView) (fallOff : MeasureResult) :
    Tracked MeasureResult := do
  if ← trackLeft left then
    if ← trackRight right then
      return fallOff
    else return .fail
  else return .fail

section Searches

variable {α β : Type}

theorem operator_simulates (answer : Option α) :
    Simulates State.track (fun _ : α => ()) (operator answer) (mustAnswer answer.isSome) := by
  cases answer with
  | none => exact Simulates.throw _
  | some a => exact Simulates.pure rfl

theorem setResultStatus_simulates (v : Int) :
    Simulates State.track id (setResultStatus v) (storeStatus v) := fun _ => rfl

theorem rand_silent (s : State) : ∃ draw s', rand.run s = .ok draw s' ∧ s'.track = s.track :=
  ⟨_, _, rfl, rfl⟩

theorem standInRadius_silent (s : State) :
    ∃ radius s', standInRadius.run s = .ok radius s' ∧ s'.track = s.track := ⟨_, _, rfl, rfl⟩

theorem mustAnswer_and (a b : Bool) :
    mustAnswer (a && b) = (mustAnswer a >>= fun _ => mustAnswer b) := by
  cases a <;> rfl

theorem writeImage_simulates (written : Bool) (fileName : String) :
    Simulates State.track id (writeImage written fileName) (mustAnswer written) := by
  cases written with
  | false => exact fun _ => rfl
  | true => exact fun _ => rfl

theorem tryContour_simulates (position : CameraPosition) (minPhi maxPhi : ℚ) (found : Guess)
    (selected : Option Contour) :
    Simulates State.track (fun _ : Guess => ()) (tryContour position minPhi maxPhi found selected)
      (mustAnswer (Contour.readable selected)) := by
  intro s
  cases selected with
  | none => rfl
  | some contour =>
      by_cases looked : contour.attrib > 0
      · have below : ¬ contour.attrib ≤ 0 := not_le.2 looked
        cases fitted : contour.fit with
        | none => simp [tryContour, Contour.readable, operator, looked, below, fitted]; rfl
        | some arc => simp [tryContour, Contour.readable, operator, looked, below, fitted]; split <;> rfl
      · have below : contour.attrib ≤ 0 := not_lt.1 looked
        simp [tryContour, Contour.readable, operator, looked, below]; rfl

theorem foldContours_simulates (position : CameraPosition) (minPhi maxPhi : ℚ)
    (contours : List (Option Contour)) (start : Guess) :
    Simulates State.track (fun _ : Guess => ())
      (contours.foldlM (tryContour position minPhi maxPhi) start)
      (mustAnswer (contours.all Contour.readable)) := by
  induction contours generalizing start with
  | nil => exact Simulates.pure rfl
  | cons selected rest ih =>
      rw [List.foldlM_cons, List.all_cons, mustAnswer_and]
      exact (tryContour_simulates position minPhi maxPhi start selected).bind ih

variable (hds : Headers)

theorem get_silent (s : State) :
    ∃ s₁ s', EStateM.run (get : Halcon State) s = .ok s₁ s' ∧ s'.track = s.track := ⟨_, _, rfl, rfl⟩

/-- With `d_radius_c` at 0 both tests hold: the status becomes 1 and the radius is made up. -/
theorem judgeRadius_simulates (position : CameraPosition) (written : Bool) (radius : ℚ) :
    Simulates State.track (fun _ : ℚ => true) (judgeRadius hds position written 0 radius)
      (do storeStatus 1; mustAnswer written; storeStatus 1; return true) := by
  have doubtful : (0 : ℚ) < 70 ∨ (0 : ℚ) > 99 := Or.inl (by norm_num)
  have wild : (0 : ℚ) < 20 ∨ (0 : ℚ) > 220 := Or.inl (by norm_num)
  unfold judgeRadius
  rw [if_pos doubtful, if_pos wild]
  refine (setResultStatus_simulates 1).bind fun _ => ?_
  refine Simulates.skip get_silent fun _ => ?_
  refine (writeImage_simulates written _).bind fun _ => ?_
  refine Simulates.skip standInRadius_silent fun _ => ?_
  exact (setResultStatus_simulates 1).bind fun _ => Simulates.pure rfl

/-- The tracked body of the `try` and its handler amount to one test. -/
theorem trackTry_eq (contours readable written : Bool) :
    tryCatch
      (do
        mustAnswer contours
        mustAnswer readable
        storeStatus 1
        mustAnswer written
        storeStatus 1
        return true)
      (fun _ => do
        storeStatus 2
        return false) =
    (if contours && readable && written then do
        storeStatus 1
        return true
      else do
        storeStatus 2
        return false) := by
  cases contours <;> cases readable <;> cases written <;> rfl

theorem searchCornerCircle_simulates (position : CameraPosition) (minPhi maxPhi : ℚ)
    (start : Guess) (view : CornerView) :
    Simulates State.track Option.isSome (searchCornerCircle hds position minPhi maxPhi start view)
      (trackCorner view) := by
  unfold searchCornerCircle trackCorner CornerView.found
  rw [← trackTry_eq]
  refine (operator_simulates view.imageSize).bind fun _ => Simulates.tryCatch ?_ ?_
  · cases view.contours with
    | none => exact fun _ => rfl
    | some contours =>
        refine (foldContours_simulates position minPhi maxPhi contours start).bind fun found => ?_
        have judged (radius : ℚ) := judgeRadius_simulates hds position view.writeImage radius
        cases found.radius with
        | some radius => exact (judged radius).repack fun _ => rfl
        | none =>
            exact Simulates.skip standInRadius_silent fun radius =>
              (judged radius).repack fun _ => rfl
  · exact (setResultStatus_simulates 2).bind fun _ => Simulates.pure rfl

/-- A search and what follows it: nothing when it fails. -/
theorem search_simulates {search : Halcon (Option α)} {rest : Option α → Halcon (Option β)}
    {p q : Tracked Bool} (searched : Simulates State.track Option.isSome search p)
    (failed : Simulates State.track Option.isSome (rest none) (pure false))
    (found : ∀ a, Simulates State.track Option.isSome (rest (some a)) q) :
    Simulates State.track Option.isSome (search >>= rest) (do if ← p then q else return false) := by
  refine searched.bind fun answer => ?_
  cases answer with
  | none => exact failed
  | some a => exact found a

/-- The same when only packing the result follows. -/
theorem lastSearch_simulates {search : Halcon (Option α)} {rest : Option α → Halcon (Option β)}
    {p : Tracked Bool} (searched : Simulates State.track Option.isSome search p)
    (failed : Simulates State.track Option.isSome (rest none) (pure false))
    (found : ∀ a, Simulates State.track Option.isSome (rest (some a)) (pure true)) :
    Simulates State.track Option.isSome (search >>= rest) p := by
  rw [← bind_pure p]
  refine searched.bind fun answer => ?_
  cases answer with
  | none => exact failed
  | some a => exact found a

theorem left_simulates (view : LeftView) :
    Simulates State.track Option.isSome (measureImageLeftByConstCalibValue hds view)
      (trackLeft view) := by
  unfold measureImageLeftByConstCalibValue trackLeft LeftView.edgesFound
  refine (operator_simulates view.imageSize).bind fun (width, height) => ?_
  cases view.ear with
  | none => exact Simulates.pure rfl
  | some ear =>
      by_cases small : ear.area < 100
      · simp only [small, not_le.2 small, if_true, decide_false, Bool.false_and]
        exact Simulates.pure rfl
      · simp only [small, not_lt.1 small, if_false, decide_true, Bool.true_and]
        cases searchRect view.heriz with
        | none => exact Simulates.pure rfl
        | some heriz =>
            cases searchRect view.vert with
            | none => exact Simulates.pure rfl
            | some vert =>
                refine (operator_simulates view.distanceH).bind fun distanceH => ?_
                refine search_simulates (searchCornerCircle_simulates hds _ _ _ _ view.leftTop)
                  (Simulates.pure rfl) fun lt => ?_
                exact lastSearch_simulates
                  (searchCornerCircle_simulates hds _ _ _ _ view.leftBottom)
                  (Simulates.pure rfl) fun lb => Simulates.pure rfl

theorem right_simulates (widthLeftPart : ℚ) (view : RightView) :
    Simulates State.track Option.isSome (measureImageRightByConstCalibValue hds widthLeftPart view)
      (trackRight view) := by
  unfold measureImageRightByConstCalibValue trackRight
  have rotated : Simulates State.track (fun _ : Unit => ())
      (operator (if view.rotateImage then some () else none)) (mustAnswer view.rotateImage) := by
    cases view.rotateImage <;> exact fun _ => rfl
  refine rotated.bind fun _ => ?_
  refine (operator_simulates view.imageSize).bind fun (w, h) => ?_
  cases searchRect view.vert with
  | none => exact Simulates.pure rfl
  | some vert =>
      refine search_simulates (searchCornerCircle_simulates hds _ _ _ _ view.rightTop)
        (Simulates.pure rfl) fun rt => ?_
      exact lastSearch_simulates (searchCornerCircle_simulates hds _ _ _ _ view.rightBottom)
        (Simulates.pure rfl) fun rb => Simulates.pure rfl

theorem getResult_simulates (left : LeftView) (right : RightView) (fallOff : MeasureResult) :
    Simulates State.track id (getResult hds left right fallOff)
      (trackResult left right fallOff) := by
  unfold getResult trackResult
  refine (left_simulates hds left).bind fun size => ?_
  cases size with
  | none => exact Simulates.pure rfl
  | some size =>
      refine (right_simulates hds size.widthLeftPart right).bind fun size => ?_
      cases size <;> exact Simulates.pure rfl

end Searches

/-! ## The measurement and its judgement -/

/-- A method of `MeasureSize` that is reached raises an exception. -/
def SizeView.raises (view : SizeView) : Bool :=
  view.calcCamera0.isNone || (view.calcCamera0 = some 0 &&
    (view.calcCamera2.isNone || (view.calcCamera2 = some 0 && view.calcSize.isNone)))

/-- The measured size, when every method returns 0. -/
def SizeView.measured (view : SizeView) : Option FSIZE :=
  if view.calcCamera0 = some 0 ∧ view.calcCamera2 = some 0 then
    match view.calcSize with
    | some (code, size) => if code = 0 then some size else none
    | none => none
  else none

def trackZf (view : SizeView) : Tracked (Option FSIZE) := do
  storeStatus 2
  mustAnswer !view.raises
  match view.measured with
  | some size =>
      storeStatus 0
      return some size
  | none => return none

theorem measureImageByZf_simulates (view : SizeView) :
    Simulates State.track id (measureImageByZf view) (trackZf view) := by
  obtain ⟨camera0, camera2, answer⟩ := view
  rcases camera0 with _ | code0
  · exact fun _ => rfl
  by_cases zero0 : code0 = 0
  · subst zero0
    rcases camera2 with _ | code2
    · exact fun _ => rfl
    by_cases zero2 : code2 = 0
    · subst zero2
      rcases answer with _ | ⟨code, size⟩
      · exact fun _ => rfl
      by_cases zero : code = 0
      · subst zero
        exact fun _ => rfl
      · intro s
        simp [measureImageByZf, trackZf, SizeView.raises, SizeView.measured, operator, mustAnswer,
          zero, Ne.symm zero]
        rfl
    · intro s
      simp [measureImageByZf, trackZf, SizeView.raises, SizeView.measured, operator, mustAnswer,
        zero2, Ne.symm zero2]
      rfl
  · intro s
    simp [measureImageByZf, trackZf, SizeView.raises, SizeView.measured, operator, mustAnswer,
      zero0, Ne.symm zero0]
    rfl

section Judgement

variable (hds : Headers)

/-- `BaseFunctions::str2d(adjust_values.at(i))` -/
def Call.adjustment (call : Call) (i : Nat) : ℚ := hds.str2d (call.adjustValues.getD i "")

/-- The adjusted measurement of a dimension, as the JSON reports it. -/
def Call.adjusted (call : Call) (size : FSIZE) : Dimension → ℚ
  | .w => size.W + call.adjustment hds 0
  | .l => size.L + call.adjustment hds 1
  | .h => size.H + call.adjustment hds 2
  | .h1 => size.H1 + call.adjustment hds 4
  | .lh => (size.L + call.adjustment hds 1) + (size.H + call.adjustment hds 2)
  | .w1 => size.W1 + call.adjustment hds 3
  | .w2 => size.W2 + call.adjustment hds 5

/-- The adjusted measurement differs from its standard by at most its tolerance. -/
def Call.Within (call : Call) (size : FSIZE) (d : Dimension) : Prop :=
  |call.adjusted hds size d - (call.standard hds d).1| ≤ (call.standard hds d).2

instance (call : Call) (size : FSIZE) (d : Dimension) : Decidable (call.Within hds size d) :=
  inferInstanceAs (Decidable (_ ≤ _))

/-- The dimensions `halconActionWithImageList` compares, in its order: `lh` is not among them. -/
def checked : List Dimension := [.h, .h1, .l, .w, .w1, .w2]

def trackCheck (call : Call) (size : FSIZE) (d : Dimension) : Tracked Unit :=
  if call.Within hds size d then pure () else storeStatus 1

theorem trackChecks_eq (call : Call) (size : FSIZE) (ds : List Dimension) :
    forM ds (trackCheck hds call size) =
      if ∀ d ∈ ds, call.Within hds size d then pure () else storeStatus 1 := by
  induction ds with
  | nil => simp
  | cons d rest ih =>
      rw [List.forM_cons, ih]
      simp only [List.forall_mem_cons, trackCheck]
      by_cases near : call.Within hds size d
      · simp [near]
      · have some_far : ¬ (call.Within hds size d ∧ ∀ e ∈ rest, call.Within hds size e) :=
          fun all => near all.1
        rw [if_neg near, if_neg some_far]
        split <;> rfl

/-- The setters of `xinyu_calc_std` leave every dimension with its configured pair. -/
theorem getValue_calcStd (call : Call) (d : Dimension) :
    hds.getValue d (call.calcStd hds) = call.standard hds d := by
  cases d <;> simp [Call.calcStd, hds.getValue_setValue]

theorem checkValue_simulates (call : Call) (size : FSIZE) (d : Dimension) :
    Simulates State.track id
      (checkValue (call.adjusted hds size d) (hds.getValue d (call.calcStd hds)))
      (trackCheck hds call size d) := by
  rw [getValue_calcStd]
  unfold checkValue trackCheck
  by_cases near : call.Within hds size d
  · rw [if_neg (not_lt.2 near), if_pos near]
    exact Simulates.pure rfl
  · rw [if_pos (not_le.1 near), if_neg near]
    exact setResultStatus_simulates 1

end Judgement

/-! ## Reading `adjust_values` -/

section Reading

variable (hds : Headers) {β γ δ : Type} {values : List String} {view : γ → δ} {q : Tracked δ}

theorem mustReach_nil (n : Nat) : mustReach n [] = pure () := by
  simp [mustReach]

theorem mustReach_cons (n i : Nat) (is : List Nat) :
    mustReach n (i :: is) = if i < n then mustReach n is else throw .outOfRange := by
  by_cases reached : i < n <;> simp [mustReach, reached]

/-- A read of an entry: the value goes on, or the exception leaves. -/
theorem valueAt_reads {i : Nat} {is : List Nat} {f : String → Halcon γ}
    (rest : ∀ value, values[i]? = some value →
      Simulates State.track view (f value) (mustReach values.length is >>= fun _ => q)) :
    Simulates State.track view (valueAt values i >>= f)
      (mustReach values.length (i :: is) >>= fun _ => q) := by
  rw [mustReach_cons]
  unfold valueAt
  cases entry : values[i]? with
  | none =>
      rw [if_neg (not_lt.2 (List.getElem?_eq_none_iff.1 entry))]
      exact fun _ => rfl
  | some value =>
      rw [if_pos (List.getElem?_eq_some_iff.1 entry).1]
      exact rest value entry

theorem numberAt_reads {call : Call} {i : Nat} {is : List Nat} {f : ℚ → Halcon γ}
    (rest : Simulates State.track view (f (call.adjustment hds i))
      (mustReach call.adjustValues.length is >>= fun _ => q)) :
    Simulates State.track view (numberAt hds call.adjustValues i >>= f)
      (mustReach call.adjustValues.length (i :: is) >>= fun _ => q) := by
  unfold numberAt
  rw [bind_assoc]
  refine valueAt_reads fun value entry => ?_
  have same : call.adjustment hds i = hds.str2d value := by
    simp [Call.adjustment, entry]
  rw [same] at rest
  exact rest

theorem randomAt_reads {i : Nat} {is : List Nat} {f : String → Halcon γ}
    (rest : ∀ value,
      Simulates State.track view (f value) (mustReach values.length is >>= fun _ => q)) :
    Simulates State.track view (randomAt hds values i >>= f)
      (mustReach values.length (i :: is) >>= fun _ => q) := by
  unfold randomAt
  rw [bind_assoc]
  refine valueAt_reads fun value _ => ?_
  rw [bind_assoc]
  exact Simulates.skip rand_silent fun draw => rest _

theorem jitter_silent (value : ℚ) (bound : Nat) (s : State) :
    ∃ v s', (jitter value bound).run s = .ok v s' ∧ s'.track = s.track := ⟨_, _, rfl, rfl⟩

end Reading

/-! ## The whole call -/

section Call

variable (hds : Headers)

def currentStatus : Tracked Int := return (← get).status

def trackAssign (v : Int) : Tracked Unit := modify fun t => { t with outStatus := some v }

/-- The branch of type 0. -/
def trackSize (call : Call) : Tracked Unit := do
  if call.type hds = 0 then
    match ← trackZf call.size with
    | some size =>
        mustReach call.adjustValues.length [1, 2, 0, 3, 5, 4, 10, 11, 6, 7, 8, 9]
        trackAssign 0
        forM checked (trackCheck hds call size)
        trackAssign (← currentStatus)
    | none => return ()
  else return ()

/-- The branch of type 3. -/
def trackEdges (call : Call) : Tracked Unit := do
  if call.type hds = 3 then
    match ← trackResult call.left call.right call.fallOff with
    | .success =>
        mustReach call.adjustValues.length [1, 2, 0, 3, 4, 5, 6, 7, 6, 7, 8, 9]
        trackAssign 0
    | .fail => return ()
  else return ()

/-- The branch of type 2: it assigns `result_status` only. -/
def trackConfigured (call : Call) : Tracked Unit := do
  if call.type hds = 2 then
    mustReach call.adjustValues.length [1, 2, 0, 3, 4, 5, 6, 7, 6, 7, 8, 9]
    trackAssign 0
  else return ()

/-- The branch of type 1. -/
def trackStandard (call : Call) : Tracked Unit := do
  if call.type hds = 1 then
    mustReach call.adjustValues.length [6, 7, 6, 7, 8, 9]
    storeStatus 0
  else return ()

def trackSave (call : Call) : Tracked Unit := do
  let t ← get
  if call.saveImageType hds ≤ t.status then
    if 2 > call.saveImageType hds ∨ t.saved % 5 = 0 then
      mustAnswer (call.writeLeft && call.writeRight)
    modify fun t => { t with saved := t.saved + 1 }

/-- **One call, as the status word sees it.** -/
def trackAction (call : Call) : Tracked Unit := do
  mustReach call.images [0, 1]
  trackAssign 2
  trackSize hds call
  trackEdges hds call
  trackConfigured hds call
  trackStandard hds call
  trackAssign (← currentStatus)
  trackSave hds call
  modify fun t => { t with msg := some t.status }

theorem assignStatus_simulates (v : Int) :
    Simulates State.track id (assignStatus v) (trackAssign v) := fun _ => rfl

theorem getResultStatus_simulates :
    Simulates State.track id getResultStatus currentStatus := fun _ => rfl

theorem get_simulates :
    Simulates State.track State.track (get : Halcon State) (get : Tracked Track) := fun _ => rfl

theorem setImages_simulates (call : Call) :
    Simulates State.track id (setImages hds call) (mustReach call.images [0, 1]) := by
  have both : (∀ i ∈ [0, 1], i < call.images) ↔ ¬ call.images < 2 := by
    simp
    omega
  intro s
  unfold setImages mustReach
  by_cases few : call.images < 2
  · rw [if_pos few, if_neg (mt both.1 (not_not.2 few))]
    rfl
  · rw [if_neg few, if_pos (both.2 few)]
    rfl

theorem judgeSize_simulates (call : Call) (size : FSIZE) :
    Simulates State.track (fun _ : Texts => ())
      (judgeSize hds call.adjustValues (call.calcStd hds) size)
      (do
        mustReach call.adjustValues.length [1, 2, 0, 3, 5, 4, 10, 11, 6, 7, 8, 9]
        trackAssign 0
        forM checked (trackCheck hds call size)
        trackAssign (← currentStatus)) := by
  unfold judgeSize
  refine numberAt_reads hds ?_
  refine numberAt_reads hds ?_
  refine numberAt_reads hds ?_
  refine numberAt_reads hds ?_
  refine numberAt_reads hds ?_
  refine numberAt_reads hds ?_
  refine randomAt_reads hds fun ra1 => ?_
  refine randomAt_reads hds fun ra2 => ?_
  refine randomAt_reads hds fun rb1 => ?_
  refine randomAt_reads hds fun rb2 => ?_
  refine randomAt_reads hds fun rb3 => ?_
  refine randomAt_reads hds fun rb4 => ?_
  rw [mustReach_nil, pure_bind]
  refine (assignStatus_simulates 0).bind fun _ => ?_
  simp only [checked, List.forM_cons, List.forM_nil, bind_assoc, pure_bind]
  refine (checkValue_simulates hds call size .h).bind fun _ => ?_
  refine (checkValue_simulates hds call size .h1).bind fun _ => ?_
  refine (checkValue_simulates hds call size .l).bind fun _ => ?_
  refine (checkValue_simulates hds call size .w).bind fun _ => ?_
  refine (checkValue_simulates hds call size .w1).bind fun _ => ?_
  refine (checkValue_simulates hds call size .w2).bind fun _ => ?_
  refine getResultStatus_simulates.bind fun status => ?_
  exact (assignStatus_simulates status).repack fun _ => rfl

theorem measureSize_simulates (call : Call) (texts : Texts) :
    Simulates State.track (fun _ : Texts => ()) (measureSize hds call texts)
      (trackSize hds call) := by
  refine Simulates.ite (fun _ => ?_) fun _ => Simulates.pure rfl
  refine (measureImageByZf_simulates call.size).bind fun size => ?_
  cases size with
  | some size => exact judgeSize_simulates hds call size
  | none => exact Simulates.pure rfl

theorem configuredEdges_simulates (call : Call) :
    Simulates State.track (fun _ : Texts => ()) (configuredEdges hds call.adjustValues)
      (do
        mustReach call.adjustValues.length [1, 2, 0, 3, 4, 5, 6, 7, 6, 7, 8, 9]
        trackAssign 0) := by
  unfold configuredEdges
  refine numberAt_reads hds ?_
  refine numberAt_reads hds ?_
  refine valueAt_reads fun w _ => ?_
  refine valueAt_reads fun w1 _ => ?_
  refine valueAt_reads fun h1 _ => ?_
  refine valueAt_reads fun w2 _ => ?_
  refine randomAt_reads hds fun ra1 => ?_
  refine randomAt_reads hds fun ra2 => ?_
  refine randomAt_reads hds fun rb1 => ?_
  refine randomAt_reads hds fun rb2 => ?_
  refine randomAt_reads hds fun rb3 => ?_
  refine randomAt_reads hds fun rb4 => ?_
  exact (assignStatus_simulates 0).repack fun _ => rfl

theorem measureEdges_simulates (call : Call) (texts : Texts) :
    Simulates State.track (fun _ : Texts => ()) (measureEdges hds call texts)
      (trackEdges hds call) := by
  refine Simulates.ite (fun _ => ?_) fun _ => Simulates.pure rfl
  refine (getResult_simulates hds call.left call.right call.fallOff).bind fun code => ?_
  cases code with
  | success => exact configuredEdges_simulates hds call
  | fail => exact Simulates.pure rfl

theorem configuredSize_simulates (call : Call) (texts : Texts) :
    Simulates State.track (fun _ : Texts => ()) (configuredSize hds call texts)
      (trackConfigured hds call) := by
  refine Simulates.ite (fun _ => ?_) fun _ => Simulates.pure rfl
  refine numberAt_reads hds ?_
  refine Simulates.skip (jitter_silent _ 99) fun l => ?_
  refine numberAt_reads hds ?_
  refine Simulates.skip (jitter_silent _ 99) fun h => ?_
  refine randomAt_reads hds fun w => ?_
  refine randomAt_reads hds fun w1 => ?_
  refine randomAt_reads hds fun h1 => ?_
  refine randomAt_reads hds fun w2 => ?_
  refine randomAt_reads hds fun ra1 => ?_
  refine randomAt_reads hds fun ra2 => ?_
  refine randomAt_reads hds fun rb1 => ?_
  refine randomAt_reads hds fun rb2 => ?_
  refine randomAt_reads hds fun rb3 => ?_
  refine randomAt_reads hds fun rb4 => ?_
  exact (assignStatus_simulates 0).repack fun _ => rfl

theorem standardSize_simulates (call : Call) (texts : Texts) :
    Simulates State.track (fun _ : Texts => ()) (standardSize hds call texts)
      (trackStandard hds call) := by
  refine Simulates.ite (fun _ => ?_) fun _ => Simulates.pure rfl
  refine Simulates.skip (jitter_silent _ 9) fun l => ?_
  refine Simulates.skip (jitter_silent _ 9) fun h => ?_
  refine Simulates.skip (jitter_silent _ 9) fun h1 => ?_
  refine Simulates.skip (jitter_silent _ 9) fun w => ?_
  refine Simulates.skip (jitter_silent _ 9) fun w1 => ?_
  refine Simulates.skip (jitter_silent _ 9) fun w2 => ?_
  refine randomAt_reads hds fun ra1 => ?_
  refine randomAt_reads hds fun ra2 => ?_
  refine randomAt_reads hds fun rb1 => ?_
  refine randomAt_reads hds fun rb2 => ?_
  refine randomAt_reads hds fun rb3 => ?_
  refine randomAt_reads hds fun rb4 => ?_
  exact (setResultStatus_simulates 0).repack fun _ => rfl

theorem writeImages_simulates (call : Call) :
    Simulates State.track id (writeImages call) (mustAnswer (call.writeLeft && call.writeRight)) := by
  rw [mustAnswer_and]
  refine Simulates.skip get_silent fun s => ?_
  exact (writeImage_simulates call.writeLeft _).bind fun _ => writeImage_simulates call.writeRight _

theorem saveImages_simulates (call : Call) :
    Simulates State.track id (saveImages hds call) (trackSave hds call) := by
  refine get_simulates.bind fun s => ?_
  refine Simulates.ite (fun _ => ?_) fun _ => Simulates.pure rfl
  refine Simulates.ite (fun _ => ?_) fun _ => fun _ => rfl
  exact (writeImages_simulates call).bind fun _ => fun _ => rfl

/-- **The embedded call simulates its tracked program.** -/
theorem halconAction_simulates (call : Call) :
    Simulates State.track id (halconActionWithImageList hds call) (trackAction hds call) := by
  refine (setImages_simulates hds call).bind fun _ => ?_
  refine (assignStatus_simulates 2).bind fun _ => ?_
  refine (measureSize_simulates hds call _).bind fun texts => ?_
  refine (measureEdges_simulates hds call texts).bind fun texts => ?_
  refine (configuredSize_simulates hds call texts).bind fun texts => ?_
  refine (standardSize_simulates hds call texts).bind fun texts => ?_
  refine getResultStatus_simulates.bind fun status => ?_
  refine (assignStatus_simulates status).bind fun _ => ?_
  exact (saveImages_simulates hds call).bind fun _ => fun _ => rfl

end Call

end TizerVision.Measure
