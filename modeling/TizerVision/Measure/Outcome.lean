/-
# Measure.Outcome — the three ways a call can treat the status word

Up to the final assignment of `result_status` a call does one of three things: it settles the status
word on a value of its own, it leaves the word as earlier calls left it, or an exception takes it
out.  Which of the three is decided by the inputs; this module says how, and what the two outputs
then are (`verdict_of_settles`, `verdict_of_keeps`, `verdict_of_raises`).
-/
import TizerVision.Measure.Verdict

namespace TizerVision.Measure

open TizerVision.Theory

set_option autoImplicit false

variable (hds : Headers)

/-! ## The outputs of a call -/

/-- The `result_status` written by a call and the `msg` of its JSON. -/
def verdict (s : State) (call : Call) : Option Int × Option Int :=
  ((afterCall hds s call).outStatus, (afterCall hds s call).out.map Report.msg)

/-- The state a tracked run ends in. -/
def ending {α : Type} : EStateM.Result Thrown Track α → Track
  | .ok _ t => t
  | .error _ t => t

theorem track_afterCall (s : State) (call : Call) :
    (afterCall hds s call).track =
      ending ((trackAction hds call).run { s.track with outStatus := none, msg := none }) := by
  have simulated := halconAction_simulates hds call { s with outStatus := none, out := none }
  have same : State.track { s with outStatus := none, out := none } =
      { s.track with outStatus := none, msg := none } := rfl
  rw [← same, ← simulated]
  unfold afterCall
  cases (halconActionWithImageList hds call).run { s with outStatus := none, out := none } <;> rfl

/-- Everything before the final assignment of `result_status`. -/
def trackMeasure (call : Call) : Tracked Unit := do
  mustReach call.images [0, 1]
  trackAssign 2
  trackSize hds call
  trackEdges hds call
  trackConfigured hds call
  trackStandard hds call

/-- The final assignment and what follows it. -/
def trackFinish (call : Call) : Tracked Unit := do
  trackAssign (← currentStatus)
  trackSave hds call
  modify fun t => { t with msg := some t.status }

theorem trackAction_eq (call : Call) :
    trackAction hds call = (trackMeasure hds call >>= fun _ => trackFinish hds call) := by
  simp only [trackAction, trackMeasure, trackFinish, bind_assoc]

/-- The images are to be saved now and cannot be. -/
def Call.SaveFails (call : Call) (status : Int) (saved : Nat) : Prop :=
  call.saveImageType hds ≤ status ∧ (2 > call.saveImageType hds ∨ saved % 5 = 0) ∧
    (call.writeLeft && call.writeRight) = false

instance (call : Call) (status : Int) (saved : Nat) : Decidable (call.SaveFails hds status saved) :=
  inferInstanceAs (Decidable (_ ∧ _ ∧ _))

theorem run_trackSave (call : Call) (t : Track) :
    (trackSave hds call).run t =
      if call.SaveFails hds t.status t.saved then .error .hException t
      else if call.saveImageType hds ≤ t.status then .ok () { t with saved := t.saved + 1 }
      else .ok () t := by
  unfold trackSave
  rw [EStateM.run_bind]
  show EStateM.run (if call.saveImageType hds ≤ t.status then _ else _) t = _
  by_cases bad : call.saveImageType hds ≤ t.status
  · rw [if_pos bad, if_pos bad]
    by_cases now : 2 > call.saveImageType hds ∨ t.saved % 5 = 0
    · rw [if_pos now, EStateM.run_bind]
      cases answer : call.writeLeft && call.writeRight with
      | true =>
          have saved : ¬ call.SaveFails hds t.status t.saved := fun failed => by
            rw [Call.SaveFails, answer] at failed
            cases failed.2.2
          rw [if_neg saved]
          rfl
      | false =>
          have failed : call.SaveFails hds t.status t.saved := ⟨bad, now, answer⟩
          rw [if_pos failed]
          rfl
    · have saved : ¬ call.SaveFails hds t.status t.saved := fun failed => now failed.2.1
      rw [if_neg now, if_neg saved]
      rfl
  · have saved : ¬ call.SaveFails hds t.status t.saved := fun failed => bad failed.1
    rw [if_neg bad, if_neg saved, if_neg bad]
    rfl

theorem run_trackFinish (call : Call) (t : Track) :
    (trackFinish hds call).run t =
      (trackSave hds call >>= fun _ => modify fun t => { t with msg := some t.status }).run
        { t with outStatus := some t.status } := rfl

/-- Whatever the saving does, `result_status` is the status word; the JSON follows if it can. -/
theorem ending_trackFinish (call : Call) (t : Track) :
    (ending ((trackFinish hds call).run t)).outStatus = some t.status ∧
      (ending ((trackFinish hds call).run t)).msg =
        if call.SaveFails hds t.status t.saved then t.msg else some t.status := by
  rw [run_trackFinish, EStateM.run_bind, run_trackSave]
  by_cases failed : call.SaveFails hds t.status t.saved
  · rw [if_pos failed, if_pos failed]
    exact ⟨rfl, rfl⟩
  · rw [if_neg failed, if_neg failed]
    by_cases bad : call.saveImageType hds ≤ t.status
    · rw [if_pos bad]
      exact ⟨rfl, rfl⟩
    · rw [if_neg bad]
      exact ⟨rfl, rfl⟩

/-! ## Settling, keeping, raising -/

/-- The status word ends as `v`, whatever it was. -/
def Settles (p : Tracked Unit) (v : Int) : Prop :=
  ∀ t, ∃ t', p.run t = .ok () t' ∧ t'.status = v ∧ t'.saved = t.saved ∧ t'.msg = t.msg

/-- The status word ends as it was. -/
def Keeps (p : Tracked Unit) : Prop :=
  ∀ t, ∃ t', p.run t = .ok () t' ∧ t'.status = t.status ∧ t'.saved = t.saved ∧ t'.msg = t.msg

/-- An exception leaves the call, with `result_status` at `assigned`. -/
def Raises (p : Tracked Unit) (assigned : Option Int) : Prop :=
  ∀ t, t.outStatus = none → ∃ e t', p.run t = .error e t' ∧ t'.outStatus = assigned ∧ t'.msg = t.msg

variable {hds}

theorem verdict_eq {call : Call} {s : State} {t : Track}
    (ended : ending ((trackAction hds call).run { s.track with outStatus := none, msg := none }) = t) :
    verdict hds s call = (t.outStatus, t.msg) := by
  have tracked := track_afterCall hds s call
  rw [ended] at tracked
  rw [← tracked]
  rfl

theorem verdict_of_settles {call : Call} {v : Int} (settled : Settles (trackMeasure hds call) v)
    (s : State) :
    verdict hds s call =
      (some v, if call.SaveFails hds v s.imageSavedCount then none else some v) := by
  rw [verdict_eq rfl, trackAction_eq, EStateM.run_bind]
  obtain ⟨t, ran, status, saved, msg⟩ := settled { s.track with outStatus := none, msg := none }
  obtain ⟨out, json⟩ := ending_trackFinish hds call t
  rw [status] at out json
  rw [saved, msg] at json
  rw [ran]
  exact Prod.ext out json

theorem verdict_of_keeps {call : Call} (kept : Keeps (trackMeasure hds call)) (s : State) :
    verdict hds s call =
      (some s.resultStatus,
        if call.SaveFails hds s.resultStatus s.imageSavedCount then none
        else some s.resultStatus) := by
  rw [verdict_eq rfl, trackAction_eq, EStateM.run_bind]
  obtain ⟨t, ran, status, saved, msg⟩ := kept { s.track with outStatus := none, msg := none }
  obtain ⟨out, json⟩ := ending_trackFinish hds call t
  rw [status] at out json
  rw [saved, msg] at json
  rw [ran]
  exact Prod.ext out json

theorem verdict_of_raises {call : Call} {assigned : Option Int}
    (raised : Raises (trackMeasure hds call) assigned) (s : State) :
    verdict hds s call = (assigned, none) := by
  rw [verdict_eq rfl, trackAction_eq, EStateM.run_bind]
  obtain ⟨e, t, ran, out, msg⟩ := raised { s.track with outStatus := none, msg := none } rfl
  rw [ran]
  exact Prod.ext out msg

/-! ## The searches of type 3 -/

/-- The search stops at a corner: an operator inside its `try` raises. -/
def CornerView.Lost (view : CornerView) : Prop :=
  view.imageSize.isSome = true ∧ view.found = false

def CornerView.Seen (view : CornerView) : Prop :=
  view.imageSize.isSome = true ∧ view.found = true

/-- The left image can be read but shows no ear or no edges: no corner is looked for. -/
def LeftView.NoEdges (view : LeftView) : Prop :=
  view.imageSize.isSome = true ∧ view.edgesFound = false

def LeftView.ReachesCorners (view : LeftView) : Prop :=
  view.imageSize.isSome = true ∧ view.edgesFound = true ∧ view.distanceH.isSome = true

def RightView.ReachesCorners (view : RightView) : Prop :=
  view.rotateImage = true ∧ view.imageSize.isSome = true ∧ (searchRect view.vert).isSome = true

/-- One of the four corner searches fails, the ones before it having succeeded. -/
def CornerLost (left : LeftView) (right : RightView) : Prop :=
  left.ReachesCorners ∧
    (left.leftTop.Lost ∨ left.leftTop.Seen ∧
      (left.leftBottom.Lost ∨ left.leftBottom.Seen ∧ right.ReachesCorners ∧
        (right.rightTop.Lost ∨ right.rightTop.Seen ∧ right.rightBottom.Lost)))

theorem run_trackCorner (view : CornerView) (t : Track) :
    (trackCorner view).run t =
      if view.imageSize.isSome then
        if view.found then .ok true { t with status := 1 } else .ok false { t with status := 2 }
      else .error .hException t := by
  unfold trackCorner
  cases view.imageSize.isSome <;> cases view.found <;> rfl

theorem trackResult_noEdges {left : LeftView} (none : left.NoEdges) (right : RightView)
    (fallOff : MeasureResult) (t : Track) : (trackResult left right fallOff).run t = .ok .fail t := by
  obtain ⟨size, edges⟩ := none
  simp [trackResult, trackLeft, size, edges, mustAnswer]

theorem trackResult_lost {left : LeftView} {right : RightView} (lost : CornerLost left right)
    (fallOff : MeasureResult) (t : Track) :
    (trackResult left right fallOff).run t = .ok .fail { t with status := 2 } := by
  obtain ⟨⟨size, edges, distance⟩, lost⟩ := lost
  rcases lost with ⟨s₁, f₁⟩ | ⟨⟨s₁, f₁⟩, lost⟩
  · simp [trackResult, trackLeft, mustAnswer, run_trackCorner, size, edges, distance, s₁, f₁]
  rcases lost with ⟨s₂, f₂⟩ | ⟨⟨s₂, f₂⟩, ⟨rotated, rsize, rect⟩, lost⟩
  · simp [trackResult, trackLeft, mustAnswer, run_trackCorner, size, edges, distance, s₁, f₁, s₂, f₂]
  rcases lost with ⟨s₃, f₃⟩ | ⟨⟨s₃, f₃⟩, s₄, f₄⟩
  · simp [trackResult, trackLeft, trackRight, mustAnswer, run_trackCorner, size, edges, distance, s₁,
      f₁, s₂, f₂, rotated, rsize, rect, s₃, f₃]
  · simp [trackResult, trackLeft, trackRight, mustAnswer, run_trackCorner, size, edges, distance, s₁,
      f₁, s₂, f₂, rotated, rsize, rect, s₃, f₃, s₄, f₄]

/-- The right side, once the left has stored its 1: an exception, a lost corner, or nothing new. -/
theorem trackRight_cases (right : RightView) :
    (∀ t, ∃ v, (trackRight right).run t = .error .hException { t with status := v }) ∨
      (right.ReachesCorners ∧
        (right.rightTop.Lost ∨ right.rightTop.Seen ∧ right.rightBottom.Lost)) ∨
      ∃ seen, ∀ t : Track,
        (trackRight right).run { t with status := 1 } = .ok seen { t with status := 1 } := by
  by_cases rotated : right.rotateImage = true
  swap
  · exact Or.inl fun t => ⟨t.status, by simp [trackRight, mustAnswer, rotated]⟩
  by_cases size : right.imageSize.isSome = true
  swap
  · exact Or.inl fun t => ⟨t.status, by simp [trackRight, mustAnswer, rotated, size]⟩
  by_cases rect : (searchRect right.vert).isSome = true
  swap
  · exact Or.inr (Or.inr ⟨false, fun t => by simp [trackRight, mustAnswer, rotated, size, rect]⟩)
  by_cases s₃ : right.rightTop.imageSize.isSome = true
  swap
  · exact Or.inl fun t => ⟨t.status, by
      simp [trackRight, mustAnswer, run_trackCorner, rotated, size, rect, s₃]⟩
  by_cases f₃ : right.rightTop.found = true
  swap
  · exact Or.inr (Or.inl ⟨⟨rotated, size, rect⟩, Or.inl ⟨s₃, by simpa using f₃⟩⟩)
  by_cases s₄ : right.rightBottom.imageSize.isSome = true
  swap
  · exact Or.inl fun t => ⟨1, by
      simp [trackRight, mustAnswer, run_trackCorner, rotated, size, rect, s₃, f₃, s₄]⟩
  by_cases f₄ : right.rightBottom.found = true
  swap
  · exact Or.inr (Or.inl ⟨⟨rotated, size, rect⟩, Or.inr ⟨⟨s₃, f₃⟩, s₄, by simpa using f₄⟩⟩)
  exact Or.inr (Or.inr ⟨true, fun t => by
    simp [trackRight, mustAnswer, run_trackCorner, rotated, size, rect, s₃, f₃, s₄, f₄]⟩)

/-- With the edges found and no corner lost, the status is 1 unless an exception leaves. -/
theorem trackResult_else {left : LeftView} {right : RightView} (edges : ¬ left.NoEdges)
    (kept : ¬ CornerLost left right) (fallOff : MeasureResult) :
    (∀ t, ∃ v, (trackResult left right fallOff).run t = .error .hException { t with status := v }) ∨
      ∃ code, ∀ t, (trackResult left right fallOff).run t = .ok code { t with status := 1 } := by
  by_cases size : left.imageSize.isSome = true
  swap
  · exact Or.inl fun t => ⟨t.status, by simp [trackResult, trackLeft, mustAnswer, size]⟩
  have found : left.edgesFound = true := by
    by_contra missing
    exact edges ⟨size, by simpa using missing⟩
  by_cases distance : left.distanceH.isSome = true
  swap
  · exact Or.inl fun t => ⟨t.status, by
      simp [trackResult, trackLeft, mustAnswer, size, found, distance]⟩
  have reached : left.ReachesCorners := ⟨size, found, distance⟩
  by_cases s₁ : left.leftTop.imageSize.isSome = true
  swap
  · exact Or.inl fun t => ⟨t.status, by
      simp [trackResult, trackLeft, mustAnswer, run_trackCorner, size, found, distance, s₁]⟩
  have f₁ : left.leftTop.found = true := by
    by_contra lost
    exact kept ⟨reached, Or.inl ⟨s₁, by simpa using lost⟩⟩
  by_cases s₂ : left.leftBottom.imageSize.isSome = true
  swap
  · exact Or.inl fun t => ⟨1, by
      simp [trackResult, trackLeft, mustAnswer, run_trackCorner, size, found, distance, s₁, f₁, s₂]⟩
  have f₂ : left.leftBottom.found = true := by
    by_contra lost
    exact kept ⟨reached, Or.inr ⟨⟨s₁, f₁⟩, Or.inl ⟨s₂, by simpa using lost⟩⟩⟩
  have leftRun (t : Track) : (trackLeft left).run t = .ok true { t with status := 1 } := by
    simp [trackLeft, mustAnswer, run_trackCorner, size, found, distance, s₁, f₁, s₂, f₂]
  rcases trackRight_cases right with raised | lost | ⟨seen, returned⟩
  · refine Or.inl fun t => ?_
    obtain ⟨v, raised⟩ := raised { t with status := 1 }
    exact ⟨v, by simp [trackResult, leftRun, raised]⟩
  · exact absurd ⟨reached, Or.inr ⟨⟨s₁, f₁⟩, Or.inr ⟨⟨s₂, f₂⟩, lost⟩⟩⟩ kept
  · cases seen with
    | false => exact Or.inr ⟨.fail, fun t => by simp [trackResult, leftRun, returned]⟩
    | true => exact Or.inr ⟨fallOff, fun t => by simp [trackResult, leftRun, returned]⟩

/-! ## The branches -/

theorem mustReach_below {n : Nat} {is : List Nat} (bound : Nat) (all : ∀ i ∈ is, i < bound)
    (enough : bound ≤ n) : mustReach n is = pure () :=
  if_pos fun i member => lt_of_lt_of_le (all i member) enough

theorem mustReach_above {n i : Nat} {is : List Nat} (member : i ∈ is) (short : n ≤ i) :
    mustReach n is = throw .outOfRange :=
  if_neg fun all => absurd (all i member) (not_lt.2 short)

/-- With fewer than two images the call ends in `set_images`, before `result_status` is assigned. -/
theorem raises_of_few {call : Call} (few : call.images < 2) :
    Raises (trackMeasure hds call) none := by
  intro t fresh
  have short : mustReach call.images [0, 1] = throw .outOfRange :=
    mustReach_above (i := 1) (by simp) (by omega)
  exact ⟨.outOfRange, t, by simp [trackMeasure, short], fresh, rfl⟩

/-- With two images the four branches run, `result_status` being 2. -/
theorem run_trackMeasure {call : Call} (two : 2 ≤ call.images) (t : Track) :
    (trackMeasure hds call).run t =
      (do
        trackSize hds call
        trackEdges hds call
        trackConfigured hds call
        trackStandard hds call : Tracked Unit).run { t with outStatus := some 2 } := by
  have reached : mustReach call.images [0, 1] = pure () :=
    mustReach_below 2 (by simp) two
  simp only [trackMeasure, reached, pure_bind]
  rfl

theorem SizeView.raises_of_measured {view : SizeView} {size : FSIZE}
    (measured : view.measured = some size) : view.raises = false := by
  unfold SizeView.measured at measured
  split at measured
  · rename_i zeros
    split at measured
    · rename_i answer
      simp [SizeView.raises, zeros.1, zeros.2, answer]
    · cases measured
  · cases measured

section TypeZero

variable {call : Call} (two : 2 ≤ call.images) (type : call.type hds = 0)

include two type

theorem run_typeZero (t : Track) :
    (trackMeasure hds call).run t = (trackSize hds call).run { t with outStatus := some 2 } := by
  rw [run_trackMeasure two]
  simp [trackEdges, trackConfigured, trackStandard, type]

theorem raises_of_sizeRaises (raised : call.size.raises = true) :
    Raises (trackMeasure hds call) (some 2) := by
  intro t _
  refine ⟨.hException, { t with status := 2, outStatus := some 2 }, ?_, rfl, rfl⟩
  rw [run_typeZero two type]
  simp [trackSize, trackZf, storeStatus, mustAnswer, type, raised]

theorem settles_of_notMeasured (returned : call.size.raises = false)
    (failed : call.size.measured = none) : Settles (trackMeasure hds call) 2 := by
  intro t
  refine ⟨{ t with status := 2, outStatus := some 2 }, ?_, rfl, rfl, rfl⟩
  rw [run_typeZero two type]
  simp [trackSize, trackZf, storeStatus, mustAnswer, type, returned, failed]

/-- A measurement that succeeds sets the status word to 0 and goes on to the judgement. -/
theorem run_measured {size : FSIZE} (measured : call.size.measured = some size) (t : Track) :
    (trackMeasure hds call).run t =
      (do
        mustReach call.adjustValues.length [1, 2, 0, 3, 5, 4, 10, 11, 6, 7, 8, 9]
        trackAssign 0
        forM checked (trackCheck hds call size)
        trackAssign (← currentStatus) : Tracked Unit).run
        { t with status := 0, outStatus := some 2 } := by
  rw [run_typeZero two type]
  simp only [trackSize, trackZf, type, SizeView.raises_of_measured measured, measured]
  rfl

theorem settles_of_judged {size : FSIZE} (measured : call.size.measured = some size)
    (enough : 12 ≤ call.adjustValues.length) :
    Settles (trackMeasure hds call)
      (if ∀ d ∈ checked, call.Within hds size d then 0 else 1) := by
  intro t
  have reached : mustReach call.adjustValues.length [1, 2, 0, 3, 5, 4, 10, 11, 6, 7, 8, 9] =
      pure () := mustReach_below 12 (by simp) enough
  rw [run_measured two type measured, reached, trackChecks_eq]
  by_cases near : ∀ d ∈ checked, call.Within hds size d
  · rw [if_pos near, if_pos near]
    exact ⟨{ t with status := 0, outStatus := some 0 }, rfl, rfl, rfl, rfl⟩
  · rw [if_neg near, if_neg near]
    exact ⟨{ t with status := 1, outStatus := some 1 }, rfl, rfl, rfl, rfl⟩

theorem raises_of_measuredShort {size : FSIZE} (measured : call.size.measured = some size)
    (short : call.adjustValues.length < 12) : Raises (trackMeasure hds call) (some 2) := by
  intro t _
  have missed : mustReach call.adjustValues.length [1, 2, 0, 3, 5, 4, 10, 11, 6, 7, 8, 9] =
      throw .outOfRange := mustReach_above (i := 11) (by simp) (by omega)
  rw [run_measured two type measured, missed]
  exact ⟨.outOfRange, { t with status := 0, outStatus := some 2 }, rfl, rfl, rfl⟩

end TypeZero

section OtherTypes

variable {call : Call} (two : 2 ≤ call.images)

include two

theorem settles_of_typeOne (type : call.type hds = 1) (enough : 10 ≤ call.adjustValues.length) :
    Settles (trackMeasure hds call) 0 := by
  intro t
  have reached : mustReach call.adjustValues.length [6, 7, 6, 7, 8, 9] = pure () :=
    mustReach_below 10 (by simp) enough
  refine ⟨{ t with status := 0, outStatus := some 2 }, ?_, rfl, rfl, rfl⟩
  rw [run_trackMeasure two]
  simp [trackSize, trackEdges, trackConfigured, trackStandard, storeStatus, type, reached]

theorem raises_of_typeOne (type : call.type hds = 1) (short : call.adjustValues.length < 10) :
    Raises (trackMeasure hds call) (some 2) := by
  intro t _
  have missed : mustReach call.adjustValues.length [6, 7, 6, 7, 8, 9] = throw .outOfRange :=
    mustReach_above (i := 9) (by simp) (by omega)
  refine ⟨.outOfRange, { t with outStatus := some 2 }, ?_, rfl, rfl⟩
  rw [run_trackMeasure two]
  simp [trackSize, trackEdges, trackConfigured, trackStandard, type, missed]

/-- Type 2 assigns 0 to `result_status` but not to the status word, which is read back. -/
theorem keeps_of_typeTwo (type : call.type hds = 2) (enough : 10 ≤ call.adjustValues.length) :
    Keeps (trackMeasure hds call) := by
  intro t
  have reached : mustReach call.adjustValues.length [1, 2, 0, 3, 4, 5, 6, 7, 6, 7, 8, 9] =
      pure () := mustReach_below 10 (by simp) enough
  refine ⟨{ t with outStatus := some 0 }, ?_, rfl, rfl, rfl⟩
  rw [run_trackMeasure two]
  simp [trackSize, trackEdges, trackConfigured, trackStandard, trackAssign, type, reached]

theorem raises_of_typeTwo (type : call.type hds = 2) (short : call.adjustValues.length < 10) :
    Raises (trackMeasure hds call) (some 2) := by
  intro t _
  have missed : mustReach call.adjustValues.length [1, 2, 0, 3, 4, 5, 6, 7, 6, 7, 8, 9] =
      throw .outOfRange := mustReach_above (i := 9) (by simp) (by omega)
  refine ⟨.outOfRange, { t with outStatus := some 2 }, ?_, rfl, rfl⟩
  rw [run_trackMeasure two]
  simp [trackSize, trackEdges, trackConfigured, trackStandard, type, missed]

theorem keeps_of_otherType (zero : call.type hds ≠ 0) (one : call.type hds ≠ 1)
    (deux : call.type hds ≠ 2) (three : call.type hds ≠ 3) : Keeps (trackMeasure hds call) := by
  intro t
  refine ⟨{ t with outStatus := some 2 }, ?_, rfl, rfl, rfl⟩
  rw [run_trackMeasure two]
  simp [trackSize, trackEdges, trackConfigured, trackStandard, zero, one, deux, three]

end OtherTypes

section TypeThree

variable {call : Call} (two : 2 ≤ call.images) (type : call.type hds = 3)

include two type

theorem run_typeThree (t : Track) :
    (trackMeasure hds call).run t = (trackEdges hds call).run { t with outStatus := some 2 } := by
  rw [run_trackMeasure two]
  simp [trackSize, trackConfigured, trackStandard, type]

/-- No corner is looked for: the status word is what earlier calls left. -/
theorem keeps_of_noEdges (none : call.left.NoEdges) : Keeps (trackMeasure hds call) := by
  intro t
  refine ⟨{ t with outStatus := some 2 }, ?_, rfl, rfl, rfl⟩
  rw [run_typeThree two type]
  simp [trackEdges, type, trackResult_noEdges none]

theorem settles_of_lost (lost : CornerLost call.left call.right) :
    Settles (trackMeasure hds call) 2 := by
  intro t
  refine ⟨{ t with status := 2, outStatus := some 2 }, ?_, rfl, rfl, rfl⟩
  rw [run_typeThree two type]
  simp [trackEdges, type, trackResult_lost lost]

theorem settles_or_raises (edges : ¬ call.left.NoEdges)
    (kept : ¬ CornerLost call.left call.right) :
    Settles (trackMeasure hds call) 1 ∨ Raises (trackMeasure hds call) (some 2) := by
  rcases trackResult_else edges kept call.fallOff with raised | ⟨code, returned⟩
  · refine Or.inr fun t _ => ?_
    obtain ⟨v, raised⟩ := raised { t with outStatus := some 2 }
    refine ⟨.hException, { t with status := v, outStatus := some 2 }, ?_, rfl, rfl⟩
    rw [run_typeThree two type]
    simp [trackEdges, type, raised]
  · cases code with
    | fail =>
        refine Or.inl fun t => ⟨{ t with status := 1, outStatus := some 2 }, ?_, rfl, rfl, rfl⟩
        rw [run_typeThree two type]
        simp [trackEdges, type, returned]
    | success =>
        by_cases enough : 10 ≤ call.adjustValues.length
        · have reached : mustReach call.adjustValues.length [1, 2, 0, 3, 4, 5, 6, 7, 6, 7, 8, 9] =
              pure () := mustReach_below 10 (by simp) enough
          refine Or.inl fun t => ⟨{ t with status := 1, outStatus := some 0 }, ?_, rfl, rfl, rfl⟩
          rw [run_typeThree two type]
          simp [trackEdges, trackAssign, type, returned, reached]
        · have missed : mustReach call.adjustValues.length [1, 2, 0, 3, 4, 5, 6, 7, 6, 7, 8, 9] =
              throw .outOfRange := mustReach_above (i := 9) (by simp) (by omega)
          refine Or.inr fun t _ =>
            ⟨.outOfRange, { t with status := 1, outStatus := some 2 }, ?_, rfl, rfl⟩
          rw [run_typeThree two type]
          simp [trackEdges, type, returned, missed]

end TypeThree

end TizerVision.Measure
