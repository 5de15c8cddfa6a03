/-
# Measure.History — when the verdict of a part depends on the parts before it

The status word outlives a call.  Types 0 and 1 and every search for a corner write it; type 2, an
unknown type, and a call of type 3 that finds no edges only read it back, and report the verdict of an
earlier part as their own (`stale_status_reported`).  The count of saved images outlives a call too:
with `save_image` 2 it decides whether a failed part is saved, and so, when saving fails, whether a
JSON is written at all.  These are the only two ways in which histories reach a verdict
(`history_free_iff`).
-/
import TizerVision.Measure.Tolerance

namespace TizerVision.Measure

open TizerVision.Theory

set_option autoImplicit false

section

variable (hds : Headers)

/-- Two histories of calls, with any random numbers, followed by the same call, give the same
`result_status` and the same `msg`. -/
def HistoryFree (call : Call) : Prop :=
  ∀ (rand₁ rand₂ : Nat → Nat) (calls₁ calls₂ : List Call),
    verdict hds (afterCalls hds (State.init rand₁) calls₁) call =
      verdict hds (afterCalls hds (State.init rand₂) calls₂) call

/-- The call reads the status word without having written it. -/
def Call.ReadsOld (call : Call) : Prop :=
  2 ≤ call.images ∧
    ((call.type hds ≠ 0 ∧ call.type hds ≠ 1 ∧ call.type hds ≠ 2 ∧ call.type hds ≠ 3) ∨
      (call.type hds = 2 ∧ 10 ≤ call.adjustValues.length) ∨
      (call.type hds = 3 ∧ call.left.NoEdges))

/-- The measurement fails: `MeasureSize` returns an error code, or a corner is lost. -/
def Call.NotMeasured (call : Call) : Prop :=
  2 ≤ call.images ∧
    ((call.type hds = 0 ∧ call.size.raises = false ∧ call.size.measured = none) ∨
      (call.type hds = 3 ∧ CornerLost call.left call.right))

/-- Only every fifth failed part is saved, and saving this one fails. -/
def Call.CountDecides (call : Call) : Prop :=
  call.NotMeasured hds ∧ call.saveImageType hds = 2 ∧ (call.writeLeft && call.writeRight) = false

end

variable {hds : Headers}

/-! ## Independence -/

/-- Below status 2 the count of saved images does not decide whether saving is tried. -/
theorem saveFails_of_saveFails {call : Call} {v : Int} (low : v ≤ 2)
    (plain : v ≤ 1 ∨ call.saveImageType hds ≠ 2 ∨ (call.writeLeft && call.writeRight) = true)
    {saved : Nat} (saved' : Nat) (fails : call.SaveFails hds v saved) :
    call.SaveFails hds v saved' := by
  obtain ⟨bad, -, failed⟩ := fails
  refine ⟨bad, Or.inl ?_, failed⟩
  rcases plain with below | other | written
  · omega
  · omega
  · rw [failed] at written
    cases written

theorem historyFree_of_settles {call : Call} {v : Int} (settled : Settles (trackMeasure hds call) v)
    (low : v ≤ 2)
    (plain : v ≤ 1 ∨ call.saveImageType hds ≠ 2 ∨ (call.writeLeft && call.writeRight) = true) :
    HistoryFree hds call := by
  intro rand₁ rand₂ calls₁ calls₂
  rw [verdict_of_settles settled, verdict_of_settles settled]
  have same (saved saved' : Nat) : call.SaveFails hds v saved ↔ call.SaveFails hds v saved' :=
    ⟨saveFails_of_saveFails low plain saved', saveFails_of_saveFails low plain saved⟩
  simp only [same _ 0]

theorem historyFree_of_raises {call : Call} {assigned : Option Int}
    (raised : Raises (trackMeasure hds call) assigned) : HistoryFree hds call := by
  intro rand₁ rand₂ calls₁ calls₂
  rw [verdict_of_raises raised, verdict_of_raises raised]

/-- Where a part that was not measured does not depend on the count of saved images. -/
theorem plain_of_not_countDecides {call : Call} (plain : ¬ call.CountDecides hds)
    (failed : call.NotMeasured hds) :
    (2 : Int) ≤ 1 ∨ call.saveImageType hds ≠ 2 ∨ (call.writeLeft && call.writeRight) = true := by
  by_cases rare : call.saveImageType hds = 2
  · refine Or.inr (Or.inr ?_)
    by_contra unwritten
    exact plain ⟨failed, rare, by simpa using unwritten⟩
  · exact Or.inr (Or.inl rare)

theorem historyFree_of_typeZero {call : Call} (two : 2 ≤ call.images) (zero : call.type hds = 0)
    (plain : ¬ call.CountDecides hds) : HistoryFree hds call := by
  cases measured : call.size.measured with
  | none =>
      rcases Bool.eq_false_or_eq_true call.size.raises with raised | returned
      · exact historyFree_of_raises (raises_of_sizeRaises two zero raised)
      · exact historyFree_of_settles (settles_of_notMeasured two zero returned measured) le_rfl
          (plain_of_not_countDecides plain ⟨two, Or.inl ⟨zero, returned, measured⟩⟩)
  | some size =>
      by_cases enough : 12 ≤ call.adjustValues.length
      · refine historyFree_of_settles (settles_of_judged two zero measured enough) ?_ (Or.inl ?_)
        · split <;> decide
        · split <;> decide
      · exact historyFree_of_raises (raises_of_measuredShort two zero measured (not_le.1 enough))

theorem historyFree_of_typeThree {call : Call} (two : 2 ≤ call.images) (three : call.type hds = 3)
    (edges : ¬ call.left.NoEdges) (plain : ¬ call.CountDecides hds) : HistoryFree hds call := by
  by_cases lost : CornerLost call.left call.right
  · exact historyFree_of_settles (settles_of_lost two three lost) le_rfl
      (plain_of_not_countDecides plain ⟨two, Or.inr ⟨three, lost⟩⟩)
  · rcases settles_or_raises two three edges lost with settled | raised
    · exact historyFree_of_settles settled (by decide) (Or.inl (by decide))
    · exact historyFree_of_raises raised

theorem historyFree_of_conditions {call : Call} (own : ¬ call.ReadsOld hds)
    (plain : ¬ call.CountDecides hds) : HistoryFree hds call := by
  by_cases two : 2 ≤ call.images
  swap
  · exact historyFree_of_raises (raises_of_few (not_le.1 two))
  by_cases zero : call.type hds = 0
  · exact historyFree_of_typeZero two zero plain
  by_cases one : call.type hds = 1
  · by_cases enough : 10 ≤ call.adjustValues.length
    · exact historyFree_of_settles (settles_of_typeOne two one enough) (by decide)
        (Or.inl (by decide))
    · exact historyFree_of_raises (raises_of_typeOne two one (not_le.1 enough))
  by_cases deux : call.type hds = 2
  · by_cases enough : 10 ≤ call.adjustValues.length
    · exact absurd ⟨two, Or.inr (Or.inl ⟨deux, enough⟩)⟩ own
    · exact historyFree_of_raises (raises_of_typeTwo two deux (not_le.1 enough))
  by_cases three : call.type hds = 3
  · have edges : ¬ call.left.NoEdges := fun none => own ⟨two, Or.inr (Or.inr ⟨three, none⟩)⟩
    exact historyFree_of_typeThree two three edges plain
  · exact absurd ⟨two, Or.inl ⟨zero, one, deux, three⟩⟩ own

/-! ## Dependence -/

/-- A part that `MeasureSize` could not measure, with every image saved. -/
def failedPart : Call where
  jh := .constant "0" []
  jhCalcStd := .constant "0" []
  jhCalib := .constant "0" []
  images := 2
  size := ⟨some 1, none, none⟩
  left := .blank
  right := .blank
  fallOff := .success
  writeLeft := true
  writeRight := true

/-- After it the status word is 2 and one more image pair is saved. -/
theorem track_failedPart (s : State) :
    (afterCall hds s failedPart).resultStatus = 2 ∧
      (afterCall hds s failedPart).imageSavedCount = s.imageSavedCount + 1 := by
  have zero : failedPart.type hds = 0 := hds.str2Int_zero
  have every : failedPart.saveImageType hds = 0 := hds.str2Int_zero
  have two : 2 ≤ failedPart.images := le_rfl
  have settled := settles_of_notMeasured two zero (by decide) (by decide)
  obtain ⟨t, ran, status, saved, -⟩ := settled { s.track with outStatus := none, msg := none }
  have finished : (trackFinish hds failedPart).run t =
      .ok () { t with outStatus := some t.status, msg := some t.status, saved := t.saved + 1 } := by
    have written : ¬ failedPart.SaveFails hds t.status t.saved := fun fails => by
      cases fails.2.2
    have bad : failedPart.saveImageType hds ≤ t.status := by
      rw [every, status]
      decide
    rw [run_trackFinish, EStateM.run_bind, run_trackSave, if_neg written, if_pos bad]
    rfl
  have tracked := track_afterCall hds s failedPart
  rw [trackAction_eq, EStateM.run_bind, ran] at tracked
  simp only [finished, ending] at tracked
  refine ⟨?_, ?_⟩
  · exact (congrArg Track.status tracked).trans status
  · exact (congrArg Track.saved tracked).trans (congrArg (· + 1) saved)

theorem readsOld_keeps {call : Call} (old : call.ReadsOld hds) : Keeps (trackMeasure hds call) := by
  obtain ⟨two, ⟨zero, one, deux, three⟩ | ⟨type, enough⟩ | ⟨type, none⟩⟩ := old
  · exact keeps_of_otherType two zero one deux three
  · exact keeps_of_typeTwo two type enough
  · exact keeps_of_noEdges two type none

theorem notMeasured_settles {call : Call} (failed : call.NotMeasured hds) :
    Settles (trackMeasure hds call) 2 := by
  obtain ⟨two, ⟨type, returned, none⟩ | ⟨type, lost⟩⟩ := failed
  · exact settles_of_notMeasured two type returned none
  · exact settles_of_lost two type lost

/-- A call that reads the old word reports 0 at the start and 2 after a failed part. -/
theorem not_historyFree_of_readsOld {call : Call} (old : call.ReadsOld hds) :
    ¬ HistoryFree hds call := by
  intro free
  have same := free (fun _ => 0) (fun _ => 0) [] [failedPart]
  rw [verdict_of_keeps (readsOld_keeps old), verdict_of_keeps (readsOld_keeps old)] at same
  have second : (afterCalls hds (State.init fun _ => 0) [failedPart]).resultStatus = 2 :=
    (track_failedPart _).1
  have words := congrArg Prod.fst same
  rw [second] at words
  cases words

/-- At the start the failed part is to be saved and no JSON is written; after one saved part it is
not to be saved, and the JSON is written. -/
theorem not_historyFree_of_countDecides {call : Call} (decides : call.CountDecides hds) :
    ¬ HistoryFree hds call := by
  obtain ⟨failed, rare, unwritten⟩ := decides
  intro free
  have same := free (fun _ => 0) (fun _ => 0) [] [failedPart]
  rw [verdict_of_settles (notMeasured_settles failed),
    verdict_of_settles (notMeasured_settles failed)] at same
  have first : call.SaveFails hds 2 0 := ⟨by omega, Or.inr rfl, unwritten⟩
  have count : (afterCalls hds (State.init fun _ => 0) [failedPart]).imageSavedCount = 1 :=
    (track_failedPart _).2
  have second : ¬ call.SaveFails hds 2 1 := fun fails => by
    rcases fails.2.1 with often | fifth
    · omega
    · omega
  have texts := congrArg Prod.snd same
  rw [count, if_neg second] at texts
  exact Option.some_ne_none _ (texts.symm.trans (if_pos first))

/-- **A verdict depends on the history in two ways only.** -/
theorem history_free_iff (call : Call) :
    HistoryFree hds call ↔ ¬ call.ReadsOld hds ∧ ¬ call.CountDecides hds :=
  ⟨fun free => ⟨fun old => not_historyFree_of_readsOld old free,
      fun decides => not_historyFree_of_countDecides decides free⟩,
    fun ⟨own, plain⟩ => historyFree_of_conditions own plain⟩

/-! ## A stale status -/

/-- A part of type 2: every value is configured, none is measured. -/
def configuredPart : Call where
  jh := .constant "0" []
  jhCalcStd := .constant "0" []
  jhCalib := .constant "2" (List.replicate 12 "0")
  images := 2
  size := ⟨some 0, some 0, none⟩
  left := .blank
  right := .blank
  fallOff := .success
  writeLeft := true
  writeRight := true

/-- **The verdict of another part.** The same configured part is reported as good at the start and as
failed after a part that could not be measured. -/
theorem stale_status_reported :
    verdict Headers.whole (afterCalls Headers.whole (State.init fun _ => 0) []) configuredPart =
        (some 0, some 0) ∧
      verdict Headers.whole (afterCalls Headers.whole (State.init fun _ => 0) [failedPart])
        configuredPart = (some 2, some 2) ∧
      ¬ HistoryFree Headers.whole configuredPart := by
  have first : verdict Headers.whole (afterCalls Headers.whole (State.init fun _ => 0) [])
      configuredPart = (some 0, some 0) := by decide +kernel
  have second : verdict Headers.whole (afterCalls Headers.whole (State.init fun _ => 0) [failedPart])
      configuredPart = (some 2, some 2) := by decide +kernel
  refine ⟨first, second, fun free => ?_⟩
  have same := free (fun _ => 0) (fun _ => 0) [] [failedPart]
  rw [first, second] at same
  cases same

end TizerVision.Measure
