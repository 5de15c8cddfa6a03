/-
# Measure.Tolerance — the status of a measured part against its seven tolerances

Seven dimensions have a configured standard and a tolerance.  A call of type 0 compares six of them:
the sum `LH` is adjusted, reported and configured, but its pair is never read back from
`xinyu_calc_std`.  So a part whose six other dimensions are good passes with any `LH`
(`forgotten_lh_passes`); on every other input the status is the right one
(`verdict_right_iff`).
-/
import TizerVision.Measure.Outcome

namespace TizerVision.Measure

open TizerVision.Theory

set_option autoImplicit false

/-! ## The right verdict -/

section

variable (hds : Headers)

/-- The size `measure_image_by_zf` delivers in a call of type 0, when it succeeds. -/
def Call.measured (call : Call) : Option FSIZE :=
  if 2 ≤ call.images then call.size.measured else none

/-- What the `result_status` of a call of type 0 is to say: 0 only for a part with all seven
dimensions in tolerance, 0 for each such part, 1 for any other measured part, 2 for a part that could
not be measured. -/
structure VerdictRight (s : State) (call : Call) : Prop where
  ok_within : (verdict hds s call).1 = some 0 →
    ∃ size, call.measured = some size ∧ ∀ d, call.Within hds size d
  within_ok : ∀ size, call.measured = some size → (∀ d, call.Within hds size d) →
    (verdict hds s call).1 = some 0
  outside_ng : ∀ size, call.measured = some size → (∃ d, ¬ call.Within hds size d) →
    (verdict hds s call).1 = some 1
  failed : 2 ≤ call.images → call.measured = none → (verdict hds s call).1 = some 2

/-- The part is measured, its six compared dimensions are in tolerance and `LH` is not. -/
def Call.LhForgotten (call : Call) : Prop :=
  ∃ size, call.measured = some size ∧ (∀ d ∈ checked, call.Within hds size d) ∧
    ¬ call.Within hds size .lh

end

variable {hds : Headers}

theorem within_all_iff (call : Call) (size : FSIZE) :
    (∀ d, call.Within hds size d) ↔
      (∀ d ∈ checked, call.Within hds size d) ∧ call.Within hds size .lh := by
  refine ⟨fun all => ⟨fun d _ => all d, all .lh⟩, fun ⟨six, lh⟩ d => ?_⟩
  cases d with
  | lh => exact lh
  | _ => exact six _ (by decide)

theorem measured_eq_some {call : Call} {size : FSIZE} (measured : call.measured = some size) :
    2 ≤ call.images ∧ call.size.measured = some size := by
  unfold Call.measured at measured
  split at measured
  · exact ⟨by assumption, measured⟩
  · cases measured

/-- The status of a measured part: the six comparisons and nothing else. -/
theorem status_of_measured {call : Call} (type : call.type hds = 0)
    (enough : 12 ≤ call.adjustValues.length) {size : FSIZE} (measured : call.measured = some size)
    (s : State) :
    (verdict hds s call).1 =
      some (if ∀ d ∈ checked, call.Within hds size d then 0 else 1) := by
  obtain ⟨two, measured⟩ := measured_eq_some measured
  rw [verdict_of_settles (settles_of_judged two type measured enough)]

/-- The status of a part that is not measured: never 0, and 2 once the images are there. -/
theorem status_of_notMeasured {call : Call} (type : call.type hds = 0)
    (failed : call.measured = none) (s : State) :
    (verdict hds s call).1 = if 2 ≤ call.images then some 2 else none := by
  by_cases two : 2 ≤ call.images
  · rw [if_pos two]
    rw [Call.measured, if_pos two] at failed
    rcases Bool.eq_false_or_eq_true call.size.raises with raised | returned
    · rw [verdict_of_raises (raises_of_sizeRaises two type raised)]
    · rw [verdict_of_settles (settles_of_notMeasured two type returned failed)]
  · rw [if_neg two, verdict_of_raises (raises_of_few (not_le.1 two))]

/-- **The verdict is right exactly when `LH` does not matter.** -/
theorem verdict_right_iff (s : State) (call : Call) (type : call.type hds = 0)
    (enough : 12 ≤ call.adjustValues.length) :
    VerdictRight hds s call ↔ ¬ call.LhForgotten hds := by
  constructor
  · rintro right ⟨size, measured, six, lh⟩
    have passed := status_of_measured type enough measured s
    rw [if_pos six] at passed
    obtain ⟨size', measured', all⟩ := right.ok_within passed
    rw [measured] at measured'
    cases measured'
    exact lh (all .lh)
  · intro remembered
    have decided {size : FSIZE} (measured : call.measured = some size) :
        (∀ d ∈ checked, call.Within hds size d) ↔ ∀ d, call.Within hds size d := by
      refine ⟨fun six => (within_all_iff call size).2 ⟨six, ?_⟩, fun all d _ => all d⟩
      by_contra lh
      exact remembered ⟨size, measured, six, lh⟩
    refine ⟨fun passed => ?_, fun size measured all => ?_, fun size measured outside => ?_,
      fun two failed => ?_⟩
    · cases measured : call.measured with
      | none =>
          rw [status_of_notMeasured type measured] at passed
          split at passed <;> cases passed
      | some size =>
          refine ⟨size, rfl, (decided measured).1 ?_⟩
          by_contra far
          rw [status_of_measured type enough measured, if_neg far] at passed
          cases passed
    · rw [status_of_measured type enough measured, if_pos ((decided measured).2 all)]
    · have far : ¬ ∀ d ∈ checked, call.Within hds size d := fun six =>
        outside.elim fun d out => out ((decided measured).1 six d)
      rw [status_of_measured type enough measured, if_neg far]
    · rw [status_of_notMeasured type failed, if_pos two]

/-! ## What the JSON says of the measured part -/

def Texts.dimension (texts : Texts) : Dimension → String
  | .w => texts.W
  | .l => texts.L
  | .h => texts.H
  | .h1 => texts.H1
  | .lh => texts.LH
  | .w1 => texts.W1
  | .w2 => texts.W2

def Report.dimension (report : Report) : Dimension → String
  | .w => report.W
  | .l => report.L
  | .h => report.H
  | .h1 => report.H1
  | .lh => report.LH
  | .w1 => report.W1
  | .w2 => report.W2

theorem numberAt_eq_ok {call : Call} {i : Nat} {s s' : State} {q : ℚ}
    (returned : (numberAt hds call.adjustValues i).run s = .ok q s') :
    q = call.adjustment hds i := by
  unfold numberAt at returned
  obtain ⟨value, s₁, read, packed⟩ := run_bind_eq_ok returned
  unfold valueAt at read
  cases entry : call.adjustValues[i]? with
  | none =>
      rw [entry] at read
      cases read
  | some text =>
      rw [entry] at read
      cases read
      cases packed
      simp [Call.adjustment, entry]

/-- Each of the seven texts is the adjusted measurement of its dimension. -/
theorem judgeSize_texts {call : Call} {std : hds.CalcStd} {size : FSIZE} {s s' : State}
    {texts : Texts} (returned : (judgeSize hds call.adjustValues std size).run s = .ok texts s')
    (d : Dimension) : texts.dimension d = hds.d2str (call.adjusted hds size d) := by
  unfold judgeSize at returned
  obtain ⟨a₁, _, read₁, returned⟩ := run_bind_eq_ok returned
  obtain ⟨a₂, _, read₂, returned⟩ := run_bind_eq_ok returned
  obtain ⟨a₀, _, read₀, returned⟩ := run_bind_eq_ok returned
  obtain ⟨a₃, _, read₃, returned⟩ := run_bind_eq_ok returned
  obtain ⟨a₅, _, read₅, returned⟩ := run_bind_eq_ok returned
  obtain ⟨a₄, _, read₄, returned⟩ := run_bind_eq_ok returned
  obtain ⟨ra1, _, -, returned⟩ := run_bind_eq_ok returned
  obtain ⟨ra2, _, -, returned⟩ := run_bind_eq_ok returned
  obtain ⟨rb1, _, -, returned⟩ := run_bind_eq_ok returned
  obtain ⟨rb2, _, -, returned⟩ := run_bind_eq_ok returned
  obtain ⟨rb3, _, -, returned⟩ := run_bind_eq_ok returned
  obtain ⟨rb4, _, -, returned⟩ := run_bind_eq_ok returned
  -- one assignment, six comparisons and the read-back stand before the texts are packed
  obtain ⟨_, _, -, returned⟩ := run_bind_eq_ok returned
  obtain ⟨_, _, -, returned⟩ := run_bind_eq_ok returned
  obtain ⟨_, _, -, returned⟩ := run_bind_eq_ok returned
  obtain ⟨_, _, -, returned⟩ := run_bind_eq_ok returned
  obtain ⟨_, _, -, returned⟩ := run_bind_eq_ok returned
  obtain ⟨_, _, -, returned⟩ := run_bind_eq_ok returned
  obtain ⟨_, _, -, returned⟩ := run_bind_eq_ok returned
  obtain ⟨_, _, -, returned⟩ := run_bind_eq_ok returned
  obtain ⟨_, _, -, returned⟩ := run_bind_eq_ok returned
  cases returned
  rw [numberAt_eq_ok read₀, numberAt_eq_ok read₁, numberAt_eq_ok read₂, numberAt_eq_ok read₃,
    numberAt_eq_ok read₄, numberAt_eq_ok read₅]
  cases d <;> rfl

theorem measureImageByZf_eq_ok {view : SizeView} {size : FSIZE} {answer : Option FSIZE}
    {s s' : State} (measured : view.measured = some size)
    (returned : (measureImageByZf view).run s = .ok answer s') : answer = some size := by
  have tracked := measureImageByZf_simulates view s
  have zf : (trackZf view).run s.track = .ok (some size) { s.track with status := 0 } := by
    simp only [trackZf, measured, SizeView.raises_of_measured measured]
    rfl
  rw [returned, zf] at tracked
  exact (EStateM.Result.ok.inj tracked).1

/-- **The JSON of a measured part** carries the seven adjusted measurements, `LH` with them. -/
theorem reported_of_measured {call : Call} (type : call.type hds = 0) {size : FSIZE}
    (measured : call.size.measured = some size) {s s' : State}
    (returned : (halconActionWithImageList hds call).run s = .ok () s') :
    ∃ report, s'.out = some report ∧
      ∀ d, report.dimension d = hds.d2str (call.adjusted hds size d) := by
  unfold halconActionWithImageList at returned
  obtain ⟨_, _, -, returned⟩ := run_bind_eq_ok returned
  obtain ⟨_, _, -, returned⟩ := run_bind_eq_ok returned
  obtain ⟨texts, s₁, sized, returned⟩ := run_bind_eq_ok returned
  have seven (d : Dimension) : texts.dimension d = hds.d2str (call.adjusted hds size d) := by
    rw [measureSize, if_pos type] at sized
    obtain ⟨answer, s₂, zf, judged⟩ := run_bind_eq_ok sized
    rw [measureImageByZf_eq_ok measured zf] at judged
    exact judgeSize_texts judged d
  have edges : measureEdges hds call texts = pure texts := by simp [measureEdges, type]
  have configured : configuredSize hds call texts = pure texts := by simp [configuredSize, type]
  have standard : standardSize hds call texts = pure texts := by simp [standardSize, type]
  rw [edges, pure_bind, configured, pure_bind, standard, pure_bind] at returned
  obtain ⟨_, _, -, returned⟩ := run_bind_eq_ok returned
  obtain ⟨_, _, -, returned⟩ := run_bind_eq_ok returned
  obtain ⟨_, _, -, returned⟩ := run_bind_eq_ok returned
  cases returned
  refine ⟨_, rfl, fun d => ?_⟩
  rw [← seven d]
  cases d <;> rfl

/-! ## A part that passes -/

/-- The number written in decimal digits. -/
def readDigits (s : String) : Nat := s.toList.foldl (fun n c => 10 * n + (c.toNat - 48)) 0

/-- Headers whose texts are whole numbers. -/
def Headers.whole : Headers where
  str2d s := readDigits s
  d2str q := toString q
  str2Int s := readDigits s
  int2Str := Int.repr
  str2Int_zero := by decide
  positionCode
    | .leftTop => 0
    | .leftBottom => 1
    | .right => 2
    | .rightTop => 3
    | .rightBottom => 4
  CalcStd := Dimension → ℚ × ℚ
  calcStd := fun _ => (0, 0)
  setValue d v a std := fun e => if e = d then (v, a) else std e
  getValue d std := std d
  getValue_setValue _ _ _ _ _ := rfl

/-- A document with one text for every key and one list for every array. -/
def JsonHelper.constant (value : String) (values : List String) : JsonHelper :=
  ⟨fun _ => value, fun _ => values⟩

/-- Views in which no operator answers. -/
def CornerView.blank : CornerView := ⟨none, none, false⟩

def LeftView.blank : LeftView := ⟨none, none, none, none, none, .blank, .blank⟩

def RightView.blank : RightView := ⟨false, none, none, .blank, .blank⟩

/-- Every standard and every tolerance is 1, nothing is adjusted, and the part measures 2 in `L` and
in `H`: `LH` is 4. -/
def longPart : Call where
  jh := .constant "0" []
  jhCalcStd := .constant "1" []
  jhCalib := .constant "0" (List.replicate 12 "0")
  images := 2
  size := ⟨some 0, some 0, some (0, ⟨1, 2, 2, 1, 1, 1⟩)⟩
  left := .blank
  right := .blank
  fallOff := .success
  writeLeft := true
  writeRight := true

theorem verdict_right_iff_longPart :
    VerdictRight Headers.whole (State.init fun _ => 0) longPart ↔
      ¬ longPart.LhForgotten Headers.whole :=
  verdict_right_iff _ longPart (by decide) (by decide)

/-- **`LH` is forgotten.** A part with `LH` three units off its standard, the tolerance being one,
passes with status 0. -/
theorem forgotten_lh_passes :
    longPart.type Headers.whole = 0 ∧ longPart.adjustValues.length = 12 ∧
      (verdict Headers.whole (State.init fun _ => 0) longPart).1 = some 0 ∧
      ¬ VerdictRight Headers.whole (State.init fun _ => 0) longPart := by
  have passed : (verdict Headers.whole (State.init fun _ => 0) longPart).1 = some 0 := by
    decide +kernel
  have far : ¬ longPart.Within Headers.whole ⟨1, 2, 2, 1, 1, 1⟩ .lh := by
    decide +kernel
  refine ⟨by decide, by decide, passed, fun right => ?_⟩
  obtain ⟨size, measured, all⟩ := right.ok_within passed
  cases measured
  exact far (all .lh)

end TizerVision.Measure
