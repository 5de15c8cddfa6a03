/-
# Burrs.Saving — the numbers in the names of the saved images

`halconWorker` and the Taichi DLL save an image under a number that is counted up and starts again at 1
behind 10000.  Some of these numbers are written into a buffer of five characters with `sprintf_s`, which
ends the program when the text and its terminating zero do not fit.

The functions are embedded from the point where the file name is made.  Whether an operator of Halcon raises
an exception before or after it is an input, as are the answers in the `catch` block.  `Int2Chars`, which
writes the numbers of the alerts, is not part of the repository and is a parameter.

* `fits_iff` — a number of the ring fits into the buffer unless it is 10000.
* `serve_formats` — one call: its numbers fit, or the last of them is 10000 and the program ends.
* `formatting_safe_iff` — no number overruns the buffer exactly when fewer than 10000 numbers are formatted
  by the worker and fewer than 9999 by the DLL, whose counter starts at 1.
-/
import TizerVision.Theory.Hoare
import TizerVision.Theory.Wrap

namespace TizerVision.Burrs

open TizerVision.Theory

set_option autoImplicit false

/-! ## The source -/

/-- `INT_NORMAL_IMAGE_MAX_COUNT` and `INT_ALERT_IMAGE_MAX_COUNT`. -/
def intNormalImageMaxCount : Nat := 10000

def intAlertImageMaxCount : Nat := 10000

/-- The four beginnings of a file name. -/
inductive Series where
  | tcAlert
  | tcNormal
  | laAlert
  | laNormal
deriving DecidableEq, Repr

def Series.text : Series → String
  | .tcAlert => "d:/grabs/tc_alert_"
  | .tcNormal => "d:/grabs/tc_normal_"
  | .laAlert => "d:/grabs/la_alert_"
  | .laNormal => "d:/grabs/la_normal_"

structure FileName where
  series : Series
  number : String
deriving DecidableEq, Repr

def FileName.text (name : FileName) : String := name.series.text ++ name.number ++ ".jpg"

/-- The types of a result. -/
inductive BurrsImageType where
  | errorNoImage
  | taichiBurr
  | taichiNormal
  | edgeBurr
  | edgeNormal
deriving DecidableEq, Repr

/-- What is set in a result. -/
structure Result where
  type : BurrsImageType
  fileName : Option FileName
deriving DecidableEq, Repr

/-- A result without an image, as every call starts with. -/
def Result.blank : Result := ⟨.errorNoImage, none⟩

/-- The counters of one `halconWorker` and of the DLL, and the numbers given to `sprintf_s` so far. -/
structure Counters where
  taichiNormal : Nat
  taichiAlert : Nat
  longitudinalNormal : Nat
  longitudinalAlert : Nat
  /-- `g_normalTaichi` of the DLL -/
  normalTaichi : Nat
  formatted : List Nat

/-- The counters as the program starts. -/
def Counters.fresh : Counters := ⟨0, 0, 0, 0, 1, []⟩

/-- `sprintf_s` has called the invalid parameter handler, which ends the program. -/
inductive Terminated where
  | terminated
deriving DecidableEq, Repr

abbrev Saving := EStateM Terminated Counters

/-- `sprintf_s(number, 5, "%d", counter)` -/
def sprintfS (counter : Nat) : Saving String := do
  modify fun s => { s with formatted := s.formatted ++ [counter] }
  if (toString counter).length + 1 ≤ 5 then
    return toString counter
  else
    throw .terminated

/-- `m_TaichiNormal`, `m_TaichiAlert`, `m_LongitudinalNormal`, `m_LongitudinalAlert` and `g_normalTaichi`,
each increased and wrapped. -/
def nextTaichiNormal : Saving Nat :=
  modifyGet fun s =>
    let next := bump intNormalImageMaxCount s.taichiNormal
    (next, { s with taichiNormal := next })

def nextTaichiAlert : Saving Nat :=
  modifyGet fun s =>
    let next := bump intAlertImageMaxCount s.taichiAlert
    (next, { s with taichiAlert := next })

def nextLongitudinalNormal : Saving Nat :=
  modifyGet fun s =>
    let next := bump intNormalImageMaxCount s.longitudinalNormal
    (next, { s with longitudinalNormal := next })

def nextLongitudinalAlert : Saving Nat :=
  modifyGet fun s =>
    let next := bump intAlertImageMaxCount s.longitudinalAlert
    (next, { s with longitudinalAlert := next })

def nextNormalTaichi : Saving Nat :=
  modifyGet fun s =>
    let next := bump intNormalImageMaxCount s.normalTaichi
    (next, { s with normalTaichi := next })

/-- What happens in a `catch` block: the image and its sizes are given, `GenImage1Extern` succeeds, and the
image is zoomed and written. -/
structure Handling where
  imageGiven : Bool
  genImage : Bool
  saved : Bool
deriving DecidableEq, Repr

/-- The `catch` block of the three functions.  Its own `catch` returns the result as it is then. -/
def saveAfterException (next : Saving Nat) (series : Series) (type : BurrsImageType)
    (handling : Handling) (result : Result) : Saving Result := do
  if handling.imageGiven && handling.genImage then
    let counter ← next
    let number ← sprintfS counter
    let result := { result with fileName := some ⟨series, number⟩ }
    if handling.saved then
      return { result with type := type }
    else
      return result
  else
    return result

/-- A call of `actionTaichi`. -/
structure TaichiCall where
  /-- whether the first burr is longer than 5.0, or `none` when an operator raises before -/
  alert : Option Bool
  /-- whether the operators behind the file name succeed -/
  saved : Bool
  handling : Handling
deriving DecidableEq, Repr

/-- A call of `action`, or of `halconAction` of the DLL, which makes no name of its own. -/
structure PlainCall where
  measured : Bool
  saved : Bool
  handling : Handling
deriving DecidableEq, Repr

def actionTaichi (int2Chars : Nat → String) (call : TaichiCall) : Saving Result := do
  let handle := saveAfterException nextLongitudinalNormal .tcNormal .taichiNormal call.handling
  match call.alert with
  | none => handle .blank
  | some true =>
      let counter ← nextTaichiAlert
      let result : Result := ⟨.taichiBurr, some ⟨.tcAlert, int2Chars counter⟩⟩
      if call.saved then return result else handle result
  | some false =>
      let _ ← nextTaichiNormal
      -- the number in the name is that of the alerts
      let counter := (← get).taichiAlert
      let result : Result := ⟨.taichiNormal, some ⟨.tcNormal, int2Chars counter⟩⟩
      if call.saved then return result else handle result

/-- `action`; the result gets its file name only when the image has been saved. -/
def action (call : PlainCall) : Saving Result := do
  let handle := saveAfterException nextLongitudinalNormal .laNormal .edgeNormal call.handling
  if call.measured then
    -- `distance` keeps the 0 it is initialised with
    let distance : Nat := 0
    if distance > 0 then
      let counter ← nextLongitudinalAlert
      let number ← sprintfS counter
      if call.saved then return ⟨.edgeBurr, some ⟨.laAlert, number⟩⟩ else handle ⟨.edgeBurr, none⟩
    else
      let counter ← nextLongitudinalNormal
      let number ← sprintfS counter
      if call.saved then return ⟨.edgeNormal, some ⟨.laNormal, number⟩⟩ else handle ⟨.edgeNormal, none⟩
  else
    handle .blank

/-- `halconAction` of the DLL. -/
def halconAction (call : PlainCall) : Saving Result :=
  if call.measured then return .blank
  else saveAfterException nextNormalTaichi .tcNormal .taichiNormal call.handling .blank

inductive Call where
  | action (call : PlainCall)
  | actionTaichi (call : TaichiCall)
  | halconAction (call : PlainCall)
deriving DecidableEq, Repr

def serve (int2Chars : Nat → String) : Call → Saving Result
  | .action call => Burrs.action call
  | .actionTaichi call => Burrs.actionTaichi int2Chars call
  | .halconAction call => Burrs.halconAction call

/-! ## The buffer -/

/-- The number is one of its ring, and its text fits into the buffer with a terminating zero. -/
def FitsBuffer (counter : Nat) : Prop :=
  1 ≤ counter ∧ counter ≤ intNormalImageMaxCount ∧ (toString counter).length + 1 ≤ 5

theorem fits_iff (counter : Nat) : (toString counter).length + 1 ≤ 5 ↔ counter ≤ 9999 := by
  have digits : (toString counter).length ≤ 4 ↔ counter < 10 ^ 4 :=
    Nat.length_repr_le_iff (by decide)
  omega

/-- The numbers formatted so far fit. -/
def AllFit (s : Counters) : Prop := ∀ counter ∈ s.formatted, FitsBuffer counter

theorem not_allFit {s : Counters} (overrun : 10000 ∈ s.formatted) : ¬ AllFit s := by
  intro all
  have fits := (fits_iff 10000).1 (all 10000 overrun).2.2
  omega

theorem wp_sprintfS {counter : Nat} {Q : String → Counters → Prop} {E : Terminated → Counters → Prop}
    {s : Counters} :
    wp (sprintfS counter) Q E s ↔
      if counter ≤ 9999 then Q (toString counter) { s with formatted := s.formatted ++ [counter] }
      else E .terminated { s with formatted := s.formatted ++ [counter] } := by
  unfold sprintfS
  rw [wp_bind, wp_modify, wp_ite]
  by_cases low : counter ≤ 9999
  · rw [if_pos low, if_pos ((fits_iff counter).2 low), wp_pure]
  · rw [if_neg low, if_neg fun fits => low ((fits_iff counter).1 fits), wp_throw]

/-! ## How many numbers a call formats -/

def Handling.formats (handling : Handling) : Nat :=
  if handling.imageGiven && handling.genImage then 1 else 0

/-- The numbers formatted by the worker. -/
def Call.longitudinal : Call → Nat
  | .action call =>
      (if call.measured then 1 else 0) +
        if call.measured && call.saved then 0 else call.handling.formats
  | .actionTaichi call => if call.alert.isSome && call.saved then 0 else call.handling.formats
  | .halconAction _ => 0

/-- The numbers formatted by the DLL. -/
def Call.dll : Call → Nat
  | .halconAction call => if call.measured then 0 else call.handling.formats
  | _ => 0

/-- Both counters that are formatted are below the last number, and all numbers so far fit. -/
structure Safe (s : Counters) : Prop where
  longitudinal : s.longitudinalNormal ≤ 9999
  dll : s.normalTaichi ≤ 9999
  fit : AllFit s

/-- The program formats `l` numbers of the worker and `d` of the DLL: it returns if both counters stay
below 10000, and otherwise ends with a number that does not fit. -/
def Formats {α : Type} (p : Saving α) (l d : Nat) : Prop :=
  ∀ s, Safe s →
    wp p
      (fun _ s' => s'.longitudinalNormal = s.longitudinalNormal + l ∧
        s'.normalTaichi = s.normalTaichi + d ∧ Safe s')
      (fun _ s' => ¬ (s.longitudinalNormal + l ≤ 9999 ∧ s.normalTaichi + d ≤ 9999) ∧ ¬ AllFit s') s

namespace Formats

variable {α β : Type} {p : Saving α} {f : α → Saving β} {l l' d d' : Nat}

theorem pure (a : α) : Formats (pure a : Saving α) 0 0 := fun _ safe => ⟨rfl, rfl, safe⟩

theorem bind (first : Formats p l d) (rest : ∀ a, Formats (f a) l' d') :
    Formats (p >>= f) (l + l') (d + d') := by
  intro s safe
  rw [wp_bind]
  refine wp_mono (first s safe) ?_ ?_
  · rintro a s₁ ⟨longitudinal, dll, safe₁⟩
    refine wp_mono (rest a s₁ safe₁) ?_ ?_
    · rintro b s₂ ⟨longitudinal', dll', safe₂⟩
      exact ⟨by omega, by omega, safe₂⟩
    · rintro e s₂ ⟨beyond, overrun⟩
      exact ⟨by omega, overrun⟩
  · rintro e s₁ ⟨beyond, overrun⟩
    exact ⟨by omega, overrun⟩

/-- A program that formats nothing and leaves both counters alone. -/
theorem modifyGet {g : Counters → α × Counters}
    (longitudinal : ∀ s, (g s).2.longitudinalNormal = s.longitudinalNormal)
    (dll : ∀ s, (g s).2.normalTaichi = s.normalTaichi)
    (formatted : ∀ s, (g s).2.formatted = s.formatted) :
    Formats (modifyGet g : Saving α) 0 0 := by
  intro s safe
  have kept : AllFit (g s).2 := by
    rw [AllFit, formatted]
    exact safe.fit
  exact ⟨longitudinal s, dll s, by rw [longitudinal]; exact safe.longitudinal,
    by rw [dll]; exact safe.dll, kept⟩

theorem get_bind {f : Counters → Saving α} (rest : ∀ s, Formats (f s) l d) :
    Formats (get >>= f) l d := fun s safe => rest s s safe

theorem mapM {counts counts' : α → Nat} (each : ∀ a, Formats (f a) (counts a) (counts' a))
    (as : List α) : Formats (as.mapM f) (as.map counts).sum (as.map counts').sum := by
  induction as with
  | nil => exact .pure []
  | cons a as ih =>
      rw [List.mapM_cons, List.map_cons, List.map_cons, List.sum_cons, List.sum_cons]
      exact (each a).bind fun b => ih.bind fun bs => .pure (b :: bs)

end Formats

/-! ## One call -/

/-- The next number of a ring below its end. -/
theorem bump_below {counter : Nat} (below : counter ≤ 9999) :
    bump intNormalImageMaxCount counter = counter + 1 := if_neg (by unfold intNormalImageMaxCount; omega)

theorem allFit_append {s : Counters} {counter : Nat} (fit : AllFit s) (positive : 1 ≤ counter)
    (below : counter ≤ 9999) : AllFit { s with formatted := s.formatted ++ [counter] } := by
  intro other found
  rcases List.mem_append.1 found with earlier | latest
  · exact fit other earlier
  · rw [List.mem_singleton.1 latest]
    exact ⟨positive, by unfold intNormalImageMaxCount; omega, (fits_iff counter).2 below⟩

/-- The next number of a ring is formatted, or it is 10000 and the program ends. -/
theorem wp_sprintfS_next {counter : Nat} {s : Counters} (below : counter ≤ 9999) (fit : AllFit s) :
    wp (sprintfS (counter + 1))
      (fun _ s' => counter + 1 ≤ 9999 ∧ s' = { s with formatted := s.formatted ++ [counter + 1] } ∧
        AllFit s')
      (fun _ s' => ¬ counter + 1 ≤ 9999 ∧ ¬ AllFit s') s := by
  rw [wp_sprintfS]
  split
  · rename_i low
    exact ⟨low, rfl, allFit_append fit (Nat.le_add_left 1 counter) low⟩
  · rename_i beyond
    have last : counter + 1 = 10000 := by omega
    exact ⟨beyond, not_allFit (by simp [last])⟩

theorem nextLongitudinalNormal_formats : Formats (nextLongitudinalNormal >>= sprintfS) 1 0 := by
  intro s safe
  rw [wp_bind, nextLongitudinalNormal, wp_modifyGet, bump_below safe.longitudinal]
  refine wp_mono (wp_sprintfS_next safe.longitudinal safe.fit) ?_ ?_
  · rintro number s' ⟨low, rfl, fit⟩
    exact ⟨rfl, rfl, low, safe.dll, fit⟩
  · rintro e s' ⟨beyond, overrun⟩
    exact ⟨fun both => beyond both.1, overrun⟩

theorem nextNormalTaichi_formats : Formats (nextNormalTaichi >>= sprintfS) 0 1 := by
  intro s safe
  rw [wp_bind, nextNormalTaichi, wp_modifyGet, bump_below safe.dll]
  refine wp_mono (wp_sprintfS_next safe.dll safe.fit) ?_ ?_
  · rintro number s' ⟨low, rfl, fit⟩
    exact ⟨rfl, rfl, safe.longitudinal, low, fit⟩
  · rintro e s' ⟨beyond, overrun⟩
    exact ⟨fun both => beyond both.2, overrun⟩

/-- The `catch` block formats a number when it gets to its name. -/
theorem saveAfterException_formats {next : Saving Nat} {l d : Nat}
    (numbers : Formats (next >>= sprintfS) l d) (series : Series) (type : BurrsImageType)
    (handling : Handling) (result : Result) :
    Formats (saveAfterException next series type handling result) (handling.formats * l)
      (handling.formats * d) := by
  unfold saveAfterException Handling.formats
  cases handling.imageGiven && handling.genImage with
  | false =>
      rw [if_neg (by decide), if_neg (by decide), Nat.zero_mul, Nat.zero_mul]
      exact .pure result
  | true =>
      rw [if_pos rfl, if_pos rfl, Nat.one_mul, Nat.one_mul, ← bind_assoc]
      have rest : ∀ number : String, Formats
          (if handling.saved = true then Pure.pure ⟨type, some ⟨series, number⟩⟩
            else Pure.pure ⟨result.type, some ⟨series, number⟩⟩ : Saving Result) 0 0 := by
        intro number
        split
        · exact .pure _
        · exact .pure _
      exact numbers.bind rest

/-- The `catch` block of the worker. -/
theorem handle_formats (series : Series) (type : BurrsImageType) (handling : Handling)
    (result : Result) :
    Formats (saveAfterException nextLongitudinalNormal series type handling result)
      handling.formats 0 := by
  have numbers := saveAfterException_formats nextLongitudinalNormal_formats series type handling result
  rwa [Nat.mul_one, Nat.mul_zero] at numbers

theorem actionTaichi_formats (int2Chars : Nat → String) (call : TaichiCall) :
    Formats (actionTaichi int2Chars call) (Call.actionTaichi call).longitudinal 0 := by
  obtain ⟨alert, saved, handling⟩ := call
  -- behind the file name the call returns, or ends in its `catch` block
  have rest : ∀ result, Formats
      (if saved = true then Pure.pure result
        else saveAfterException nextLongitudinalNormal .tcNormal .taichiNormal handling result)
      (if saved = true then 0 else handling.formats) 0 := by
    intro result
    cases saved
    · exact handle_formats _ _ handling result
    · exact .pure result
  cases alert with
  | none => exact handle_formats _ _ handling .blank
  | some alert =>
      simp only [Call.longitudinal, Option.isSome_some, Bool.true_and]
      cases alert with
      | true =>
          have named : Formats nextTaichiAlert 0 0 :=
            .modifyGet (fun _ => rfl) (fun _ => rfl) fun _ => rfl
          have both := named.bind fun counter =>
            rest ⟨.taichiBurr, some ⟨.tcAlert, int2Chars counter⟩⟩
          rwa [Nat.zero_add, Nat.zero_add] at both
      | false =>
          have counted : Formats nextTaichiNormal 0 0 :=
            .modifyGet (fun _ => rfl) (fun _ => rfl) fun _ => rfl
          have both := counted.bind fun _ => Formats.get_bind fun s =>
            rest ⟨.taichiNormal, some ⟨.tcNormal, int2Chars s.taichiAlert⟩⟩
          rwa [Nat.zero_add, Nat.zero_add] at both

theorem action_formats (call : PlainCall) :
    Formats (action call) (Call.action call).longitudinal 0 := by
  obtain ⟨measured, saved, handling⟩ := call
  cases measured with
  | false =>
      have numbers := handle_formats .laNormal .edgeNormal handling .blank
      rwa [← Nat.zero_add handling.formats] at numbers
  | true =>
      have rest : ∀ number : String, Formats
          (if saved = true then Pure.pure ⟨.edgeNormal, some ⟨.laNormal, number⟩⟩
            else saveAfterException nextLongitudinalNormal .laNormal .edgeNormal handling
              ⟨.edgeNormal, none⟩)
          (if saved = true then 0 else handling.formats) 0 := by
        intro number
        cases saved
        · exact handle_formats .laNormal .edgeNormal handling ⟨.edgeNormal, none⟩
        · exact .pure _
      have both := nextLongitudinalNormal_formats.bind rest
      rw [bind_assoc] at both
      exact both

theorem halconAction_formats (call : PlainCall) :
    Formats (halconAction call) 0 (Call.halconAction call).dll := by
  obtain ⟨measured, saved, handling⟩ := call
  cases measured with
  | false =>
      have numbers := saveAfterException_formats nextNormalTaichi_formats .tcNormal .taichiNormal
        handling .blank
      rwa [Nat.mul_one, Nat.mul_zero] at numbers
  | true => exact .pure _

/-- **One call.** -/
theorem serve_formats (int2Chars : Nat → String) (call : Call) :
    Formats (serve int2Chars call) call.longitudinal call.dll := by
  cases call with
  | action call => exact action_formats call
  | actionTaichi call => exact actionTaichi_formats int2Chars call
  | halconAction call => exact halconAction_formats call

/-! ## A run -/

/-- **All calls of a run**, until one of them ends the program. -/
theorem run_formats (int2Chars : Nat → String) (calls : List Call) :
    Formats (calls.mapM (serve int2Chars)) (calls.map Call.longitudinal).sum
      (calls.map Call.dll).sum :=
  .mapM (serve_formats int2Chars) calls

theorem safe_fresh : Safe Counters.fresh :=
  ⟨by decide, by decide, fun counter found => by cases found⟩

/-- The numbers of a run fit exactly when the worker formats at most 9999 and the DLL at most 9998. -/
theorem allFit_run_iff (int2Chars : Nat → String) (calls : List Call) :
    AllFit (finalState (calls.mapM (serve int2Chars)) Counters.fresh) ↔
      (calls.map Call.longitudinal).sum ≤ 9999 ∧ (calls.map Call.dll).sum ≤ 9998 := by
  have start : Counters.fresh.longitudinalNormal = 0 ∧ Counters.fresh.normalTaichi = 1 := ⟨rfl, rfl⟩
  rw [← wp_iff_finalState (I := AllFit)]
  refine wp_iff_of_ends (wp_mono (run_formats int2Chars calls Counters.fresh safe_fresh) ?_ ?_)
  · rintro results s ⟨longitudinal, dll, safe⟩
    have low := safe.longitudinal
    have low' := safe.dll
    exact iff_of_true safe.fit (by omega)
  · rintro e s ⟨beyond, overrun⟩
    exact iff_of_false overrun (by omega)

/-- **Formatting the numbers.**  For all calls of `action`, `actionTaichi` and `halconAction` of the DLL, in
any order and with exceptions anywhere, whatever `Int2Chars` writes: every number given to `sprintf_s` is
from 1 to its maximum and fits into the five characters, exactly when the worker formats at most 9999
numbers and the DLL at most 9998. -/
theorem formatting_safe_iff (int2Chars : Nat → String) (calls : List Call) :
    (∀ counter ∈ (finalState (calls.mapM (serve int2Chars)) Counters.fresh).formatted,
        FitsBuffer counter) ↔
      (calls.map Call.longitudinal).sum ≤ 9999 ∧ (calls.map Call.dll).sum ≤ 9998 :=
  allFit_run_iff int2Chars calls

/-- A call of `action` that measures an image and saves it. -/
def savedEdges : Call := .action ⟨true, true, ⟨true, true, true⟩⟩

theorem le_of_allFit_savedEdges (int2Chars : Nat → String) (n : Nat)
    (fit : AllFit (finalState ((List.replicate n savedEdges).mapM (serve int2Chars)) Counters.fresh)) :
    n ≤ 9999 := by
  have numbers := ((allFit_run_iff _ _).1 fit).1
  rwa [List.map_replicate, List.sum_replicate_nat, show savedEdges.longitudinal = 1 from rfl,
    Nat.mul_one] at numbers

/-- **The ten thousandth image** ends the program: its number has five digits. -/
theorem ten_thousandth_image_overruns :
    ¬ ∀ (calls : List Call),
      ∀ counter ∈ (finalState (calls.mapM (serve toString)) Counters.fresh).formatted,
        FitsBuffer counter := by
  intro always
  have short := le_of_allFit_savedEdges toString 10000 (always _)
  omega

end TizerVision.Burrs
