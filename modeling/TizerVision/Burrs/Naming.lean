/-
# Burrs.Naming — when two Taichi images get the same file name

`actionTaichi` numbers its alerts with one counter and the images of its `catch` block with another; an
image without an alert gets the number of the latest alert, not of the counter that is increased for it.
The last two kinds share the beginning of their names.

* `wp_mapM_actionTaichi` — the name of each result, by the alerts and exceptions up to it.
* `name_ring_iff` — the latest ten thousand names of either kind differ exactly when no two of them clash
  by these counts.
* `normal_images_share_name` — two images without an alert between them have one name.

Of `Int2Chars` it is assumed that it writes decimal digits (`WritesDecimal`).
-/
import TizerVision.Burrs.Saving

namespace TizerVision.Burrs

open TizerVision.Theory

set_option autoImplicit false

/-! ## The names -/

/-- How a result gets its file name. -/
inductive Path where
  | alert
  | normal
  | exception
deriving DecidableEq, Repr

def Path.series : Path → Series
  | .alert => .tcAlert
  | .normal => .tcNormal
  | .exception => .tcNormal

/-- The name the result of a call has in the end: that of the `catch` block if the call gets to it, and
otherwise the one made before, if any. -/
def TaichiCall.path (call : TaichiCall) : Option Path :=
  if !(call.alert.isSome && call.saved) && (call.handling.imageGiven && call.handling.genImage) then
    some .exception
  else
    call.alert.map fun alert => if alert then .alert else .normal

/-- The calls that count an alert, and those that are numbered in the `catch` block. -/
def alerts (calls : List TaichiCall) : Nat := calls.countP fun call => call.alert = some true

def exceptions (calls : List TaichiCall) : Nat := calls.countP fun call => call.path = some .exception

/-- The size of the ring of a kind of names. -/
def ringSize : Series → Nat
  | .tcAlert => intAlertImageMaxCount
  | .laAlert => intAlertImageMaxCount
  | .tcNormal => intNormalImageMaxCount
  | .laNormal => intNormalImageMaxCount

/-- The kinds of the names of some results. -/
def kinds (results : List Result) : List (Option Series) :=
  results.map fun result => result.fileName.map FileName.series

/-- How many results of a kind there are behind position `i` up to position `j`. -/
def newer (kinds : List (Option Series)) (series : Series) (i j : Nat) : Nat :=
  ((kinds.take (j + 1)).drop (i + 1)).count (some series)

/-- **The ring of names**: a result has not the name of one that is still among the latest of its kind. -/
def RingKept (results : List Result) : Prop :=
  ∀ i j older latest name name', i < j → results[i]? = some older → results[j]? = some latest →
    older.fileName = some name → latest.fileName = some name' → name.series = name'.series →
    newer (kinds results) name.series i j < ringSize name.series → name.text ≠ name'.text

/-! ## When they clash -/

/-- The alerts up to the two calls, and the exceptions, give one number. -/
def Clash (alerts alerts' exceptions exceptions' : Nat) : Path → Path → Prop
  | .alert, .alert => 10000 ∣ alerts' - alerts
  | .normal, .normal => alerts' = alerts ∨ 1 ≤ alerts ∧ 10000 ∣ alerts' - alerts
  | .normal, .exception => 1 ≤ alerts ∧ (alerts - 1) % 10000 + 1 = exceptions'
  | .exception, .normal => 1 ≤ alerts' ∧ (alerts' - 1) % 10000 + 1 = exceptions
  | _, _ => False

/-- No two calls clash while the older is among the latest of its kind. -/
def Apart (calls : List TaichiCall) : Prop :=
  ∀ i j older latest path path', i < j → calls[i]? = some older → calls[j]? = some latest →
    older.path = some path → latest.path = some path' → path.series = path'.series →
    newer (calls.map fun call => call.path.map Path.series) path.series i j < ringSize path.series →
    ¬ Clash (alerts (calls.take (i + 1))) (alerts (calls.take (j + 1)))
      (exceptions (calls.take (i + 1))) (exceptions (calls.take (j + 1))) path path'

/-! ## One call -/

/-- The name on a path, with the number of the latest alert and of the latest exception. -/
def nameOf (alertNumber exceptionNumber : Nat) : Path → FileName
  | .alert => ⟨.tcAlert, toString alertNumber⟩
  | .normal => ⟨.tcNormal, toString alertNumber⟩
  | .exception => ⟨.tcNormal, toString exceptionNumber⟩

theorem nameOf_series (a e : Nat) (path : Path) : (nameOf a e path).series = path.series := by
  cases path <;> rfl

/-- The number of the alert after some alerts. -/
def alertNumber (alerts : Nat) : Nat := (bump intAlertImageMaxCount)^[alerts] 0

theorem alertNumber_succ (a : Nat) : alertNumber (a + 1) = a % 10000 + 1 := by
  rw [alertNumber, iterate_bump (by decide) (Nat.zero_le _), Nat.zero_add]
  rfl

/-- `Int2Chars` writes the decimal digits of a number, as far as the alerts are counted. -/
def WritesDecimal (int2Chars : Nat → String) : Prop :=
  ∀ n ≤ intAlertImageMaxCount, int2Chars n = toString n

theorem WritesDecimal.alertNumber {int2Chars : Nat → String} (decimal : WritesDecimal int2Chars)
    (a : Nat) : int2Chars (alertNumber a) = toString (alertNumber a) := by
  apply decimal
  cases a with
  | zero => exact Nat.zero_le _
  | succ a =>
      rw [alertNumber_succ]
      exact Nat.mod_lt a (by decide)

/-- The counters after some alerts and some exceptions. -/
structure Counted (a e : Nat) (s : Counters) : Prop where
  alert : s.taichiAlert = alertNumber a
  exception : s.longitudinalNormal = e
  below : e ≤ 9999

theorem Counted.next {a e : Nat} {s : Counters} (counted : Counted a e s) :
    bump intAlertImageMaxCount s.taichiAlert = alertNumber (a + 1) := by
  rw [counted.alert, alertNumber, alertNumber, Function.iterate_succ_apply']

/-- The `catch` block: the name is numbered by the exceptions if the call gets there. -/
theorem wp_handle {a e : Nat} {s : Counters} (counted : Counted a e s) (type : BurrsImageType)
    (handling : Handling) (result : Result) :
    wp (saveAfterException nextLongitudinalNormal .tcNormal type handling result)
      (fun named s' =>
        if handling.imageGiven && handling.genImage then
          named.fileName = some ⟨.tcNormal, toString (e + 1)⟩ ∧ Counted a (e + 1) s'
        else named.fileName = result.fileName ∧ Counted a e s')
      (fun _ _ => True) s := by
  unfold saveAfterException
  cases handling.imageGiven && handling.genImage with
  | false => exact ⟨rfl, counted⟩
  | true =>
      have next : bump intNormalImageMaxCount s.longitudinalNormal = e + 1 := by
        rw [counted.exception]
        exact bump_below counted.below
      rw [if_pos rfl, wp_bind, nextLongitudinalNormal, wp_modifyGet, next, wp_bind, wp_sprintfS]
      split
      · rename_i below
        split <;> exact ⟨rfl, counted.alert, rfl, below⟩
      · trivial

theorem path_of_handled {call : TaichiCall} (raised : (call.alert.isSome && call.saved) = false)
    (named : (call.handling.imageGiven && call.handling.genImage) = true) :
    call.path = some .exception := by
  rw [TaichiCall.path, raised, named]
  rfl

theorem path_of_not_handled {call : TaichiCall}
    (kept : (!(call.alert.isSome && call.saved) &&
      (call.handling.imageGiven && call.handling.genImage)) = false) :
    call.path = call.alert.map fun alert => if alert then .alert else .normal := by
  rw [TaichiCall.path, kept]
  rfl

theorem exceptions_of_handled {call : TaichiCall} (handled : call.path = some .exception) :
    exceptions [call] = 1 := by
  rw [exceptions, List.countP_singleton, if_pos (decide_eq_true handled)]

theorem exceptions_of_not_handled {call : TaichiCall}
    (kept : call.path = call.alert.map fun alert => if alert then .alert else .normal) :
    exceptions [call] = 0 := by
  rw [exceptions, List.countP_singleton, kept]
  rcases call.alert with _ | _ | _ <;> rfl

/-- Behind the file name: the call returns, or its `catch` block gives the result another name. -/
theorem wp_finish {a e : Nat} {s : Counters} (counted : Counted a e s) (call : TaichiCall)
    (result : Result)
    (named : result.fileName =
      (call.alert.map fun alert => if alert then Path.alert else .normal).map (nameOf (alertNumber a) e)) :
    wp (if call.alert.isSome && call.saved then pure result
        else saveAfterException nextLongitudinalNormal .tcNormal .taichiNormal call.handling result)
      (fun result s' =>
        result.fileName = call.path.map (nameOf (alertNumber a) (e + exceptions [call])) ∧
          Counted a (e + exceptions [call]) s')
      (fun _ _ => True) s := by
  by_cases fine : (call.alert.isSome && call.saved) = true
  · have path : call.path = _ := path_of_not_handled (by rw [fine]; rfl)
    rw [if_pos fine, exceptions_of_not_handled path, path]
    exact ⟨named, counted⟩
  · have raised : (call.alert.isSome && call.saved) = false := by simpa using fine
    rw [if_neg fine]
    refine wp_imp (wp_handle counted .taichiNormal call.handling result) fun result' s' post => ?_
    by_cases gets : (call.handling.imageGiven && call.handling.genImage) = true
    · have path := path_of_handled raised gets
      rw [if_pos gets] at post
      rw [exceptions_of_handled path, path]
      exact post
    · have path : call.path = _ := path_of_not_handled (by
        rw [raised]
        simpa using gets)
      rw [if_neg gets] at post
      rw [exceptions_of_not_handled path, path, post.1]
      exact ⟨named, post.2⟩

section Decimal

variable {int2Chars : Nat → String} (decimal : WritesDecimal int2Chars)

include decimal

/-- **The name of one result**, by the alerts and exceptions before its call. -/
theorem wp_actionTaichi {a e : Nat} {s : Counters} (counted : Counted a e s) (call : TaichiCall) :
    wp (actionTaichi int2Chars call)
      (fun result s' =>
        result.fileName =
            call.path.map (nameOf (alertNumber (a + alerts [call])) (e + exceptions [call])) ∧
          Counted (a + alerts [call]) (e + exceptions [call]) s')
      (fun _ _ => True) s := by
  obtain ⟨alert, saved, handling⟩ := call
  rcases alert with _ | _ | _
  · exact wp_finish counted ⟨none, saved, handling⟩ .blank rfl
  · -- an image without an alert: its own counter is in no name
    have counted' : Counted a e { s with taichiNormal := bump intNormalImageMaxCount s.taichiNormal } :=
      ⟨counted.alert, counted.exception, counted.below⟩
    refine wp_finish counted' ⟨some false, saved, handling⟩
      ⟨.taichiNormal, some ⟨.tcNormal, int2Chars s.taichiAlert⟩⟩ ?_
    rw [counted.alert, decimal.alertNumber]
    rfl
  · have counted' : Counted (a + 1) e
        { s with taichiAlert := bump intAlertImageMaxCount s.taichiAlert } :=
      ⟨counted.next, counted.exception, counted.below⟩
    refine wp_finish counted' ⟨some true, saved, handling⟩
      ⟨.taichiBurr, some ⟨.tcAlert, int2Chars (bump intAlertImageMaxCount s.taichiAlert)⟩⟩ ?_
    rw [counted.next, decimal.alertNumber]
    rfl

end Decimal

/-! ## A run -/

/-- Each result has the name of its path, numbered by the alerts and exceptions up to its call. -/
structure Numbered (a e : Nat) (calls : List TaichiCall) (results : List Result) : Prop where
  length : results.length = calls.length
  names : ∀ (k : Nat) (call : TaichiCall) (result : Result), calls[k]? = some call →
    results[k]? = some result →
    result.fileName = call.path.map (nameOf (alertNumber (a + alerts (calls.take (k + 1))))
      (e + exceptions (calls.take (k + 1))))

theorem alerts_cons (call : TaichiCall) (calls : List TaichiCall) :
    alerts (call :: calls) = alerts [call] + alerts calls := by
  rw [← List.singleton_append, alerts, alerts, alerts, List.countP_append]

theorem exceptions_cons (call : TaichiCall) (calls : List TaichiCall) :
    exceptions (call :: calls) = exceptions [call] + exceptions calls := by
  rw [← List.singleton_append, exceptions, exceptions, exceptions, List.countP_append]

/-- One call before the others. -/
theorem Numbered.cons {a e : Nat} {call : TaichiCall} {calls : List TaichiCall} {result : Result}
    {results : List Result}
    (first : result.fileName =
      call.path.map (nameOf (alertNumber (a + alerts [call])) (e + exceptions [call])))
    (rest : Numbered (a + alerts [call]) (e + exceptions [call]) calls results) :
    Numbered a e (call :: calls) (result :: results) where
  length := by rw [List.length_cons, List.length_cons, rest.length]
  names := by
    intro k other named found found'
    cases k with
    | zero =>
        cases found
        cases found'
        exact first
    | succ k =>
        rw [List.getElem?_cons_succ] at found found'
        rw [List.take_succ_cons, alerts_cons, exceptions_cons, ← Nat.add_assoc, ← Nat.add_assoc]
        exact rest.names k other named found found'

/-- **The names of a run.** -/
theorem wp_mapM_actionTaichi {int2Chars : Nat → String} (decimal : WritesDecimal int2Chars)
    {a e : Nat} {s : Counters} (counted : Counted a e s) (calls : List TaichiCall) :
    wp (calls.mapM (actionTaichi int2Chars)) (fun results _ => Numbered a e calls results) (fun _ _ => True) s := by
  induction calls generalizing a e s with
  | nil => exact ⟨rfl, fun k call result found => by simp at found⟩
  | cons call calls ih =>
      rw [List.mapM_cons, wp_bind]
      refine wp_imp (wp_actionTaichi decimal counted call) ?_
      rintro result s₁ ⟨named, counted₁⟩
      rw [wp_bind]
      exact wp_imp (ih counted₁) fun results s₂ rest => .cons named rest

theorem counted_fresh : Counted 0 0 Counters.fresh := ⟨rfl, rfl, by decide⟩

/-! ## Names and counts -/

theorem text_eq_iff {name name' : FileName} (same : name.series = name'.series) :
    name.text = name'.text ↔ name.number = name'.number := by
  rw [FileName.text, FileName.text, same, String.append_left_inj, String.append_right_inj]

theorem toString_eq_iff (m n : Nat) : toString m = toString n ↔ m = n := by
  refine ⟨fun same => ?_, congrArg _⟩
  rw [Nat.toString_eq_ofList_toDigits, Nat.toString_eq_ofList_toDigits, String.ofList_inj] at same
  have value := congrArg (fun digits => Nat.ofDigitChars 10 digits 0) same
  simpa only [Nat.ofDigitChars_ten_toDigits] using value

/-- Two alerts have one number when they are whole rounds apart. -/
theorem alertNumber_eq_iff {a a' : Nat} (ordered : a ≤ a') :
    alertNumber a = alertNumber a' ↔ a' = a ∨ 1 ≤ a ∧ 10000 ∣ a' - a := by
  have rounds : a % 10000 = a' % 10000 ↔ 10000 ∣ a' - a := Nat.modEq_iff_dvd' ordered
  rw [alertNumber, alertNumber, iterate_bump_eq_iff (by decide : 0 < intAlertImageMaxCount)]
  show a = a' ∨ 1 ≤ a ∧ 1 ≤ a' ∧ a % 10000 = a' % 10000 ↔ _
  rw [rounds, eq_comm]
  exact or_congr_right (and_congr_right fun positive =>
    ⟨fun both => both.2, fun divides => ⟨positive.trans ordered, divides⟩⟩)

theorem alertNumber_eq_exception_iff {a e : Nat} (positive : 1 ≤ e) :
    alertNumber a = e ↔ 1 ≤ a ∧ (a - 1) % 10000 + 1 = e := by
  cases a with
  | zero =>
      have zero : alertNumber 0 = 0 := rfl
      rw [zero]
      omega
  | succ a =>
      rw [alertNumber_succ, Nat.add_sub_cancel]
      exact ⟨fun same => ⟨Nat.le_add_left 1 a, same⟩, fun both => both.2⟩

/-- **Two names are the same exactly when their paths clash**, for counts as they are along a run: the
later are not smaller, and the call itself is counted. -/
theorem text_nameOf_eq_iff {a a' e e' : Nat} {path path' : Path} (same : path.series = path'.series)
    (alertsGrow : a ≤ a') (ownAlert : path = .alert → 1 ≤ a) (ownAlert' : path' = .alert → a < a')
    (ownException : path = .exception → 1 ≤ e) (ownException' : path' = .exception → e < e') :
    (nameOf (alertNumber a) e path).text = (nameOf (alertNumber a') e' path').text ↔
      Clash a a' e e' path path' := by
  rw [text_eq_iff (by rw [nameOf_series, nameOf_series, same])]
  cases path with
  | alert =>
      cases path' with
      | alert =>
          have positive := ownAlert rfl
          have later := ownAlert' rfl
          show toString (alertNumber a) = toString (alertNumber a') ↔ 10000 ∣ a' - a
          rw [toString_eq_iff, alertNumber_eq_iff alertsGrow]
          constructor
          · rintro (equal | ⟨-, divides⟩)
            · omega
            · exact divides
          · exact fun divides => .inr ⟨positive, divides⟩
      | normal => cases same
      | exception => cases same
  | normal =>
      cases path' with
      | alert => cases same
      | normal =>
          show toString (alertNumber a) = toString (alertNumber a') ↔ _
          rw [toString_eq_iff, alertNumber_eq_iff alertsGrow]
          rfl
      | exception =>
          have positive : 1 ≤ e' := by
            have later := ownException' rfl
            omega
          show toString (alertNumber a) = toString e' ↔ _
          rw [toString_eq_iff, alertNumber_eq_exception_iff positive]
          rfl
  | exception =>
      cases path' with
      | alert => cases same
      | normal =>
          show toString e = toString (alertNumber a') ↔ _
          rw [toString_eq_iff, eq_comm, alertNumber_eq_exception_iff (ownException rfl)]
          rfl
      | exception =>
          have later := ownException' rfl
          show toString e = toString e' ↔ False
          rw [toString_eq_iff]
          exact iff_of_false later.ne id

/-! ## The counts along a run -/

/-- The counts do not fall. -/
theorem countP_take_mono {α : Type} (p : α → Bool) (calls : List α) {m n : Nat} (ordered : m ≤ n) :
    (calls.take m).countP p ≤ (calls.take n).countP p :=
  List.Sublist.countP_le (List.take_sublist_take_left ordered)

/-- A call that is counted is one more than before it. -/
theorem countP_take_succ {α : Type} {p : α → Bool} {calls : List α} {k : Nat} {call : α}
    (found : calls[k]? = some call) (counts : p call = true) :
    (calls.take (k + 1)).countP p = (calls.take k).countP p + 1 := by
  rw [List.take_add_one, found, List.countP_append, Option.toList_some, List.countP_singleton,
    if_pos counts]

/-- A call with the name of an alert has counted one. -/
theorem alert_of_path {call : TaichiCall} (path : call.path = some .alert) :
    call.alert = some true := by
  obtain ⟨alert, saved, handling⟩ := call
  unfold TaichiCall.path at path
  split at path
  · cases path
  · rcases alert with _ | _ | _
    · cases path
    · cases path
    · rfl

theorem alerts_own {calls : List TaichiCall} {k : Nat} {call : TaichiCall}
    (found : calls[k]? = some call) (path : call.path = some .alert) :
    alerts (calls.take (k + 1)) = alerts (calls.take k) + 1 :=
  countP_take_succ found (decide_eq_true (alert_of_path path))

theorem exceptions_own {calls : List TaichiCall} {k : Nat} {call : TaichiCall}
    (found : calls[k]? = some call) (path : call.path = some .exception) :
    exceptions (calls.take (k + 1)) = exceptions (calls.take k) + 1 :=
  countP_take_succ found (decide_eq_true path)

/-- The names of two results are the same exactly when their calls clash. -/
theorem text_path_eq_iff {calls : List TaichiCall} {i j : Nat} {older latest : TaichiCall} {path path' : Path}
    (before : i < j) (found : calls[i]? = some older) (found' : calls[j]? = some latest)
    (olderPath : older.path = some path) (latestPath : latest.path = some path')
    (same : path.series = path'.series) :
    (nameOf (alertNumber (alerts (calls.take (i + 1)))) (exceptions (calls.take (i + 1))) path).text =
        (nameOf (alertNumber (alerts (calls.take (j + 1)))) (exceptions (calls.take (j + 1))) path').text ↔
      Clash (alerts (calls.take (i + 1))) (alerts (calls.take (j + 1)))
        (exceptions (calls.take (i + 1))) (exceptions (calls.take (j + 1))) path path' := by
  have alertsUp : alerts (calls.take (i + 1)) ≤ alerts (calls.take j) := countP_take_mono _ calls before
  have exceptionsUp : exceptions (calls.take (i + 1)) ≤ exceptions (calls.take j) :=
    countP_take_mono _ calls before
  refine text_nameOf_eq_iff same (countP_take_mono _ calls (by omega)) ?_ ?_ ?_ ?_
  · rintro rfl
    rw [alerts_own found olderPath]
    omega
  · rintro rfl
    rw [alerts_own found' latestPath]
    omega
  · rintro rfl
    rw [exceptions_own found olderPath]
    omega
  · rintro rfl
    rw [exceptions_own found' latestPath]
    omega

section Ring

variable {calls : List TaichiCall} {results : List Result} (numbered : Numbered 0 0 calls results)

include numbered

/-- The result of a call has the name of its path. -/
theorem Numbered.fileName {k : Nat} {call : TaichiCall} {result : Result}
    (found : calls[k]? = some call) (found' : results[k]? = some result) :
    result.fileName = call.path.map (nameOf (alertNumber (alerts (calls.take (k + 1))))
      (exceptions (calls.take (k + 1)))) := by
  have named := numbered.names k call result found found'
  rwa [Nat.zero_add, Nat.zero_add] at named

/-- The kinds of the names are those of the paths. -/
theorem Numbered.kinds_eq : kinds results = calls.map fun call => call.path.map Path.series := by
  have same := numbered.length
  refine List.ext_getElem? fun k => ?_
  rw [kinds, List.getElem?_map, List.getElem?_map]
  by_cases inside : k < calls.length
  · have found := List.getElem?_eq_getElem inside
    have found' := List.getElem?_eq_getElem (same ▸ inside)
    rw [found, found', Option.map_some, Option.map_some, numbered.fileName found found',
      Option.map_map]
    cases (calls[k]).path with
    | none => rfl
    | some path => simp [nameOf_series]
  · rw [List.getElem?_eq_none (by omega), List.getElem?_eq_none (by omega)]
    rfl

theorem Numbered.ringKept_iff : RingKept results ↔ Apart calls := by
  have length := numbered.length
  constructor
  · intro kept i j older latest path path' before found found' olderPath latestPath same recent clash
    have inside : i < calls.length := (List.getElem?_eq_some_iff.1 found).1
    have inside' : j < calls.length := (List.getElem?_eq_some_iff.1 found').1
    have result := List.getElem?_eq_getElem (show i < results.length by omega)
    have result' := List.getElem?_eq_getElem (show j < results.length by omega)
    have name := numbered.fileName found result
    have name' := numbered.fileName found' result'
    rw [olderPath] at name
    rw [latestPath] at name'
    refine kept i j _ _ _ _ before result result' name name' ?_ ?_
      ((text_path_eq_iff before found found' olderPath latestPath same).2 clash)
    · rw [nameOf_series, nameOf_series, same]
    · rw [nameOf_series, numbered.kinds_eq]
      exact recent
  · intro apart i j older latest name name' before result result' olderName latestName same recent equal
    have inside : i < results.length := (List.getElem?_eq_some_iff.1 result).1
    have inside' : j < results.length := (List.getElem?_eq_some_iff.1 result').1
    have found := List.getElem?_eq_getElem (show i < calls.length by omega)
    have found' := List.getElem?_eq_getElem (show j < calls.length by omega)
    rw [numbered.fileName found result, Option.map_eq_some_iff] at olderName
    rw [numbered.fileName found' result', Option.map_eq_some_iff] at latestName
    obtain ⟨path, olderPath, rfl⟩ := olderName
    obtain ⟨path', latestPath, rfl⟩ := latestName
    rw [nameOf_series, nameOf_series] at same
    rw [nameOf_series, numbered.kinds_eq] at recent
    exact apart i j _ _ path path' before found found' olderPath latestPath same recent
      ((text_path_eq_iff before found found' olderPath latestPath same).1 equal)

end Ring

/-! ## Whole runs -/

/-- A call is numbered in the `catch` block when it formats a number. -/
theorem longitudinal_eq (call : TaichiCall) :
    (Call.actionTaichi call).longitudinal = exceptions [call] := by
  obtain ⟨alert, saved, given, gen, written⟩ := call
  rcases alert with _ | _ | _ <;> cases saved <;> cases given <;> cases gen <;> rfl

theorem sum_longitudinal (calls : List TaichiCall) :
    (calls.map fun call => (Call.actionTaichi call).longitudinal).sum = exceptions calls := by
  induction calls with
  | nil => rfl
  | cons call calls ih => rw [List.map_cons, List.sum_cons, ih, longitudinal_eq, ← exceptions_cons]

/-- All calls return unless the numbers of the `catch` block run out. -/
theorem returns_iff (int2Chars : Nat → String) (calls : List TaichiCall) :
    (∃ results s, (calls.mapM (actionTaichi int2Chars)).run Counters.fresh = .ok results s) ↔
      exceptions calls ≤ 9999 := by
  have ends := Formats.mapM (actionTaichi_formats int2Chars) calls Counters.fresh safe_fresh
  rw [sum_longitudinal] at ends
  have start : Counters.fresh.longitudinalNormal = 0 := rfl
  unfold wp at ends
  cases ran : (calls.mapM (actionTaichi int2Chars)).run Counters.fresh with
  | ok results s =>
      rw [ran] at ends
      obtain ⟨count, -, safe⟩ := ends
      have low := safe.longitudinal
      exact iff_of_true ⟨results, s, rfl⟩ (by omega)
  | error e s =>
      rw [ran] at ends
      refine iff_of_false (fun returned => ?_) fun low => ends.1 ⟨by omega, ?_⟩
      · obtain ⟨results, s', same⟩ := returned
        cases same
      · rw [List.map_const', List.sum_replicate_nat, Nat.mul_zero]
        decide

/-- **The ring of names.**  When `Int2Chars` writes decimal digits, then for every sequence of calls of
`actionTaichi` on one worker: it runs to its end exactly when at most 9999 calls are numbered in the `catch`
block, and then a result has never the name of one among the latest ten thousand of its kind exactly when no
two such calls clash: two alerts with a multiple of 10000 alerts from the one to the other; two images
without an alert, with none between them or, behind the first alert, a multiple of 10000; an image without
an alert and one of the `catch` block, with the number of alerts so far, counted round the ring, that of the
exceptions. -/
theorem name_ring_iff (int2Chars : Nat → String) (decimal : WritesDecimal int2Chars)
    (calls : List TaichiCall) :
    ((∃ results s, (calls.mapM (actionTaichi int2Chars)).run Counters.fresh = .ok results s) ↔
        exceptions calls ≤ 9999) ∧
      ∀ results s, (calls.mapM (actionTaichi int2Chars)).run Counters.fresh = .ok results s →
        (RingKept results ↔ Apart calls) := by
  refine ⟨returns_iff int2Chars calls, fun results s ran => ?_⟩
  have numbered : Numbered 0 0 calls results :=
    (wp_mapM_actionTaichi decimal counted_fresh calls).of_ok ran
  exact numbered.ringKept_iff

/-- A call that saves its image, with an alert or without. -/
def savedTaichi (alert : Bool) : TaichiCall := ⟨some alert, true, ⟨true, true, true⟩⟩

/-- Three calls with an alert between two images without one. -/
theorem name_ring_alert_between :
    ∃ results s, ([savedTaichi false, savedTaichi true, savedTaichi false].mapM
      (actionTaichi toString)).run Counters.fresh = .ok results s ∧ RingKept results := by
  have ring := name_ring_iff toString (fun _ _ => rfl) [savedTaichi false, savedTaichi true, savedTaichi false]
  obtain ⟨results, s, ran⟩ := ring.1.2 (by decide)
  refine ⟨results, s, ran, (ring.2 results s ran).2 ?_⟩
  intro i j older latest path path' before found found' olderPath latestPath same _
  have inside : j < 3 := (List.getElem?_eq_some_iff.1 found').1
  obtain ⟨rfl, rfl⟩ | ⟨rfl, rfl⟩ | ⟨rfl, rfl⟩ :
      i = 0 ∧ j = 1 ∨ i = 0 ∧ j = 2 ∨ i = 1 ∧ j = 2 := by omega
  all_goals
    cases found
    cases found'
    cases olderPath
    cases latestPath
  · cases same
  · -- one alert lies between the two
    rintro (none | ⟨some_alert, -⟩)
    · exact absurd none (by decide)
    · exact absurd some_alert (by decide)
  · cases same

/-- **Two images without an alert between them have one name.** -/
theorem normal_images_share_name :
    ¬ ∀ (calls : List TaichiCall) (results : List Result) (s : Counters),
      (calls.mapM (actionTaichi toString)).run Counters.fresh = .ok results s → RingKept results := by
  intro always
  have kept := always [savedTaichi false, savedTaichi false] _ _ rfl
  exact kept 0 1 _ _ _ _ (by decide) rfl rfl rfl rfl rfl (by decide) rfl

end TizerVision.Burrs
