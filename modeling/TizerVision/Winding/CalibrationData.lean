/-
# Winding.CalibrationData — the calibration files, read on demand and kept

`CalibrationDataHelper` reads its two files when it is first asked for something and keeps what it read.
`is_read_` is set when neither reader raised an exception.  A file that cannot be opened raises none.

* `values_whole_or_none` — the values returned are none, or all of the points file once and in order.
* `cache_exact_iff` — `is_read_` vouches for both files exactly when, in the first call that raises no
  exception, the points file is read, the info file has been read by then, and it has a line.
* `unopened_file_counts_as_read` — a points file that cannot be opened counts as read.
-/
import Mathlib.Data.List.Induction

namespace TizerVision.Winding

set_option autoImplicit false

/-- How the reading of a file goes: it cannot be opened, an exception is raised after some lines, or it
is read to the end. -/
inductive Reading where
  | unopened
  | raises (lines : Nat)
  | whole
deriving DecidableEq, Repr

def Reading.raised : Reading → Bool
  | .raises _ => true
  | _ => false

inductive CalibrationFile where
  | info
  | points
deriving DecidableEq, Repr

/-- The lines of the two files with the conversions of `BaseFunctions`. -/
structure CalibrationFiles (φ τ : Type) where
  info : List τ
  points : List τ
  chars2Int : τ → Int
  chars2Float : τ → φ

variable {φ τ : Type}

/-- The values of the whole points file, in order. -/
def CalibrationFiles.values (files : CalibrationFiles φ τ) : List φ :=
  files.points.map files.chars2Float

structure CalibrationDataHelper (φ : Type) where
  isRead : Bool
  allValues : List φ
  /-- `info_.line_num_`, indeterminate until it is assigned -/
  lineNum : Option Int

namespace CalibrationDataHelper

/-- The constructor. -/
def fresh : CalibrationDataHelper φ := ⟨false, [], none⟩

def clearValueList (helper : CalibrationDataHelper φ) : CalibrationDataHelper φ :=
  { helper with allValues := [], isRead := false }

def appendToList (helper : CalibrationDataHelper φ) (value : φ) : CalibrationDataHelper φ :=
  { helper with allValues := helper.allValues ++ [value] }

variable (files : CalibrationFiles φ τ)

/-- The loop of `info_file_read`. -/
def storeLines (helper : CalibrationDataHelper φ) (lines : List τ) : CalibrationDataHelper φ :=
  lines.foldl (fun helper words => { helper with lineNum := some (files.chars2Int words) }) helper

/-- The loop of `points_file_read`. -/
def appendLines (helper : CalibrationDataHelper φ) (lines : List τ) : CalibrationDataHelper φ :=
  lines.foldl (fun helper words => helper.appendToList (files.chars2Float words)) helper

def infoFileRead (reading : Reading) (helper : CalibrationDataHelper φ) :
    Bool × CalibrationDataHelper φ :=
  match reading with
  | .unopened => (true, helper)
  | .raises lines => (false, (helper.storeLines files (files.info.take lines)).clearValueList)
  | .whole => (true, helper.storeLines files files.info)

def pointsFileRead (reading : Reading) (helper : CalibrationDataHelper φ) :
    Bool × CalibrationDataHelper φ :=
  match reading with
  | .unopened => (true, helper)
  | .raises lines => (false, (helper.appendLines files (files.points.take lines)).clearValueList)
  | .whole => (true, helper.appendLines files files.points)

/-- How the readings of one call go, should it come to them. -/
structure Attempt where
  info : Reading
  points : Reading
deriving DecidableEq, Repr

/-- The `if (!is_read_)` both functions begin with. -/
def readOnce (attempt : Attempt) (helper : CalibrationDataHelper φ) : CalibrationDataHelper φ :=
  if helper.isRead then helper
  else
    let (isRead, helper) := infoFileRead files attempt.info helper
    let helper := { helper with isRead := isRead }
    if helper.isRead then
      let (isRead, helper) := pointsFileRead files attempt.points helper
      { helper with isRead := isRead }
    else helper

def getCalibrationValues (attempt : Attempt) (helper : CalibrationDataHelper φ) :
    List φ × CalibrationDataHelper φ :=
  let helper := helper.readOnce files attempt
  (if helper.isRead then helper.allValues else [], helper)

/-- `get_calibration_info().line_num_`; `CalibrationInfo()` has the number 0. -/
def getCalibrationInfo (attempt : Attempt) (helper : CalibrationDataHelper φ) :
    Option Int × CalibrationDataHelper φ :=
  let helper := helper.readOnce files attempt
  (if helper.isRead then helper.lineNum else some 0, helper)

/-- The files a call reads, and how that goes. -/
def readingsOf (attempt : Attempt) (helper : CalibrationDataHelper φ) :
    List (CalibrationFile × Reading) :=
  if helper.isRead then []
  else if (infoFileRead files attempt.info helper).1 then
    [(.info, attempt.info), (.points, attempt.points)]
  else [(.info, attempt.info)]

/-! ## Sequences of calls -/

/-- A call of `getCalibrationValues` or of `get_calibration_info`. -/
inductive Call where
  | getCalibrationValues (attempt : Attempt)
  | getCalibrationInfo (attempt : Attempt)
deriving DecidableEq, Repr

def Call.attempt : Call → Attempt
  | .getCalibrationValues attempt => attempt
  | .getCalibrationInfo attempt => attempt

/-- The helper after one call. -/
def call (helper : CalibrationDataHelper φ) : Call → CalibrationDataHelper φ
  | .getCalibrationValues attempt => (helper.getCalibrationValues files attempt).2
  | .getCalibrationInfo attempt => (helper.getCalibrationInfo files attempt).2

/-- The helper after a sequence of calls. -/
def after (calls : List Call) : CalibrationDataHelper φ := calls.foldl (call files) fresh

/-- All readings of a sequence of calls. -/
def readingsFrom (helper : CalibrationDataHelper φ) : List Call → List (CalibrationFile × Reading)
  | [] => []
  | c :: calls => readingsOf files c.attempt helper ++ readingsFrom (helper.call files c) calls

def readings (calls : List Call) : List (CalibrationFile × Reading) := readingsFrom files fresh calls

/-- What `is_read_` stands for: both files have been read to the end, the values kept are those of the
points file and the line number is one of the info file. -/
structure Vouches (calls : List Call) : Prop where
  info_read : (.info, .whole) ∈ readings files calls
  points_read : (.points, .whole) ∈ readings files calls
  values_eq : (after files calls).allValues = files.values
  lineNum_eq : ∃ words ∈ files.info, (after files calls).lineNum = some (files.chars2Int words)

/-- **The cache is exact** along a sequence of calls. -/
structure CachesExactly (calls : List Call) : Prop where
  returned : ∀ before attempt, before ++ [Call.getCalibrationValues attempt] <+: calls →
    ((after files before).getCalibrationValues files attempt).1 = [] ∨
      ((after files before).getCalibrationValues files attempt).1 = files.values
  vouches : ∀ before, before <+: calls → (after files before).isRead → Vouches files before

/-! ## One call -/

/-- Neither reading raises an exception. -/
def Attempt.quiet (attempt : Attempt) : Bool :=
  !attempt.info.raised && !attempt.points.raised

/-- The line number after a reading of the info file. -/
def lineNumAfter (reading : Reading) (lineNum : Option Int) : Option Int :=
  match reading with
  | .unopened => lineNum
  | .raises lines => ((files.info.take lines).getLast?.map files.chars2Int).or lineNum
  | .whole => (files.info.getLast?.map files.chars2Int).or lineNum

theorem storeLines_eq (helper : CalibrationDataHelper φ) (lines : List τ) :
    helper.storeLines files lines =
      { helper with lineNum := (lines.getLast?.map files.chars2Int).or helper.lineNum } := by
  unfold storeLines
  induction lines generalizing helper with
  | nil => rfl
  | cons words lines ih =>
      rw [List.foldl_cons, ih, List.getLast?_cons]
      cases lines.getLast? <;> rfl

theorem appendLines_eq (helper : CalibrationDataHelper φ) (lines : List τ) :
    helper.appendLines files lines =
      { helper with allValues := helper.allValues ++ lines.map files.chars2Float } := by
  unfold appendLines
  induction lines generalizing helper with
  | nil => simp
  | cons words lines ih =>
      rw [List.foldl_cons, ih]
      simp [appendToList]

/-- **A call before the files count as read.**  They do afterwards if no exception was raised; values are
kept only if the points file was read. -/
theorem readOnce_eq (attempt : Attempt) {helper : CalibrationDataHelper φ}
    (unread : helper.isRead = false) (empty : helper.allValues = []) :
    helper.readOnce files attempt =
      { isRead := attempt.quiet
        allValues := if attempt.quiet ∧ attempt.points = .whole then files.values else []
        lineNum := lineNumAfter files attempt.info helper.lineNum } := by
  obtain ⟨info, points⟩ := attempt
  obtain ⟨isRead, allValues, lineNum⟩ := helper
  obtain rfl : isRead = false := unread
  obtain rfl : allValues = [] := empty
  cases info <;> cases points <;>
    simp [readOnce, infoFileRead, pointsFileRead, clearValueList, storeLines_eq, appendLines_eq,
      lineNumAfter, Attempt.quiet, Reading.raised, CalibrationFiles.values]

theorem readOnce_of_isRead (attempt : Attempt) {helper : CalibrationDataHelper φ}
    (read : helper.isRead = true) : helper.readOnce files attempt = helper := by
  rw [readOnce, if_pos read]

theorem call_eq (helper : CalibrationDataHelper φ) (c : Call) :
    helper.call files c = helper.readOnce files c.attempt := by
  cases c <;> rfl

/-- The readings of a call before the files count as read. -/
theorem mem_readingsOf {attempt : Attempt} {helper : CalibrationDataHelper φ}
    (unread : helper.isRead = false) (file : CalibrationFile) (reading : Reading) :
    (file, reading) ∈ readingsOf files attempt helper ↔
      file = .info ∧ reading = attempt.info ∨
        file = .points ∧ reading = attempt.points ∧ attempt.info.raised = false := by
  rw [readingsOf, if_neg (by simp [unread])]
  cases attempt.info <;> simp [infoFileRead, Reading.raised]

/-! ## The calls up to the first quiet one -/

/-- The number is one of the info file. -/
def NumberFrom (lineNum : Option Int) : Prop :=
  ∃ words ∈ files.info, lineNum = some (files.chars2Int words)

theorem lineNumAfter_cases (reading : Reading) (lineNum : Option Int) :
    NumberFrom files (lineNumAfter files reading lineNum) ∨
      lineNumAfter files reading lineNum = lineNum := by
  have last : ∀ lines : List τ, (∀ words ∈ lines, words ∈ files.info) →
      NumberFrom files ((lines.getLast?.map files.chars2Int).or lineNum) ∨
        (lines.getLast?.map files.chars2Int).or lineNum = lineNum := by
    intro lines inside
    cases found : lines.getLast? with
    | none => exact .inr rfl
    | some words => exact .inl ⟨words, inside words (List.mem_of_getLast? found), rfl⟩
  cases reading with
  | unopened => exact .inr rfl
  | raises lines => exact last _ fun words => List.mem_of_mem_take
  | whole => exact last _ fun words found => found

/-- A whole reading of a file that has a line gives its number. -/
theorem numberFrom_whole (some_line : files.info ≠ []) (lineNum : Option Int) :
    NumberFrom files (lineNumAfter files .whole lineNum) := by
  have found := List.getLast?_eq_some_getLast some_line
  refine ⟨_, List.getLast_mem some_line, ?_⟩
  rw [lineNumAfter, found]
  rfl

/-- What is known while every call has raised an exception. -/
structure Loud (calls : List Call) : Prop where
  unread : (after files calls).isRead = false
  empty : (after files calls).allValues = []
  info : ∀ reading, (.info, reading) ∈ readings files calls ↔ ∃ c ∈ calls, c.attempt.info = reading
  points : (.points, .whole) ∉ readings files calls
  number : files.info ≠ [] → (∃ c ∈ calls, c.attempt.info = .whole) →
    NumberFrom files (after files calls).lineNum

theorem readingsFrom_append (helper : CalibrationDataHelper φ) (first second : List Call) :
    readingsFrom files helper (first ++ second) =
      readingsFrom files helper first ++
        readingsFrom files (first.foldl (call files) helper) second := by
  induction first generalizing helper with
  | nil => rfl
  | cons c first ih => rw [List.cons_append, readingsFrom, ih, readingsFrom, List.append_assoc]; rfl

theorem readings_append_singleton (calls : List Call) (c : Call) :
    readings files (calls ++ [c]) =
      readings files calls ++ readingsOf files c.attempt (after files calls) := by
  rw [readings, readingsFrom_append]
  simp [readingsFrom, readings, after]

theorem after_append_singleton (calls : List Call) (c : Call) :
    after files (calls ++ [c]) = (after files calls).readOnce files c.attempt := by
  rw [after, List.foldl_append, List.foldl_cons, List.foldl_nil, call_eq]
  rfl

variable {files}

/-- The number and the readings of the info file after one more call. -/
theorem Loud.number_append {calls : List Call} (loud : Loud files calls) (c : Call)
    (some_line : files.info ≠ []) (whole : ∃ d ∈ calls ++ [c], d.attempt.info = .whole) :
    NumberFrom files (after files (calls ++ [c])).lineNum := by
  rw [after_append_singleton, readOnce_eq files c.attempt loud.unread loud.empty]
  by_cases last : c.attempt.info = .whole
  · show NumberFrom files (lineNumAfter files c.attempt.info _)
    rw [last]
    exact numberFrom_whole files some_line _
  · obtain ⟨d, found, read⟩ := whole
    rcases List.mem_append.1 found with earlier | latest
    · rcases lineNumAfter_cases files c.attempt.info (after files calls).lineNum with new | kept
      · exact new
      · show NumberFrom files (lineNumAfter files c.attempt.info _)
        rw [kept]
        exact loud.number some_line ⟨d, earlier, read⟩
    · rw [List.mem_singleton.1 latest] at read
      exact absurd read last

theorem Loud.info_append {calls : List Call} (loud : Loud files calls) (c : Call) (reading : Reading) :
    (.info, reading) ∈ readings files (calls ++ [c]) ↔
      ∃ d ∈ calls ++ [c], d.attempt.info = reading := by
  rw [readings_append_singleton, List.mem_append, loud.info, mem_readingsOf files loud.unread]
  constructor
  · rintro (⟨d, found, read⟩ | ⟨-, read⟩ | ⟨other, -⟩)
    · exact ⟨d, List.mem_append_left _ found, read⟩
    · exact ⟨c, List.mem_append_right _ (List.mem_singleton_self c), read.symm⟩
    · cases other
  · rintro ⟨d, found, read⟩
    rcases List.mem_append.1 found with earlier | latest
    · exact .inl ⟨d, earlier, read⟩
    · rw [List.mem_singleton.1 latest] at read
      exact .inr (.inl ⟨rfl, read.symm⟩)

theorem loud_of_forall {calls : List Call} (raised : ∀ c ∈ calls, c.attempt.quiet = false) :
    Loud files calls := by
  induction calls using List.reverseRecOn with
  | nil => exact ⟨rfl, rfl, by simp [readings, readingsFrom], by simp [readings, readingsFrom], by simp⟩
  | append_singleton calls c ih =>
      have loud := ih fun d found => raised d (List.mem_append_left _ found)
      have last := raised c (by simp)
      have read := readOnce_eq files c.attempt loud.unread loud.empty
      refine ⟨?_, ?_, loud.info_append c, ?_, loud.number_append c⟩
      · rw [after_append_singleton, read]
        exact last
      · rw [after_append_singleton, read]
        exact if_neg fun quiet => by simp [last] at quiet
      · rw [readings_append_singleton, List.mem_append, mem_readingsOf files loud.unread]
        rintro (earlier | ⟨other, -⟩ | ⟨-, whole, fine⟩)
        · exact loud.points earlier
        · cases other
        · rw [Attempt.quiet, fine, ← whole] at last
          cases last

/-! ## Behind the first quiet call -/

theorem foldl_call_of_isRead {helper : CalibrationDataHelper φ} (read : helper.isRead = true)
    (calls : List Call) : calls.foldl (call files) helper = helper := by
  induction calls with
  | nil => rfl
  | cons c calls ih => rw [List.foldl_cons, call_eq, readOnce_of_isRead files c.attempt read, ih]

theorem readingsFrom_of_isRead {helper : CalibrationDataHelper φ} (read : helper.isRead = true)
    (calls : List Call) : readingsFrom files helper calls = [] := by
  induction calls with
  | nil => rfl
  | cons c calls ih =>
      rw [readingsFrom, call_eq, readOnce_of_isRead files c.attempt read, ih, readingsOf, if_pos read]
      rfl

variable {before : List Call} {c : Call} (loud : Loud files before) (quiet : c.attempt.quiet = true)

include loud quiet

/-- After the first quiet call the files count as read. -/
theorem after_quiet : after files (before ++ [c]) =
    { isRead := true
      allValues := if c.attempt.points = .whole then files.values else []
      lineNum := lineNumAfter files c.attempt.info (after files before).lineNum } := by
  rw [after_append_singleton, readOnce_eq files c.attempt loud.unread loud.empty]
  simp [quiet]

/-- The calls behind it change nothing and read nothing. -/
theorem after_append_quiet (rest : List Call) :
    after files (before ++ c :: rest) = after files (before ++ [c]) := by
  have read : (after files (before ++ [c])).isRead = true := by rw [after_quiet loud quiet]
  rw [← List.singleton_append, ← List.append_assoc, after, List.foldl_append]
  exact foldl_call_of_isRead read rest

theorem readings_append_quiet (rest : List Call) :
    readings files (before ++ c :: rest) = readings files (before ++ [c]) := by
  have read : (after files (before ++ [c])).isRead = true := by rw [after_quiet loud quiet]
  rw [← List.singleton_append, ← List.append_assoc, readings, readingsFrom_append]
  rw [show (before ++ [c]).foldl (call files) fresh = after files (before ++ [c]) from rfl,
    readingsFrom_of_isRead read, List.append_nil]
  rfl

/-- **What `is_read_` vouches for** is decided by the first quiet call. -/
theorem vouches_iff (rest : List Call) : Vouches files (before ++ c :: rest) ↔
    c.attempt.points = .whole ∧ (∃ d ∈ before ++ [c], d.attempt.info = .whole) ∧ files.info ≠ [] := by
  have state := after_append_quiet loud quiet rest
  have log := readings_append_quiet loud quiet rest
  constructor
  · rintro ⟨info, points, -, words, found, -⟩
    rw [log, loud.info_append] at info
    rw [log, readings_append_singleton, List.mem_append, mem_readingsOf files loud.unread] at points
    refine ⟨?_, info, List.ne_nil_of_mem found⟩
    rcases points with earlier | ⟨other, -⟩ | ⟨-, whole, -⟩
    · exact absurd earlier loud.points
    · cases other
    · exact whole.symm
  · rintro ⟨whole, info, some_line⟩
    have fine : c.attempt.info.raised = false := by
      rw [Attempt.quiet, Bool.and_eq_true, Bool.not_eq_true'] at quiet
      exact quiet.1
    refine ⟨?_, ?_, ?_, ?_⟩
    · rwa [log, loud.info_append]
    · rw [log, readings_append_singleton, List.mem_append, mem_readingsOf files loud.unread]
      exact .inr (.inr ⟨rfl, whole.symm, fine⟩)
    · rw [state, after_quiet loud quiet]
      exact if_pos whole
    · rw [state]
      exact loud.number_append c some_line info

omit loud quiet

/-- As long as the files do not count as read every call raised an exception; otherwise there is a first
call that did not. -/
theorem loud_or_quiet (calls : List Call) :
    (∀ d ∈ calls, d.attempt.quiet = false) ∨
      ∃ before c rest, calls = before ++ c :: rest ∧ (∀ d ∈ before, d.attempt.quiet = false) ∧
        c.attempt.quiet = true := by
  cases found : calls.find? fun d => d.attempt.quiet with
  | none =>
      refine .inl fun d member => ?_
      simpa using List.find?_eq_none.1 found d member
  | some c =>
      obtain ⟨quiet, before, rest, rfl, loud⟩ := List.find?_eq_some_iff_append.1 found
      exact .inr ⟨before, c, rest, rfl, fun d member => by simpa using loud d member, quiet⟩

/-- The values kept are none, or all of the points file. -/
theorem allValues_cases (calls : List Call) :
    (after files calls).allValues = [] ∨ (after files calls).allValues = files.values := by
  rcases loud_or_quiet calls with raised | ⟨before, c, rest, rfl, raised, quiet⟩
  · exact .inl (loud_of_forall raised).empty
  · rw [after_append_quiet (loud_of_forall raised) quiet, after_quiet (loud_of_forall raised) quiet]
    by_cases whole : c.attempt.points = .whole
    · exact .inr (if_pos whole)
    · exact .inl (if_neg whole)

/-- **The values returned are none, or all of the points file once and in order.** -/
theorem values_whole_or_none (calls : List Call) (attempt : Attempt) :
    ((after files calls).getCalibrationValues files attempt).1 = [] ∨
      ((after files calls).getCalibrationValues files attempt).1 = files.values := by
  have kept : (after files (calls ++ [.getCalibrationValues attempt])).allValues = [] ∨
      (after files (calls ++ [.getCalibrationValues attempt])).allValues = files.values :=
    allValues_cases _
  rw [after_append_singleton] at kept
  rw [getCalibrationValues]
  by_cases read : ((after files calls).readOnce files attempt).isRead = true
  · rw [if_pos read]
    exact kept
  · rw [if_neg read]
    exact .inl rfl

variable (files)

/-- **The cache is exact, exactly when.**  For every sequence of calls and all failures: the values
returned are none or those of the whole points file, and `is_read_` is only true when both files have
been read to the end and the values and the line number are theirs, exactly when in the first call that
raises no exception the points file is opened, the info file has been read to its end in this call or an
earlier one, and the info file has a line. -/
theorem cache_exact_iff (calls : List Call) : CachesExactly files calls ↔
    ∀ before c, before ++ [c] <+: calls → (∀ d ∈ before, d.attempt.quiet = false) →
      c.attempt.quiet = true → c.attempt.points = .whole ∧
        (∃ d ∈ before ++ [c], d.attempt.info = .whole) ∧ files.info ≠ [] := by
  constructor
  · intro caches before c starts raised quiet
    have loud : Loud files before := loud_of_forall raised
    have read : (after files (before ++ [c])).isRead = true := by rw [after_quiet loud quiet]
    exact (vouches_iff loud quiet []).1 (caches.vouches _ starts read)
  · intro condition
    refine ⟨fun before attempt _ => values_whole_or_none before attempt, fun prior starts read => ?_⟩
    rcases loud_or_quiet prior with raised | ⟨before, c, rest, rfl, raised, quiet⟩
    · have loud : Loud files prior := loud_of_forall raised
      rw [loud.unread] at read
      cases read
    · refine (vouches_iff (loud_of_forall raised) quiet rest).2 (condition before c ?_ raised quiet)
      refine List.IsPrefix.trans ⟨rest, ?_⟩ starts
      rw [List.append_assoc, List.singleton_append]

/-- A calibration of one line, with 40 lines announced. -/
def oneLine : CalibrationFiles Int Int := ⟨[40], [120, 0, 121, 900], id, id⟩

/-- **A points file that cannot be opened counts as read.**  The first call finds the info file only: it
sets `is_read_`, and returns no values. -/
theorem unopened_file_counts_as_read :
    ¬ ∀ calls : List Call, CachesExactly oneLine calls := by
  intro always
  have vouches := (always [.getCalibrationValues ⟨.whole, .unopened⟩]).vouches _
    (List.prefix_refl _) rfl
  have kept : ([] : List Int) = [120, 0, 121, 900] := vouches.values_eq
  cases kept

end CalibrationDataHelper

end TizerVision.Winding
