/-
# Rolling.Machine — grabbing, stitching and reporting in EarRollingBaslerCamera

`standard_mode_run` starts one `grabProc` for each camera and one `ImageConcatProc`, and then polls
itself.  The threads share plain globals: a frame and a three-valued result for each camera, the
status word `g_concatImageStatus`, and the time stamp `g_id` from which file names are made.  The
mutex `hMutex` is never created, so that waiting for it excludes nobody: every read and every
assignment of a shared variable is a step of its own.

A run is any interleaving of the steps below.  The record of a run keeps what the properties speak
of: the images stitched, the outcomes of the rounds, and the messages passed to `g_halconFunction`.
-/
import Mathlib.Logic.Function.Basic
import TizerVision.Theory.Run

namespace TizerVision.Rolling

set_option autoImplicit false

/-! ## The configuration -/

/-- The cameras found and the three names in the arguments; which grabs succeed, camera by camera and
trigger by trigger; and `time2str`, which is not part of the sources. -/
structure Config where
  /-- `g_cameraNum`, from 1 to `MAX_CAMERA_COUNT` -/
  cameraNum : Nat
  some_camera : 0 < cameraNum
  max_camera_count : cameraNum ≤ 4
  friendlyName : Nat → String
  left : String
  mid : String
  right : String
  grabSucceeds : Nat → Nat → Bool
  time2str : Nat → String

/-- `g_concatLocation` after the first `k` cameras have been attached. -/
def Config.locate (cfg : Config) : Nat → Nat → Nat
  | 0 => id
  | k + 1 =>
      if cfg.friendlyName k = cfg.left then Function.update (cfg.locate k) 0 k
      else if cfg.friendlyName k = cfg.mid ∧ cfg.cameraNum > 1 then
        Function.update (cfg.locate k) 1 k
      else if cfg.friendlyName k = cfg.right ∧ cfg.cameraNum > 2 then
        Function.update (cfg.locate k) 2 k
      else cfg.locate k

/-- `g_concatLocation` -/
def Config.concatLocation (cfg : Config) : Nat → Nat := cfg.locate cfg.cameraNum

/-- `SAVE_IMAGE_PREFIX` followed by `g_id`. -/
def Config.imageStr (cfg : Config) (id : Nat) : String :=
  "d:/grabs/trigger_concat_" ++ cfg.time2str id

def Config.fileName (cfg : Config) (id : Nat) : String := cfg.imageStr id ++ ".jpg"

/-! ## The shared state -/

/-- `GRAB_STATUS_NONE`, `GRAB_STATUS_SUCCESSED`, `GRAB_STATUS_FAILED` -/
inductive GrabStatus where
  | none
  | successed
  | failed
deriving DecidableEq, Repr

/-- `CONCAT_IMAGE_NONE`, `CONCAT_IMAGE_FAIL`, `CONCAT_IMAGE_SUCCESS` -/
inductive ConcatStatus where
  | none
  | fail
  | success
deriving DecidableEq, Repr

/-- A frame, known by its camera and by the trigger it belongs to. -/
structure Frame where
  camera : Nat
  trigger : Nat
deriving DecidableEq, Repr

/-- A file of stitched images, with the round it is written in. -/
inductive FileState where
  | absent
  | writing (round : Nat)
  | complete (round : Nat)
deriving DecidableEq, Repr

/-- The next statement of `ImageConcatProc` that touches a shared variable. -/
inductive ConcatPc where
  /-- `g_grabResults[i] == GRAB_STATUS_FAILED` is read next -/
  | testFailed (i : Nat)
  /-- `g_grabResults[i] == GRAB_STATUS_NONE` is read next -/
  | testNone (i : Nat)
  /-- the status word is set to FAIL inside the loop -/
  | markFail
  /-- and again in the branch of the failed grab -/
  | markFailAgain
  /-- the loop that takes the failed slots back: the test and the assignment -/
  | resetFailed (i : Nat)
  | clearFailed (i : Nat)
  /-- `time(&g_id)` -/
  | stamp
  /-- `images[i] = g_images[g_concatLocation[i]]` in `imageConcat` -/
  | copy (i : Nat)
  /-- the operators of `imageConcat` -/
  | stitch
  /-- `WriteImage`, which takes its time -/
  | beginWrite
  | endWrite
  /-- the status word is set to SUCCESS -/
  | markSuccess
  /-- the status word is set to FAIL in the handler -/
  | markThrown
  /-- the loop that takes the successful slots back: the test and the assignment -/
  | resetSuccessed (i : Nat)
  | clearSuccessed (i : Nat)
deriving DecidableEq, Repr

/-- The next statement of the polling loop; `round` is the one the status in hand belongs to. -/
inductive PollPc where
  /-- `concatStatus = g_concatImageStatus` -/
  | read
  /-- `g_concatImageStatus = CONCAT_IMAGE_NONE` -/
  | clear (concatStatus : ConcatStatus) (round : Nat)
  /-- `imageStr` is made from `g_id` -/
  | name (concatStatus : ConcatStatus) (round : Nat)
  /-- `g_halconFunction(g_message)`, or nothing when there is no status -/
  | send (concatStatus : ConcatStatus) (imageStr : String) (round : Nat)
deriving DecidableEq, Repr

/-- A message passed to `g_halconFunction`: the status and the image name in it, the state of the file
it names at that moment, and the round whose outcome the status was. -/
structure Message where
  status : ConcatStatus
  imageStr : String
  named : FileState
  round : Nat
deriving DecidableEq, Repr

structure State where
  /-- `g_images` -/
  images : Nat → Option Frame
  /-- `g_grabResults` -/
  grabResults : Nat → GrabStatus
  /-- how many triggers the thread of a camera has dealt with -/
  done : Nat → Nat
  /-- the thread of a camera is between its two assignments -/
  stored : Nat → Bool
  /-- `g_concatImageStatus`, and the round that set it -/
  concatImageStatus : ConcatStatus
  statusRound : Nat
  /-- `g_id` -/
  id : Nat
  /-- how many rounds have taken a time stamp -/
  round : Nat
  /-- the local `images` of `imageConcat` -/
  copies : Nat → Option Frame
  concat : ConcatPc
  poll : PollPc
  files : String → FileState
  /-- the record: the frames of each stitched image, the outcome of each round, the messages -/
  stitched : List (List (Option Frame))
  outcomes : List ConcatStatus
  sent : List Message

def State.init : State where
  images := fun _ => none
  grabResults := fun _ => .none
  done := fun _ => 0
  stored := fun _ => false
  concatImageStatus := .none
  statusRound := 0
  id := 0
  round := 0
  copies := fun _ => none
  concat := .testFailed 0
  poll := .read
  files := fun _ => .absent
  stitched := []
  outcomes := []
  sent := []

/-! ## `grabProc` -/

/-- `g_images[i] = result` -/
def State.storeFrame (s : State) (i : Nat) : State :=
  { s with
    images := Function.update s.images i (some ⟨i, s.done i⟩)
    stored := Function.update s.stored i true }

/-- `g_grabResults[i] = GRAB_STATUS_SUCCESSED` -/
def State.announce (s : State) (i : Nat) : State :=
  { s with
    grabResults := Function.update s.grabResults i .successed
    stored := Function.update s.stored i false
    done := Function.update s.done i (s.done i + 1) }

/-- `g_grabResults[i] = GRAB_STATUS_FAILED` -/
def State.announceFailed (s : State) (i : Nat) : State :=
  { s with
    grabResults := Function.update s.grabResults i .failed
    done := Function.update s.done i (s.done i + 1) }

def grabProc (cfg : Config) (s : State) (i : Nat) : State :=
  if s.stored i then s.announce i
  else if cfg.grabSucceeds i (s.done i) then s.storeFrame i
  else s.announceFailed i

/-! ## `ImageConcatProc` -/

/-- What the stitched image is made of: `images[0]`, `images[1]` when there is a second camera, and
`images[2]` when there are exactly three. -/
def Config.stitchedFrames (cfg : Config) (copies : Nat → Option Frame) : List (Option Frame) :=
  [copies 0] ++ (if cfg.cameraNum > 1 then [copies 1] else []) ++
    (if cfg.cameraNum = 3 then [copies 2] else [])

/-- A loop over the cameras goes on, or control leaves it. -/
def Config.next (cfg : Config) (i : Nat) (again : Nat → ConcatPc) (after : ConcatPc) : ConcatPc :=
  if i + 1 < cfg.cameraNum then again (i + 1) else after

/-- One step; `now` is what the clock shows and `fine` whether the operators of `imageConcat` return.
`g_concatLocation` has three entries: with a fourth camera the last copy reads beyond it, and what it
fetches is never used. -/
def imageConcatProc (cfg : Config) (s : State) (now : Nat) (fine : Bool) : State :=
  match s.concat with
  | .testFailed i =>
      if s.grabResults i = .failed then { s with concat := .markFail }
      else { s with concat := .testNone i }
  | .testNone i =>
      if s.grabResults i = .none then { s with concat := .testFailed 0 }
      else { s with concat := cfg.next i .testFailed .stamp }
  | .markFail =>
      { s with
        concatImageStatus := .fail
        statusRound := s.round
        outcomes := s.outcomes ++ [.fail]
        concat := .markFailAgain }
  | .markFailAgain =>
      { s with
        concatImageStatus := .fail
        statusRound := s.round
        concat := .resetFailed 0 }
  | .resetFailed i =>
      if s.grabResults i = .failed then { s with concat := .clearFailed i }
      else { s with concat := cfg.next i .resetFailed (.testFailed 0) }
  | .clearFailed i =>
      { s with
        grabResults := Function.update s.grabResults i .none
        concat := cfg.next i .resetFailed (.testFailed 0) }
  | .stamp => { s with id := now, round := s.round + 1, concat := .copy 0 }
  | .copy i =>
      if fine then
        { s with
          copies := if i < 3 then Function.update s.copies i (s.images (cfg.concatLocation i))
            else s.copies
          concat := cfg.next i .copy .stitch }
      else { s with concat := .markThrown }
  | .stitch =>
      if fine then
        { s with
          stitched := s.stitched ++ [cfg.stitchedFrames s.copies]
          concat := .beginWrite }
      else { s with concat := .markThrown }
  | .beginWrite =>
      { s with
        files := Function.update s.files (cfg.fileName s.id) (.writing s.round)
        concat := .endWrite }
  | .endWrite =>
      { s with
        files := Function.update s.files (cfg.fileName s.id) (.complete s.round)
        concat := .markSuccess }
  | .markSuccess =>
      { s with
        concatImageStatus := .success
        statusRound := s.round
        outcomes := s.outcomes ++ [.success]
        concat := .resetSuccessed 0 }
  | .markThrown =>
      { s with
        concatImageStatus := .fail
        statusRound := s.round
        outcomes := s.outcomes ++ [.fail]
        concat := .resetSuccessed 0 }
  | .resetSuccessed i =>
      if s.grabResults i = .successed then { s with concat := .clearSuccessed i }
      else { s with concat := cfg.next i .resetSuccessed (.testFailed 0) }
  | .clearSuccessed i =>
      { s with
        grabResults := Function.update s.grabResults i .none
        concat := cfg.next i .resetSuccessed (.testFailed 0) }

/-! ## The polling loop of `standard_mode_run` -/

def pollLoop (cfg : Config) (s : State) : State :=
  match s.poll with
  | .read => { s with poll := .clear s.concatImageStatus s.statusRound }
  | .clear concatStatus round =>
      { s with concatImageStatus := .none, poll := .name concatStatus round }
  | .name concatStatus round => { s with poll := .send concatStatus (cfg.imageStr s.id) round }
  | .send concatStatus imageStr round =>
      if concatStatus = .none then { s with poll := .read }
      else
        { s with
          sent := s.sent ++ [⟨concatStatus, imageStr, s.files (imageStr ++ ".jpg"), round⟩]
          poll := .read }

/-! ## Interleavings -/

inductive Action where
  | grab (camera : Nat)
  | concat (now : Nat) (fine : Bool)
  | poll
deriving DecidableEq, Repr

def step (cfg : Config) (s : State) : Action → Option State
  | .grab i => if i < cfg.cameraNum then some (grabProc cfg s i) else none
  | .concat now fine => some (imageConcatProc cfg s now fine)
  | .poll => some (pollLoop cfg s)

theorem step_grab {cfg : Config} {s s' : State} {i : Nat} (taken : step cfg s (.grab i) = some s') :
    i < cfg.cameraNum ∧ s' = grabProc cfg s i := by
  simp only [step] at taken
  split at taken
  · rename_i camera
    cases taken
    exact ⟨camera, rfl⟩
  · cases taken

/-- `g_concatLocation` sends the cameras in use to cameras. -/
theorem Config.locate_lt (cfg : Config) {k : Nat} (within : k ≤ cfg.cameraNum) {i : Nat}
    (used : i < cfg.cameraNum) : cfg.locate k i < cfg.cameraNum := by
  induction k with
  | zero => exact used
  | succ k ih =>
      have earlier := ih (by omega)
      have updated (j : Nat) : Function.update (cfg.locate k) j k i < cfg.cameraNum := by
        by_cases same : i = j
        · subst same
          rw [Function.update_self]
          omega
        · rw [Function.update_of_ne same]
          exact earlier
      unfold Config.locate
      split
      · exact updated 0
      · split
        · exact updated 1
        · split
          · exact updated 2
          · exact earlier

theorem Config.concatLocation_lt (cfg : Config) {i : Nat} (used : i < cfg.cameraNum) :
    cfg.concatLocation i < cfg.cameraNum := cfg.locate_lt (Nat.le_refl _) used

/-! ## Small configurations -/

/-- Cameras named by their place; `time2str` shows the last digit. -/
def Config.small (cameraNum : Nat) (some_camera : 0 < cameraNum) (max_camera_count : cameraNum ≤ 4)
    (grabSucceeds : Nat → Nat → Bool) : Config where
  cameraNum := cameraNum
  some_camera := some_camera
  max_camera_count := max_camera_count
  friendlyName i := if i = 0 then "left" else if i = 1 then "mid" else "right"
  left := "left"
  mid := "mid"
  right := "right"
  grabSucceeds := grabSucceeds
  time2str id := (Nat.digitChar (id % 10)).toString

/-- One camera, all or none of whose grabs succeed. -/
def oneCamera (succeeds : Bool) : Config :=
  Config.small 1 (by decide) (by decide) fun _ _ => succeeds

/-- Steps of `ImageConcatProc` one after the other, the clock standing at `now`. -/
def concats (now steps : Nat) : List Action := List.replicate steps (.concat now true)

/-- One turn of the polling loop. -/
def polls : List Action := List.replicate 4 .poll

end TizerVision.Rolling
