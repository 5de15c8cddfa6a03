/-
# Rolling.Interval — grabbing at intervals in EarRollingBaslerCameraMsa

The program for measurement system analysis does not wait for triggers.  Each camera's thread wakes up
every second, and in three seconds out of ten it grabs one frame, unless its slot still says SUCCESSED.
`ImageConcatProc` stitches when every slot says so and then takes the slots back; `cameraWorker` polls
`g_earLocationCorrect` and reports it.  The mutexes are never created here either, so that every read
and every assignment of a shared variable is a step of its own.

The test of the slot makes the program a handshake: an announced frame stays until `ImageConcatProc`
has taken it (`camera_leaves_announced`).  Two places in `ImageConcatProc` break it, both because a
slot is read and dealt with in two steps: a slot that turns FAILED between the tests for FAILED and for
NONE passes for SUCCESSED, and a frame announced between the test for FAILED and the assignment of NONE
is wiped.

* `pictures_in_order` — in every run in which neither happens, the k-th round takes the k-th frame each
  camera has announced: none is lost, none is used twice, and no frames of different rounds meet.
-/
import TizerVision.Rolling.Stitch

namespace TizerVision.Rolling.Interval

open TizerVision.Theory

set_option autoImplicit false

/-! ## The state -/

/-- The cameras of the program.  `imageConcat` reads `images[1]` whatever the number of cameras, and
`g_concatLocation` has three entries: with one camera or with four it reads beyond an array. -/
structure Setup extends Config where
  left_name : left = "Basler acA1920-25gm (23627359)"
  mid_name : mid = "Basler acA1920-25gm (23891520)"
  right_name : right = "Basler acA1920-25gm (23891524)"
  mid_camera : 2 ≤ cameraNum
  concat_locations : cameraNum ≤ 3

/-- `EAR_LOCATION_WAIT`, `EAR_LOCATION_GRAB_FAILED`, `EAR_LOCATION_CORRECT`, `EAR_LOCATION_ERROR` -/
inductive EarLocation where
  | wait
  | grabFailed
  | correct
  | error
deriving DecidableEq, Repr

/-- The next statement of `intervalGrabProc`. -/
inductive GrabPc where
  /-- it sleeps, and then looks at the clock and at its slot -/
  | idle
  /-- `cameras[i].StartGrabbing(1)` -/
  | start
  /-- `cameras[i].RetrieveResult` -/
  | retrieve
  /-- the frame is in `g_images[i]`, and not announced yet -/
  | stored
  /-- the handler around the loop has been reached -/
  | ended
deriving DecidableEq, Repr

/-- The next statement of `ImageConcatProc` that touches a shared variable. -/
inductive ConcatPc where
  /-- `g_grabResults[i] == GRAB_STATUS_FAILED` is read next -/
  | testFailed (i : Nat)
  /-- `g_grabResults[i] == GRAB_STATUS_NONE` is read next -/
  | testNone (i : Nat)
  /-- `g_earLocationCorrect = EAR_LOCATION_GRAB_FAILED` -/
  | markGrabFailed
  /-- the loop that takes the failed slots back: the test and the assignment -/
  | resetFailed (i : Nat)
  | clearFailed (i : Nat)
  /-- `g_id++` -/
  | increment
  /-- `images[i] = g_images[g_concatLocation[i]]` in `imageConcat` -/
  | copy (i : Nat)
  /-- the operators of `imageConcat` -/
  | stitch
  /-- `g_earLocationCorrect` is set to what `isRollingOk` says -/
  | publish
  /-- the loop that takes the successful slots back: the test and the assignment -/
  | resetSuccessed (i : Nat)
  | clearSuccessed (i : Nat)
deriving DecidableEq, Repr

/-- The next statement of the loop in `cameraWorker`; `picture` is the one the status in hand is about. -/
inductive MainPc where
  /-- `earLocation = g_earLocationCorrect` -/
  | read
  /-- `g_earLocationCorrect = EAR_LOCATION_WAIT` -/
  | clear (earLocation : EarLocation) (picture : Nat)
  /-- the message is made, with `g_id` in it, and written to the socket -/
  | compose (earLocation : EarLocation) (picture : Nat)
  /-- `ws.write` has raised, and the worker has returned -/
  | ended
deriving DecidableEq, Repr

/-- What is written to the socket: the texts differ in the number and in the lengths they report. -/
inductive Message where
  /-- `sendGrabFailedMessageByWebsocket` -/
  | grabFailed
  /-- `sendEarLocationCorrectMessageByWebsocket(id)` or the one for an error, and the picture it is about -/
  | location (earLocation : EarLocation) (id : Nat) (picture : Nat)
deriving DecidableEq, Repr

/-- A round of `ImageConcatProc`: its number and the frames stitched, or none if `imageConcat` raised. -/
structure Round where
  id : Nat
  frames : Option (List (Option Frame))
deriving DecidableEq, Repr

structure State where
  /-- `g_images` -/
  images : Nat → Option Frame
  /-- `g_grabResults` -/
  grabResults : Nat → GrabStatus
  /-- how many grabs the thread of a camera has finished -/
  done : Nat → Nat
  grab : Nat → GrabPc
  /-- `g_earLocationCorrect`, and the picture it is about -/
  earLocationCorrect : EarLocation
  judged : Nat
  /-- `g_id` -/
  id : Nat
  /-- the local `images` of `imageConcat` -/
  copies : Nat → Option Frame
  concat : ConcatPc
  main : MainPc
  /-- the record: the frames each camera has announced, the rounds, the messages -/
  announced : Nat → List Frame
  rounds : List Round
  sent : List Message

def State.init : State where
  images := fun _ => none
  grabResults := fun _ => .none
  done := fun _ => 0
  grab := fun _ => .idle
  earLocationCorrect := .wait
  judged := 0
  id := 0
  copies := fun _ => none
  concat := .testFailed 0
  main := .read
  announced := fun _ => []
  rounds := []
  sent := []

/-! ## `intervalGrabProc` -/

/-- What a call of the camera does: it returns, or it raises, after which the camera grabs on or not. -/
inductive Answer where
  | fine
  | raised
  | stopped
deriving DecidableEq, Repr

def State.goto (s : State) (i : Nat) (pc : GrabPc) : State :=
  { s with grab := Function.update s.grab i pc }

/-- `g_images[i] = result` -/
def State.storeFrame (s : State) (i : Nat) : State :=
  { s with
    images := Function.update s.images i (some ⟨i, s.done i⟩)
    grab := Function.update s.grab i .stored }

/-- `g_grabResults[i] = GRAB_STATUS_SUCCESSED` -/
def State.announce (s : State) (i : Nat) : State :=
  { s with
    grabResults := Function.update s.grabResults i .successed
    announced := Function.update s.announced i (s.announced i ++ [⟨i, s.done i⟩])
    done := Function.update s.done i (s.done i + 1)
    grab := Function.update s.grab i .idle }

/-- `g_grabResults[i] = GRAB_STATUS_FAILED` -/
def State.announceFailed (s : State) (i : Nat) : State :=
  { s with
    grabResults := Function.update s.grabResults i .failed
    done := Function.update s.done i (s.done i + 1)
    grab := Function.update s.grab i .idle }

/-- One step of the thread of camera `i`; `elapsed` are the seconds since `g_grabTimeStart`.  After
`StartGrabbing(1)` the camera grabs until one result has been retrieved. -/
def intervalGrabProc (cfg : Setup) (s : State) (i elapsed : Nat) (answer : Answer) : State :=
  match s.grab i with
  | .idle =>
      if elapsed % 10 % 4 ≠ 1 then s
      else if s.grabResults i = .successed then s
      else s.goto i .start
  | .start =>
      if answer = .fine then s.goto i .retrieve else s.goto i .ended
  | .retrieve =>
      match answer with
      | .fine => if cfg.grabSucceeds i (s.done i) then s.storeFrame i else s.announceFailed i
      | .raised => s
      | .stopped => s.goto i .idle
  | .stored => s.announce i
  | .ended => s

/-! ## `ImageConcatProc` -/

/-- A loop over the cameras goes on, or control leaves it. -/
def next (cfg : Setup) (i : Nat) (again : Nat → ConcatPc) (after : ConcatPc) : ConcatPc :=
  if i + 1 < cfg.cameraNum then again (i + 1) else after

/-- `isRollingOk` returns true at once: in this program every picture is in order. -/
def isRollingOk : Bool := true

/-- One step; `fine` is whether the operators of `imageConcat` return. -/
def imageConcatProc (cfg : Setup) (s : State) (fine : Bool) : State :=
  match s.concat with
  | .testFailed i =>
      if s.grabResults i = .failed then { s with concat := .markGrabFailed }
      else { s with concat := .testNone i }
  | .testNone i =>
      if s.grabResults i = .none then { s with concat := .resetFailed 0 }
      else { s with concat := next cfg i .testFailed .increment }
  | .markGrabFailed => { s with earLocationCorrect := .grabFailed, concat := .resetFailed 0 }
  | .resetFailed i =>
      if s.grabResults i = .failed then { s with concat := .clearFailed i }
      else { s with concat := next cfg i .resetFailed (.testFailed 0) }
  | .clearFailed i =>
      { s with
        grabResults := Function.update s.grabResults i .none
        concat := next cfg i .resetFailed (.testFailed 0) }
  | .increment => { s with id := s.id + 1, concat := .copy 0 }
  | .copy i =>
      if fine then
        { s with
          copies := Function.update s.copies i (s.images (cfg.concatLocation i))
          concat := next cfg i .copy .stitch }
      else { s with rounds := s.rounds ++ [⟨s.id, none⟩], concat := .resetSuccessed 0 }
  | .stitch =>
      if fine then
        { s with
          rounds := s.rounds ++ [⟨s.id, some (cfg.stitchedFrames s.copies)⟩]
          concat := .publish }
      else { s with rounds := s.rounds ++ [⟨s.id, none⟩], concat := .resetSuccessed 0 }
  | .publish =>
      { s with
        earLocationCorrect := if isRollingOk then .correct else .error
        judged := s.id
        concat := .resetSuccessed 0 }
  | .resetSuccessed i =>
      if s.grabResults i = .successed then { s with concat := .clearSuccessed i }
      else { s with concat := next cfg i .resetSuccessed (.testFailed 0) }
  | .clearSuccessed i =>
      { s with
        grabResults := Function.update s.grabResults i .none
        concat := next cfg i .resetSuccessed (.testFailed 0) }

/-! ## The loop of `cameraWorker` -/

/-- `sendEarLocationCorrectMessageByWebsocket` and its companion: number 0 stands for a failed grab. -/
def messageOf (earLocation : EarLocation) (id picture : Nat) : Message :=
  if id = 0 then .grabFailed else .location earLocation id picture

/-- `ws.write(net::buffer(message))` -/
def State.send (s : State) (message : Message) (fine : Bool) : State :=
  if fine then { s with sent := s.sent ++ [message], main := .read } else { s with main := .ended }

def cameraWorker (s : State) (fine : Bool) : State :=
  match s.main with
  | .read => { s with main := .clear s.earLocationCorrect s.judged }
  | .clear earLocation picture =>
      { s with earLocationCorrect := .wait, main := .compose earLocation picture }
  | .compose earLocation picture =>
      match earLocation with
      | .error => s.send (messageOf .error s.id picture) fine
      | .correct => s.send (messageOf .correct s.id picture) fine
      | .grabFailed => s.send .grabFailed fine
      | .wait => { s with main := .read }
  | .ended => s

/-! ## Interleavings -/

inductive Action where
  | grab (camera elapsed : Nat) (answer : Answer)
  | concat (fine : Bool)
  | main (fine : Bool)
deriving DecidableEq, Repr

def step (cfg : Setup) (s : State) : Action → Option State
  | .grab i elapsed answer =>
      if i < cfg.cameraNum then some (intervalGrabProc cfg s i elapsed answer) else none
  | .concat fine => some (imageConcatProc cfg s fine)
  | .main fine => some (cameraWorker s fine)

/-! ## The condition -/

/-- The condition on a step of `ImageConcatProc`: a slot that was not FAILED is not FAILED when it is
tested again, and a slot that was FAILED still is when it is taken back. -/
def Undisturbed (s : State) : Action → Prop
  | .concat _ =>
      match s.concat with
      | .testNone i => s.grabResults i ≠ .failed
      | .clearFailed i => s.grabResults i = .failed
      | _ => True
  | _ => True

instance (s : State) : (a : Action) → Decidable (Undisturbed s a)
  | .concat _ =>
      match pc : s.concat with
      | .testNone i => decidable_of_iff (s.grabResults i ≠ .failed) (by simp [Undisturbed, pc])
      | .clearFailed i => decidable_of_iff (s.grabResults i = .failed) (by simp [Undisturbed, pc])
      | .testFailed _ | .markGrabFailed | .resetFailed _ | .increment | .copy _ | .stitch | .publish
      | .resetSuccessed _ | .clearSuccessed _ => isTrue (by simp [Undisturbed, pc])
  | .grab .. => inferInstanceAs (Decidable True)
  | .main _ => inferInstanceAs (Decidable True)

/-! ## The steps of a camera -/

/-- The slots: an announced frame is the one in the slot, and its camera is asleep. -/
structure Slots (s : State) : Prop where
  idle : ∀ i, s.grabResults i = .successed → s.grab i = .idle
  latest : ∀ i, s.grabResults i = .successed → s.images i = (s.announced i).getLast?
  stored : ∀ i, s.grab i = .stored → s.images i = some ⟨i, s.done i⟩
  frames : ∀ i, ∀ f ∈ s.announced i, f.camera = i ∧ f.trigger < s.done i
  increasing : ∀ i, (s.announced i).Pairwise fun f g => f.trigger < g.trigger

/-- What a step of the thread of camera `i` can do. -/
inductive CameraStep (s : State) (i : Nat) : State → Prop where
  | rests : CameraStep s i s
  | moves {pc : GrabPc} (free : s.grabResults i ≠ .successed) (other : pc ≠ .stored) :
      CameraStep s i (s.goto i pc)
  | stores (free : s.grabResults i ≠ .successed) : CameraStep s i (s.storeFrame i)
  | fails (free : s.grabResults i ≠ .successed) : CameraStep s i (s.announceFailed i)
  | announces (free : s.grabResults i ≠ .successed) (stored : s.grab i = .stored) :
      CameraStep s i (s.announce i)

variable {cfg : Setup} {s s' : State}

variable (cfg) in
theorem intervalGrabProc_cases (good : Slots s) (i elapsed : Nat) (answer : Answer) :
    CameraStep s i (intervalGrabProc cfg s i elapsed answer) := by
  -- a camera that is not asleep has nothing announced
  have free (pc : s.grab i ≠ .idle) : s.grabResults i ≠ .successed := fun on => pc (good.idle i on)
  unfold intervalGrabProc
  split
  case h_1 =>
      split
      · exact .rests
      · split
        · exact .rests
        · rename_i _ off
          exact .moves off (by decide)
  case h_2 pc =>
      split
      · exact .moves (free (by simp [pc])) (by decide)
      · exact .moves (free (by simp [pc])) (by decide)
  case h_3 pc =>
      split
      · split
        · exact .stores (free (by simp [pc]))
        · exact .fails (free (by simp [pc]))
      · exact .rests
      · exact .moves (free (by simp [pc])) (by decide)
  case h_4 pc => exact .announces (free (by simp [pc])) pc
  case h_5 => exact .rests

/-- **The handshake.**  A step of a camera leaves every announced slot alone, its own included. -/
theorem camera_leaves_announced {i j : Nat} (taken : CameraStep s i s')
    (on : s.grabResults j = .successed) :
    s'.grabResults j = .successed ∧ s'.images j = s.images j ∧ s'.announced j = s.announced j ∧
      s'.grab j = s.grab j := by
  cases taken with
  | rests => exact ⟨on, rfl, rfl, rfl⟩
  | moves free _ | stores free | fails free | announces free _ =>
      have other : j ≠ i := fun same => free (same ▸ on)
      simp [State.goto, State.storeFrame, State.announceFailed, State.announce, other, on]

theorem Slots.goto (good : Slots s) {i : Nat} {pc : GrabPc} (free : s.grabResults i ≠ .successed)
    (other : pc ≠ .stored) : Slots (s.goto i pc) := by
  have kept {j : Nat} (on : s.grabResults j = .successed) :=
    camera_leaves_announced (.moves free other) on
  refine ⟨fun j on => ?_, good.latest, fun j stored => ?_, good.frames, good.increasing⟩
  · rw [(kept on).2.2.2]
    exact good.idle j on
  · by_cases same : j = i
    · subst same
      simp [State.goto, other] at stored
    · exact good.stored j (by simpa [State.goto, same] using stored)

theorem Slots.storeFrame (good : Slots s) {i : Nat} (free : s.grabResults i ≠ .successed) :
    Slots (s.storeFrame i) := by
  have kept {j : Nat} (on : s.grabResults j = .successed) := camera_leaves_announced (.stores free) on
  refine ⟨fun j on => ?_, fun j on => ?_, fun j stored => ?_, good.frames, good.increasing⟩
  · rw [(kept on).2.2.2]
    exact good.idle j on
  · rw [(kept on).2.1]
    exact good.latest j on
  · by_cases same : j = i
    · subst same
      simp [State.storeFrame]
    · simpa [State.storeFrame, same] using
        good.stored j (by simpa [State.storeFrame, same] using stored)

theorem Slots.announceFailed (good : Slots s) {i : Nat} (free : s.grabResults i ≠ .successed) :
    Slots (s.announceFailed i) := by
  have before {j : Nat} (on : (s.announceFailed i).grabResults j = .successed) :
      s.grabResults j = .successed := by
    by_cases same : j = i
    · subst same
      simp [State.announceFailed] at on
    · simpa [State.announceFailed, same] using on
  refine ⟨fun j on => ?_, fun j on => good.latest j (before on), fun j stored => ?_,
    fun j f member => ?_, good.increasing⟩
  · rw [(camera_leaves_announced (.fails free) (before on)).2.2.2]
    exact good.idle j (before on)
  · have other : j ≠ i := fun same => by
      subst same
      simp [State.announceFailed] at stored
    simpa [State.announceFailed, other] using
      good.stored j (by simpa [State.announceFailed, other] using stored)
  · obtain ⟨camera, earlier⟩ := good.frames j f member
    refine ⟨camera, ?_⟩
    by_cases same : j = i
    · subst same
      simp only [State.announceFailed, Function.update_self]
      omega
    · simpa [State.announceFailed, same] using earlier

/-- The frame that is announced is the one in the slot, and later than all before. -/
theorem Slots.announce (good : Slots s) {i : Nat} (waiting : s.grab i = .stored) :
    Slots (s.announce i) := by
  refine ⟨fun j on => ?_, fun j on => ?_, fun j stored => ?_, fun j f member => ?_, fun j => ?_⟩
  all_goals by_cases same : j = i
  · simp [State.announce, same]
  · have on' : s.grabResults j = .successed := by simpa [State.announce, same] using on
    simpa [State.announce, same] using good.idle j on'
  · subst same
    simp [State.announce, good.stored j waiting]
  · have on' : s.grabResults j = .successed := by simpa [State.announce, same] using on
    simpa [State.announce, same] using good.latest j on'
  · subst same
    simp [State.announce] at stored
  · have stored' : s.grab j = .stored := by simpa [State.announce, same] using stored
    simpa [State.announce, same] using good.stored j stored'
  · subst same
    simp only [State.announce, Function.update_self, List.mem_append,
      List.mem_singleton] at member ⊢
    obtain old | new := member
    · exact ⟨(good.frames j f old).1, Nat.lt_succ_of_lt (good.frames j f old).2⟩
    · subst new
      exact ⟨rfl, Nat.lt_succ_self _⟩
  · have old : f ∈ s.announced j := by simpa [State.announce, same] using member
    simpa [State.announce, same] using good.frames j f old
  · subst same
    simp only [State.announce, Function.update_self, List.pairwise_append]
    refine ⟨good.increasing j, List.pairwise_singleton _ _, fun f old g new => ?_⟩
    rw [List.mem_singleton.1 new]
    exact (good.frames j f old).2
  · simpa [State.announce, same] using good.increasing j

theorem Slots.camera {i : Nat} (good : Slots s) (taken : CameraStep s i s') : Slots s' := by
  cases taken with
  | rests => exact good
  | moves free other => exact good.goto free other
  | stores free => exact good.storeFrame free
  | fails free => exact good.announceFailed free
  | announces _ waiting => exact good.announce waiting

/-! ## The rounds -/

/-- The frame in slot `i` is the round's that is about to take the slot back. -/
def ConcatPc.spent (i : Nat) : ConcatPc → Bool
  | .publish => true
  | .resetSuccessed k => k ≤ i
  | .clearSuccessed k => k ≤ i
  | _ => false

/-- A round has a number and is not in the record yet. -/
def ConcatPc.within : ConcatPc → Bool
  | .copy _ => true
  | .stitch => true
  | _ => false

/-- What `ImageConcatProc` relies on: the slots it has passed are still SUCCESSED, and what it has
copied is still there. -/
def Scanned (cfg : Setup) (s : State) : Prop :=
  match s.concat with
  | .testFailed k | .testNone k => k < cfg.cameraNum ∧ ∀ i < k, s.grabResults i = .successed
  | .increment => ∀ i < cfg.cameraNum, s.grabResults i = .successed
  | .copy k =>
      k < cfg.cameraNum ∧ (∀ i < cfg.cameraNum, s.grabResults i = .successed) ∧
        ∀ place < k, s.copies place = s.images (cfg.concatLocation place)
  | .stitch =>
      (∀ i < cfg.cameraNum, s.grabResults i = .successed) ∧
        ∀ place < cfg.cameraNum, s.copies place = s.images (cfg.concatLocation place)
  | .resetSuccessed k | .clearSuccessed k => k < cfg.cameraNum
  | _ => True

/-- The rounds: the k-th has number k and the k-th frame of every camera, and of the frames announced
there is at most one that no round has taken. -/
structure Taken (cfg : Setup) (s : State) : Prop where
  number : s.id = s.rounds.length + if s.concat.within then 1 else 0
  waiting : ∀ i < cfg.cameraNum, s.concat.spent i = false →
    (s.announced i).length = s.rounds.length + if s.grabResults i = .successed then 1 else 0
  spent : ∀ i < cfg.cameraNum, s.concat.spent i = true →
    s.grabResults i = .successed ∧ (s.announced i).length = s.rounds.length
  round : ∀ k round, s.rounds[k]? = some round → round.id = k + 1 ∧
    ∀ frames, round.frames = some frames →
      frames = cfg.stitchedFrames fun place => (s.announced (cfg.concatLocation place))[k]?
  scanned : Scanned cfg s

theorem Scanned.camera {i : Nat} (scan : Scanned cfg s) (taken : CameraStep s i s') :
    Scanned cfg s' := by
  have kept {j : Nat} (on : s.grabResults j = .successed) := camera_leaves_announced taken on
  have concat : s'.concat = s.concat := by cases taken <;> rfl
  have copies : s'.copies = s.copies := by cases taken <;> rfl
  have place_kept (all : ∀ i < cfg.cameraNum, s.grabResults i = .successed) {place : Nat}
      (used : place < cfg.cameraNum)
      (copied : s.copies place = s.images (cfg.concatLocation place)) :
      s'.copies place = s'.images (cfg.concatLocation place) := by
    rw [copies, copied, (kept (all _ (cfg.concatLocation_lt used))).2.1]
  unfold Scanned at scan ⊢
  rw [concat]
  cases pc : s.concat with
  | testFailed k | testNone k =>
      rw [pc] at scan
      exact ⟨scan.1, fun j early => (kept (scan.2 j early)).1⟩
  | increment =>
      rw [pc] at scan
      exact fun j camera => (kept (scan j camera)).1
  | copy k =>
      rw [pc] at scan
      exact ⟨scan.1, fun j camera => (kept (scan.2.1 j camera)).1, fun place early =>
        place_kept scan.2.1 (by have := scan.1; omega) (scan.2.2 place early)⟩
  | stitch =>
      rw [pc] at scan
      exact ⟨fun j camera => (kept (scan.1 j camera)).1, fun place used =>
        place_kept scan.1 used (scan.2 place used)⟩
  | resetSuccessed k | clearSuccessed k =>
      rw [pc] at scan
      exact scan
  | markGrabFailed | resetFailed k | clearFailed k | publish => trivial

/-- Only the places of cameras are stitched. -/
theorem stitchedFrames_congr {copies copies' : Nat → Option Frame}
    (same : ∀ place < cfg.cameraNum, copies place = copies' place) :
    cfg.stitchedFrames copies = cfg.stitchedFrames copies' := by
  have first := same 0 cfg.some_camera
  have second := same 1 cfg.mid_camera
  unfold Config.stitchedFrames
  by_cases three : cfg.cameraNum = 3
  · simp only [first, second, same 2 (by omega)]
  · simp only [first, second, three, if_false]

/-- A longer list of announced frames has the same frames at the places it had. -/
theorem stitchedFrames_append {announced announced' : Nat → List Frame} {k : Nat}
    (longer : ∀ i < cfg.cameraNum, announced i <+: announced' i)
    (enough : ∀ i < cfg.cameraNum, k < (announced i).length) :
    (cfg.stitchedFrames fun place => (announced' (cfg.concatLocation place))[k]?) =
      cfg.stitchedFrames fun place => (announced (cfg.concatLocation place))[k]? := by
  refine stitchedFrames_congr fun place used => ?_
  have camera := cfg.concatLocation_lt used
  obtain ⟨more, grown⟩ := longer _ camera
  rw [← grown, List.getElem?_append_left (enough _ camera)]

theorem Taken.length_le (taken : Taken cfg s) {i : Nat} (camera : i < cfg.cameraNum) :
    s.rounds.length ≤ (s.announced i).length := by
  cases on : s.concat.spent i with
  | true => exact Nat.le_of_eq (taken.spent i camera on).2.symm
  | false =>
      rw [taken.waiting i camera on]
      omega

/-- The rounds in the record are not touched when more frames are announced. -/
theorem Taken.round_grown (taken : Taken cfg s) {announced' : Nat → List Frame}
    (longer : ∀ i < cfg.cameraNum, s.announced i <+: announced' i) {k : Nat} {round : Round}
    (found : s.rounds[k]? = some round) : round.id = k + 1 ∧
      ∀ frames, round.frames = some frames →
        frames = cfg.stitchedFrames fun place => (announced' (cfg.concatLocation place))[k]? := by
  obtain ⟨number, shown⟩ := taken.round k round found
  refine ⟨number, fun frames some => ?_⟩
  have early : k < s.rounds.length := (List.getElem?_eq_some_iff.1 found).1
  rw [stitchedFrames_append longer fun i camera =>
    Nat.lt_of_lt_of_le early (taken.length_le camera)]
  exact shown frames some

theorem CameraStep.rounds_eq {i : Nat} (step : CameraStep s i s') : s'.rounds = s.rounds := by
  cases step <;> rfl

/-- A camera only adds to the frames announced. -/
theorem CameraStep.announced_grows {i : Nat} (step : CameraStep s i s') (j : Nat) :
    s.announced j <+: s'.announced j := by
  cases step with
  | announces _ _ =>
      by_cases same : j = i
      · simp [State.announce, same]
      · simp [State.announce, same]
  | _ => exact List.prefix_rfl

theorem Taken.camera {i : Nat} (taken : Taken cfg s) (step : CameraStep s i s') :
    Taken cfg s' := by
  have kept {j : Nat} (on : s.grabResults j = .successed) := camera_leaves_announced step on
  have concat : s'.concat = s.concat := by cases step <;> rfl
  have rounds := step.rounds_eq
  have id : s'.id = s.id := by cases step <;> rfl
  refine ⟨?_, fun j camera free => ?_, fun j camera held => ?_, fun k round found => ?_,
    taken.scanned.camera step⟩
  · rw [id, rounds, concat]
    exact taken.number
  · rw [concat] at free
    have before := taken.waiting j camera free
    rw [rounds]
    cases step with
    | rests | moves _ _ | stores _ => exact before
    | fails off =>
        by_cases same : j = i
        · subst same
          simpa [State.announceFailed, off] using before
        · simpa [State.announceFailed, same] using before
    | announces off _ =>
        by_cases same : j = i
        · subst same
          simpa [State.announce, off] using before
        · simpa [State.announce, same] using before
  · rw [concat] at held
    obtain ⟨on, length⟩ := taken.spent j camera held
    obtain ⟨still, -, same, -⟩ := kept on
    rw [same, rounds]
    exact ⟨still, length⟩
  · rw [rounds] at found
    exact taken.round_grown (fun j _ => step.announced_grows j) found

/-! ## The steps of `ImageConcatProc` -/

theorem next_cases (cfg : Setup) {i : Nat} (again : Nat → ConcatPc) (after : ConcatPc) :
    i + 1 < cfg.cameraNum ∧ next cfg i again after = again (i + 1) ∨
      cfg.cameraNum ≤ i + 1 ∧ next cfg i again after = after := by
  unfold next
  split
  · exact .inl ⟨‹_›, rfl⟩
  · exact .inr ⟨by omega, rfl⟩

/-- Slots are only taken back by `ImageConcatProc`, and it touches nothing else a camera uses. -/
theorem Slots.concat (good : Slots s) (fine : Bool) : Slots (imageConcatProc cfg s fine) := by
  have cleared (i : Nat) (pc : ConcatPc) : Slots { s with
      grabResults := Function.update s.grabResults i .none, concat := pc } := by
    have before {j : Nat} (on : Function.update s.grabResults i .none j = .successed) :
        s.grabResults j = .successed := by
      by_cases same : j = i
      · simp [same] at on
      · simpa [same] using on
    exact ⟨fun j on => good.idle j (before on), fun j on => good.latest j (before on), good.stored,
      good.frames, good.increasing⟩
  unfold imageConcatProc
  split
  case h_5 i _ => exact cleared i _
  case h_11 i _ => exact cleared i _
  all_goals
    repeat' split
    all_goals exact ⟨good.idle, good.latest, good.stored, good.frames, good.increasing⟩

/-- A step that announces, records and takes back nothing keeps the rounds. -/
theorem Taken.moved (taken : Taken cfg s) {here there : ConcatPc} (pc : s.concat = here)
    (pc' : s'.concat = there) (number : s'.id = s.id) (rounds : s'.rounds = s.rounds)
    (announced : s'.announced = s.announced)
    (results : ∀ i, s'.grabResults i = .successed ↔ s.grabResults i = .successed)
    (within : there.within = here.within)
    (spent : ∀ i < cfg.cameraNum, there.spent i = here.spent i) (scan : Scanned cfg s') :
    Taken cfg s' := by
  subst pc pc'
  refine ⟨?_, fun i camera free => ?_, fun i camera held => ?_, fun k round found => ?_, scan⟩
  · rw [number, rounds, within]
    exact taken.number
  · rw [spent i camera] at free
    simp only [announced, rounds, results i]
    exact taken.waiting i camera free
  · rw [spent i camera] at held
    simp only [announced, rounds, results i]
    exact taken.spent i camera held
  · rw [announced]
    rw [rounds] at found
    exact taken.round k round found

/-- A step that only goes to another place. -/
theorem Taken.goes (taken : Taken cfg s) {here there : ConcatPc} (pc : s.concat = here)
    (within : there.within = here.within)
    (spent : ∀ i < cfg.cameraNum, there.spent i = here.spent i)
    (scan : Scanned cfg { s with concat := there }) : Taken cfg { s with concat := there } :=
  taken.moved pc rfl rfl rfl rfl (fun _ => Iff.rfl) within spent scan

/-- A round that ends takes the last frame of every camera. -/
theorem Taken.recorded (taken : Taken cfg s) {frames : Option (List (Option Frame))}
    (within : s.concat.within = true)
    (all : ∀ i < cfg.cameraNum, s.grabResults i = .successed)
    (shown : ∀ list, frames = some list →
      list = cfg.stitchedFrames fun place => (s.announced (cfg.concatLocation place)).getLast?)
    (rounds : s'.rounds = s.rounds ++ [⟨s.id, frames⟩]) (number : s'.id = s.id)
    (announced : s'.announced = s.announced) (results : s'.grabResults = s.grabResults)
    (after : s'.concat.within = false)
    (spent : ∀ i < cfg.cameraNum, s'.concat.spent i = true) (scan : Scanned cfg s') :
    Taken cfg s' := by
  have current : s.id = s.rounds.length + 1 := by simpa [within] using taken.number
  have unspent (i : Nat) : s.concat.spent i = false := by
    cases pc : s.concat with
    | copy k | stitch => rfl
    | _ => simp [ConcatPc.within, pc] at within
  have length (i : Nat) (camera : i < cfg.cameraNum) :
      (s.announced i).length = s.rounds.length + 1 := by
    simpa [all i camera] using taken.waiting i camera (unspent i)
  have size : s'.rounds.length = s.rounds.length + 1 := by simp [rounds]
  refine ⟨?_, fun i camera free => ?_, fun i camera _ => ?_, fun k round found => ?_, scan⟩
  · rw [number, size, after]
    exact current
  · rw [spent i camera] at free
    cases free
  · rw [results, announced, size]
    exact ⟨all i camera, length i camera⟩
  · rw [announced]
    rw [rounds] at found
    obtain early | last : k < s.rounds.length ∨ k = s.rounds.length := by
      have bound : k < (s.rounds ++ [(⟨s.id, frames⟩ : Round)]).length :=
        (List.getElem?_eq_some_iff.1 found).1
      simp only [List.length_append, List.length_singleton] at bound
      omega
    · rw [List.getElem?_append_left early] at found
      exact taken.round k round found
    · subst last
      rw [List.getElem?_concat_length] at found
      obtain rfl := Option.some.inj found
      refine ⟨current, fun list some => ?_⟩
      rw [shown list some]
      -- the last frame of a camera in use is the one with the number of the round
      have same (place : Nat) (used : place < cfg.cameraNum) :
          (s.announced (cfg.concatLocation place)).getLast? =
            (s.announced (cfg.concatLocation place))[s.rounds.length]? := by
        rw [List.getLast?_eq_getElem?, length _ (cfg.concatLocation_lt used)]
        rfl
      exact stitchedFrames_congr same

theorem scanned_testFailed (at_first : s.concat = .testFailed 0) : Scanned cfg s := by
  unfold Scanned
  rw [at_first]
  exact ⟨cfg.some_camera, fun i early => absurd early (Nat.not_lt_zero i)⟩

theorem Taken.testNone (taken : Taken cfg s) {i : Nat} (pc : s.concat = .testNone i)
    (on : s.grabResults i = .successed) :
    Taken cfg { s with concat := next cfg i .testFailed .increment } := by
  have scan := taken.scanned
  simp only [Scanned, pc] at scan
  have passed (j : Nat) (early : j < i + 1) : s.grabResults j = .successed := by
    by_cases same : j = i
    · rw [same, on]
    · exact scan.2 j (by omega)
  obtain ⟨more, goes⟩ | ⟨last, goes⟩ := next_cases cfg (i := i) .testFailed .increment
  · rw [goes]
    exact taken.goes pc rfl (fun _ _ => rfl) ⟨more, passed⟩
  · rw [goes]
    exact taken.goes pc rfl (fun _ _ => rfl) fun j camera => passed j (by omega)

/-- The end of a turn of the loop over the failed slots. -/
theorem Taken.resetFailed (taken : Taken cfg s) {i : Nat}
    (pc : s.concat = .resetFailed i ∨ s.concat = .clearFailed i)
    {results : Nat → GrabStatus}
    (same : ∀ j, results j = .successed ↔ s.grabResults j = .successed) :
    Taken cfg { s with
      grabResults := results, concat := next cfg i .resetFailed (.testFailed 0) } := by
  have within : s.concat.within = false := by obtain pc | pc := pc <;> rw [pc] <;> rfl
  have spent (j : Nat) : s.concat.spent j = false := by obtain pc | pc := pc <;> rw [pc] <;> rfl
  obtain ⟨-, goes⟩ | ⟨-, goes⟩ := next_cases cfg (i := i) .resetFailed (.testFailed 0)
  · exact taken.moved rfl goes rfl rfl rfl same within.symm (fun j _ => (spent j).symm)
      (by simp only [Scanned, goes])
  · exact taken.moved rfl goes rfl rfl rfl same within.symm (fun j _ => (spent j).symm)
      (scanned_testFailed goes)

theorem Taken.increment (taken : Taken cfg s) (pc : s.concat = .increment) :
    Taken cfg { s with id := s.id + 1, concat := .copy 0 } := by
  have scan := taken.scanned
  simp only [Scanned, pc] at scan
  have number : s.id = s.rounds.length := by simpa [pc, ConcatPc.within] using taken.number
  refine ⟨?_, fun i camera _ => taken.waiting i camera (by rw [pc]; rfl), fun i _ held => ?_,
    taken.round, ?_⟩
  · simp [number, ConcatPc.within]
  · cases held
  · exact ⟨cfg.some_camera, scan, fun place early => absurd early (Nat.not_lt_zero place)⟩

theorem Taken.copy (taken : Taken cfg s) {i : Nat} (pc : s.concat = .copy i) :
    Taken cfg { s with
      copies := Function.update s.copies i (s.images (cfg.concatLocation i))
      concat := next cfg i .copy .stitch } := by
  have scan := taken.scanned
  simp only [Scanned, pc] at scan
  obtain ⟨below, all, copied⟩ := scan
  have copied_too (place : Nat) (early : place < i + 1) :
      Function.update s.copies i (s.images (cfg.concatLocation i)) place =
        s.images (cfg.concatLocation place) := by
    by_cases same : place = i
    · rw [same, Function.update_self]
    · rw [Function.update_of_ne same]
      exact copied place (by omega)
  obtain ⟨more, goes⟩ | ⟨last, goes⟩ := next_cases cfg (i := i) .copy .stitch
  · rw [goes]
    exact taken.moved pc rfl rfl rfl rfl (fun _ => Iff.rfl) rfl (fun _ _ => rfl)
      ⟨more, all, copied_too⟩
  · rw [goes]
    exact taken.moved pc rfl rfl rfl rfl (fun _ => Iff.rfl) rfl (fun _ _ => rfl)
      ⟨all, fun place used => copied_too place (by omega)⟩

/-- A round in which `imageConcat` raises. -/
theorem Taken.raised (taken : Taken cfg s) (within : s.concat.within = true)
    (all : ∀ i < cfg.cameraNum, s.grabResults i = .successed) :
    Taken cfg { s with rounds := s.rounds ++ [⟨s.id, none⟩], concat := .resetSuccessed 0 } :=
  taken.recorded within all (fun _ none => by cases none) rfl rfl rfl rfl rfl
    (fun _ _ => rfl) cfg.some_camera

theorem Taken.stitch (taken : Taken cfg s) (good : Slots s) (pc : s.concat = .stitch) :
    Taken cfg { s with
      rounds := s.rounds ++ [⟨s.id, some (cfg.stitchedFrames s.copies)⟩], concat := .publish } := by
  have scan := taken.scanned
  simp only [Scanned, pc] at scan
  obtain ⟨all, copied⟩ := scan
  refine taken.recorded (by rw [pc]; rfl) all (fun list some => ?_) rfl rfl rfl rfl rfl
    (fun _ _ => rfl) trivial
  cases some
  refine stitchedFrames_congr fun place used => ?_
  rw [copied place used, good.latest _ (all _ (cfg.concatLocation_lt used))]

theorem Taken.clearSuccessed (taken : Taken cfg s) {i : Nat} (pc : s.concat = .clearSuccessed i) :
    Taken cfg { s with
      grabResults := Function.update s.grabResults i .none
      concat := next cfg i .resetSuccessed (.testFailed 0) } := by
  have below : i < cfg.cameraNum := by simpa [Scanned, pc] using taken.scanned
  have before (j : Nat) : s.concat.spent j = decide (i ≤ j) := by rw [pc]; rfl
  have after (j : Nat) (camera : j < cfg.cameraNum) :
      (next cfg i .resetSuccessed (.testFailed 0)).spent j = decide (i < j) := by
    obtain ⟨-, goes⟩ | ⟨last, goes⟩ := next_cases cfg (i := i) .resetSuccessed (.testFailed 0)
    · rw [goes]
      rfl
    · rw [goes, decide_eq_false (by omega)]
      rfl
  refine ⟨?_, fun j camera free => ?_, fun j camera held => ?_, taken.round, ?_⟩
  · have number := taken.number
    rw [pc] at number
    obtain ⟨-, goes⟩ | ⟨-, goes⟩ := next_cases cfg (i := i) .resetSuccessed (.testFailed 0)
    · simp only [goes]
      exact number
    · simp only [goes]
      exact number
  · rw [after j camera] at free
    simp only [decide_eq_false_iff_not] at free
    by_cases same : j = i
    · subst same
      simpa using (taken.spent j camera (by rw [before]; simp)).2
    · have old := taken.waiting j camera (by rw [before]; simp only [decide_eq_false_iff_not]; omega)
      simpa [same] using old
  · rw [after j camera] at held
    have later : i < j := of_decide_eq_true held
    have old := taken.spent j camera (by rw [before]; simp only [decide_eq_true_eq]; omega)
    have other : j ≠ i := by omega
    simpa [other] using old
  · obtain ⟨more, goes⟩ | ⟨-, goes⟩ := next_cases cfg (i := i) .resetSuccessed (.testFailed 0)
    · simp only [Scanned, goes]
      exact more
    · exact scanned_testFailed goes

theorem Taken.concat (taken : Taken cfg s) (good : Slots s) {fine : Bool}
    (met : Undisturbed s (.concat fine)) : Taken cfg (imageConcatProc cfg s fine) := by
  have scan := taken.scanned
  simp only [Undisturbed] at met
  cases pc : s.concat with
  | testFailed i =>
      simp only [imageConcatProc, pc]
      simp only [Scanned, pc] at scan
      split
      · exact taken.goes pc rfl (fun _ _ => rfl) trivial
      · exact taken.goes pc rfl (fun _ _ => rfl) scan
  | testNone i =>
      simp only [imageConcatProc, pc]
      rw [pc] at met
      split
      · exact taken.goes pc rfl (fun _ _ => rfl) trivial
      · rename_i some
        refine taken.testNone pc ?_
        cases result : s.grabResults i with
        | none => exact absurd result some
        | failed => exact absurd result met
        | successed => rfl
  | markGrabFailed =>
      simp only [imageConcatProc, pc]
      exact taken.moved pc rfl rfl rfl rfl (fun _ => Iff.rfl) rfl (fun _ _ => rfl) trivial
  | resetFailed i =>
      simp only [imageConcatProc, pc]
      split
      · exact taken.goes pc rfl (fun _ _ => rfl) trivial
      · exact taken.resetFailed (.inl pc) fun _ => Iff.rfl
  | clearFailed i =>
      simp only [imageConcatProc, pc]
      rw [pc] at met
      refine taken.resetFailed (.inr pc) fun j => ?_
      by_cases same : j = i
      · simp [same, met]
      · simp [same]
  | increment =>
      simp only [imageConcatProc, pc]
      exact taken.increment pc
  | copy i =>
      simp only [imageConcatProc, pc]
      simp only [Scanned, pc] at scan
      split
      · exact taken.copy pc
      · exact taken.raised (by rw [pc]; rfl) scan.2.1
  | stitch =>
      simp only [imageConcatProc, pc]
      simp only [Scanned, pc] at scan
      split
      · exact taken.stitch good pc
      · exact taken.raised (by rw [pc]; rfl) scan.1
  | publish =>
      simp only [imageConcatProc, pc]
      exact taken.moved pc rfl rfl rfl rfl (fun _ => Iff.rfl) rfl (fun _ _ => rfl) cfg.some_camera
  | resetSuccessed i =>
      simp only [imageConcatProc, pc]
      simp only [Scanned, pc] at scan
      -- the slot is the round's: it cannot have been changed
      have held := (taken.spent i scan (by rw [pc]; simp [ConcatPc.spent])).1
      rw [if_pos held]
      exact taken.goes pc rfl (fun _ _ => rfl) scan
  | clearSuccessed i =>
      simp only [imageConcatProc, pc]
      exact taken.clearSuccessed pc

/-! ## The result -/

theorem slots_init : Slots State.init where
  idle := fun _ on => nomatch on
  latest := fun _ on => nomatch on
  stored := fun _ pc => nomatch pc
  frames := fun _ _ member => nomatch member
  increasing := fun _ => .nil

theorem taken_init : Taken cfg State.init where
  number := rfl
  waiting := fun _ _ _ => rfl
  spent := fun _ _ held => nomatch held
  round := fun _ _ found => by simp [State.init] at found
  scanned := scanned_testFailed rfl

/-- `cameraWorker` touches the status it reports, and nothing of the rounds. -/
theorem cameraWorker_eq (s : State) (fine : Bool) : ∃ earLocationCorrect main sent,
    cameraWorker s fine = { s with
      earLocationCorrect := earLocationCorrect, main := main, sent := sent } := by
  have sends (message : Message) : ∃ earLocationCorrect main sent, s.send message fine = { s with
      earLocationCorrect := earLocationCorrect, main := main, sent := sent } := by
    unfold State.send
    split <;> exact ⟨_, _, _, rfl⟩
  unfold cameraWorker
  split
  · exact ⟨_, _, _, rfl⟩
  · exact ⟨_, _, _, rfl⟩
  · split
    · exact sends _
    · exact sends _
    · exact sends _
    · exact ⟨_, _, _, rfl⟩
  · exact ⟨_, _, _, rfl⟩

theorem undisturbed_step {a : Action} (before : Slots s ∧ Taken cfg s) (met : Undisturbed s a)
    (taken : step cfg s a = some s') : Slots s' ∧ Taken cfg s' := by
  obtain ⟨good, counted⟩ := before
  cases a with
  | grab i elapsed answer =>
      simp only [step] at taken
      split at taken
      · obtain rfl := Option.some.inj taken
        have camera := intervalGrabProc_cases cfg good i elapsed answer
        exact ⟨good.camera camera, counted.camera camera⟩
      · cases taken
  | concat fine =>
      obtain rfl := Option.some.inj taken
      exact ⟨good.concat fine, counted.concat good met⟩
  | main fine =>
      obtain rfl := Option.some.inj taken
      obtain ⟨_, _, _, same⟩ := cameraWorker_eq s fine
      rw [same]
      exact ⟨⟨good.idle, good.latest, good.stored, good.frames, good.increasing⟩,
        counted.moved rfl rfl rfl rfl rfl (fun _ => Iff.rfl) rfl (fun _ _ => rfl) counted.scanned⟩

theorem undisturbed_invariant {actions : List Action}
    (run : Run (step cfg) Undisturbed State.init actions s) : Slots s ∧ Taken cfg s :=
  run.invariant (I := fun s => Slots s ∧ Taken cfg s)
    (fun _ _ _ before met taken => undisturbed_step before met taken) ⟨slots_init, taken_init⟩

/-- **The pictures are in order.**  With two or three cameras, in an undisturbed run: the k-th round takes the
k-th frame that the cameras at its places have announced, so that of their frames none is skipped and none
is used in two rounds; at most one frame of each camera waits for its round.  The cameras at the places are
those of `g_concatLocation`, which goes by their names: with the mid and the right camera alone it is
`{0, 0, 2}`, and the first camera is at both places. -/
theorem pictures_in_order (cfg : Setup) {actions : List Action} {s : State}
    (run : Run (step cfg) Undisturbed State.init actions s) :
    (∀ i < cfg.cameraNum, s.rounds.length ≤ (s.announced i).length ∧
      (s.announced i).length ≤ s.rounds.length + 1) ∧
    (∀ i, (s.announced i).Pairwise fun f g => f.trigger < g.trigger) ∧
    ∀ k round, s.rounds[k]? = some round → round.id = k + 1 ∧
      ∀ frames, round.frames = some frames →
        frames = cfg.stitchedFrames fun place => (s.announced (cfg.concatLocation place))[k]? := by
  obtain ⟨good, taken⟩ := undisturbed_invariant run
  refine ⟨fun i camera => ⟨taken.length_le camera, ?_⟩, good.increasing, taken.round⟩
  cases held : s.concat.spent i with
  | true =>
      rw [(taken.spent i camera held).2]
      omega
  | false =>
      rw [taken.waiting i camera held]
      split <;> omega

/-- Two cameras by their names in the source. -/
def twoCameras (grabSucceeds : Nat → Nat → Bool) : Setup where
  toConfig :=
    { Rolling.twoCameras grabSucceeds with
      friendlyName := fun i =>
        if i = 0 then "Basler acA1920-25gm (23627359)" else "Basler acA1920-25gm (23891520)"
      left := "Basler acA1920-25gm (23627359)"
      mid := "Basler acA1920-25gm (23891520)"
      right := "Basler acA1920-25gm (23891524)" }
  left_name := rfl
  mid_name := rfl
  right_name := rfl
  mid_camera := Nat.le_refl 2
  concat_locations := Nat.le_succ 2

/-- A camera wakes up in the first second, grabs, stores and announces. -/
def grabs (camera : Nat) : List Action := List.replicate 4 (.grab camera 1 .fine)

/-- Steps of `ImageConcatProc` one after the other. -/
def concats (steps : Nat) : List Action := List.replicate steps (.concat true)

/-- Two rounds: eight steps up to the picture, five more until the slots are free again. -/
def twoRounds : List Action :=
  grabs 0 ++ grabs 1 ++ concats 13 ++ grabs 1 ++ grabs 0 ++ concats 8

theorem pictures_in_order_twice :
    ∃ s, Run (step (twoCameras fun _ _ => true)) Undisturbed State.init twoRounds s ∧
      s.rounds = [⟨1, some [some ⟨0, 0⟩, some ⟨1, 0⟩]⟩, ⟨2, some [some ⟨0, 1⟩, some ⟨1, 1⟩]⟩] ∧
      ∀ i < 2, s.rounds.length ≤ (s.announced i).length := by
  obtain ⟨s, run, shown⟩ := exists_run_of_exec (step (twoCameras fun _ _ => true)) Undisturbed
    State.init twoRounds State.rounds
    (b := [⟨1, some [some ⟨0, 0⟩, some ⟨1, 0⟩]⟩, ⟨2, some [some ⟨0, 1⟩, some ⟨1, 1⟩]⟩]) (by decide)
  exact ⟨s, run, shown, fun i camera => ((pictures_in_order _ run).1 i camera).1⟩

/-- The slot of camera 1 turns FAILED between its two tests in the second round: the frame of the first
round is stitched again. -/
example : (exec (step (twoCameras fun i k => i = 0 ∨ k = 0)) Free State.init
    (grabs 0 ++ grabs 1 ++ concats 13 ++ grabs 0 ++ concats 3 ++
      List.replicate 3 (.grab 1 5 .fine) ++ concats 5)).map State.rounds =
    some [⟨1, some [some ⟨0, 0⟩, some ⟨1, 0⟩]⟩, ⟨2, some [some ⟨0, 1⟩, some ⟨1, 0⟩]⟩] := by decide

/-- A frame of camera 1 that is announced between the test for FAILED and the assignment of NONE is
wiped: the first round takes the second frame. -/
example : (exec (step (twoCameras fun i k => i = 0 ∨ 0 < k)) Free State.init
    (List.replicate 3 (.grab 1 1 .fine) ++ concats 4 ++ grabs 1 ++ concats 1 ++ grabs 1 ++ grabs 0 ++
      concats 8)).map (fun s => (s.announced 1, s.rounds)) =
    some ([⟨1, 1⟩, ⟨1, 2⟩], [⟨1, some [some ⟨0, 0⟩, some ⟨1, 2⟩]⟩]) := by decide

end TizerVision.Rolling.Interval
