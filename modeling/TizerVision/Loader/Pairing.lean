/-
# Loader.Pairing — two camera callbacks, two image slots, one polling consumer

LibraryLoaderConsole hands the images of two cameras to the Halcon algorithm in pairs.  Each camera
runs `ImageCallBackEx` for its frames one after the other; the callback copies its status string
into `temp_in_0` (no lock), then stores the image in `_temp_img0` or `_temp_img1` (one assignment
under `mtx`).  The consumer `thd_call_halcon_camera_array_with_delegate` polls: under `mtx` it takes
both images when both are there and empties both slots; afterwards it calls the algorithm with the
two images and whatever `temp_in_0` holds by then.

The job number of a frame is the count of its own camera and nothing compares the two counts, so a
camera that is one frame ahead shifts every later pair (`camera_ahead_mispairs`).  The pairs agree
in every run in which no callback starts before the pair of its camera's previous frame has been
handed over (`in_step_pairs_agree`), and a callback that does start earlier can always be continued
to a pair that disagrees (`early_callback_mispairs`).
-/
import TizerVision.Theory.Run
import Mathlib.Logic.Function.Basic
import Mathlib.Data.Fin.Basic

namespace TizerVision.Loader

open TizerVision.Theory

set_option autoImplicit false

/-! ## The shared state -/

/-- `camera_id`: the two cameras of `_temp_img0` and `_temp_img1`. -/
abbrev Camera := Fin 2

/-- An image, known by the camera that took it and by its number among that camera's frames. -/
structure HImage where
  camera : Camera
  frame : Nat
deriving DecidableEq, Repr

/-- The JSON `ImageCallBackEx` formats for one frame. -/
structure Status where
  jobId : Nat
  cameraId : Camera
  msec : Nat
deriving DecidableEq, Repr

/-- `halconUtils::HImageExtraInfo`: an image with the two numbers read back from its JSON. -/
structure HImageExtraInfo where
  image : HImage
  cameraId : Camera
  jobId : Nat
deriving DecidableEq, Repr

/-- What one call of the algorithm receives: `in[0]` and the image list. -/
structure Handover where
  status : Option Status
  img0 : HImage
  img1 : HImage
deriving DecidableEq, Repr

structure State where
  /-- `HikCameraInfo::_captured_id` -/
  capturedId : Camera → Nat
  /-- `LibraryLoader::temp_in_0`; nothing has been copied into it yet when `none` -/
  tempIn0 : Option Status
  /-- the callback of a camera between its copy into `temp_in_0` and its slot assignment -/
  storing : Camera → Option HImageExtraInfo
  /-- `_temp_img0` and `_temp_img1` -/
  tempImg : Camera → Option HImageExtraInfo
  /-- `img0` and `img1` of the consumer, between the take and the call -/
  taken : Option (HImage × HImage)
  handed : List Handover

def State.init : State where
  capturedId := fun _ => 0
  tempIn0 := none
  storing := fun _ => none
  tempImg := fun _ => none
  taken := none
  handed := []

/-! ## The steps -/

/-- A callback of camera `c` has formatted the JSON with the camera's count, raised the count and
copied the JSON into `temp_in_0`. -/
def State.copied (s : State) (c : Camera) (msec : Nat) : State :=
  let json : Status := ⟨s.capturedId c, c, msec⟩
  { s with
    capturedId := Function.update s.capturedId c (s.capturedId c + 1)
    tempIn0 := some json
    storing := Function.update s.storing c
      (some ⟨⟨c, s.capturedId c⟩, json.cameraId, json.jobId⟩) }

/-- The slot assignment of a callback of camera `c`. -/
def State.stored (s : State) (c : Camera) (info : HImageExtraInfo) : State :=
  { s with
    tempImg := Function.update s.tempImg info.cameraId (some info)
    storing := Function.update s.storing c none }

/-- Both images are in the consumer's hands and both slots are `NULL`. -/
def State.tookBoth (s : State) (info0 info1 : HImageExtraInfo) : State :=
  { s with taken := some (info0.image, info1.image), tempImg := fun _ => none }

/-- The algorithm has been called with `source[0] = ll.temp_in_0` and the two images. -/
def State.called (s : State) (img0 img1 : HImage) : State :=
  { s with taken := none, handed := s.handed ++ [⟨s.tempIn0, img0, img1⟩] }

/-- `ImageCallBackEx` up to the first statement of `run_halcon_lib_with_delegate_image`.  A camera's
next callback does not start before its previous one has returned. -/
def imageCallBackEx (s : State) (c : Camera) (msec : Nat) : Option State :=
  match s.storing c with
  | some _ => none
  | none => some (s.copied c msec)

/-- The `switch (camera_id)` of `run_halcon_lib_with_delegate_image`, under `mtx`. -/
def storeImage (s : State) (c : Camera) : Option State :=
  match s.storing c with
  | none => none
  | some info => some (s.stored c info)

/-- One poll of the consumer, under `mtx`: both images or neither. -/
def takeImages (s : State) : Option State :=
  match s.taken with
  | some _ => none
  | none =>
      match s.tempImg 0, s.tempImg 1 with
      | some info0, some info1 => some (s.tookBoth info0 info1)
      | _, _ => some s

/-- `func_call_halcon(2, source, _captured_images, ...)`. -/
def callHalcon (s : State) : Option State :=
  match s.taken with
  | none => none
  | some (img0, img1) => some (s.called img0 img1)

inductive Action where
  | callback (c : Camera) (msec : Nat)
  | store (c : Camera)
  | take
  | call
deriving DecidableEq, Repr

def step (s : State) : Action → Option State
  | .callback c msec => imageCallBackEx s c msec
  | .store c => storeImage s c
  | .take => takeImages s
  | .call => callHalcon s

/-- What a step finds and what it leaves. -/
inductive Stepped (s : State) : Action → State → Prop where
  | copied {c : Camera} {msec : Nat} (idle : s.storing c = none) :
      Stepped s (.callback c msec) (s.copied c msec)
  | stored {c : Camera} {info : HImageExtraInfo} (pending : s.storing c = some info) :
      Stepped s (.store c) (s.stored c info)
  | tookBoth {info0 info1 : HImageExtraInfo} (noneTaken : s.taken = none)
      (slot0 : s.tempImg 0 = some info0) (slot1 : s.tempImg 1 = some info1) :
      Stepped s .take (s.tookBoth info0 info1)
  | tookNone : Stepped s .take s
  | called {img0 img1 : HImage} (images : s.taken = some (img0, img1)) :
      Stepped s .call (s.called img0 img1)

theorem stepped_of_step {s s' : State} {a : Action} (taken : step s a = some s') :
    Stepped s a s' := by
  cases a with
  | callback c msec =>
      simp only [step, imageCallBackEx] at taken
      split at taken <;> cases taken
      exact .copied ‹_›
  | store c =>
      simp only [step, storeImage] at taken
      split at taken <;> cases taken
      exact .stored ‹_›
  | take =>
      simp only [step, takeImages] at taken
      split at taken
      · cases taken
      · split at taken <;> cases taken
        · exact .tookBoth ‹_› ‹_› ‹_›
        · exact .tookNone
  | call =>
      simp only [step, callHalcon] at taken
      split at taken <;> cases taken
      exact .called ‹_›

/-! ## What the pairing is for -/

/-- Both images and the status string of a handover carry one job number. -/
def Handover.Agrees (h : Handover) : Prop :=
  h.img0.frame = h.img1.frame ∧ ∃ st, h.status = some st ∧ st.jobId = h.img0.frame

/-- Every pair handed over so far agrees. -/
def PairsAgree (s : State) : Prop := ∀ h ∈ s.handed, h.Agrees

/-- The image of a camera among the two of a pair. -/
def pick (c : Camera) (pair : HImage × HImage) : HImage := if c = 0 then pair.1 else pair.2

/-- A callback starts only when its camera's previous image has been taken and no taken pair is
still waiting to be handed over.  The other three steps are unconstrained. -/
def InStep (s : State) : Action → Prop
  | .callback c _ => s.tempImg c = none ∧ s.taken = none
  | _ => True

instance (s : State) : (a : Action) → Decidable (InStep s a)
  | .callback c _ => inferInstanceAs (Decidable (s.tempImg c = none ∧ s.taken = none))
  | .store _ | .take | .call => inferInstanceAs (Decidable True)

/-- The camera has started a frame whose pair has not been handed over. -/
def State.InFlight (s : State) (c : Camera) : Prop :=
  s.storing c ≠ none ∨ s.tempImg c ≠ none ∨ s.taken ≠ none

/-- The invariant of a run in step: with `k` pairs handed over, everything on its way is frame `k`
of its camera, and so is the status string once some camera has started that frame. -/
structure Aligned (s : State) : Prop where
  inFlight : ∀ c, s.InFlight c → s.capturedId c = s.handed.length + 1
  atRest : ∀ c, ¬ s.InFlight c → s.capturedId c = s.handed.length
  storing : ∀ c info, s.storing c = some info →
    info.cameraId = c ∧ info.image.frame = s.handed.length ∧ s.tempImg c = none ∧ s.taken = none
  slot : ∀ c info, s.tempImg c = some info →
    info.image.frame = s.handed.length ∧ s.taken = none
  taken : ∀ img0 img1, s.taken = some (img0, img1) →
    img0.frame = s.handed.length ∧ img1.frame = s.handed.length
  status : ∀ c, s.InFlight c → ∃ st, s.tempIn0 = some st ∧ st.jobId = s.handed.length
  agree : PairsAgree s

theorem aligned_init : Aligned State.init := by
  constructor <;> simp [State.init, State.InFlight, PairsAgree]

theorem aligned_copied {s : State} {c : Camera} {msec : Nat} (aligned : Aligned s)
    (pending : s.storing c = none) (slotEmpty : s.tempImg c = none) (noneTaken : s.taken = none) :
    Aligned (s.copied c msec) := by
  obtain ⟨inFlight, atRest, storing, slot, pair, status, agree⟩ := aligned
  have count : s.capturedId c = s.handed.length :=
    atRest c (by simp [State.InFlight, pending, slotEmpty, noneTaken])
  constructor
  · intro d flight
    by_cases same : d = c
    · subst same; simp [State.copied, count]
    · simp only [State.copied, State.InFlight, Function.update_of_ne same] at flight ⊢
      exact inFlight d flight
  · intro d rest
    by_cases same : d = c
    · subst same; simp [State.copied, State.InFlight] at rest
    · simp only [State.copied, State.InFlight, Function.update_of_ne same] at rest ⊢
      exact atRest d rest
  · intro d info stored
    by_cases same : d = c
    · subst same
      simp only [State.copied, Function.update_self, Option.some.injEq] at stored
      subst stored
      exact ⟨rfl, count, slotEmpty, noneTaken⟩
    · simp only [State.copied, Function.update_of_ne same] at stored
      exact storing d info stored
  · exact slot
  · exact pair
  · intro d _
    exact ⟨_, rfl, count⟩
  · exact agree

/-- The slot assignment moves a frame from the callback to its slot: what is in flight stays so. -/
theorem stored_inFlight {s : State} {c : Camera} {info : HImageExtraInfo}
    (pending : s.storing c = some info) (own : info.cameraId = c) (d : Camera) :
    (s.stored c info).InFlight d ↔ s.InFlight d := by
  by_cases same : d = c
  · subst same; simp [State.stored, State.InFlight, own, pending]
  · simp [State.stored, State.InFlight, own, Function.update_of_ne same]

theorem aligned_stored {s : State} {c : Camera} {info : HImageExtraInfo} (aligned : Aligned s)
    (pending : s.storing c = some info) : Aligned (s.stored c info) := by
  obtain ⟨inFlight, atRest, storing, slot, pair, status, agree⟩ := aligned
  obtain ⟨own, frame, slotEmpty, noneTaken⟩ := storing c info pending
  have flight := stored_inFlight pending own
  constructor
  · intro d moved
    exact inFlight d ((flight d).1 moved)
  · intro d rest
    exact atRest d (fun moving => rest ((flight d).2 moving))
  · intro d other stored
    by_cases same : d = c
    · subst same; simp [State.stored] at stored
    · simp only [State.stored, own, Function.update_of_ne same] at stored ⊢
      exact storing d other stored
  · intro d other held
    by_cases same : d = c
    · subst same
      simp only [State.stored, own, Function.update_self, Option.some.injEq] at held
      subst held
      exact ⟨frame, noneTaken⟩
    · simp only [State.stored, own, Function.update_of_ne same] at held
      exact slot d other held
  · exact pair
  · intro d moved
    exact status d ((flight d).1 moved)
  · exact agree

theorem aligned_tookBoth {s : State} {info0 info1 : HImageExtraInfo} (aligned : Aligned s)
    (slot0 : s.tempImg 0 = some info0) (slot1 : s.tempImg 1 = some info1) :
    Aligned (s.tookBoth info0 info1) := by
  obtain ⟨inFlight, atRest, storing, slot, pair, status, agree⟩ := aligned
  have filled : ∀ c, s.tempImg c ≠ none :=
    Fin.forall_fin_two.2 ⟨by simp [slot0], by simp [slot1]⟩
  have flight : ∀ c, s.InFlight c := fun c => .inr (.inl (filled c))
  constructor
  · intro c _
    exact inFlight c (flight c)
  · intro c rest
    simp [State.tookBoth, State.InFlight] at rest
  · intro c info stored
    exact absurd (storing c info stored).2.2.1 (filled c)
  · intro c info held
    simp [State.tookBoth] at held
  · intro img0 img1 same
    simp only [State.tookBoth, Option.some.injEq, Prod.mk.injEq] at same
    obtain ⟨rfl, rfl⟩ := same
    exact ⟨(slot 0 info0 slot0).1, (slot 1 info1 slot1).1⟩
  · intro c _
    exact status c (flight c)
  · exact agree

theorem aligned_called {s : State} {img0 img1 : HImage} (aligned : Aligned s)
    (images : s.taken = some (img0, img1)) : Aligned (s.called img0 img1) := by
  obtain ⟨inFlight, atRest, storing, slot, pair, status, agree⟩ := aligned
  obtain ⟨frame0, frame1⟩ := pair img0 img1 images
  have flight : ∀ c, s.InFlight c := fun c => .inr (.inr (by simp [images]))
  have notStoring : ∀ c, s.storing c = none := by
    intro c
    rw [Option.eq_none_iff_forall_ne_some]
    intro info stored
    simp [(storing c info stored).2.2.2] at images
  have slotsEmpty : ∀ c, s.tempImg c = none := by
    intro c
    rw [Option.eq_none_iff_forall_ne_some]
    intro info held
    simp [(slot c info held).2] at images
  have rest : ∀ c, ¬ (s.called img0 img1).InFlight c := by
    intro c
    simp [State.called, State.InFlight, notStoring, slotsEmpty]
  constructor
  · intro c moving
    exact absurd moving (rest c)
  · intro c _
    simpa [State.called] using inFlight c (flight c)
  · intro c info stored
    simp [State.called, notStoring] at stored
  · intro c info held
    simp [State.called, slotsEmpty] at held
  · intro img0 img1 same
    simp [State.called] at same
  · intro c moving
    exact absurd moving (rest c)
  · intro h member
    rcases List.mem_append.1 member with earlier | last
    · exact agree h earlier
    · obtain ⟨st, held, job⟩ := status 0 (flight 0)
      rw [List.mem_singleton.1 last]
      exact ⟨frame0.trans frame1.symm, st, held, job.trans frame0.symm⟩

theorem aligned_step (s : State) (a : Action) (s' : State) (aligned : Aligned s)
    (met : InStep s a) (taken : step s a = some s') : Aligned s' := by
  cases stepped_of_step taken with
  | copied idle => exact aligned_copied aligned idle met.1 met.2
  | stored pending => exact aligned_stored aligned pending
  | tookBoth _ slot0 slot1 => exact aligned_tookBoth aligned slot0 slot1
  | tookNone => exact aligned
  | called images => exact aligned_called aligned images

/-- **Pairs agree while the cameras stay in step.**  In every interleaving in which each callback
starts only after the pair of its camera's previous frame has been handed over, both images of
every handed pair and the status string handed with them carry one job number. -/
theorem in_step_pairs_agree (as : List Action) (s : State)
    (run : Run step InStep State.init as s) : PairsAgree s :=
  (run.invariant aligned_step aligned_init).agree

/-- Two pairs of an interleaving in step: camera 1 stores first the second time, and the consumer
polls in between. -/
def inStepActions : List Action :=
  [.callback 0 5, .callback 1 5, .store 0, .take, .store 1, .take, .call,
    .callback 1 9, .store 1, .take, .callback 0 9, .store 0, .take, .call]

theorem in_step_pairs_agree_twice : ∃ s, Run step InStep State.init inStepActions s ∧
    s.handed.length = 2 ∧ PairsAgree s := by
  obtain ⟨s, run, two⟩ := exists_run_of_exec step InStep State.init inStepActions
    (fun s => s.handed.length) (b := 2) (by decide)
  exact ⟨s, run, two, in_step_pairs_agree _ s run⟩

/-! ## A camera that runs ahead -/

/-- Camera 0 delivers its frames 0 and 1 before camera 1 delivers its frame 0. -/
def aheadActions : List Action :=
  [.callback 0 0, .store 0, .callback 0 4, .store 0, .callback 1 9, .store 1, .take, .call]

/-- The pair handed over after `aheadActions`: frame 1 of camera 0 with frame 0 of camera 1. -/
theorem camera_ahead_mispairs :
    ¬ ∀ (as : List Action) (s : State), Run step Free State.init as s → PairsAgree s := by
  intro always
  obtain ⟨s, run, pairs⟩ := exists_run_of_exec step Free State.init aheadActions State.handed
    (b := [⟨some ⟨0, 1, 9⟩, ⟨0, 1⟩, ⟨1, 0⟩⟩]) (by decide)
  have agree := always _ s run
  rw [PairsAgree, pairs] at agree
  exact absurd (agree _ (List.mem_singleton_self _)).1 (by decide)

/-- Two filled slots with different frames are taken and handed over as they are. -/
theorem mispairs_of_slots {s : State} {info0 info1 : HImageExtraInfo} (idle : s.taken = none)
    (slot0 : s.tempImg 0 = some info0) (slot1 : s.tempImg 1 = some info1)
    (differ : info0.image.frame ≠ info1.image.frame) :
    ∃ bs s', Run step Free s bs s' ∧ ¬ PairsAgree s' := by
  have taken : step s .take = some (s.tookBoth info0 info1) := by
    simp only [step, takeImages, idle, slot0, slot1]
  refine ⟨_, _, .cons trivial taken (.cons (a := .call) trivial rfl (.nil _)), ?_⟩
  intro agree
  exact differ (agree _ (List.mem_append_right _ (List.mem_singleton_self _))).1

/-- Camera `d` has not gone past frame `k`: what it has on its way to the consumer is frame `k`, and
frame `k` is its next one when it has nothing on its way. -/
structure AtFrame (s : State) (d : Camera) (k : Nat) : Prop where
  slot : ∀ info, s.tempImg d = some info → info.image.frame = k
  storing : ∀ info, s.storing d = some info → info.cameraId = d ∧ info.image.frame = k
  next : s.tempImg d = none → s.storing d = none → s.capturedId d = k

/-- A camera at frame `k` can put that frame in its slot, and the other slot stays as it is. -/
theorem fill_slot {s : State} {d : Camera} {k : Nat} (at_k : AtFrame s d k)
    (idle : s.taken = none) :
    ∃ bs s' info, Run step Free s bs s' ∧ s'.taken = none ∧ s'.tempImg d = some info ∧
      info.image.frame = k ∧ ∀ c, c ≠ d → s'.tempImg c = s.tempImg c := by
  cases slot : s.tempImg d with
  | some info => exact ⟨[], s, info, .nil s, idle, slot, at_k.slot info slot, fun _ _ => rfl⟩
  | none =>
      cases pending : s.storing d with
      | some info =>
          obtain ⟨own, frame⟩ := at_k.storing info pending
          have taken : step s (.store d) = some (s.stored d info) := by
            simp only [step, storeImage, pending]
          refine ⟨_, _, info, .cons trivial taken (.nil _), idle, ?_, frame, ?_⟩
          · simp [State.stored, own]
          · intro c other
            simp [State.stored, own, Function.update_of_ne other]
      | none =>
          have frame := at_k.next slot pending
          have copied : step s (.callback d 0) = some (s.copied d 0) := by
            simp only [step, imageCallBackEx, pending]
          have stored : step (s.copied d 0) (.store d) =
              some ((s.copied d 0).stored d ⟨⟨d, s.capturedId d⟩, d, s.capturedId d⟩) := by
            simp [step, storeImage, State.copied]
          refine ⟨_, _, ⟨⟨d, s.capturedId d⟩, d, s.capturedId d⟩,
            .cons trivial copied (.cons trivial stored (.nil _)), idle, ?_, frame, ?_⟩
          · simp [State.stored]
          · intro c other
            simp [State.stored, State.copied, Function.update_of_ne other]

theorem other_camera : ∀ c : Camera, ∃ d, d ≠ c ∧ ((c = 0 ∧ d = 1) ∨ (c = 1 ∧ d = 0)) := by
  decide

/-- A callback that starts while its camera's previous image is still in the slot: that image is
overwritten, and the other camera still delivers the frame it belonged to. -/
theorem overwriting_mispairs {s : State} {c : Camera} {msec : Nat} {held : HImageExtraInfo}
    (aligned : Aligned s) (idle : s.taken = none) (slot : s.tempImg c = some held) :
    ∃ bs s', Run step Free (s.copied c msec) bs s' ∧ ¬ PairsAgree s' := by
  have count := aligned.inFlight c (.inr (.inl (by simp [slot])))
  let info : HImageExtraInfo := ⟨⟨c, s.capturedId c⟩, c, s.capturedId c⟩
  let ahead := (s.copied c msec).stored c info
  have stored : step (s.copied c msec) (.store c) = some ahead := by
    simp [step, storeImage, State.copied, ahead, info]
  have aheadSlot : ahead.tempImg c = some info := by simp [ahead, State.stored, info]
  have frame : info.image.frame = s.handed.length + 1 := count
  obtain ⟨d, other, ends⟩ := other_camera c
  have behind : AtFrame ahead d s.handed.length := by
    constructor <;>
      simp only [ahead, info, State.stored, State.copied, Function.update_of_ne other]
    · exact fun i h => (aligned.slot d i h).1
    · exact fun i h => ⟨(aligned.storing d i h).1, (aligned.storing d i h).2.1⟩
    · exact fun h₁ h₂ => aligned.atRest d (by simp [State.InFlight, h₁, h₂, idle])
  obtain ⟨bs, s₁, info', toSlots, idle₁, slot₁, frame₁, kept⟩ := fill_slot behind idle
  have keptSlot := (kept c (Ne.symm other)).trans aheadSlot
  have finish : ∃ cs s₂, Run step Free s₁ cs s₂ ∧ ¬ PairsAgree s₂ := by
    rcases ends with ⟨rfl, rfl⟩ | ⟨rfl, rfl⟩
    · exact mispairs_of_slots idle₁ keptSlot slot₁ (by omega)
    · exact mispairs_of_slots idle₁ slot₁ keptSlot (by omega)
  obtain ⟨cs, s₂, toPair, broken⟩ := finish
  exact ⟨_, s₂, .cons trivial stored (toSlots.append toPair), broken⟩

/-- **The condition is not idle.**  In a run that has stayed in step, a callback that starts early
can be continued to a handover that disagrees. -/
theorem early_callback_mispairs {as : List Action} {s s' : State} {c : Camera} {msec : Nat}
    (run : Run step InStep State.init as s) (early : ¬ InStep s (.callback c msec))
    (taken : step s (.callback c msec) = some s') :
    ∃ bs s'', Run step Free s' bs s'' ∧ ¬ PairsAgree s'' := by
  have aligned := run.invariant aligned_step aligned_init
  cases stepped_of_step taken
  cases images : s.taken with
  | some both =>
      -- the pair is still in the consumer's hands and the next status string replaces its own
      obtain ⟨img0, img1⟩ := both
      have count := aligned.inFlight c (.inr (.inr (by simp [images])))
      have frame := (aligned.taken img0 img1 images).1
      have called : step (s.copied c msec) .call = some ((s.copied c msec).called img0 img1) := by
        simp [step, callHalcon, State.copied, images]
      refine ⟨_, _, .cons trivial called (.nil _), ?_⟩
      intro agree
      obtain ⟨-, st, status, job⟩ :=
        agree _ (List.mem_append_right _ (List.mem_singleton_self _))
      simp only [State.copied, Option.some.injEq] at status
      have ahead : st.jobId = s.handed.length + 1 := by rw [← status]; exact count
      simp [ahead, frame] at job
  | none =>
      obtain ⟨held, slot⟩ : ∃ info, s.tempImg c = some info :=
        Option.ne_none_iff_exists'.1 fun empty => early ⟨empty, images⟩
      exact overwriting_mispairs aligned images slot

end TizerVision.Loader
