/-
# Camera.Frames — the frames of cameras that were started

The SDK calls `ImageCallBackEx` for the frames of all handles that grab, in any order.  Each handle has a
`HikCameraInfo` of its own, with the camera it is for and the number of its next frame; the callback puts
both into the text for the delegate.  `g_msec` is declared nowhere in the repository; its value is an input.

* `run_numbers_frames` — in every order of the frames, those of one handle are numbered one after another.
* `started_camera_numbers_frames` — after a start that succeeded every configured camera has a handle, on
  the device with its serial number, whose frames are numbered from 0 under its own index.
* `loader_runs_on_started_cameras` — the loader with its two cameras (`Loader.Pairing`) starts with the
  counts at 0 and raises one of them with each callback; the handles of two cameras that were started do
  the same, with the same texts.
-/
import TizerVision.Camera.Start
import TizerVision.Camera.Virtual
import TizerVision.Loader.Pairing

namespace TizerVision.Camera

open TizerVision.Theory

set_option autoImplicit false

/-- A frame: the place of its handle, whether `pFrameInfo` is passed, and `g_msec` then. -/
structure Frame where
  handle : Nat
  hasInfo : Bool
  msec : Nat
deriving DecidableEq, Repr

/-- The handles, and the texts handed to the delegate with the handle each came from, the latest last. -/
structure Capturing where
  handles : List Handle
  delivered : List (Nat × String)

/-- The next frame of a handle has the next number. -/
def Handle.count (h : Handle) (info : HikCameraInfo) : Handle :=
  { h with callback := some { info with capturedId := info.capturedId + 1 } }

/-- `ImageCallBackEx`, which is called for handles that grab with it. -/
def imageCallBackEx (s : Capturing) (frame : Frame) : Option Capturing :=
  match s.handles[frame.handle]? with
  | none => none
  | some h =>
      match h.callback with
      | none => none
      | some info =>
          if h.grabbing then
            if frame.hasInfo then
              some ⟨s.handles.set frame.handle (h.count info),
                s.delivered ++
                  [(frame.handle, captureJson info.capturedId info.cameraId frame.msec)]⟩
            else some s
          else none

/-- The texts that came from a handle. -/
def Capturing.textsOf (s : Capturing) (k : Nat) : List String :=
  (s.delivered.filter fun d => d.1 = k).map Prod.snd

/-- The frames of a handle that reach the delegate. -/
def framesOf (k : Nat) (frames : List Frame) : List Frame :=
  frames.filter fun frame => frame.handle = k ∧ frame.hasInfo = true

/-- The texts for these frames, numbered from the count of the camera on. -/
def numbered (info : HikCameraInfo) (frames : List Frame) : List String :=
  frames.zipIdx.map fun f => captureJson (info.capturedId + f.2) info.cameraId f.1.msec

theorem numbered_append_singleton (info : HikCameraInfo) (frames : List Frame) (frame : Frame) :
    numbered info (frames ++ [frame]) = numbered info frames ++
      [captureJson (info.capturedId + frames.length) info.cameraId frame.msec] := by
  simp [numbered, List.zipIdx_append]

/-- What a callback can do: nothing, or one delivery with the number of the handle. -/
theorem imageCallBackEx_cases {s s' : Capturing} {frame : Frame}
    (taken : imageCallBackEx s frame = some s') :
    frame.hasInfo = false ∧ s' = s ∨
      ∃ h info, frame.hasInfo = true ∧ s.handles[frame.handle]? = some h ∧ h.callback = some info ∧
        s' = ⟨s.handles.set frame.handle (h.count info), s.delivered ++
          [(frame.handle, captureJson info.capturedId info.cameraId frame.msec)]⟩ := by
  unfold imageCallBackEx at taken
  split at taken
  · cases taken
  · rename_i h place
    split at taken
    · cases taken
    · rename_i info registered
      split at taken
      · split at taken
        · rename_i passed
          exact .inr ⟨h, info, passed, place, registered, (Option.some.inj taken).symm⟩
        · rename_i missing
          exact .inl ⟨Bool.not_eq_true _ ▸ missing, (Option.some.inj taken).symm⟩
      · cases taken

/-- What is known of handle `k` after these frames. -/
def Numbers (k : Nat) (info : HikCameraInfo) (past : List Frame) (s : Capturing) : Prop :=
  (∃ h, s.handles[k]? = some h ∧
    h.callback = some { info with capturedId := info.capturedId + (framesOf k past).length }) ∧
  s.textsOf k = numbered info (framesOf k past)

theorem Numbers.step {k : Nat} {info : HikCameraInfo} {past : List Frame} {s s' : Capturing}
    {frame : Frame} (numbers : Numbers k info past s) (taken : imageCallBackEx s frame = some s') :
    Numbers k info (past ++ [frame]) s' := by
  obtain ⟨⟨h, place, registered⟩, texts⟩ := numbers
  have frames : framesOf k (past ++ [frame]) = framesOf k past ++ framesOf k [frame] :=
    List.filter_append past [frame]
  rcases imageCallBackEx_cases taken with
    ⟨missing, rfl⟩ | ⟨h', info', passed, place', registered', rfl⟩
  · have none : framesOf k [frame] = [] := by simp [framesOf, missing]
    rw [Numbers, frames, none, List.append_nil]
    exact ⟨⟨h, place, registered⟩, texts⟩
  · by_cases here : frame.handle = k
    · subst here
      obtain rfl : h' = h := Option.some.inj (place'.symm.trans place)
      obtain rfl := Option.some.inj (registered'.symm.trans registered)
      have one : framesOf frame.handle [frame] = [frame] := by simp [framesOf, passed]
      have inside : frame.handle < s.handles.length := (List.getElem?_eq_some_iff.1 place).1
      rw [Numbers, frames, one, numbered_append_singleton, ← texts]
      refine ⟨⟨_, List.getElem?_set_self inside, ?_⟩, ?_⟩
      · simp [Handle.count, Nat.add_assoc]
      · simp [Capturing.textsOf]
    · have none : framesOf k [frame] = [] := by simp [framesOf, here]
      rw [Numbers, frames, none, List.append_nil, ← texts]
      refine ⟨⟨h, ?_, registered⟩, ?_⟩
      · rw [List.getElem?_set_ne here, place]
      · simp [Capturing.textsOf, here]

/-- **The frames of one handle are numbered one after another**, whatever the other handles deliver in
between. -/
theorem run_numbers_frames {s s' : Capturing} {frames : List Frame}
    (run : Run imageCallBackEx Free s frames s') (fresh : s.delivered = []) {k : Nat} {h : Handle}
    {info : HikCameraInfo} (place : s.handles[k]? = some h) (registered : h.callback = some info) :
    s'.textsOf k = numbered info (framesOf k frames) := by
  have start : Numbers k info [] s := by
    refine ⟨⟨h, place, registered⟩, ?_⟩
    rw [Capturing.textsOf, fresh]
    rfl
  have ends := run.invariant_trace (fun _ _ _ _ numbers _ taken => numbers.step taken) start
  exact ends.2

/-- **After a start that succeeded** each configured camera has a handle on the device with its serial
number; in every order in which frames come, those of the handle go to the delegate under the index of the
camera, numbered from 0. -/
theorem started_camera_numbers_frames {device : HikCameraDevice} {answers : SdkAnswers}
    (different : (device.deviceList.filterMap DeviceInfo.serialNumber).Nodup) {s s' : World}
    (returned : (device.doCapture answers).run s = .ok true s') {j : Nat} {name : String}
    (configured : device.cameraNames[j]? = some name) :
    ∃ k h, s'.handles[k]? = some h ∧ device.Serves (name, j) h ∧
      ∀ frames t, Run imageCallBackEx Free ⟨s'.handles, []⟩ frames t →
        t.textsOf k = numbered ⟨name, j, 0⟩ (framesOf k frames) := by
  obtain ⟨accepted, left⟩ := (HikCameraDevice.wp_accepts s).of_ok returned
  obtain ⟨handles, new, serves⟩ :=
    HikCameraDevice.newHandles_of_accepted different (accepted.1 rfl)
  have entry : device.cameraNames.zipIdx[j]? = some (name, j) := by
    rw [List.getElem?_zipIdx, configured]
    simp
  obtain ⟨below, this_camera⟩ := List.getElem?_eq_some_iff.1 entry
  have started := serves.get below (serves.length_eq ▸ below)
  rw [List.get_eq_getElem, this_camera] at started
  have member : handles.get ⟨j, serves.length_eq ▸ below⟩ ∈ s'.handles := by
    rw [left, new]
    exact List.mem_append_left _ (List.mem_reverse.2 (List.get_mem _ _))
  obtain ⟨k, place⟩ := List.mem_iff_getElem?.1 member
  exact ⟨k, _, place, started, fun frames t run => run_numbers_frames run rfl place started.camera⟩

/-- A camera with two frames and, between them, a call without `pFrameInfo`. -/
example : (exec imageCallBackEx Free ⟨[⟨0, true, [], some ⟨"K1", 0, 0⟩, true⟩], []⟩
    [⟨0, true, 7⟩, ⟨0, false, 8⟩, ⟨0, true, 9⟩]).map (·.textsOf 0) =
      some [captureJson 0 0 7, captureJson 1 0 9] := by
  decide

/-! ## The cameras of the loader -/

/-- The JSON as the delegate gets it. -/
def statusText (json : Loader.Status) : String := captureJson json.jobId json.cameraId json.msec

/-- The frame a callback of the loader is for, if the action is one. -/
def frameOf (place : Loader.Camera → Nat) : Loader.Action → Option Frame
  | .callback c msec => some ⟨place c, true, msec⟩
  | .store _ | .take | .call => none

/-- The handle at `place c` is that of camera `c`, with its count; the text delivered last is in
`temp_in_0`. -/
structure Represents (place : Loader.Camera → Nat) (t : Capturing) (s : Loader.State) : Prop where
  handle : ∀ c, ∃ h name, t.handles[place c]? = some h ∧ h.grabbing = true ∧
    h.callback = some ⟨name, c, s.capturedId c⟩
  status : s.tempIn0.map statusText = t.delivered.getLast?.map Prod.snd

section Loading

variable {place : Loader.Camera → Nat} {t : Capturing} {s s' : Loader.State}

/-- A handle has one callback, so two cameras have two handles. -/
theorem Represents.place_injective (represents : Represents place t s) :
    Function.Injective place := by
  intro c d same
  obtain ⟨h, name, at_c, -, camera_c⟩ := represents.handle c
  obtain ⟨h', name', at_d, -, camera_d⟩ := represents.handle d
  rw [same, at_d] at at_c
  obtain rfl := Option.some.inj at_c
  rw [camera_d] at camera_c
  exact Fin.val_injective (congrArg HikCameraInfo.cameraId (Option.some.inj camera_c)).symm

/-- A callback of the loader is one of the handle. -/
theorem Represents.callback (represents : Represents place t s) (c : Loader.Camera) (msec : Nat) :
    ∃ t', imageCallBackEx t ⟨place c, true, msec⟩ = some t' ∧
      Represents place t' (s.copied c msec) := by
  obtain ⟨h, name, place_c, grabbing, camera⟩ := represents.handle c
  have inside : place c < t.handles.length := (List.getElem?_eq_some_iff.1 place_c).1
  refine ⟨⟨t.handles.set (place c) (h.count ⟨name, c, s.capturedId c⟩),
    t.delivered ++ [(place c, captureJson (s.capturedId c) c msec)]⟩, ?_, ?_, ?_⟩
  · simp [imageCallBackEx, place_c, grabbing, camera]
  · intro d
    by_cases same : d = c
    · subst same
      exact ⟨_, name, List.getElem?_set_self inside, grabbing, by
        simp [Handle.count, Loader.State.copied]⟩
    · obtain ⟨h', name', place_d, grabbing', camera'⟩ := represents.handle d
      refine ⟨h', name', ?_, grabbing', ?_⟩
      · rw [List.getElem?_set_ne fun equal => same (represents.place_injective equal).symm, place_d]
      · have count : (s.copied c msec).capturedId d = s.capturedId d := Function.update_of_ne same _ _
        rw [camera', count]
  · simp [Loader.State.copied, statusText]

/-- The callbacks of a run of the loader are frames of the handles. -/
theorem Represents.run {ok : Loader.State → Loader.Action → Prop} {as : List Loader.Action}
    (run : Run Loader.step ok s as s') (represents : Represents place t s) :
    ∃ t', Run imageCallBackEx Free t (as.filterMap (frameOf place)) t' ∧ Represents place t' s' := by
  induction run generalizing t with
  | nil s => exact ⟨t, .nil t, represents⟩
  | cons _ taken _ ih =>
      -- only callbacks touch the counts and the status
      cases Loader.stepped_of_step taken with
      | @copied c msec _ =>
          obtain ⟨t₁, delivered, represents₁⟩ := represents.callback c msec
          obtain ⟨t', rest, represents'⟩ := ih represents₁
          exact ⟨t', .cons trivial delivered rest, represents'⟩
      | stored | tookBoth | tookNone | called => exact ih ⟨represents.handle, represents.status⟩

end Loading

/-- **The loader runs on cameras that were started.**  After a start of two cameras that succeeded, the
callbacks of every run of the loader are frames of two handles, on the devices with the configured serial
numbers, in the order of the run; the handles have counted what the loader has counted, and `temp_in_0`
holds the text that was delivered last. -/
theorem loader_runs_on_started_cameras {device : HikCameraDevice} {answers : SdkAnswers}
    (different : (device.deviceList.filterMap DeviceInfo.serialNumber).Nodup) {w w' : World}
    (returned : (device.doCapture answers).run w = .ok true w') {name : Loader.Camera → String}
    (configured : ∀ c, device.cameraNames[c.val]? = some (name c)) :
    ∃ place : Loader.Camera → Nat,
      (∀ c, ∃ h, w'.handles[place c]? = some h ∧ device.Serves (name c, c) h) ∧
      ∀ as s, Run Loader.step Free Loader.State.init as s →
        ∃ t, Run imageCallBackEx Free ⟨w'.handles, []⟩ (as.filterMap (frameOf place)) t ∧
          Represents place t s := by
  choose place h at_place serves _ using
    fun c => started_camera_numbers_frames different returned (configured c)
  refine ⟨place, fun c => ⟨h c, at_place c, serves c⟩, fun as s run => ?_⟩
  have start : Represents place ⟨w'.handles, []⟩ Loader.State.init :=
    ⟨fun c => ⟨h c, name c, at_place c, (serves c).delivers.1, (serves c).camera⟩, rfl⟩
  exact start.run run

end TizerVision.Camera
