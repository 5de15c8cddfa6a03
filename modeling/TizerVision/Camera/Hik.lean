/-
# Camera.Hik — starting the configured cameras

`HikCameraDevice::do_capture` goes through the configured serial numbers and, for each, through the
detected devices; `camera_capture` starts a device whose serial number is the configured one.  It
creates a handle, opens the device, sets its trigger, registers the callback and starts grabbing, and
returns at the first call of the SDK that fails.

What the SDK answers is an input: one return value for each call that may be made for a camera on a
device.  A call that fails changes nothing.  The state are the handles that exist, the newest first, and
the log.

* `wp_cameraCapture` — what one attempt returns and leaves behind.
* `wp_doCapture` — the same of the whole, with the attempts it gets to.
-/
import TizerVision.Theory.Attempts
import Mathlib.Data.List.Basic
import Mathlib.Data.List.Induction

namespace TizerVision.Camera

open TizerVision.Theory

set_option autoImplicit false

/-! ## The SDK -/

/-- What is used of `stUsb3VInfo` and `stGigEInfo`. -/
structure DeviceTexts where
  chUserDefinedName : String
  chModelName : String
  chSerialNumber : String

/-- `MV_CC_DEVICE_INFO`: `nTLayerType` says what `SpecialInfo` holds. -/
inductive DeviceInfo where
  | gige (info : DeviceTexts)
  | usb (info : DeviceTexts)
  | other

namespace DeviceInfo

/-- The serial number that is compared with a configured name. -/
def serialNumber : DeviceInfo → Option String
  | gige info | usb info => some info.chSerialNumber
  | other => none

/-- `strUserName` -/
def describe (i : Nat) : DeviceInfo → String
  | gige info => "GIGE Dev[" ++ toString i ++ "]:" ++ info.chUserDefinedName ++ " " ++
      info.chModelName ++ " (" ++ info.chSerialNumber ++ ")"
  | usb info => "U3V Dev[" ++ toString i ++ "]:" ++ info.chUserDefinedName ++ " " ++
      info.chModelName ++ " (" ++ info.chSerialNumber ++ ")"
  | other => ""

end DeviceInfo

/-- The calls `camera_capture` makes. -/
inductive SdkCall where
  | createHandle
  | openDevice
  | getOptimalPacketSize
  | setPacketSize
  | setTriggerMode
  | setTriggerSource
  | registerImageCallBackEx
  | startGrabbing
deriving DecidableEq, Repr

/-- `MV_OK` -/
def MV_OK : Int := 0

/-- What the SDK answers, by camera, device and call. -/
abbrev SdkAnswers := Nat → Nat → SdkCall → Int

/-- A parameter of a device that is set through its handle. -/
inductive Setting where
  | packetSize (value : Int)
  | triggerMode (on : Bool)
  | triggerSourceLine0
  | triggerSourceSoftware
deriving DecidableEq, Repr

/-- `HikCameraInfo`, as `camera_capture` makes it. -/
structure HikCameraInfo where
  name : String
  cameraId : Nat
  capturedId : Nat
deriving DecidableEq, Repr

/-- A handle on a device of the list. -/
structure Handle where
  device : Nat
  opened : Bool
  settings : List Setting
  callback : Option HikCameraInfo
  grabbing : Bool
deriving DecidableEq, Repr

/-- The device grabs images and has a callback to give them to. -/
def Handle.Delivers (h : Handle) : Prop := h.grabbing = true ∧ h.callback.isSome = true

/-- The handles and the log. -/
structure World where
  handles : List Handle
  log : List String

namespace World

/-- Through some handle the device is open. -/
def IsOpen (s : World) (i : Nat) : Prop := ∃ h ∈ s.handles, h.device = i ∧ h.opened = true

/-- Through some handle the device delivers images. -/
def Delivers (s : World) (i : Nat) : Prop := ∃ h ∈ s.handles, h.device = i ∧ h.Delivers

def push (h : Handle) (s : World) : World := { s with handles := h :: s.handles }

/-- A change of the handle just created. -/
def onNewest (change : Handle → Handle) (s : World) : World :=
  { s with handles := s.handles.modifyHead change }

def write (line : String) (s : World) : World := { s with log := s.log ++ [line] }

@[simp] theorem handles_push (h : Handle) (s : World) : (s.push h).handles = h :: s.handles := rfl

@[simp] theorem handles_onNewest (change : Handle → Handle) (s : World) :
    (s.onNewest change).handles = s.handles.modifyHead change := rfl

@[simp] theorem handles_write (line : String) (s : World) : (s.write line).handles = s.handles := rfl

end World

/-- What both functions catch. -/
inductive Exception where
  | outOfRange

abbrev Starting := EStateM Exception World

/-! ## The functions -/

structure HikCameraDevice where
  triggerMode : Bool
  cameraNames : List String
  deviceList : List DeviceInfo

namespace HikCameraDevice

variable (device : HikCameraDevice) (answers : SdkAnswers)

/-- `_camera_count` -/
def cameraCount : Nat := device.cameraNames.length

/-- The packet size, of GigE devices only; a failure is a warning. -/
def packetSettings (answer : SdkCall → Int) : Option DeviceInfo → List Setting
  | some (.gige _) =>
      if answer .getOptimalPacketSize > 0 ∧ answer .setPacketSize = MV_OK then
        [.packetSize (answer .getOptimalPacketSize)]
      else []
  | _ => []

/-- The trigger; the answer of the second call is not looked at. -/
def triggerSettings (answer : SdkCall → Int) : List Setting :=
  (if answer .setTriggerMode = MV_OK then [.triggerMode device.triggerMode] else []) ++
    if answer .setTriggerSource = MV_OK then
      [if device.triggerMode then .triggerSourceLine0 else .triggerSourceSoftware]
    else []

def cameraCapture (cameraNumInList cameraId : Nat) : Starting Bool :=
  let answer := answers cameraId cameraNumInList
  tryCatch (do
    if answer .createHandle ≠ MV_OK then pure false
    else do
      modify (World.push ⟨cameraNumInList, false, [], none, false⟩)
      if answer .openDevice ≠ MV_OK then pure false
      else do
        modify (World.onNewest fun h =>
          { h with
            opened := true
            settings := packetSettings answer device.deviceList[cameraNumInList]? ++
              device.triggerSettings answer })
        if answer .setTriggerMode ≠ MV_OK then pure false
        else
          match device.cameraNames[cameraId]? with
          | none => throw Exception.outOfRange
          | some name =>
              if answer .registerImageCallBackEx ≠ MV_OK then pure false
              else do
                modify (World.onNewest fun h => { h with callback := some ⟨name, cameraId, 0⟩ })
                if answer .startGrabbing ≠ MV_OK then pure false
                else do
                  modify (World.onNewest fun h => { h with grabbing := true })
                  pure true)
    fun _ => do
      modify (World.write "Error ,catched by camera capture.")
      pure false

/-- One turn of the loop over the devices, with `camera_num_in_list`; `none` is a `return false`. -/
def tryDevice (name : String) (j : Nat) (entry : DeviceInfo × Nat) (cameraNumInList : Int) :
    Starting (Option Int) :=
  if entry.1.serialNumber = some name then do
    modify (World.write (entry.1.describe entry.2))
    let started ← device.cameraCapture answers entry.2 j
    if started then pure (some entry.2)
    else do
      modify (World.write "Camera start fail!")
      pure none
  else pure (some cameraNumInList)

/-- One turn of the loop over the configured names. -/
def startCamera (entry : String × Nat) (_ : Unit) : Starting (Option Unit) := do
  let found ← forUntil (device.tryDevice answers entry.1 entry.2) device.deviceList.zipIdx (-1)
  match found with
  | none => pure none
  | some cameraNumInList =>
      if cameraNumInList < 0 ∨ cameraNumInList > device.cameraCount then do
        modify (World.write "Camera name setup failed , pls check config file!")
        pure none
      else pure (some ())

def doCapture : Starting Bool :=
  tryCatch (do
    let started ← forUntil (device.startCamera answers) device.cameraNames.zipIdx ()
    match started with
    | none => pure false
    | some _ => do
        modify (World.write "Camera start success!")
        pure true)
    fun _ => pure false

/-! ## One attempt -/

/-- The device of the attempt is opened. -/
def Opens (j i : Nat) : Prop :=
  answers j i .createHandle = MV_OK ∧ answers j i .openDevice = MV_OK

/-- All calls of the attempt succeed whose answers are looked at. -/
def Starts (j i : Nat) : Prop :=
  Opens answers j i ∧ answers j i .setTriggerMode = MV_OK ∧
    answers j i .registerImageCallBackEx = MV_OK ∧ answers j i .startGrabbing = MV_OK

instance (j i : Nat) : Decidable (Opens answers j i) := inferInstanceAs (Decidable (_ ∧ _))

instance (j i : Nat) : Decidable (Starts answers j i) := inferInstanceAs (Decidable (_ ∧ _))

/-- The handle of an attempt, as it is left. -/
def handleLeft (name : String) (j i : Nat) : Handle where
  device := i
  opened := answers j i .openDevice = MV_OK
  settings :=
    if answers j i .openDevice = MV_OK then
      packetSettings (answers j i) device.deviceList[i]? ++ device.triggerSettings (answers j i)
    else []
  callback :=
    if answers j i .openDevice = MV_OK ∧ answers j i .setTriggerMode = MV_OK ∧
        answers j i .registerImageCallBackEx = MV_OK then some ⟨name, j, 0⟩
    else none
  grabbing := answers j i .openDevice = MV_OK ∧ answers j i .setTriggerMode = MV_OK ∧
    answers j i .registerImageCallBackEx = MV_OK ∧ answers j i .startGrabbing = MV_OK

/-- The handles an attempt leaves behind: one, if it was created. -/
def handlesLeft (name : String) (j i : Nat) : List Handle :=
  if answers j i .createHandle = MV_OK then [device.handleLeft answers name j i] else []

section Attempt

variable {device answers} {name : String} {j : Nat}

/-- **One attempt.**  It returns whether it started the device, and never closes what it opened. -/
theorem wp_cameraCapture (configured : device.cameraNames[j]? = some name) (i : Nat) (s : World) :
    wp (device.cameraCapture answers i j) (fun started s' => started = decide (Starts answers j i) ∧
      s'.handles = device.handlesLeft answers name j i ++ s.handles) (fun _ _ => False) s := by
  simp only [cameraCapture, wp_tryCatch, wp_ite, wp_pure, wp_bind, wp_modify, configured, ne_eq, ite_not]
  by_cases created : answers j i .createHandle = MV_OK
  · by_cases opened : answers j i .openDevice = MV_OK
    · by_cases triggered : answers j i .setTriggerMode = MV_OK
      · by_cases registered : answers j i .registerImageCallBackEx = MV_OK
        · by_cases grabbing : answers j i .startGrabbing = MV_OK
          · simp [handlesLeft, handleLeft, Starts, Opens, created, opened, triggered, registered, grabbing]
          · simp [handlesLeft, handleLeft, Starts, Opens, created, opened, triggered, registered, grabbing]
        · simp [handlesLeft, handleLeft, Starts, Opens, created, opened, triggered, registered]
      · simp [handlesLeft, handleLeft, Starts, Opens, created, opened, triggered]
    · simp [handlesLeft, handleLeft, Starts, Opens, created, opened]
  · simp [handlesLeft, Starts, Opens, created]

/-- An attempt leaves handles on its device only. -/
theorem device_of_mem_handlesLeft {i : Nat} {h : Handle}
    (left : h ∈ device.handlesLeft answers name j i) : h.device = i := by
  unfold handlesLeft at left
  split at left
  · rw [List.mem_singleton.1 left]
    rfl
  · cases left

theorem exists_opened_iff {i : Nat} :
    (∃ h ∈ device.handlesLeft answers name j i, h.opened = true) ↔ Opens answers j i := by
  by_cases created : answers j i .createHandle = MV_OK
  · simp [handlesLeft, handleLeft, Opens, created]
  · simp [handlesLeft, Opens, created]

theorem exists_delivers_iff {i : Nat} :
    (∃ h ∈ device.handlesLeft answers name j i, h.Delivers) ↔ Starts answers j i := by
  by_cases created : answers j i .createHandle = MV_OK
  · simp [handlesLeft, handleLeft, Handle.Delivers, Starts, Opens, created]
    tauto
  · simp [handlesLeft, Starts, Opens, created]

end Attempt

/-! ## The loops -/

/-- The turn for this device does not end the search. -/
def DeviceOk (name : String) (j : Nat) (entry : DeviceInfo × Nat) : Prop :=
  entry.1.serialNumber = some name → Starts answers j entry.2

instance (name : String) (j : Nat) : DecidablePred (DeviceOk answers name j) :=
  fun entry => inferInstanceAs (Decidable (entry.1.serialNumber = some name → _))

/-- `camera_num_in_list` after the turn for this device. -/
def nextFound (name : String) (found : Int) (entry : DeviceInfo × Nat) : Int :=
  if entry.1.serialNumber = some name then entry.2 else found

/-- `camera_num_in_list` after the whole search. -/
def found (name : String) : Int := device.deviceList.zipIdx.foldl (nextFound name) (-1)

/-- The handles the turn for this device leaves. -/
def leftByDevice (name : String) (j : Nat) (entry : DeviceInfo × Nat) : List Handle :=
  if entry.1.serialNumber = some name then device.handlesLeft answers name j entry.2 else []

/-- The turn for this camera does not end the start. -/
def CameraOk (entry : String × Nat) : Prop :=
  (∀ e ∈ device.deviceList.zipIdx, DeviceOk answers entry.1 entry.2 e) ∧
    ¬ (device.found entry.1 < 0 ∨ device.found entry.1 > device.cameraCount)

instance : DecidablePred (device.CameraOk answers) := fun _ => inferInstanceAs (Decidable (_ ∧ _))

/-- The handles the turn for this camera leaves. -/
def leftByCamera (entry : String × Nat) : List Handle :=
  (untilFails (DeviceOk answers entry.1 entry.2) device.deviceList.zipIdx).reverse.flatMap
    (device.leftByDevice answers entry.1 entry.2)

/-- The handles `do_capture` leaves. -/
def newHandles : List Handle :=
  (untilFails (device.CameraOk answers) device.cameraNames.zipIdx).reverse.flatMap
    (device.leftByCamera answers)

section Loops

variable {device answers} {name : String} {j : Nat}

theorem wp_tryDevice (configured : device.cameraNames[j]? = some name) (entry : DeviceInfo × Nat)
    (found : Int) (s : World) :
    wp (device.tryDevice answers name j entry found) (fun r s' =>
      r = (if DeviceOk answers name j entry then some (nextFound name found entry) else none) ∧
      s'.handles = device.leftByDevice answers name j entry ++ s.handles) (fun _ _ => False) s := by
  unfold tryDevice
  by_cases same : entry.1.serialNumber = some name
  · rw [if_pos same, wp_bind, wp_modify, wp_bind]
    apply wp_imp (wp_cameraCapture configured entry.2 _)
    rintro _ s' ⟨rfl, left⟩
    by_cases started : Starts answers j entry.2
    · simp [DeviceOk, nextFound, leftByDevice, same, started, left]
    · simp [DeviceOk, leftByDevice, same, started, left]
  · rw [if_neg same]
    simp [DeviceOk, nextFound, leftByDevice, same]

theorem wp_startCamera (configured : device.cameraNames[j]? = some name) (s : World) :
    wp (device.startCamera answers (name, j) ()) (fun r s' =>
      r = (if device.CameraOk answers (name, j) then some () else none) ∧
      s'.handles = device.leftByCamera answers (name, j) ++ s.handles) (fun _ _ => False) s := by
  rw [startCamera, wp_bind]
  apply wp_imp (wp_forUntil (nextFound name)
    (fun entry _ found s => wp_tryDevice configured entry found s) (-1) s)
  rintro r s' ⟨rfl, left⟩
  by_cases all : ∀ e ∈ device.deviceList.zipIdx, DeviceOk answers name j e
  · rw [if_pos all]
    show wp (if device.found name < 0 ∨ device.found name > device.cameraCount then _ else _) _ _ _
    by_cases outside : device.found name < 0 ∨ device.found name > device.cameraCount
    · rw [if_pos outside, if_neg fun ok => ok.2 outside]
      exact ⟨rfl, left⟩
    · rw [if_neg outside, if_pos ⟨all, outside⟩]
      exact ⟨rfl, left⟩
  · rw [if_neg all, if_neg fun ok => all ok.1]
    exact ⟨rfl, left⟩

/-- **The whole start.**  It returns whether every camera was accepted, and leaves the handles of the
attempts it got to. -/
theorem wp_doCapture (s : World) :
    wp (device.doCapture answers) (fun started s' =>
      started = decide (∀ entry ∈ device.cameraNames.zipIdx, device.CameraOk answers entry) ∧
      s'.handles = device.newHandles answers ++ s.handles) (fun _ _ => False) s := by
  have turn : ∀ entry ∈ device.cameraNames.zipIdx, ∀ (u : Unit) (s : World),
      wp (device.startCamera answers entry u) (fun r s' =>
        r = (if device.CameraOk answers entry then some () else none) ∧
        s'.handles = device.leftByCamera answers entry ++ s.handles) (fun _ _ => False) s :=
    fun entry member _ s => wp_startCamera (List.mem_zipIdx_iff_getElem?.1 member) s
  rw [doCapture, wp_tryCatch, wp_bind]
  apply wp_of_returns (wp_forUntil (fun _ _ => ()) turn () s)
  rintro r s' ⟨rfl, left⟩
  by_cases all : ∀ entry ∈ device.cameraNames.zipIdx, device.CameraOk answers entry
  · rw [if_pos all, decide_eq_true all]
    exact ⟨rfl, left⟩
  · rw [if_neg all, decide_eq_false all]
    exact ⟨rfl, left⟩

end Loops

end HikCameraDevice

end TizerVision.Camera
