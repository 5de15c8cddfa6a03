/-
# Camera.Start — which cameras are started, and what a failed start leaves

A configured name is accepted if some device has it as its serial number, all devices that have it
start, and the last of them stands at most as far back in the list as there are names.  The last
condition is what the code makes of an index that was found: it is compared with the number of names,
not of devices.

* `wp_accepts` — `do_capture` returns whether every name is accepted.
* `mem_newHandles_iff` — it leaves the handles of the matches before which every name was accepted and
  every match started, and closes none of them.
* `matching_iff` — with an SDK that never fails, the answer is whether every name has a device, exactly
  when no device of a name stands too far back; then each name has its one device.
* `undone_iff` — when a start that failed leaves no device open that was not open before.
-/
import TizerVision.Camera.Hik
import Mathlib.Data.List.Forall2
import Mathlib.Data.List.Nodup
import Mathlib.Data.Nat.Find

namespace TizerVision.Camera.HikCameraDevice

open TizerVision.Theory

set_option autoImplicit false

variable (device : HikCameraDevice) (answers : SdkAnswers)

/-- The device at `i` has the `j`-th configured name as its serial number. -/
def Matches (j i : Nat) : Prop :=
  ∃ name, device.cameraNames[j]? = some name ∧
    device.deviceList[i]?.bind DeviceInfo.serialNumber = some name

/-- The `j`-th configured name is accepted. -/
structure Accepted (j : Nat) : Prop where
  found : ∃ i, device.Matches j i
  start : ∀ i, device.Matches j i → Starts answers j i
  near : ∀ i, device.Matches j i → i ≤ device.cameraCount

/-- The device at `i` is tried for the `j`-th name. -/
structure Reached (j i : Nat) : Prop where
  matched : device.Matches j i
  cameras : ∀ k < j, device.Accepted answers k
  devices : ∀ k < i, device.Matches j k → Starts answers j k

section Translation

variable {device answers} {name : String} {j : Nat}

theorem ordered_zipIdx {α : Type} (l : List α) : l.zipIdx.Pairwise fun p q => p.2 < q.2 := by
  have indices : (l.zipIdx.map Prod.snd).Pairwise (· < ·) := by
    rw [List.zipIdx_map_snd]
    exact List.pairwise_lt_range' 1
  exact List.pairwise_map.1 indices

/-- Entries of the device list, by their place. -/
theorem matches_iff (configured : device.cameraNames[j]? = some name) {i : Nat} :
    device.Matches j i ↔ ∃ info, (info, i) ∈ device.deviceList.zipIdx ∧
      info.serialNumber = some name := by
  constructor
  · rintro ⟨other, named, serial⟩
    obtain rfl : other = name := Option.some.inj (named.symm.trans configured)
    obtain ⟨info, place, same⟩ := Option.bind_eq_some_iff.1 serial
    exact ⟨info, List.mk_mem_zipIdx_iff_getElem?.2 place, same⟩
  · rintro ⟨info, place, same⟩
    refine ⟨name, configured, ?_⟩
    rw [List.mk_mem_zipIdx_iff_getElem?.1 place]
    exact same

/-- The index that is found is that of the last match. -/
theorem foldl_nextFound (name : String) {l : List (DeviceInfo × Nat)}
    (ordered : l.Pairwise fun p q => p.2 < q.2) :
    (l.foldl (nextFound name) (-1) = -1 ∧ ∀ e ∈ l, e.1.serialNumber ≠ some name) ∨
      ∃ e ∈ l, e.1.serialNumber = some name ∧ l.foldl (nextFound name) (-1) = e.2 ∧
        ∀ e' ∈ l, e'.1.serialNumber = some name → e'.2 ≤ e.2 := by
  induction l using List.reverseRecOn with
  | nil => exact .inl ⟨rfl, fun e member => absurd member List.not_mem_nil⟩
  | append_singleton l last ih =>
      obtain ⟨front, -, behind⟩ := List.pairwise_append.1 ordered
      rw [List.foldl_append, List.foldl_cons, List.foldl_nil]
      by_cases same : last.1.serialNumber = some name
      · refine .inr ⟨last, by simp, same, if_pos same, fun e member _ => ?_⟩
        rcases List.mem_append.1 member with earlier | final
        · exact Nat.le_of_lt (behind e earlier last (List.mem_singleton_self last))
        · exact Nat.le_of_eq (congrArg Prod.snd (List.mem_singleton.1 final))
      · rw [nextFound, if_neg same]
        rcases ih front with ⟨none, others⟩ | ⟨e, member, matched, value, greatest⟩
        · refine .inl ⟨none, fun e member => ?_⟩
          rcases List.mem_append.1 member with earlier | final
          · exact others e earlier
          · rwa [List.mem_singleton.1 final]
        · refine .inr ⟨e, List.mem_append_left _ member, matched, value, fun e' member' match' => ?_⟩
          rcases List.mem_append.1 member' with earlier | final
          · exact greatest e' earlier match'
          · rw [List.mem_singleton.1 final] at match'
            exact absurd match' same

/-- The check of the index that was found. -/
theorem found_in_range_iff (configured : device.cameraNames[j]? = some name) :
    ¬ (device.found name < 0 ∨ device.found name > device.cameraCount) ↔
      (∃ i, device.Matches j i) ∧ ∀ i, device.Matches j i → i ≤ device.cameraCount := by
  simp only [matches_iff configured]
  rcases foldl_nextFound name (ordered_zipIdx device.deviceList) with
    ⟨none, others⟩ | ⟨⟨info, i⟩, member, matched, value, greatest⟩
  · have missing : device.found name = -1 := none
    rw [missing]
    refine iff_of_false (fun inside => inside (.inl (by omega))) ?_
    rintro ⟨⟨i, info, member, same⟩, -⟩
    exact others _ member same
  · have place : device.found name = i := value
    rw [place]
    constructor
    · intro inside
      refine ⟨⟨i, info, member, matched⟩, ?_⟩
      rintro k ⟨info', member', match'⟩
      have below : k ≤ i := greatest _ member' match'
      omega
    · rintro ⟨-, near⟩
      have below := near i ⟨info, member, matched⟩
      omega

theorem cameraOk_iff (configured : device.cameraNames[j]? = some name) :
    device.CameraOk answers (name, j) ↔ device.Accepted answers j := by
  have devices : (∀ e ∈ device.deviceList.zipIdx, DeviceOk answers name j e) ↔
      ∀ i, device.Matches j i → Starts answers j i := by
    simp only [matches_iff configured]
    constructor
    · rintro all i ⟨info, member, same⟩
      exact all _ member same
    · rintro all ⟨info, i⟩ member same
      exact all i ⟨info, member, same⟩
  rw [CameraOk, devices, found_in_range_iff configured]
  constructor
  · rintro ⟨start, found, near⟩
    exact ⟨found, start, near⟩
  · rintro ⟨found, start, near⟩
    exact ⟨start, found, near⟩

/-- The first `n` configured names are accepted. -/
theorem forall_cameraOk_below_iff {n : Nat} (inside : n ≤ device.cameraCount) :
    (∀ entry ∈ device.cameraNames.zipIdx, entry.2 < n → device.CameraOk answers entry) ↔
      ∀ j < n, device.Accepted answers j := by
  constructor
  · intro all j below
    have one : j < device.cameraNames.length := Nat.lt_of_lt_of_le below inside
    have configured := List.getElem?_eq_getElem one
    exact (cameraOk_iff configured).1
      (all _ (List.mk_mem_zipIdx_iff_getElem?.2 configured) below)
  · rintro all ⟨name, j⟩ member below
    exact (cameraOk_iff (List.mk_mem_zipIdx_iff_getElem?.1 member)).2 (all j below)

theorem lt_cameraCount (configured : device.cameraNames[j]? = some name) : j < device.cameraCount :=
  (List.getElem?_eq_some_iff.1 configured).1

/-- Every configured name is accepted. -/
theorem forall_cameraOk_iff :
    (∀ entry ∈ device.cameraNames.zipIdx, device.CameraOk answers entry) ↔
      ∀ j < device.cameraCount, device.Accepted answers j := by
  rw [← forall_cameraOk_below_iff (Nat.le_refl _)]
  refine forall₂_congr fun entry member => ?_
  have below : entry.2 < device.cameraCount :=
    lt_cameraCount (List.mk_mem_zipIdx_iff_getElem?.1 member)
  exact ⟨fun ok _ => ok, fun ok => ok below⟩

/-- The devices that are tried for a name. -/
theorem mem_leftByCamera_iff (configured : device.cameraNames[j]? = some name) {h : Handle} :
    h ∈ device.leftByCamera answers (name, j) ↔
      ∃ i, device.Matches j i ∧ (∀ k < i, device.Matches j k → Starts answers j k) ∧
        h ∈ device.handlesLeft answers name j i := by
  have reached : ∀ info i, (info, i) ∈ untilFails (DeviceOk answers name j) device.deviceList.zipIdx ↔
      (info, i) ∈ device.deviceList.zipIdx ∧
        ∀ k < i, device.Matches j k → Starts answers j k := by
    intro info i
    rw [mem_untilFails_iff (fun _ _ => Nat.lt_asymm) (ordered_zipIdx device.deviceList)]
    simp only [matches_iff configured]
    refine and_congr_right fun _ => ⟨?_, ?_⟩
    · rintro earlier k below ⟨info', member, same⟩
      exact earlier _ member below same
    · rintro earlier ⟨info', k⟩ member below same
      exact earlier k below ⟨info', member, same⟩
  simp only [leftByCamera, List.mem_flatMap, List.mem_reverse]
  constructor
  · rintro ⟨⟨info, i⟩, tried, left⟩
    obtain ⟨member, earlier⟩ := (reached info i).1 tried
    unfold leftByDevice at left
    split at left
    · rename_i same
      exact ⟨i, (matches_iff configured).2 ⟨info, member, same⟩, earlier, left⟩
    · cases left
  · rintro ⟨i, matched, earlier, left⟩
    obtain ⟨info, member, same⟩ := (matches_iff configured).1 matched
    refine ⟨(info, i), (reached info i).2 ⟨member, earlier⟩, ?_⟩
    rw [leftByDevice, if_pos same]
    exact left

/-- **What is left behind**: the handles of the attempts that are reached. -/
theorem mem_newHandles_iff {h : Handle} :
    h ∈ device.newHandles answers ↔
      ∃ name j i, device.cameraNames[j]? = some name ∧ device.Reached answers j i ∧
        h ∈ device.handlesLeft answers name j i := by
  have reached : ∀ name j, device.cameraNames[j]? = some name →
      ((name, j) ∈ untilFails (device.CameraOk answers) device.cameraNames.zipIdx ↔
        ∀ k < j, device.Accepted answers k) := by
    intro name j configured
    have member : (name, j) ∈ device.cameraNames.zipIdx :=
      List.mk_mem_zipIdx_iff_getElem?.2 configured
    rw [mem_untilFails_iff (fun _ _ => Nat.lt_asymm) (ordered_zipIdx device.cameraNames),
      forall_cameraOk_below_iff (Nat.le_of_lt (lt_cameraCount configured))]
    exact and_iff_right member
  simp only [newHandles, List.mem_flatMap, List.mem_reverse]
  constructor
  · rintro ⟨⟨name, j⟩, tried, left⟩
    have configured : device.cameraNames[j]? = some name := by
      have member := ((mem_untilFails_iff (fun _ _ => Nat.lt_asymm)
        (ordered_zipIdx device.cameraNames)).1 tried).1
      exact List.mk_mem_zipIdx_iff_getElem?.1 member
    obtain ⟨i, matched, earlier, left⟩ := (mem_leftByCamera_iff configured).1 left
    exact ⟨name, j, i, configured, ⟨matched, (reached name j configured).1 tried, earlier⟩, left⟩
  · rintro ⟨name, j, i, configured, attempt, left⟩
    refine ⟨(name, j), (reached name j configured).2 attempt.cameras, ?_⟩
    exact (mem_leftByCamera_iff configured).2 ⟨i, attempt.matched, attempt.devices, left⟩

/-- `do_capture` returns whether every name is accepted, and closes nothing. -/
theorem wp_accepts (s : World) :
    wp (device.doCapture answers) (fun started s' =>
      (started = true ↔ ∀ j < device.cameraCount, device.Accepted answers j) ∧
      s'.handles = device.newHandles answers ++ s.handles) (fun _ _ => False) s := by
  apply wp_imp (wp_doCapture s)
  rintro _ s' ⟨rfl, left⟩
  exact ⟨by rw [decide_eq_true_iff, forall_cameraOk_iff], left⟩

end Translation

/-- A USB device with this serial number. -/
def usbDevice (serial : String) : DeviceInfo := .usb ⟨"", "camera", serial⟩

/-- An SDK that fails in one call only, if at all. -/
def failingIn (failed : Option SdkCall) : SdkAnswers := fun _ _ call =>
  if failed = some call then -1 else if call = .getOptimalPacketSize then 1500 else MV_OK

/-! ## Cameras and devices -/

/-- Every configured name is the serial number of a device. -/
def AllFound : Prop :=
  ∀ name ∈ device.cameraNames, ∃ info ∈ device.deviceList, info.serialNumber = some name

/-- The handle delivers the images of the device with this serial number, as this camera. -/
structure Serves (entry : String × Nat) (h : Handle) : Prop where
  delivers : h.Delivers
  camera : h.callback = some ⟨entry.1, entry.2, 0⟩
  serial : device.deviceList[h.device]?.bind DeviceInfo.serialNumber = some entry.1

/-- `do_capture` returns whether every name is found, and if so it has started one device for each name,
in order. -/
def MatchesCameras (s : World) : Prop :=
  wp (device.doCapture answers) (fun started s' =>
    (started = true ↔ device.AllFound) ∧
    (started = true → ∃ handles, s'.handles = handles.reverse ++ s.handles ∧
      List.Forall₂ device.Serves device.cameraNames.zipIdx handles)) (fun _ _ => False) s

/-- Every call of the SDK succeeds. -/
def Succeeds : Prop :=
  ∀ j i call, if call = .getOptimalPacketSize then answers j i call > 0 else answers j i call = MV_OK

section Matching

variable {device answers} {name : String} {j : Nat}

theorem starts_of_succeeds (succeeds : Succeeds answers) (j i : Nat) : Starts answers j i :=
  ⟨⟨succeeds j i .createHandle, succeeds j i .openDevice⟩, succeeds j i .setTriggerMode,
    succeeds j i .registerImageCallBackEx, succeeds j i .startGrabbing⟩

theorem allFound_iff : device.AllFound ↔ ∀ j < device.cameraCount, ∃ i, device.Matches j i := by
  constructor
  · intro all j below
    have configured : device.cameraNames[j]? = some device.cameraNames[j] :=
      List.getElem?_eq_getElem below
    obtain ⟨info, member, same⟩ := all _ (List.getElem_mem below)
    obtain ⟨i, place⟩ := List.mem_iff_getElem?.1 member
    exact ⟨i, (matches_iff configured).2 ⟨info, List.mk_mem_zipIdx_iff_getElem?.2 place, same⟩⟩
  · intro all name member
    obtain ⟨j, configured⟩ := List.mem_iff_getElem?.1 member
    obtain ⟨i, matched⟩ := all j (lt_cameraCount configured)
    obtain ⟨info, place, same⟩ := (matches_iff configured).1 matched
    exact ⟨info, List.mem_of_getElem? (List.mk_mem_zipIdx_iff_getElem?.1 place), same⟩

/-- With an SDK that never fails, a name is accepted if it is found not too far back. -/
theorem forall_accepted_iff (succeeds : Succeeds answers) :
    (∀ j < device.cameraCount, device.Accepted answers j) ↔
      device.AllFound ∧ ∀ j i, device.Matches j i → i ≤ device.cameraCount := by
  rw [allFound_iff]
  constructor
  · intro all
    refine ⟨fun j below => (all j below).found, fun j i matched => ?_⟩
    have ⟨name, configured, _⟩ := matched
    exact (all j (lt_cameraCount configured)).near i matched
  · rintro ⟨found, near⟩ j below
    exact ⟨found j below, fun i _ => starts_of_succeeds succeeds j i, near j⟩

/-- Among devices with different serial numbers, at most one has the name. -/
theorem filter_matching_eq {l : List (DeviceInfo × Nat)}
    (different : l.Pairwise fun p q => ∀ a, p.1.serialNumber = some a →
      ∀ b, q.1.serialNumber = some b → a ≠ b)
    {entry : DeviceInfo × Nat} (member : entry ∈ l) (same : entry.1.serialNumber = some name) :
    (l.filter fun e => e.1.serialNumber = some name) = [entry] := by
  have kept : entry ∈ l.filter fun e => e.1.serialNumber = some name :=
    List.mem_filter.2 ⟨member, decide_eq_true same⟩
  have named : ∀ e ∈ l.filter (fun e => e.1.serialNumber = some name),
      e.1.serialNumber = some name := fun e inside => of_decide_eq_true (List.mem_filter.1 inside).2
  have apart := different.filter fun e => decide (e.1.serialNumber = some name)
  generalize (l.filter fun e => e.1.serialNumber = some name) = matching at kept named apart
  match matching with
  | [] => cases kept
  | [_] => rw [List.mem_singleton.1 kept]
  | first :: second :: rest =>
      have clash := (List.pairwise_cons.1 apart).1 second List.mem_cons_self name
        (named first List.mem_cons_self) name
        (named second (List.mem_cons_of_mem _ List.mem_cons_self))
      exact absurd rfl clash

theorem different_zipIdx (different : (device.deviceList.filterMap DeviceInfo.serialNumber).Nodup) :
    device.deviceList.zipIdx.Pairwise fun p q => ∀ a, p.1.serialNumber = some a →
      ∀ b, q.1.serialNumber = some b → a ≠ b := by
  have devices := List.pairwise_filterMap.1 different
  rw [← List.zipIdx_map_fst 0 device.deviceList] at devices
  exact List.pairwise_map.1 devices

/-- Only devices that match leave handles. -/
theorem flatMap_leftByDevice (l : List (DeviceInfo × Nat)) :
    l.flatMap (device.leftByDevice answers name j) =
      (l.filter fun e => e.1.serialNumber = some name).flatMap fun e =>
        device.handlesLeft answers name j e.2 := by
  induction l with
  | nil => rfl
  | cons e l ih =>
      rw [List.flatMap_cons, ih, leftByDevice]
      by_cases same : e.1.serialNumber = some name
      · rw [if_pos same, List.filter_cons_of_pos (by simpa using same), List.flatMap_cons]
      · rw [if_neg same, List.filter_cons_of_neg (by simpa using same), List.nil_append]

/-- An attempt that starts leaves one handle, which delivers. -/
theorem handlesLeft_of_starts (device : HikCameraDevice) (name : String) {i : Nat}
    (starts : Starts answers j i) :
    ∃ h, device.handlesLeft answers name j i = [h] ∧ h.device = i ∧ h.Delivers ∧
      h.callback = some ⟨name, j, 0⟩ := by
  obtain ⟨⟨created, opened⟩, triggered, registered, grabbing⟩ := starts
  refine ⟨device.handleLeft answers name j i, if_pos created, rfl, ?_, ?_⟩
  · simp [Handle.Delivers, handleLeft, opened, triggered, registered, grabbing]
  · exact if_pos ⟨opened, triggered, registered⟩

/-- For a name that is accepted, one device is started. -/
theorem exists_serves (different : (device.deviceList.filterMap DeviceInfo.serialNumber).Nodup)
    (configured : device.cameraNames[j]? = some name) (accepted : device.Accepted answers j) :
    ∃ h, device.leftByCamera answers (name, j) = [h] ∧ device.Serves (name, j) h := by
  obtain ⟨i, matched⟩ := accepted.found
  obtain ⟨info, member, same⟩ := (matches_iff configured).1 matched
  obtain ⟨h, left, place, delivers, camera⟩ :=
    handlesLeft_of_starts device name (accepted.start i matched)
  have all : ∀ e ∈ device.deviceList.zipIdx, DeviceOk answers name j e :=
    ((cameraOk_iff configured).2 accepted).1
  refine ⟨h, ?_, delivers, camera, ?_⟩
  · rw [leftByCamera, untilFails_eq_self all, flatMap_leftByDevice, List.filter_reverse,
      filter_matching_eq (different_zipIdx different) member same, List.reverse_singleton,
      List.flatMap_singleton, left]
  · rw [place, List.mk_mem_zipIdx_iff_getElem?.1 member]
    exact same

/-- One entry for each element, in order. -/
theorem exists_forall₂_of_singletons {α γ : Type} {f : α → List γ} {R : α → γ → Prop} {l : List α}
    (single : ∀ a ∈ l, ∃ c, f a = [c] ∧ R a c) :
    ∃ cs, l.reverse.flatMap f = cs.reverse ∧ List.Forall₂ R l cs := by
  induction l with
  | nil => exact ⟨[], rfl, .nil⟩
  | cons a l ih =>
      obtain ⟨c, value, related⟩ := single a List.mem_cons_self
      obtain ⟨cs, rest, all⟩ := ih fun a' member => single a' (List.mem_cons_of_mem a member)
      refine ⟨c :: cs, ?_, .cons related all⟩
      rw [List.reverse_cons, List.flatMap_append, rest, List.flatMap_singleton, value,
        List.reverse_cons]

/-- If every name is accepted, each has its one device. -/
theorem newHandles_of_accepted
    (different : (device.deviceList.filterMap DeviceInfo.serialNumber).Nodup)
    (accepted : ∀ j < device.cameraCount, device.Accepted answers j) :
    ∃ handles, device.newHandles answers = handles.reverse ∧
      List.Forall₂ device.Serves device.cameraNames.zipIdx handles := by
  rw [newHandles, untilFails_eq_self (forall_cameraOk_iff.2 accepted)]
  apply exists_forall₂_of_singletons
  rintro ⟨name, j⟩ member
  have configured := List.mk_mem_zipIdx_iff_getElem?.1 member
  exact exists_serves different configured (accepted j (lt_cameraCount configured))

/-- **Cameras and devices.**  With an SDK that never fails and devices with different serial numbers,
`do_capture` returns whether every configured name is a serial number, and then has started the one device
of each name as the camera of its index, exactly when, if every name is found, no device of a name stands
behind the place with the number of the names. -/
theorem matching_iff (succeeds : Succeeds answers)
    (different : (device.deviceList.filterMap DeviceInfo.serialNumber).Nodup) (s : World) :
    device.MatchesCameras answers s ↔
      (device.AllFound → ∀ j i, device.Matches j i → i ≤ device.cameraCount) := by
  apply wp_iff_of_ends
  apply wp_mono (wp_accepts s)
  · rintro started s' ⟨accepted, left⟩
    have answer := accepted.trans (forall_accepted_iff succeeds)
    constructor
    · rintro ⟨right, -⟩ found
      exact (answer.1 (right.2 found)).2
    · intro near
      refine ⟨⟨fun returned => (answer.1 returned).1, fun found => answer.2 ⟨found, near found⟩⟩, ?_⟩
      intro returned
      obtain ⟨handles, new, serves⟩ := newHandles_of_accepted different (accepted.1 returned)
      exact ⟨handles, new ▸ left, serves⟩
  · exact fun _ _ raised => raised.elim

theorem succeeds_failingIn_none : Succeeds (failingIn none) := by
  intro j i call
  cases call with
  | getOptimalPacketSize => exact show (1500 : Int) > 0 by decide
  | _ => rfl

/-- Two cameras, found in the reverse order. -/
theorem matching_two :
    MatchesCameras ⟨true, ["K1", "K2"], [usbDevice "K2", usbDevice "K1"]⟩ (failingIn none) ⟨[], []⟩ := by
  refine (matching_iff succeeds_failingIn_none (by decide) ⟨[], []⟩).2 fun _ j i matched => ?_
  obtain ⟨name, -, serial⟩ := matched
  obtain ⟨info, place, -⟩ := Option.bind_eq_some_iff.1 serial
  obtain ⟨below, -⟩ := List.getElem?_eq_some_iff.1 place
  exact Nat.le_of_lt below

/-- The one configured camera is the third device: it is found, and even started, but refused. -/
theorem third_device_refused :
    AllFound ⟨true, ["K3"], [usbDevice "K1", usbDevice "K2", usbDevice "K3"]⟩ ∧
    ¬ MatchesCameras ⟨true, ["K3"], [usbDevice "K1", usbDevice "K2", usbDevice "K3"]⟩ (failingIn none)
      ⟨[], []⟩ := by
  have found : AllFound ⟨true, ["K3"], [usbDevice "K1", usbDevice "K2", usbDevice "K3"]⟩ := by
    intro name member
    obtain rfl := List.mem_singleton.1 member
    exact ⟨usbDevice "K3", by simp, rfl⟩
  refine ⟨found, fun claimed => ?_⟩
  have refused : (doCapture ⟨true, ["K3"], [usbDevice "K1", usbDevice "K2", usbDevice "K3"]⟩
      (failingIn none)).run ⟨[], []⟩ = .ok false ⟨[⟨2, true, [.triggerMode true, .triggerSourceLine0],
        some ⟨"K3", 0, 0⟩, true⟩], ["U3V Dev[2]: camera (K3)",
        "Camera name setup failed , pls check config file!"]⟩ := by
    rfl
  exact Bool.noConfusion ((claimed.of_ok refused).1.2 found)

end Matching

/-! ## A start that failed -/

/-- If `do_capture` returns false, no device is open, and none grabs with a callback, that was not so
before. -/
def UndoneOnFailure (s : World) : Prop :=
  wp (device.doCapture answers) (fun started s' => started = false →
    ∀ i, (s'.IsOpen i → s.IsOpen i) ∧ (s'.Delivers i → s.Delivers i)) (fun _ _ => False) s

section Undone

variable {device answers}

/-- A kind of handles on a device after the call: those before it, and those of the attempts. -/
theorem exists_handle_iff {s s' : World} (left : s'.handles = device.newHandles answers ++ s.handles)
    {kind : Handle → Prop} {leaves : Nat → Nat → Prop}
    (kept : ∀ name j i, (∃ h ∈ device.handlesLeft answers name j i, kind h) ↔ leaves j i) (i : Nat) :
    (∃ h ∈ s'.handles, h.device = i ∧ kind h) ↔
      (∃ h ∈ s.handles, h.device = i ∧ kind h) ∨ ∃ j, device.Reached answers j i ∧ leaves j i := by
  rw [left]
  constructor
  · rintro ⟨h, member, place, good⟩
    rcases List.mem_append.1 member with new | old
    · obtain ⟨name, j, i', -, reached, attempt⟩ := mem_newHandles_iff.1 new
      obtain rfl : i' = i := (device_of_mem_handlesLeft attempt).symm.trans place
      exact .inr ⟨j, reached, (kept name j i').1 ⟨h, attempt, good⟩⟩
    · exact .inl ⟨h, old, place, good⟩
  · rintro (⟨h, old, place, good⟩ | ⟨j, reached, leaves⟩)
    · exact ⟨h, List.mem_append_right _ old, place, good⟩
    · obtain ⟨name, configured, -⟩ := reached.matched
      obtain ⟨h, attempt, good⟩ := (kept name j i).2 leaves
      refine ⟨h, List.mem_append_left _ ?_, device_of_mem_handlesLeft attempt, good⟩
      exact mem_newHandles_iff.2 ⟨name, j, i, configured, reached, attempt⟩

/-- **What a failed start leaves.**  No device is left open or delivering that was not so before, exactly
when every configured name is accepted, so that the start does not fail, or each device that is tried was
open before if it can be opened, and was delivering before if it can be started. -/
theorem undone_iff (s : World) :
    device.UndoneOnFailure answers s ↔
      (∀ j < device.cameraCount, device.Accepted answers j) ∨
      ∀ j i, device.Reached answers j i →
        (Opens answers j i → s.IsOpen i) ∧ (Starts answers j i → s.Delivers i) := by
  apply wp_iff_of_ends
  apply wp_mono (wp_accepts s)
  · rintro started s' ⟨accepted, left⟩
    have opened : ∀ i, s'.IsOpen i ↔ s.IsOpen i ∨ ∃ j, device.Reached answers j i ∧ Opens answers j i :=
      exists_handle_iff left fun _ _ _ => exists_opened_iff
    have delivers : ∀ i, s'.Delivers i ↔
        s.Delivers i ∨ ∃ j, device.Reached answers j i ∧ Starts answers j i :=
      exists_handle_iff left fun _ _ _ => exists_delivers_iff
    simp only [opened, delivers]
    cases started with
    | true => exact iff_of_true (fun failed => Bool.noConfusion failed) (.inl (accepted.1 rfl))
    | false =>
        have refused : ¬ ∀ j < device.cameraCount, device.Accepted answers j :=
          fun all => Bool.noConfusion (accepted.2 all)
        constructor
        · intro undone
          refine .inr fun j i reached => ⟨fun opens => ?_, fun starts => ?_⟩
          · exact (undone rfl i).1 (.inr ⟨j, reached, opens⟩)
          · exact (undone rfl i).2 (.inr ⟨j, reached, starts⟩)
        · rintro (all | before) _ i
          · exact absurd all refused
          · refine ⟨?_, ?_⟩
            · rintro (old | ⟨j, reached, opens⟩)
              · exact old
              · exact (before j i reached).1 opens
            · rintro (old | ⟨j, reached, starts⟩)
              · exact old
              · exact (before j i reached).2 starts
  · exact fun _ _ raised => raised.elim

/-- With one camera whose grabbing does not start, the device is left open, with its callback. -/
theorem failed_start_leaves_open :
    ¬ UndoneOnFailure ⟨true, ["K1"], [usbDevice "K1"]⟩ (failingIn (some .startGrabbing)) ⟨[], []⟩ := by
  intro claimed
  have failed : (doCapture ⟨true, ["K1"], [usbDevice "K1"]⟩ (failingIn (some .startGrabbing))).run
      ⟨[], []⟩ = .ok false ⟨[⟨0, true, [.triggerMode true, .triggerSourceLine0], some ⟨"K1", 0, 0⟩,
        false⟩], ["U3V Dev[0]: camera (K1)", "Camera start fail!"]⟩ := by
    rfl
  obtain ⟨h, member, -⟩ := (claimed.of_ok failed rfl 0).1 ⟨_, List.mem_singleton_self _, rfl, rfl⟩
  cases member

/-- The first device of a name is tried for it, if it is the first name. -/
theorem reached_first {i : Nat} (matched : device.Matches 0 i) (first : ∀ k < i, ¬ device.Matches 0 k) :
    device.Reached answers 0 i :=
  ⟨matched, fun k below => absurd below (Nat.not_lt_zero k),
    fun k below other => absurd other (first k below)⟩

/-- A device is only tried after the first device of the first name was opened, unless it is that one. -/
theorem Reached.opens_first {j i : Nat} (reached : device.Reached answers j i) :
    ∃ k, device.Matches 0 k ∧ (∀ l < k, ¬ device.Matches 0 l) ∧
      (j = 0 ∧ i = k ∨ Opens answers 0 k) := by
  have some_match : ∃ k, device.Matches 0 k := by
    cases j with
    | zero => exact ⟨i, reached.matched⟩
    | succ j => exact (reached.cameras 0 (Nat.succ_pos j)).found
  classical
  refine ⟨Nat.find some_match, Nat.find_spec some_match, fun l => Nat.find_min some_match, ?_⟩
  cases j with
  | zero =>
      rcases Nat.lt_or_eq_of_le (Nat.find_min' some_match reached.matched) with earlier | same
      · exact .inr (reached.devices _ earlier (Nat.find_spec some_match)).1
      · exact .inl ⟨rfl, same.symm⟩
  | succ j => exact .inr ((reached.cameras 0 (Nat.succ_pos j)).start _ (Nat.find_spec some_match)).1

/-- **From closed devices** the condition is one on the first device of the first name: it cannot be
opened. -/
theorem reached_closed_iff {s : World} (closed : ∀ i, ¬ s.IsOpen i ∧ ¬ s.Delivers i) :
    (∀ j i, device.Reached answers j i →
      (Opens answers j i → s.IsOpen i) ∧ (Starts answers j i → s.Delivers i)) ↔
      ∀ i, device.Matches 0 i → (∀ k < i, ¬ device.Matches 0 k) → ¬ Opens answers 0 i := by
  constructor
  · intro before i matched first opens
    exact (closed i).1 ((before 0 i (reached_first matched first)).1 opens)
  · intro refused j i reached
    obtain ⟨k, matched, first, here | opens⟩ := reached.opens_first
    · obtain ⟨rfl, rfl⟩ := here
      exact ⟨fun opens => absurd opens (refused i matched first),
        fun starts => absurd starts.1 (refused i matched first)⟩
    · exact absurd opens (refused k matched first)

end Undone

end TizerVision.Camera.HikCameraDevice
