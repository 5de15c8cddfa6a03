/-
# Camera.Virtual — the camera that replays image files

`VirtualCameraDevice` stands in for a camera library.  Its constructor reads the configured files into
`image_list`; in delegate mode `do_capture` hands these images to the delegate, one for each configured
camera and so on in turns, as the cameras would have.

The index of the next image is compared with the number of images between the turns only.  A turn is not
cut short, so it may go on behind the last image, and without a camera no turn comes nearer to the end.
The loop is therefore a polling loop: the clock answers once for every image, and a loop that is still
running when the answers are used up has no outcome.

* `construct_images` — the array holds the images of the files, in order.
* `replay_outcome` — with at least one camera the loop ends, after the images rounded up to whole turns
  or with an access behind the array.
* `replay_never_ends` — without a camera it does not.
* `replay_iff` — it is the replay of the images exactly when the number of cameras divides their number.
-/
import TizerVision.Theory.Hoare
import TizerVision.Theory.Polling
import Mathlib.Data.List.Infix
import Mathlib.Logic.Function.Basic

namespace TizerVision.Camera

open TizerVision.Theory

set_option autoImplicit false

/-- The text that goes to the delegate with an image. -/
def captureJson (jobId cameraId msec : Nat) : String :=
  "\x7b\"job_id\":" ++ toString jobId ++ ", \"camera_id\":" ++ toString cameraId ++ ", \"msec\":" ++
    toString msec ++ "\x7d"

/-- How a function ends that does not return: an exception, or an access behind an array, after which
nothing is known. -/
inductive Trouble where
  | exception
  | outOfArray
deriving DecidableEq, Repr

/-- What the constructor reads of the configuration. -/
structure VirtualConfig where
  imageFile : List String
  cameraName : List String
  triggerMode : String

/-- The object; `maxCount` is `MAX_VIRTUAL_CAMERA_COUNT`, the size of `image_list`, which is initialised
with eight images. -/
structure VirtualCameraDevice (Image : Type) (maxCount : Nat) where
  imageFiles : List String
  cameraTags : List String
  isDelegateCapture : Bool
  imageList : Nat → Image
  eight : 8 ≤ maxCount

/-- One call of `g_delegate_function`: its text, and the element of `image_list` it is passed. -/
structure Delivery (Image : Type) where
  json : String
  imageId : Nat
  image : Image
deriving DecidableEq

/-- How `do_capture` ends, the caller's image then, and the calls it made. -/
structure Outcome (Image : Type) where
  ending : Except Trouble Bool
  image : Image
  calls : List (Delivery Image)

/-- The variables of the replay. -/
structure Replay (Image : Type) where
  jobId : Nat
  imageId : Nat
  calls : List (Delivery Image)

/-- `ReadImage`; `none` when it raises. -/
abbrev ReadImage (Image : Type) := String → Option Image

namespace VirtualCameraDevice

variable {Image : Type} {maxCount : Nat}

/-! ## The constructor -/

/-- `_image_files.at(i)`, read; both may raise. -/
def readFile (readImage : ReadImage Image) (files : List String) (i : Nat) : Except Trouble Image :=
  match files[i]?.bind readImage with
  | some image => .ok image
  | none => .error .exception

/-- The loop of the constructor. -/
def readImages (readImage : ReadImage Image) (maxCount : Nat) (files : List String) :
    EStateM Trouble (Nat → Image) Unit :=
  loop (fun imageId _ =>
    match readFile readImage files imageId with
    | .ok image => modify fun imageList : Nat → Image => Function.update imageList imageId image
    | .error trouble => throw trouble) (min files.length maxCount) ()

def construct (readImage : ReadImage Image) (blank : Image) (eight : 8 ≤ maxCount)
    (config : VirtualConfig) : Except Trouble (VirtualCameraDevice Image maxCount) :=
  match (readImages readImage maxCount config.imageFile).run fun _ => blank with
  | .ok _ imageList => .ok
      { imageFiles := config.imageFile
        cameraTags := config.cameraName
        isDelegateCapture := decide ("true".toList <:+: config.triggerMode.toList)
        imageList := imageList
        eight := eight }
  | .error trouble _ => .error trouble

/-- The images of a constructed object are those of its files, as many as the array takes. -/
theorem construct_images {readImage : ReadImage Image} {blank : Image} {eight : 8 ≤ maxCount}
    {config : VirtualConfig} {device : VirtualCameraDevice Image maxCount}
    (constructed : construct readImage blank eight config = .ok device) {k : Nat}
    (inside : k < min device.imageFiles.length maxCount) :
    readFile readImage device.imageFiles k = .ok (device.imageList k) := by
  have read : wp (readImages readImage maxCount config.imageFile) (fun _ imageList =>
      ∀ k < min config.imageFile.length maxCount,
        readFile readImage config.imageFile k = .ok (imageList k)) (fun _ _ => True)
      (fun _ => blank) := by
    refine wp_loop (fun n (_ : Unit) (imageList : Nat → Image) =>
      ∀ k < n, readFile readImage config.imageFile k = .ok (imageList k))
      (fun k below => absurd below (Nat.not_lt_zero k)) ?_
    intro n _ imageList _ done
    cases file : readFile readImage config.imageFile n with
    | error trouble => trivial
    | ok image =>
        rw [wp_modify]
        intro k below
        by_cases same : k = n
        · rw [same, file, Function.update_self]
        · rw [Function.update_of_ne same]
          exact done k (by omega)
  unfold construct at constructed
  unfold wp at read
  split at constructed
  · rename_i ran
    rw [ran] at read
    cases constructed
    exact read k inside
  · cases constructed

/-! ## The capture -/

variable (device : VirtualCameraDevice Image maxCount)

/-- `_image_count` -/
def imageCount : Nat := device.imageFiles.length

/-- `_camera_count` -/
def cameraCount : Nat := device.cameraTags.length

/-- One turn of the loop over the cameras; `getTickCount` is what the clock answers in it. -/
def deliver (getTickCount : Nat → Nat) (i : Nat) (_ : Unit) :
    EStateM Trouble (Replay Image) Unit := do
  let s ← get
  let json := captureJson s.jobId i (getTickCount i % 100000)
  let jobId := if i + 1 = device.cameraCount then s.jobId + 1 else s.jobId
  if s.imageId < maxCount then
    modify fun s => { jobId := jobId, imageId := s.imageId + 1
                      calls := s.calls ++ [⟨json, s.imageId, device.imageList s.imageId⟩] }
  else throw .outOfArray

/-- One turn of the `while`. -/
def captureTurn (image : Image) (s : Replay Image) (getTickCount : Nat → Nat) :
    Turn (Replay Image) (Outcome Image) :=
  if s.imageId < device.imageCount ∧ s.imageId < maxCount then
    match (loop (device.deliver getTickCount) device.cameraCount ()).run s with
    | .ok _ s' => .again s'
    | .error trouble s' => .stop ⟨.error trouble, image, s'.calls⟩
  else .stop ⟨.ok true, image, s.calls⟩

/-- `do_capture`; `none` while it is running.  An `index` below zero is a large one for `at`. -/
def doCapture (readImage : ReadImage Image) (index : Int) (image : Image)
    (ticks : List (Nat → Nat)) : Option (Outcome Image) :=
  if device.imageCount < 1 then some ⟨.ok false, image, []⟩
  else if device.isDelegateCapture then poll (device.captureTurn image) ⟨0, 0, []⟩ ticks
  else
    let place : Int := if index < device.imageCount then index else device.imageCount - 1
    if place < 0 then some ⟨.error .exception, image, []⟩
    else
      match readFile readImage device.imageFiles place.toNat with
      | .ok read => some ⟨.ok true, read, []⟩
      | .error trouble => some ⟨.error trouble, image, []⟩

/-! ## What the replay is for -/

/-- The images that are there to be replayed. -/
def replayed : Nat := min device.imageCount maxCount

/-- The call for image `k`. -/
def delivery (ticks : Nat → Nat → Nat) (k : Nat) : Delivery Image :=
  let job := k / device.cameraCount
  let camera := k % device.cameraCount
  ⟨captureJson job camera (ticks job camera % 100000), k, device.imageList k⟩

/-- The calls for the images below `n`. -/
def deliveries (ticks : Nat → Nat → Nat) (n : Nat) : List (Delivery Image) :=
  (List.range n).map (device.delivery ticks)

/-- `do_capture` returns after one call for each image, in order, and with no camera after none. -/
def Replays (readImage : ReadImage Image) (index : Int) (image : Image) (ticks : Nat → Nat → Nat) :
    Prop :=
  ∃ n calls, device.doCapture readImage index image ((List.range n).map ticks) =
      some ⟨.ok true, image, calls⟩ ∧
    (1 ≤ device.cameraCount → calls = device.deliveries ticks device.replayed) ∧
    (device.cameraCount = 0 → calls = [])

@[simp] theorem length_deliveries (ticks : Nat → Nat → Nat) (n : Nat) :
    (device.deliveries ticks n).length = n := by
  simp [deliveries]

theorem deliveries_succ (ticks : Nat → Nat → Nat) (n : Nat) :
    device.deliveries ticks (n + 1) = device.deliveries ticks n ++ [device.delivery ticks n] := by
  simp [deliveries, List.range_succ]

theorem replayed_le : device.replayed ≤ maxCount := Nat.min_le_right _ _

/-- There is an image, if one is configured. -/
theorem replayed_pos (some_image : 1 ≤ device.imageCount) : 0 < device.replayed := by
  have eight := device.eight
  unfold replayed
  omega

/-! ## One turn -/

section Turn

variable {device} (ticks : Nat → Nat → Nat)

theorem wp_deliver {getTickCount : Nat → Nat} {i : Nat} {Q : Unit → Replay Image → Prop}
    {E : Trouble → Replay Image → Prop} {s : Replay Image} :
    wp (device.deliver getTickCount i ()) Q E s ↔
      if s.imageId < maxCount then
        Q () ⟨if i + 1 = device.cameraCount then s.jobId + 1 else s.jobId, s.imageId + 1,
          s.calls ++ [⟨captureJson s.jobId i (getTickCount i % 100000), s.imageId,
            device.imageList s.imageId⟩]⟩
      else E .outOfArray s := by
  simp only [deliver, wp_bind, wp_get, wp_ite, wp_modify, wp_throw]

/-- Whatever it delivers, a turn takes as many images as there are cameras. -/
theorem wp_turn_counts (device : VirtualCameraDevice Image maxCount) (getTickCount : Nat → Nat)
    (s : Replay Image) :
    wp (loop (device.deliver getTickCount) device.cameraCount ()) (fun _ s' =>
      s'.imageId = s.imageId + device.cameraCount ∧
      s'.calls.length = s.calls.length + device.cameraCount) (fun _ _ => True) s := by
  refine wp_loop (fun i (_ : Unit) (s' : Replay Image) => s'.imageId = s.imageId + i ∧
    s'.calls.length = s.calls.length + i) ⟨rfl, rfl⟩ ?_
  rintro i _ s' - ⟨image, calls⟩
  rw [wp_deliver]
  split
  · refine ⟨?_, ?_⟩
    · show s'.imageId + 1 = _
      omega
    · rw [List.length_append, List.length_singleton]
      omega
  · trivial

/-- The state in turn `q` after `i` cameras; after the last the job is the next. -/
def during (device : VirtualCameraDevice Image maxCount) (ticks : Nat → Nat → Nat) (q i : Nat) :
    Replay Image :=
  ⟨if i = device.cameraCount then q + 1 else q, q * device.cameraCount + i,
    device.deliveries ticks (q * device.cameraCount + i)⟩

/-- The end of a turn is the beginning of the next. -/
theorem during_end (some_camera : 1 ≤ device.cameraCount) (q : Nat) :
    device.during ticks q device.cameraCount = device.during ticks (q + 1) 0 := by
  rw [during, during, if_pos rfl, if_neg (by omega), Nat.succ_mul]
  rfl

/-- Turn `q` ends, or it is stopped at the end of the array. -/
theorem wp_turn {q : Nat} (some_camera : 1 ≤ device.cameraCount)
    (inside : q * device.cameraCount ≤ maxCount) :
    wp (loop (device.deliver (ticks q)) device.cameraCount ())
      (fun _ s' => s' = device.during ticks (q + 1) 0 ∧ (q + 1) * device.cameraCount ≤ maxCount)
      (fun trouble s' => trouble = .outOfArray ∧ s'.calls = device.deliveries ticks maxCount ∧
        maxCount < (q + 1) * device.cameraCount) (device.during ticks q 0) := by
  rw [← during_end ticks some_camera, Nat.succ_mul]
  refine wp_loop (fun i (_ : Unit) (s' : Replay Image) => s' = device.during ticks q i ∧
    q * device.cameraCount + i ≤ maxCount) ⟨rfl, inside⟩ ?_
  rintro i _ s' below ⟨rfl, reached⟩
  have job : (q * device.cameraCount + i) / device.cameraCount = q := by
    rw [Nat.mul_comm, Nat.mul_add_div some_camera, Nat.div_eq_of_lt below, Nat.add_zero]
  have camera : (q * device.cameraCount + i) % device.cameraCount = i := by
    rw [Nat.mul_comm, Nat.mul_add_mod, Nat.mod_eq_of_lt below]
  rw [wp_deliver, during, if_neg (show ¬ i = device.cameraCount by omega)]
  split
  · rename_i room
    refine ⟨?_, room⟩
    rw [during, ← Nat.add_assoc, deliveries_succ, delivery, job, camera]
  · rename_i full
    have last : q * device.cameraCount + i = maxCount := by
      have above : maxCount ≤ q * device.cameraCount + i := Nat.not_lt.1 full
      omega
    exact ⟨rfl, congrArg (device.deliveries ticks) last, by omega⟩

end Turn

/-! ## The whole replay -/

/-- The images rounded up to whole turns. -/
def roundedUp : Nat :=
  (device.replayed + device.cameraCount - 1) / device.cameraCount * device.cameraCount

theorem roundedUp_eq {q : Nat} (some_camera : 1 ≤ device.cameraCount)
    (enough : device.replayed ≤ q * device.cameraCount)
    (no_more : q * device.cameraCount < device.replayed + device.cameraCount) :
    device.roundedUp = q * device.cameraCount := by
  have turns : (device.replayed + device.cameraCount - 1) / device.cameraCount = q := by
    apply Nat.div_eq_of_lt_le
    · omega
    · rw [Nat.succ_mul]
      omega
  rw [roundedUp, turns]

/-- The outcome of the replay with at least one camera. -/
def outcome (image : Image) (ticks : Nat → Nat → Nat) : Outcome Image :=
  if device.roundedUp ≤ maxCount then ⟨.ok true, image, device.deliveries ticks device.roundedUp⟩
  else ⟨.error .outOfArray, image, device.deliveries ticks maxCount⟩

variable {device} (image : Image) (ticks : Nat → Nat → Nat)

theorem lt_replayed_iff {k : Nat} : k < device.imageCount ∧ k < maxCount ↔ k < device.replayed :=
  Nat.lt_min.symm

/-- The rule for a turn of the `while`. -/
theorem meets_captureTurn_of_wp {getTickCount : Nat → Nat} {s : Replay Image}
    {I : Replay Image → Prop} {Q : Outcome Image → Prop}
    (turn : s.imageId < device.replayed →
      wp (loop (device.deliver getTickCount) device.cameraCount ()) (fun _ => I)
        (fun trouble s' => Q ⟨.error trouble, image, s'.calls⟩) s)
    (stop : device.replayed ≤ s.imageId → Q ⟨.ok true, image, s.calls⟩) :
    (device.captureTurn image s getTickCount).Meets I Q := by
  rw [captureTurn]
  simp only [lt_replayed_iff]
  split
  · rename_i more
    have ends := turn more
    unfold wp at ends
    cases ran : (loop (device.deliver getTickCount) device.cameraCount ()).run s with
    | ok _ s' =>
        rw [ran] at ends
        exact ends
    | error trouble s' =>
        rw [ran] at ends
        exact ends
  · rename_i done
    exact stop (Nat.not_lt.1 done)

/-- A turn of the `while` in the state it is in after `q` turns. -/
theorem meets_captureTurn (some_camera : 1 ≤ device.cameraCount) {q : Nat}
    (inside : q * device.cameraCount ≤ maxCount)
    (no_more : q * device.cameraCount < device.replayed + device.cameraCount) :
    (device.captureTurn image (device.during ticks q 0) (ticks q)).Meets
      (fun s' => s' = device.during ticks (q + 1) 0 ∧ (q + 1) * device.cameraCount ≤ maxCount ∧
        q * device.cameraCount < device.replayed)
      (fun r => r = device.outcome image ticks) := by
  have place : (device.during ticks q 0).imageId = q * device.cameraCount := rfl
  apply meets_captureTurn_of_wp
  · intro more
    apply wp_mono (wp_turn ticks some_camera inside)
    · rintro _ s' ⟨next, room⟩
      exact ⟨next, room, more⟩
    · rintro trouble s' ⟨rfl, calls, behind⟩
      have size := device.replayed_le
      have rounded : device.roundedUp = (q + 1) * device.cameraCount := by
        apply device.roundedUp_eq some_camera
        · omega
        · rw [Nat.succ_mul]
          omega
      rw [outcome, if_neg (by omega), calls]
  · intro done
    have rounded := device.roundedUp_eq some_camera done no_more
    rw [outcome, if_pos (by omega), rounded]
    rfl

section Delegate

variable (delegated : device.isDelegateCapture = true) (some_image : 1 ≤ device.imageCount)
  (readImage : ReadImage Image) (index : Int)

include delegated some_image

theorem doCapture_delegate (answers : List (Nat → Nat)) :
    device.doCapture readImage index image answers =
      poll (device.captureTurn image) ⟨0, 0, []⟩ answers := by
  rw [doCapture, if_neg (by omega), if_pos delegated]

/-- **With a camera the replay ends**: after the images rounded up to whole turns, or with an access
behind the array. -/
theorem replay_outcome (some_camera : 1 ≤ device.cameraCount) :
    ∃ n, device.doCapture readImage index image ((List.range n).map ticks) =
      some (device.outcome image ticks) := by
  have start : device.during ticks 0 0 = ⟨0, 0, []⟩ := by
    rw [during, if_neg (by omega), Nat.zero_mul]
    rfl
  have ends : ∃ r, Stops (device.captureTurn image) (device.during ticks 0 0)
      (fun k => ticks (0 + k)) r ∧ r = device.outcome image ticks := by
    refine exists_stops (I := fun q s => s = device.during ticks q 0 ∧
      q * device.cameraCount ≤ maxCount ∧
      q * device.cameraCount < device.replayed + device.cameraCount)
      (fun s => device.replayed - s.imageId) ?_ ⟨rfl, by omega, by omega⟩
    rintro q s ⟨rfl, inside, no_more⟩
    apply (meets_captureTurn image ticks some_camera inside no_more).imp
    rintro s' ⟨rfl, room, more⟩
    have now : (device.during ticks q 0).imageId = q * device.cameraCount := rfl
    have next : (device.during ticks (q + 1) 0).imageId =
        q * device.cameraCount + device.cameraCount := Nat.succ_mul _ _
    refine ⟨⟨rfl, room, ?_⟩, ?_⟩
    · rw [Nat.succ_mul]
      omega
    · rw [next, now]
      omega
  obtain ⟨r, ⟨n, stops⟩, rfl⟩ := ends
  refine ⟨n, ?_⟩
  rw [doCapture_delegate image delegated some_image, ← start]
  simpa only [Nat.zero_add] using stops

/-- A replay that returns has made whole turns, and has not returned before the last image. -/
theorem calls_of_returned {answers : List (Nat → Nat)} {r : Outcome Image}
    (result : device.doCapture readImage index image answers = some r) (returned : r.ending = .ok true) :
    device.cameraCount ∣ r.calls.length ∧ device.replayed ≤ r.calls.length := by
  rw [doCapture_delegate image delegated some_image] at result
  refine poll_invariant (I := fun s => device.cameraCount ∣ s.imageId ∧ s.calls.length = s.imageId)
    (Q := fun r => r.ending = .ok true →
      device.cameraCount ∣ r.calls.length ∧ device.replayed ≤ r.calls.length) ?_
    ⟨Nat.dvd_zero _, rfl⟩ result returned
  rintro s getTickCount ⟨whole, counted⟩
  apply meets_captureTurn_of_wp
  · intro _
    apply wp_mono (wp_turn_counts device getTickCount s)
    · rintro _ s' ⟨image, calls⟩
      exact ⟨image ▸ Nat.dvd_add whole (Nat.dvd_refl _), by omega⟩
    · rintro trouble s' - ⟨⟩
  · intro done _
    exact ⟨counted.symm ▸ whole, counted.symm ▸ done⟩

/-- **Without a camera the replay does not end.** -/
theorem replay_never_ends (no_camera : device.cameraCount = 0) (answers : List (Nat → Nat)) :
    device.doCapture readImage index image answers = none := by
  rw [doCapture_delegate image delegated some_image]
  cases result : poll (device.captureTurn image) ⟨0, 0, []⟩ answers with
  | none => rfl
  | some r =>
      exfalso
      refine poll_invariant (I := fun s => s.imageId = 0) (Q := fun _ => False) ?_ rfl result
      intro s getTickCount first
      have more := lt_replayed_iff.2 (device.replayed_pos some_image)
      rw [captureTurn, first, if_pos more, no_camera]
      exact first

/-- What a replay needs. -/
theorem dvd_of_replays (replays : device.Replays readImage index image ticks) :
    device.cameraCount ∣ device.replayed := by
  obtain ⟨n, calls, result, shown, -⟩ := replays
  by_cases some_camera : 1 ≤ device.cameraCount
  · have whole := (calls_of_returned image delegated some_image readImage index result rfl).1
    rwa [shown some_camera, length_deliveries] at whole
  · have never := replay_never_ends image delegated some_image readImage index
      (by omega : device.cameraCount = 0) ((List.range n).map ticks)
    rw [never] at result
    cases result

/-- **The replay of the images.**  In delegate mode, with at least one image: `do_capture` returns after
one call for each image, in order, with the job and the camera of its place and the element of
`image_list` there, exactly when the number of cameras divides the number of images in the array. -/
theorem replay_iff :
    device.Replays readImage index image ticks ↔
      device.cameraCount ∣ min device.imageCount maxCount := by
  refine ⟨dvd_of_replays image ticks delegated some_image readImage index, fun whole => ?_⟩
  have some_camera : 1 ≤ device.cameraCount :=
    Nat.pos_of_dvd_of_pos whole (device.replayed_pos some_image)
  obtain ⟨q, turns⟩ := whole
  have size : device.replayed = q * device.cameraCount := turns.trans (Nat.mul_comm _ _)
  have rounded : device.roundedUp = device.replayed := by
    rw [device.roundedUp_eq some_camera size.le (by omega), size]
  obtain ⟨n, result⟩ := replay_outcome image ticks delegated some_image readImage index some_camera
  refine ⟨n, _, ?_, fun _ => rfl, fun none => absurd none (by omega)⟩
  rw [result, outcome, rounded, if_pos device.replayed_le]

end Delegate

/-- A device with these numbers of images and cameras; image `k` is the number `k`. -/
def sample (images cameras : Nat) : VirtualCameraDevice Nat 8 where
  imageFiles := List.replicate images "image"
  cameraTags := List.replicate cameras "camera"
  isDelegateCapture := true
  imageList := id
  eight := Nat.le_refl 8

/-- Four images for two cameras. -/
theorem replay_two_jobs : (sample 4 2).Replays (fun _ => none) 0 0 fun _ _ => 0 :=
  (replay_iff 0 (fun _ _ => 0) rfl (by decide) (fun _ => none) 0).2 (by decide)

/-- With three images for two cameras the delegate is called a fourth time, with an element that holds
no image; without a camera nothing ends. -/
theorem replay_overruns :
    (∃ ticks, ((sample 3 2).doCapture (fun _ => none) 0 0 ticks).map (fun r => r.calls.map
      Delivery.imageId) = some [0, 1, 2, 3]) ∧
    ¬ ((sample 3 2).Replays (fun _ => none) 0 0 fun _ _ => 0) ∧
    ¬ (sample 3 0).Replays (fun _ => none) 0 0 fun _ _ => 0 := by
  refine ⟨⟨List.replicate 3 fun _ => 0, rfl⟩, fun replays => ?_, fun replays => ?_⟩
  · exact absurd (dvd_of_replays _ _ rfl (by decide) _ _ replays) (by decide)
  · exact absurd (dvd_of_replays _ _ rfl (by decide) _ _ replays) (by decide)

/-- Eight images for three cameras: the ninth call would be for an element behind the array. -/
example : ((sample 8 3).doCapture (fun _ => none) 0 0 (List.replicate 3 fun _ => 0)).map
    (fun r => r.ending.toOption) = some none := by
  decide

end VirtualCameraDevice

end TizerVision.Camera
