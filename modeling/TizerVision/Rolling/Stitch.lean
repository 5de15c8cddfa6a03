/-
# Rolling.Stitch — when a stitched image shows one trigger

`ImageConcatProc` stitches as soon as every slot says SUCCESSED.  Nothing ties a SUCCESSED to a
trigger: after a failed grab only the failed slots are taken back, so that the frame of another camera
waits for a partner from a later trigger (`stale_frame_stitched`).

Every stitched image shows one trigger, all of whose grabs succeeded, in every run in which a camera
stores and announces a frame only while the other announced frames are of the same trigger, and
announces a failure only while `ImageConcatProc` is not between its test of that slot and the copying
(`in_turn_one_trigger`).
-/
import TizerVision.Rolling.Machine

namespace TizerVision.Rolling

open TizerVision.Theory

set_option autoImplicit false

/-! ## The property -/

/-- The frames are of one trigger, and in that trigger no grab failed. -/
def OneTrigger (cfg : Config) (frames : List (Option Frame)) : Prop :=
  ∃ t, (∀ f ∈ frames, ∃ c, f = some ⟨c, t⟩) ∧ ∀ i < cfg.cameraNum, cfg.grabSucceeds i t = true

def StitchedFromOneTrigger (cfg : Config) (s : State) : Prop :=
  ∀ frames ∈ s.stitched, OneTrigger cfg frames

/-! ## The condition -/

/-- `ImageConcatProc` has tested slot `i` in its present round and has not copied all images yet. -/
def ConcatPc.holds (i : Nat) : ConcatPc → Bool
  | .testFailed k => i < k
  | .testNone k => i ≤ k
  | .stamp => true
  | .copy _ => true
  | _ => false

/-- Every other announced frame is of the trigger camera `i` is dealing with. -/
def OthersOfTrigger (cfg : Config) (s : State) (i : Nat) : Prop :=
  ∀ j < cfg.cameraNum, j ≠ i → s.grabResults j = .successed →
    (s.images j).map Frame.trigger = some (s.done i)

instance (cfg : Config) (s : State) (i : Nat) : Decidable (OthersOfTrigger cfg s i) :=
  inferInstanceAs (Decidable (∀ j < cfg.cameraNum, _))

/-- The condition on a step: a camera stores and announces a frame only while the other announced
frames are of the same trigger, and announces a failure only while its slot is not held. -/
def InTurn (cfg : Config) (s : State) : Action → Prop
  | .grab i =>
      if s.stored i = true ∨ cfg.grabSucceeds i (s.done i) = true then OthersOfTrigger cfg s i
      else s.concat.holds i = false
  | .concat _ _ => True
  | .poll => True

instance (cfg : Config) (s : State) : (a : Action) → Decidable (InTurn cfg s a)
  | .grab i => inferInstanceAs (Decidable
      (if s.stored i = true ∨ cfg.grabSucceeds i (s.done i) = true then OthersOfTrigger cfg s i
        else s.concat.holds i = false))
  | .concat _ _ => inferInstanceAs (Decidable True)
  | .poll => inferInstanceAs (Decidable True)

/-! ## The invariant -/

/-- Announced frames are frames of their cameras, and of one trigger. -/
structure Announced (cfg : Config) (s : State) : Prop where
  stored_frame : ∀ i, s.stored i = true →
    s.images i = some ⟨i, s.done i⟩ ∧ cfg.grabSucceeds i (s.done i) = true
  successed_frame : ∀ i < cfg.cameraNum, s.grabResults i = .successed →
    ∃ t, s.images i = some ⟨i, t⟩ ∧ cfg.grabSucceeds i t = true
  agree : ∀ i < cfg.cameraNum, ∀ j < cfg.cameraNum, s.grabResults i = .successed →
    s.grabResults j = .successed → (s.images i).map Frame.trigger = (s.images j).map Frame.trigger
  one_trigger : StitchedFromOneTrigger cfg s

/-- What `ImageConcatProc` relies on: the slots it has passed are still SUCCESSED, and what it has
copied is still there. -/
def Scanned (cfg : Config) (s : State) : Prop :=
  match s.concat with
  | .testFailed k => ∀ i < k, i < cfg.cameraNum → s.grabResults i = .successed
  | .testNone k =>
      (∀ i < k, i < cfg.cameraNum → s.grabResults i = .successed) ∧ s.grabResults k ≠ .failed
  | .stamp => ∀ i < cfg.cameraNum, s.grabResults i = .successed
  | .copy k =>
      k < cfg.cameraNum ∧ (∀ i < cfg.cameraNum, s.grabResults i = .successed) ∧
        ∀ i < k, i < 3 → s.copies i = s.images (cfg.concatLocation i)
  | .stitch =>
      ∃ t, (∀ i < cfg.cameraNum, i < 3 → ∃ c, s.copies i = some ⟨c, t⟩) ∧
        ∀ i < cfg.cameraNum, cfg.grabSucceeds i t = true
  | _ => True

variable {cfg : Config} {s : State}

theorem announced_init : Announced cfg State.init :=
  ⟨fun _ off => (by cases off), fun _ _ off => (by cases off), fun _ _ _ _ off => (by cases off),
    fun _ member => (by cases member)⟩

theorem scanned_init : Scanned cfg State.init := fun _ below => absurd below (by omega)

/-! ## The cameras' steps -/

theorem announced_storeFrame (good : Announced cfg s) {i : Nat}
    (succeeds : cfg.grabSucceeds i (s.done i) = true) (others : OthersOfTrigger cfg s i) :
    Announced cfg (s.storeFrame i) := by
  refine ⟨fun j on => ?_, fun j camera on => ?_, fun j cj k ck onj onk => ?_, good.one_trigger⟩
  · by_cases same : j = i
    · subst same
      exact ⟨by simp [State.storeFrame], succeeds⟩
    · have kept := good.stored_frame j (by simpa [State.storeFrame, same] using on)
      simpa [State.storeFrame, same] using kept
  · by_cases same : j = i
    · subst same
      exact ⟨s.done j, by simp [State.storeFrame], succeeds⟩
    · simpa [State.storeFrame, same] using good.successed_frame j camera on
  · by_cases ji : j = i
    · by_cases ki : k = i
      · rw [ji, ki]
      · subst ji
        simpa [State.storeFrame, ki] using (others k ck ki onk).symm
    · by_cases ki : k = i
      · subst ki
        simpa [State.storeFrame, ji] using others j cj ji onj
      · simpa [State.storeFrame, ji, ki] using good.agree j cj k ck onj onk

theorem announced_announce (good : Announced cfg s) {i : Nat} (waiting : s.stored i = true)
    (others : OthersOfTrigger cfg s i) : Announced cfg (s.announce i) := by
  obtain ⟨frame, succeeds⟩ := good.stored_frame i waiting
  refine ⟨fun j on => ?_, fun j camera on => ?_, fun j cj k ck onj onk => ?_, good.one_trigger⟩
  · by_cases same : j = i
    · subst same
      simp [State.announce] at on
    · have kept := good.stored_frame j (by simpa [State.announce, same] using on)
      simpa [State.announce, same] using kept
  · by_cases same : j = i
    · subst same
      exact ⟨s.done j, frame, succeeds⟩
    · exact good.successed_frame j camera (by simpa [State.announce, same] using on)
  · have trigger : (s.images i).map Frame.trigger = some (s.done i) := by
      rw [frame]
      rfl
    show (s.images j).map Frame.trigger = (s.images k).map Frame.trigger
    by_cases ji : j = i
    · by_cases ki : k = i
      · rw [ji, ki]
      · rw [ji, trigger, others k ck ki (by simpa [State.announce, ki] using onk)]
    · have otherj := others j cj ji (by simpa [State.announce, ji] using onj)
      by_cases ki : k = i
      · rw [ki, trigger, otherj]
      · rw [otherj, others k ck ki (by simpa [State.announce, ki] using onk)]

theorem announced_announceFailed (good : Announced cfg s) {i : Nat} (idle : s.stored i = false) :
    Announced cfg (s.announceFailed i) := by
  have still {j : Nat} (on : (s.announceFailed i).grabResults j = .successed) :
      s.grabResults j = .successed := by
    by_cases same : j = i
    · subst same
      simp [State.announceFailed] at on
    · simpa [State.announceFailed, same] using on
  refine ⟨fun j on => ?_, fun j camera on => good.successed_frame j camera (still on),
    fun j cj k ck onj onk => good.agree j cj k ck (still onj) (still onk), good.one_trigger⟩
  have other : j ≠ i := fun same => by
    subst same
    rw [State.announceFailed, idle] at on
    cases on
  simpa [State.announceFailed, other] using good.stored_frame j on

/-- All slots being SUCCESSED, a camera that may store stores the frame that is there already. -/
theorem storeFrame_same (good : Announced cfg s)
    (all : ∀ i < cfg.cameraNum, s.grabResults i = .successed) {i : Nat} (camera : i < cfg.cameraNum)
    (others : OthersOfTrigger cfg s i) (two : 1 < cfg.cameraNum) : s.images i = some ⟨i, s.done i⟩ := by
  obtain ⟨j, cj, ji⟩ : ∃ j < cfg.cameraNum, j ≠ i := by
    by_cases first : i = 0
    · exact ⟨1, two, by omega⟩
    · exact ⟨0, by omega, by omega⟩
  obtain ⟨t, frame, -⟩ := good.successed_frame i camera (all i camera)
  have same := good.agree i camera j cj (all i camera) (all j cj)
  rw [others j cj ji (all j cj), frame] at same
  cases same
  exact frame

theorem scanned_storeFrame (good : Announced cfg s) (scan : Scanned cfg s) {i : Nat}
    (camera : i < cfg.cameraNum) (others : OthersOfTrigger cfg s i) :
    Scanned cfg (s.storeFrame i) := by
  cases pc : s.concat with
  | copy k =>
      simp only [Scanned, pc] at scan
      simp only [Scanned, State.storeFrame, pc]
      obtain ⟨below, all, copied⟩ := scan
      refine ⟨below, all, fun l early used => ?_⟩
      rw [copied l early used]
      by_cases same : cfg.concatLocation l = i
      · rw [same, Function.update_self]
        exact storeFrame_same good all camera others (by omega)
      · rw [Function.update_of_ne same]
  | _ =>
      simp only [Scanned, State.storeFrame, pc] at scan ⊢
      try exact scan

theorem scanned_announce (scan : Scanned cfg s) (i : Nat) : Scanned cfg (s.announce i) := by
  have still {j : Nat} (on : s.grabResults j = .successed) :
      (s.announce i).grabResults j = .successed := by
    by_cases same : j = i
    · simp [State.announce, same]
    · simpa [State.announce, same] using on
  have sound {j : Nat} (on : s.grabResults j ≠ .failed) :
      (s.announce i).grabResults j ≠ .failed := by
    by_cases same : j = i
    · simp [State.announce, same]
    · simpa [State.announce, same] using on
  have pc : (s.announce i).concat = s.concat := rfl
  unfold Scanned at scan ⊢
  rw [pc]
  cases at_ : s.concat with
  | testFailed k =>
      rw [at_] at scan
      exact fun j early camera => still (scan j early camera)
  | testNone k =>
      rw [at_] at scan
      exact ⟨fun j early camera => still (scan.1 j early camera), sound scan.2⟩
  | stamp =>
      rw [at_] at scan
      exact fun j camera => still (scan j camera)
  | copy k =>
      rw [at_] at scan
      exact ⟨scan.1, fun j camera => still (scan.2.1 j camera), scan.2.2⟩
  | stitch =>
      rw [at_] at scan
      exact scan
  | _ => trivial

theorem scanned_announceFailed (scan : Scanned cfg s) {i : Nat}
    (free : s.concat.holds i = false) : Scanned cfg (s.announceFailed i) := by
  have kept {j : Nat} (other : j ≠ i) :
      (s.announceFailed i).grabResults j = s.grabResults j := by
    simp [State.announceFailed, other]
  have pc : (s.announceFailed i).concat = s.concat := rfl
  unfold Scanned at scan ⊢
  rw [pc]
  cases at_ : s.concat with
  | testFailed k =>
      rw [at_] at scan free
      have late : ¬ i < k := by simpa [ConcatPc.holds] using free
      exact fun j early used => (kept (by omega)).trans (scan j early used)
  | testNone k =>
      rw [at_] at scan free
      have late : ¬ i ≤ k := by simpa [ConcatPc.holds] using free
      refine ⟨fun j early used => (kept (by omega)).trans (scan.1 j early used), ?_⟩
      rw [kept (by omega)]
      exact scan.2
  | stamp =>
      rw [at_] at free
      cases free
  | copy k =>
      rw [at_] at free
      cases free
  | stitch =>
      rw [at_] at scan
      exact scan
  | _ => trivial

/-! ## The steps of `ImageConcatProc` -/

/-- Taking slots back and moving on keeps what is announced. -/
theorem announced_of_fewer (good : Announced cfg s) {s' : State} (images : s'.images = s.images)
    (done : s'.done = s.done) (stored : s'.stored = s.stored) (stitched : s'.stitched = s.stitched)
    (fewer : ∀ i, s'.grabResults i = .successed → s.grabResults i = .successed) :
    Announced cfg s' := by
  refine ⟨?_, fun i camera on => ?_, fun i ci j cj oni onj => ?_, ?_⟩
  · rw [images, done, stored]
    exact good.stored_frame
  · rw [images]
    exact good.successed_frame i camera (fewer i on)
  · rw [images]
    exact good.agree i ci j cj (fewer i oni) (fewer j onj)
  · unfold StitchedFromOneTrigger
    rw [stitched]
    exact good.one_trigger

theorem fewer_of_reset {results : Nat → GrabStatus} {k i : Nat}
    (on : Function.update results k .none i = .successed) : results i = .successed := by
  by_cases same : i = k
  · subst same
    rw [Function.update_self] at on
    cases on
  · rwa [Function.update_of_ne same] at on

/-- The three parts of a stitched image come from the copies of cameras in use. -/
theorem oneTrigger_stitched {copies : Nat → Option Frame} {t : Nat}
    (whole : ∀ i < cfg.cameraNum, i < 3 → ∃ c, copies i = some ⟨c, t⟩)
    (succeeds : ∀ i < cfg.cameraNum, cfg.grabSucceeds i t = true) :
    OneTrigger cfg (cfg.stitchedFrames copies) := by
  refine ⟨t, fun f member => ?_, succeeds⟩
  have := cfg.some_camera
  unfold Config.stitchedFrames at member
  rw [List.mem_append, List.mem_append] at member
  rcases member with (first | second) | third
  · rw [List.mem_singleton] at first
    rw [first]
    exact whole 0 (by omega) (by omega)
  · split at second
    · rw [List.mem_singleton] at second
      rw [second]
      exact whole 1 (by omega) (by omega)
    · cases second
  · split at third
    · rw [List.mem_singleton] at third
      rw [third]
      exact whole 2 (by omega) (by omega)
    · cases third

theorem announced_imageConcatProc (good : Announced cfg s) (scan : Scanned cfg s) (now : Nat)
    (fine : Bool) : Announced cfg (imageConcatProc cfg s now fine) := by
  unfold imageConcatProc
  cases pc : s.concat with
  | stitch =>
      cases fine with
      | false => exact announced_of_fewer good rfl rfl rfl rfl fun _ on => on
      | true =>
          unfold Scanned at scan
          rw [pc] at scan
          obtain ⟨t, whole, succeeds⟩ := scan
          refine ⟨good.stored_frame, good.successed_frame, good.agree, fun frames member => ?_⟩
          rcases List.mem_append.1 member with old | new
          · exact good.one_trigger frames old
          · rw [List.mem_singleton.1 new]
            exact oneTrigger_stitched whole succeeds
  | clearFailed i => exact announced_of_fewer good rfl rfl rfl rfl fun _ on => fewer_of_reset on
  | clearSuccessed i => exact announced_of_fewer good rfl rfl rfl rfl fun _ on => fewer_of_reset on
  | _ =>
      -- every other statement only moves on, after a test or without one
      first
        | exact announced_of_fewer good rfl rfl rfl rfl fun _ on => on
        | dsimp only
          split <;> exact announced_of_fewer good rfl rfl rfl rfl fun _ on => on

/-- With every slot SUCCESSED the frames there are of one trigger, in which no grab failed. -/
theorem all_of_one_trigger (good : Announced cfg s)
    (all : ∀ i < cfg.cameraNum, s.grabResults i = .successed) :
    ∃ t, ∀ i < cfg.cameraNum, s.images i = some ⟨i, t⟩ ∧ cfg.grabSucceeds i t = true := by
  have first := cfg.some_camera
  obtain ⟨t, frame, -⟩ := good.successed_frame 0 first (all 0 first)
  refine ⟨t, fun i camera => ?_⟩
  obtain ⟨u, other, succeeds⟩ := good.successed_frame i camera (all i camera)
  have same := good.agree i camera 0 first (all i camera) (all 0 first)
  rw [frame, other] at same
  cases same
  exact ⟨other, succeeds⟩

/-- A slot that is neither failed nor empty: the scan goes on, and behind the last slot all have
succeeded. -/
theorem scanned_testNone {k : Nat}
    (earlier : ∀ i < k, i < cfg.cameraNum → s.grabResults i = .successed)
    (notFailed : s.grabResults k ≠ .failed) (notNone : s.grabResults k ≠ .none) :
    Scanned cfg { s with concat := cfg.next k .testFailed .stamp } := by
  have successed : s.grabResults k = .successed := by
    cases result : s.grabResults k with
    | none => exact absurd result notNone
    | failed => exact absurd result notFailed
    | successed => rfl
  have passed : ∀ i < k + 1, i < cfg.cameraNum → s.grabResults i = .successed := by
    intro i upto camera
    by_cases last : i = k
    · rw [last, successed]
    · exact earlier i (by omega) camera
  unfold Config.next Scanned
  by_cases more : k + 1 < cfg.cameraNum
  · simp only [if_pos more]
    exact passed
  · simp only [if_neg more]
    exact fun i camera => passed i (by omega) camera

/-- A copy: the next one goes on, and the last one completes the parts of the stitched image. -/
theorem scanned_copy (good : Announced cfg s) {k : Nat} (below : k < cfg.cameraNum)
    (all : ∀ i < cfg.cameraNum, s.grabResults i = .successed)
    (copied : ∀ i < k, i < 3 → s.copies i = s.images (cfg.concatLocation i)) :
    Scanned cfg
      { s with
        copies := if k < 3 then Function.update s.copies k (s.images (cfg.concatLocation k))
          else s.copies
        concat := cfg.next k .copy .stitch } := by
  have now : ∀ i < k + 1, i < 3 →
      (if k < 3 then Function.update s.copies k (s.images (cfg.concatLocation k)) else s.copies) i =
        s.images (cfg.concatLocation i) := by
    intro i upto used
    by_cases last : i = k
    · subst last
      rw [if_pos used, Function.update_self]
    · have earlier := copied i (by omega) used
      split
      · rw [Function.update_of_ne last, earlier]
      · exact earlier
  unfold Config.next Scanned
  by_cases more : k + 1 < cfg.cameraNum
  · simp only [if_pos more]
    exact ⟨more, all, now⟩
  · simp only [if_neg more]
    obtain ⟨t, frames⟩ := all_of_one_trigger good all
    refine ⟨t, fun i camera used => ?_, fun i camera => (frames i camera).2⟩
    refine ⟨cfg.concatLocation i, ?_⟩
    rw [now i (by omega) used]
    exact (frames _ (cfg.concatLocation_lt camera)).1

/-- At the head of the loop, and wherever slots are taken back, nothing is relied on. -/
def ConcatPc.Idle : ConcatPc → Prop
  | .testFailed k => k = 0
  | .testNone _ => False
  | .stamp => False
  | .copy _ => False
  | .stitch => False
  | _ => True

theorem scanned_of_idle (idle : s.concat.Idle) : Scanned cfg s := by
  unfold Scanned
  cases pc : s.concat with
  | testFailed k =>
      rw [pc] at idle
      exact fun i early => absurd early (by rw [show k = 0 from idle]; omega)
  | testNone k => rw [pc] at idle; cases idle
  | stamp => rw [pc] at idle; cases idle
  | copy k => rw [pc] at idle; cases idle
  | stitch => rw [pc] at idle; cases idle
  | _ => trivial

theorem Config.next_idle (again : Nat → ConcatPc) (idle : ∀ k, (again k).Idle) (k : Nat) :
    (cfg.next k again (.testFailed 0)).Idle := by
  unfold Config.next
  split
  · exact idle _
  · rfl

theorem scanned_imageConcatProc (good : Announced cfg s) (scan : Scanned cfg s) (now : Nat)
    (fine : Bool) : Scanned cfg (imageConcatProc cfg s now fine) := by
  unfold imageConcatProc
  cases pc : s.concat with
  | testFailed k =>
      unfold Scanned at scan
      rw [pc] at scan
      by_cases failed : s.grabResults k = .failed
      · simp only [if_pos failed]
        exact scanned_of_idle trivial
      · simp only [if_neg failed]
        exact ⟨scan, failed⟩
  | testNone k =>
      unfold Scanned at scan
      rw [pc] at scan
      by_cases none : s.grabResults k = .none
      · simp only [if_pos none]
        exact scanned_of_idle rfl
      · simp only [if_neg none]
        exact scanned_testNone scan.1 scan.2 none
  | stamp =>
      unfold Scanned at scan
      rw [pc] at scan
      exact ⟨cfg.some_camera, scan, fun i early => absurd early (by omega)⟩
  | copy k =>
      unfold Scanned at scan
      rw [pc] at scan
      obtain ⟨below, all, copied⟩ := scan
      cases fine with
      | false => exact scanned_of_idle trivial
      | true => exact scanned_copy good below all copied
  | stitch => cases fine <;> exact scanned_of_idle trivial
  | resetFailed k =>
      dsimp only
      split
      · exact scanned_of_idle trivial
      · exact scanned_of_idle (Config.next_idle .resetFailed (fun _ => trivial) k)
  | clearFailed k => exact scanned_of_idle (Config.next_idle .resetFailed (fun _ => trivial) k)
  | resetSuccessed k =>
      dsimp only
      split
      · exact scanned_of_idle trivial
      · exact scanned_of_idle (Config.next_idle .resetSuccessed (fun _ => trivial) k)
  | clearSuccessed k => exact scanned_of_idle (Config.next_idle .resetSuccessed (fun _ => trivial) k)
  | _ => exact scanned_of_idle trivial

/-! ## Whole runs -/

theorem announced_pollLoop (good : Announced cfg s) : Announced cfg (pollLoop cfg s) := by
  unfold pollLoop
  cases s.poll with
  | send concatStatus imageStr round =>
      dsimp only
      split <;> exact announced_of_fewer good rfl rfl rfl rfl fun _ on => on
  | _ => exact announced_of_fewer good rfl rfl rfl rfl fun _ on => on

theorem scanned_pollLoop (scan : Scanned cfg s) : Scanned cfg (pollLoop cfg s) := by
  unfold pollLoop
  cases s.poll with
  | send concatStatus imageStr round =>
      dsimp only
      split <;> exact scan
  | _ => exact scan

theorem announced_scanned_step {a : Action} {s' : State} (inv : Announced cfg s ∧ Scanned cfg s)
    (turn : InTurn cfg s a) (taken : step cfg s a = some s') :
    Announced cfg s' ∧ Scanned cfg s' := by
  obtain ⟨good, scan⟩ := inv
  cases a with
  | grab i =>
      obtain ⟨camera, rfl⟩ := step_grab taken
      simp only [InTurn] at turn
      unfold grabProc
      by_cases waiting : s.stored i = true
      · rw [if_pos (Or.inl waiting)] at turn
        rw [if_pos waiting]
        exact ⟨announced_announce good waiting turn, scanned_announce scan i⟩
      · rw [if_neg waiting]
        by_cases succeeds : cfg.grabSucceeds i (s.done i) = true
        · rw [if_pos (Or.inr succeeds)] at turn
          rw [if_pos succeeds]
          exact ⟨announced_storeFrame good succeeds turn, scanned_storeFrame good scan camera turn⟩
        · rw [if_neg (not_or.2 ⟨waiting, succeeds⟩)] at turn
          rw [if_neg succeeds]
          exact ⟨announced_announceFailed good (by simpa using waiting),
            scanned_announceFailed scan turn⟩
  | concat now fine =>
      cases taken
      exact ⟨announced_imageConcatProc good scan now fine, scanned_imageConcatProc good scan now fine⟩
  | poll =>
      cases taken
      exact ⟨announced_pollLoop good, scanned_pollLoop scan⟩

/-- **One trigger.** In every run whose cameras take their turn, every stitched image is made of the
frames of one trigger in which no grab failed. -/
theorem in_turn_one_trigger (cfg : Config) {actions : List Action} {s : State}
    (run : Run (step cfg) (InTurn cfg) State.init actions s) : StitchedFromOneTrigger cfg s :=
  (run.invariant (fun _ _ _ inv turn taken => announced_scanned_step inv turn taken)
    ⟨announced_init, scanned_init⟩).1.one_trigger

/-! ## Two cameras -/

/-- Two cameras, left and middle. -/
def twoCameras (grabSucceeds : Nat → Nat → Bool) : Config :=
  Config.small 2 (by decide) (by decide) grabSucceeds

/-- Both cameras store and announce their frame, and the round goes through. -/
def inTurnActions : List Action :=
  [.grab 0, .grab 0, .grab 1, .grab 1] ++ concats 1 8

theorem in_turn_one_trigger_stitches :
    ∃ s, Run (step (twoCameras fun _ _ => true)) (InTurn (twoCameras fun _ _ => true)) State.init
        inTurnActions s ∧
      s.stitched = [[some ⟨0, 0⟩, some ⟨1, 0⟩]] ∧
      StitchedFromOneTrigger (twoCameras fun _ _ => true) s := by
  obtain ⟨s, run, shown⟩ := exists_run_of_exec (step (twoCameras fun _ _ => true))
    (InTurn (twoCameras fun _ _ => true)) State.init inTurnActions State.stitched
    (b := [[some ⟨0, 0⟩, some ⟨1, 0⟩]]) (by decide)
  exact ⟨s, run, shown, in_turn_one_trigger _ run⟩

/-- Trigger 0: camera 0 announces its frame, camera 1 fails, and the failed slot alone is taken back.
Trigger 1: camera 1 is the first to announce. -/
def staleActions : List Action :=
  [.grab 0, .grab 0, .grab 1] ++ concats 1 8 ++ [.grab 1, .grab 1] ++ concats 2 8

/-- **A stale frame.** The frame of trigger 0, in which camera 1 failed, is stitched to a frame of
trigger 1. -/
theorem stale_frame_stitched :
    ∃ cfg s, Run (step cfg) Free State.init staleActions s ∧
      s.stitched = [[some ⟨0, 0⟩, some ⟨1, 1⟩]] ∧ ¬ StitchedFromOneTrigger cfg s := by
  obtain ⟨s, run, shown⟩ := exists_run_of_exec
    (step (twoCameras fun i t => !(i == 1 && t == 0))) Free State.init staleActions State.stitched
    (b := [[some ⟨0, 0⟩, some ⟨1, 1⟩]]) (by decide)
  refine ⟨_, s, run, shown, fun one => ?_⟩
  rw [StitchedFromOneTrigger, shown] at one
  obtain ⟨t, frames, -⟩ := one _ (List.mem_singleton.2 rfl)
  obtain ⟨_, first⟩ := frames (some ⟨0, 0⟩) (by simp)
  obtain ⟨_, second⟩ := frames (some ⟨1, 1⟩) (by simp)
  cases first
  cases second

end TizerVision.Rolling
