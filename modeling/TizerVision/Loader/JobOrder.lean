/-
# Loader.JobOrder — the frames of one camera reach the algorithm in order and at most once

A frame of a camera is first with its callback, then in the camera's slot, then in the consumer's
hands, then handed over.  Read from the far end, these places hold the frames of a camera in the
order in which they were taken (`State.pipeline`), and every step either moves a frame on, or appends
the next one, or drops one that is overwritten in its slot.
-/
import Mathlib.Algebra.Order.Ring.Int
import TizerVision.Loader.Pairing

namespace TizerVision.Loader

open TizerVision.Theory

set_option autoImplicit false

/-! ## The frames on their way -/

/-- `_captured_id` is an `int`. -/
def toInt (n : Nat) : Int := (BitVec.ofNat 32 n).toInt

/-- The `job_id` in the JSON of a frame. -/
def HImage.jobId (img : HImage) : Int := toInt img.frame

/-- The frames of a camera handed over so far. -/
def State.handedFrames (s : State) (c : Camera) : List HImage :=
  s.handed.map fun h => pick c (h.img0, h.img1)

/-- The frames of a camera that were handed over, are taken, are in the slot, or are with the
callback. -/
def State.pipeline (s : State) (c : Camera) : List HImage :=
  s.handedFrames c ++ (s.taken.map (pick c)).toList ++
    ((s.tempImg c).map HImageExtraInfo.image).toList ++
    ((s.storing c).map HImageExtraInfo.image).toList

/-- The invariant: the frames on their way are the camera's own, in the order they were taken. -/
structure Flowing (s : State) : Prop where
  inOrder : ∀ c, (s.pipeline c).Pairwise fun earlier later => earlier.frame < later.frame
  captured : ∀ c, ∀ img ∈ s.pipeline c, img.camera = c ∧ img.frame < s.capturedId c
  own : ∀ c info, s.storing c = some info → info.cameraId = c

theorem flowing_init : Flowing State.init := by
  constructor <;> simp [State.init, State.pipeline, State.handedFrames]

/-- A step that moves frames on or drops some keeps the order. -/
theorem flowing_of_sublist {s s' : State} (flowing : Flowing s)
    (fewer : ∀ c, (s'.pipeline c).Sublist (s.pipeline c)) (count : s'.capturedId = s.capturedId)
    (own : ∀ c info, s'.storing c = some info → s.storing c = some info) : Flowing s' where
  inOrder c := (flowing.inOrder c).sublist (fewer c)
  captured c img member := by
    rw [count]
    exact flowing.captured c img ((fewer c).subset member)
  own c info pending := flowing.own c info (own c info pending)

/-- The next frame of a camera goes to the end. -/
theorem flowing_copied {s : State} {c : Camera} {msec : Nat} (flowing : Flowing s)
    (idle : s.storing c = none) : Flowing (s.copied c msec) := by
  have appended : (s.copied c msec).pipeline c = s.pipeline c ++ [⟨c, s.capturedId c⟩] := by
    simp [State.pipeline, State.handedFrames, State.copied, idle]
  have others : ∀ d, d ≠ c → (s.copied c msec).pipeline d = s.pipeline d := by
    intro d other
    simp [State.pipeline, State.handedFrames, State.copied, Function.update_of_ne other]
  constructor
  · intro d
    by_cases same : d = c
    · subst same
      rw [appended, List.pairwise_append]
      refine ⟨flowing.inOrder d, List.pairwise_singleton _ _, fun img member last newest => ?_⟩
      rw [List.mem_singleton.1 newest]
      exact (flowing.captured d img member).2
    · rw [others d same]
      exact flowing.inOrder d
  · intro d img member
    by_cases same : d = c
    · subst same
      simp only [State.copied, Function.update_self]
      rw [appended] at member
      rcases List.mem_append.1 member with old | new
      · exact ⟨(flowing.captured d img old).1, Nat.lt_succ_of_lt (flowing.captured d img old).2⟩
      · rw [List.mem_singleton.1 new]
        exact ⟨rfl, Nat.lt_succ_self _⟩
    · simp only [State.copied, Function.update_of_ne same]
      rw [others d same] at member
      exact flowing.captured d img member
  · intro d info pending
    by_cases same : d = c
    · subst same
      simp only [State.copied, Function.update_self, Option.some.injEq] at pending
      rw [← pending]
    · simp only [State.copied, Function.update_of_ne same] at pending
      exact flowing.own d info pending

/-- The slot assignment moves a frame on; the one it finds in the slot is dropped. -/
theorem flowing_stored {s : State} {c : Camera} {info : HImageExtraInfo} (flowing : Flowing s)
    (pending : s.storing c = some info) : Flowing (s.stored c info) := by
  have own := flowing.own c info pending
  apply flowing_of_sublist flowing
  · intro d
    by_cases same : d = c
    · subst same
      simp [State.pipeline, State.handedFrames, State.stored, own, pending]
    · simp [State.pipeline, State.handedFrames, State.stored, own, Function.update_of_ne same]
  · rfl
  · intro d other held
    by_cases same : d = c
    · subst same
      simp [State.stored] at held
    · simpa only [State.stored, Function.update_of_ne same] using held

theorem flowing_tookBoth {s : State} {info0 info1 : HImageExtraInfo} (flowing : Flowing s)
    (idle : s.taken = none) (slot0 : s.tempImg 0 = some info0) (slot1 : s.tempImg 1 = some info1) :
    Flowing (s.tookBoth info0 info1) := by
  apply flowing_of_sublist flowing
  · refine Fin.forall_fin_two.2 ⟨?_, ?_⟩
    · simp [State.pipeline, State.handedFrames, State.tookBoth, idle, slot0, pick]
    · simp [State.pipeline, State.handedFrames, State.tookBoth, idle, slot1, pick]
  · rfl
  · exact fun _ _ held => held

theorem flowing_called {s : State} {img0 img1 : HImage} (flowing : Flowing s)
    (images : s.taken = some (img0, img1)) : Flowing (s.called img0 img1) := by
  apply flowing_of_sublist flowing
  · intro c
    simp [State.pipeline, State.handedFrames, State.called, images]
  · rfl
  · exact fun _ _ held => held

theorem flowing_step (s : State) (a : Action) (s' : State) (flowing : Flowing s) (_ : Free s a)
    (taken : step s a = some s') : Flowing s' := by
  cases stepped_of_step taken with
  | copied idle => exact flowing_copied flowing idle
  | stored pending => exact flowing_stored flowing pending
  | tookBoth noneTaken slot0 slot1 => exact flowing_tookBoth flowing noneTaken slot0 slot1
  | tookNone => exact flowing
  | called images => exact flowing_called flowing images

/-! ## What is handed over -/

theorem handedFrames_sublist (s : State) (c : Camera) :
    (s.handedFrames c).Sublist (s.pipeline c) := by
  simp [State.pipeline, List.append_assoc]

/-- Frames of two cameras, each in order, are all different. -/
theorem Flowing.nodup {s : State} (flowing : Flowing s) :
    (s.handedFrames 0 ++ s.handedFrames 1).Nodup := by
  have each : ∀ c, (s.handedFrames c).Nodup := by
    intro c
    refine ((flowing.inOrder c).sublist (handedFrames_sublist s c)).imp ?_
    rintro earlier later less rfl
    exact Nat.lt_irrefl _ less
  refine List.nodup_append.2 ⟨each 0, each 1, ?_⟩
  rintro img first other second rfl
  have zero := (flowing.captured 0 img ((handedFrames_sublist s 0).subset first)).1
  have one := (flowing.captured 1 img ((handedFrames_sublist s 1).subset second)).1
  rw [zero] at one
  cases one

theorem toInt_of_lt {n : Nat} (small : n < 2 ^ 31) : toInt n = n := by
  unfold toInt
  rw [BitVec.toInt_eq_toNat_of_lt] <;> rw [BitVec.toNat_ofNat, Nat.mod_eq_of_lt (by omega)]
  omega

/-- **Frames are handed over in order and once.**  In every interleaving of the two callbacks and the
consumer, no frame is handed over twice, and the job numbers of each camera's frames increase from
one handover to the next. -/
theorem frames_once_in_order (as : List Action) (s : State) (run : Run step Free State.init as s)
    (few : ∀ c, s.capturedId c < 2 ^ 31) :
    (s.handedFrames 0 ++ s.handedFrames 1).Nodup ∧
      ∀ c, ((s.handedFrames c).map HImage.jobId).Pairwise (· < ·) := by
  have flowing := run.invariant flowing_step flowing_init
  refine ⟨flowing.nodup, fun c => ?_⟩
  have small : ∀ img ∈ s.handedFrames c, img.jobId = img.frame := by
    intro img member
    have captured := (flowing.captured c img ((handedFrames_sublist s c).subset member)).2
    exact toInt_of_lt (Nat.lt_trans captured (few c))
  have increasing := (flowing.inOrder c).sublist (handedFrames_sublist s c)
  rw [List.pairwise_map]
  refine increasing.imp_of_mem ?_
  intro earlier later first second less
  rw [small earlier first, small later second]
  exact Int.ofNat_lt.2 less

/-- Camera 0 is a frame ahead, one of its frames is overwritten, and two pairs are handed over. -/
theorem frames_once_in_order_ahead : ∃ s, Run step Free State.init
    (aheadActions ++ [.callback 1 12, .store 1, .callback 0 12, .store 0, .take, .call]) s ∧
    s.handedFrames 0 = [⟨0, 1⟩, ⟨0, 2⟩] ∧
      ((s.handedFrames 0).map HImage.jobId).Pairwise (· < ·) := by
  obtain ⟨s, run, shown⟩ := exists_run_of_exec step Free State.init
    (aheadActions ++ [.callback 1 12, .store 1, .callback 0 12, .store 0, .take, .call])
    (fun s => (s.handedFrames 0, s.capturedId 0, s.capturedId 1))
    (b := ([⟨0, 1⟩, ⟨0, 2⟩], 3, 2)) (by decide)
  obtain ⟨frames, zero, one⟩ : s.handedFrames 0 = [⟨0, 1⟩, ⟨0, 2⟩] ∧ s.capturedId 0 = 3 ∧
      s.capturedId 1 = 2 := by simpa using shown
  have few : ∀ c, s.capturedId c < 2 ^ 31 :=
    Fin.forall_fin_two.2 ⟨by rw [zero]; decide, by rw [one]; decide⟩
  exact ⟨s, run, frames, (frames_once_in_order _ s run few).2 0⟩

end TizerVision.Loader
