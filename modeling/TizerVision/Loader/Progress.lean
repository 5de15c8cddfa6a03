/-
# Loader.Progress — when the loader goes on and when it stops

Nothing releases a lock when an exception leaves its section, and nothing starts a thread again.  The
frames of a camera can then no longer get past `log_mtx`, or nobody takes the images any more; a potential
counts the pairs that are still possible.  As long as no such exception has occurred every thread can
always be brought to rest, by a rank of the statements before it, and another pair can be handed over.

* `goes_on_iff_harmless` — the line can hand over any number of further pairs exactly when no exception
  so far has left a callback, a section or the loop: there is no deadlock of any other kind.
* `at_most_two_after_fault` — after such an exception at most two pairs more are handed over.
-/
import TizerVision.Loader.Atomic

namespace TizerVision.Loader.Locks

open TizerVision.Theory

set_option autoImplicit false

/-! ## The line goes on while no exception escapes -/

theorem handed_step {s s' : State} {a : Action} (stepped : Stepped s a s') :
    s.handed.length ≤ s'.handed.length := by
  cases stepped with
  | called => exact List.length_append ▸ Nat.le_add_right _ _
  | _ => exact Nat.le_refl _

/-- Both locks are where they can be given back, and no thread has ended. -/
structure Alive (s : State) : Prop where
  log : s.logLock.Attended
  mtx : s.mtxLock.Attended
  consumer : s.consumer ≠ .ended
  callback : ∀ c info, s.callback c ≠ .ended info

theorem alive_init : Alive State.init where
  log _ owner := by cases owner
  mtx _ owner := by cases owner
  consumer := by simp [State.init]
  callback _ _ := by simp [State.init]

theorem handler_ne_ended {e : Thrown} (caught : e ≠ .hException) : handler e ≠ .ended := by
  cases e with
  | stdException => simp [handler]
  | hException => exact absurd rfl caught

theorem consumer_alive {s s' : State} {a : Action} (alive : s.consumer ≠ .ended)
    (harmless : Harmless a) (stepped : Stepped s a s') : s'.consumer ≠ .ended := by
  cases stepped with
  | consumerTimeThrew => cases harmless
  | copyThrew => cases harmless
  | consumerLockedLog | consumerTimed | consumerLocked | tested0 | tested1 | testedEmpty | copied0 |
    copied1 | copyCrashed | cleared0 | cleared1 => rintro ⟨⟩
  | @unlocked images => cases images <;> rintro ⟨⟩
  | @called _ _ result =>
      show afterCall result ≠ .ended
      cases result with
      | error e => exact handler_ne_ended fun same => harmless (congrArg Except.error same)
      | ok status =>
          simp only [afterCall]
          split <;> rintro ⟨⟩
  | finished pc =>
      intro ended
      cases place : s.consumer <;> rw [place] at pc <;> cases pc <;> cases ended
  | finishThrew => exact handler_ne_ended fun same => harmless (congrArg some same)
  | _ => exact alive

theorem callback_alive {s s' : State} {a : Action} (alive : ∀ c info, s.callback c ≠ .ended info)
    (harmless : Harmless a) (stepped : Stepped s a s') : ∀ c info, s'.callback c ≠ .ended info := by
  have moved : ∀ c pc, (∀ info, pc ≠ .ended info) → ∀ d info,
      (s.setCallback c pc).callback d ≠ .ended info := by
    intro c pc other d info
    by_cases same : d = c
    · subst same
      simpa [State.setCallback] using other info
    · simpa [State.setCallback, Function.update_of_ne same] using alive d info
  cases stepped with
  | captured => exact moved _ _ (by simp)
  | @cameraLockedLog c info => exact moved c (.timing info) (by simp)
  | @cameraTimed c info => exact moved c (.parsing info) (by simp)
  | cameraTimeThrew => cases harmless
  | parsed => exact moved _ _ (by simp)
  | parseThrew => cases harmless
  | @cameraLocked c info => exact moved c (.assigning info) (by simp)
  | @assigned c => exact moved c .idle (by simp)
  | _ => exact alive

theorem alive_step {s s' : State} {a : Action} (alive : Alive s) (harmless : Harmless a)
    (stepped : Stepped s a s') : Alive s' := by
  obtain ⟨_, _, logMove, logOrderly⟩ := log_moves stepped
  obtain ⟨_, _, mtxMove, mtxOrderly⟩ := mtx_moves stepped
  cases logOrderly harmless
  cases mtxOrderly harmless
  exact ⟨logMove.attended alive.log, mtxMove.attended alive.mtx,
    consumer_alive alive.consumer harmless stepped, callback_alive alive.callback harmless stepped⟩

/-- The statements a callback has before it. -/
def CallbackPc.rank : CallbackPc → Nat
  | .idle | .ended _ => 0
  | .assigning _ => 1
  | .atLock _ => 2
  | .parsing _ => 3
  | .timing _ => 4
  | .atLogLock _ => 5

/-- The statements the consumer has before it until it polls again. -/
def ConsumerPc.rank : ConsumerPc → Nat
  | .poll | .ended | .crashed => 0
  | .pushing => 1
  | .lowering => 2
  | .timing => 3
  | .atLogLock => 4
  | .raising => 5
  | .calling _ _ => 6
  | .unlocking _ => 7
  | .clearing1 _ _ => 8
  | .clearing0 _ _ => 9
  | .copying1 _ => 10
  | .copying0 => 11
  | .testing1 => 12
  | .testing0 => 13

def LogPc.rank : LogPc → Nat
  | .idle => 0
  | .writing => 1

def State.rank (s : State) : Nat :=
  (s.callback camera0).rank + (s.callback camera1).rank + s.consumer.rank + s.log.rank

theorem rank_setCallback {s : State} {c : Camera} {pc : CallbackPc} (place : s.callback c = pc)
    (pc' : CallbackPc) (lower : pc'.rank < pc.rank) : (s.setCallback c pc').rank < s.rank := by
  have lower' : pc'.rank < (s.callback c).rank := place ▸ lower
  unfold State.rank
  match c with
  | 0 =>
      have moved : (s.setCallback 0 pc').callback camera0 = pc' := callback_setCallback_self s camera0 pc'
      have kept : (s.setCallback 0 pc').callback camera1 = s.callback camera1 :=
        callback_setCallback_ne s (show camera1 ≠ camera0 by decide) pc'
      rw [moved, kept]
      exact Nat.add_lt_add_right (Nat.add_lt_add_right (Nat.add_lt_add_right lower' _) _) _
  | 1 =>
      have moved : (s.setCallback 1 pc').callback camera1 = pc' := callback_setCallback_self s camera1 pc'
      have kept : (s.setCallback 1 pc').callback camera0 = s.callback camera0 :=
        callback_setCallback_ne s (show camera0 ≠ camera1 by decide) pc'
      rw [moved, kept]
      exact Nat.add_lt_add_right (Nat.add_lt_add_right (Nat.add_lt_add_left lower' _) _) _

theorem rank_setConsumer {s : State} {pc : ConsumerPc} (place : s.consumer = pc) (pc' : ConsumerPc)
    (lower : pc'.rank < pc.rank) : (s.setConsumer pc').rank < s.rank := by
  have lower' : pc'.rank < s.consumer.rank := place ▸ lower
  exact Nat.add_lt_add_right (Nat.add_lt_add_left lower' _) _

/-- No callback is running, the consumer is about to poll, and both locks are free. -/
structure Resting (s : State) : Prop where
  callback : ∀ c, s.callback c = .idle
  consumer : s.consumer = .poll
  log : s.log = .idle
  logMtx : s.logMtx = none
  mtx : s.mtx = none

/-- A harmless step towards rest. -/
def Advances (s : State) : Prop := ∃ a s', Stepped s a s' ∧ Harmless a ∧ s'.rank < s.rank

/-- The owner of `log_mtx` gives it back. -/
theorem advances_log {s : State} (alive : Alive s) {t : Thread} (owner : s.logMtx = some t) :
    Advances s := by
  have inside : s.inLog t = true := alive.log t owner
  cases t with
  | camera c =>
      cases place : s.callback c with
      | timing info =>
          exact ⟨_, _, .cameraTimed place, rfl, rank_setCallback place _ (Nat.lt_succ_self 3)⟩
      | _ => simp [State.inLog, place, CallbackPc.inLog] at inside
  | consumer =>
      cases place : s.consumer with
      | timing => exact ⟨_, _, .consumerTimed place, rfl, rank_setConsumer place _ (Nat.lt_succ_self 2)⟩
      | _ => simp [State.inLog, place, ConsumerPc.inLog] at inside
  | log =>
      cases place : s.log with
      | idle => simp [State.inLog, place] at inside
      | writing =>
          refine ⟨_, _, .logWritten place, trivial, ?_⟩
          show _ + LogPc.rank .idle < _ + s.log.rank
          rw [place]
          exact Nat.lt_succ_self _

/-- The owner of `mtx` gets on with its section. -/
theorem advances_mtx {s : State} (sound : Sound s) (alive : Alive s) {t : Thread}
    (owner : s.mtx = some t) : Advances s := by
  have inside : s.inMtx t = true := alive.mtx t owner
  have fits := sound.fits
  cases t with
  | camera c =>
      cases place : s.callback c with
      | assigning info =>
          exact ⟨_, _, .assigned place, trivial, rank_setCallback place .idle
            (Nat.lt_succ_self 0)⟩
      | _ => simp [State.inMtx, place, CallbackPc.inMtx] at inside
  | consumer =>
      cases place : s.consumer with
      | testing0 =>
          cases slot : s.tempImg camera0 with
          | none =>
              exact ⟨_, _, .testedEmpty (.inl ⟨place, slot⟩), trivial, rank_setConsumer place _ (by decide)⟩
          | some info =>
              exact ⟨_, _, .tested0 place (by simp [slot]), trivial, rank_setConsumer place _ (by decide)⟩
      | testing1 =>
          cases slot : s.tempImg camera1 with
          | none =>
              exact ⟨_, _, .testedEmpty (.inr ⟨place, slot⟩), trivial, rank_setConsumer place _ (by decide)⟩
          | some info =>
              exact ⟨_, _, .tested1 place (by simp [slot]), trivial, rank_setConsumer place _ (by decide)⟩
      | copying0 =>
          rw [place] at fits
          obtain ⟨info, slot⟩ := Option.isSome_iff_exists.1 fits.1
          exact ⟨_, _, .copied0 place slot, rfl, rank_setConsumer place _ (Nat.lt_succ_self 10)⟩
      | copying1 img0 =>
          rw [place] at fits
          obtain ⟨info, slot⟩ := Option.isSome_iff_exists.1 fits.2
          exact ⟨_, _, .copied1 place slot, rfl, rank_setConsumer place _ (Nat.lt_succ_self 9)⟩
      | clearing0 img0 img1 =>
          exact ⟨_, _, .cleared0 place, trivial, rank_setConsumer place
            (.clearing1 img0 img1) (Nat.lt_succ_self 8)⟩
      | clearing1 img0 img1 =>
          exact ⟨_, _, .cleared1 place, trivial, rank_setConsumer place
            (.unlocking (some (img0, img1))) (Nat.lt_succ_self 7)⟩
      | unlocking images =>
          refine ⟨_, _, .unlocked place, trivial, rank_setConsumer place (afterPoll images) ?_⟩
          cases images with
          | none => exact Nat.zero_lt_succ 6
          | some images => exact Nat.lt_succ_self 6
      | crashed =>
          rw [place] at fits
          exact fits.elim
      | _ => simp [State.inMtx, place, ConsumerPc.inMtx] at inside
  | log => cases inside

/-- With both locks free, a callback that is running gets on. -/
theorem advances_callback {s : State} (sound : Sound s) (alive : Alive s) (logMtx : s.logMtx = none)
    (mtx : s.mtx = none) {c : Camera} (running : s.callback c ≠ .idle) : Advances s := by
  cases place : s.callback c with
  | idle => exact absurd place running
  | atLogLock info =>
      exact ⟨_, _, .cameraLockedLog logMtx place, trivial, rank_setCallback place
        (.timing info) (Nat.lt_succ_self 4)⟩
  | timing info =>
      have owner : s.logMtx = some (.camera c) :=
        sound.log (.camera c) (by simp [State.logLock, State.inLog, place, CallbackPc.inLog])
      exact absurd (logMtx.symm.trans owner) (by simp)
  | parsing info => exact ⟨_, _, .parsed place, rfl, rank_setCallback place _ (Nat.lt_succ_self 2)⟩
  | atLock info =>
      exact ⟨_, _, .cameraLocked mtx place, trivial, rank_setCallback place
        (.assigning info) (Nat.lt_succ_self 1)⟩
  | assigning info =>
      have owner : s.mtx = some (.camera c) :=
        sound.mtx (.camera c) (by simp [State.mtxLock, State.inMtx, place, CallbackPc.inMtx])
      exact absurd (mtx.symm.trans owner) (by simp)
  | ended info => exact absurd place (alive.callback c info)

/-- With both locks free, a consumer that is not about to poll gets on. -/
theorem advances_consumer {s : State} (sound : Sound s) (alive : Alive s) (logMtx : s.logMtx = none)
    (mtx : s.mtx = none) (running : s.consumer ≠ .poll) : Advances s := by
  by_cases inside : s.consumer.inMtx = true
  · have owner : s.mtx = some .consumer := sound.mtx .consumer inside
    exact absurd (mtx.symm.trans owner) (by simp)
  · cases place : s.consumer with
    | poll => exact absurd place running
    | calling img0 img1 =>
        exact ⟨.call (.ok 3), _, .called place, by simp [Harmless], rank_setConsumer place
          .pushing (Nat.lt_add_of_pos_right (Nat.zero_lt_succ 4))⟩
    | raising =>
        exact ⟨.finish none, _, .finished (congrArg _ place), by simp [Harmless],
          rank_setConsumer place .atLogLock (by decide)⟩
    | atLogLock =>
        exact ⟨_, _, .consumerLockedLog logMtx place, trivial,
          rank_setConsumer place .timing (by decide)⟩
    | timing =>
        have owner : s.logMtx = some .consumer :=
          sound.log .consumer (by simp [State.logLock, State.inLog, place, ConsumerPc.inLog])
        exact absurd (logMtx.symm.trans owner) (by simp)
    | lowering =>
        exact ⟨.finish none, _, .finished (congrArg _ place), by simp [Harmless],
          rank_setConsumer place .pushing (by decide)⟩
    | pushing =>
        exact ⟨.finish none, _, .finished (congrArg _ place), by simp [Harmless],
          rank_setConsumer place .poll (by decide)⟩
    | ended => exact absurd place alive.consumer
    | _ => simp [place, ConsumerPc.inMtx] at inside

theorem advances_of_not_resting {s : State} (sound : Sound s) (alive : Alive s)
    (busy : ¬ Resting s) : Advances s := by
  cases logMtx : s.logMtx with
  | some t => exact advances_log alive logMtx
  | none =>
      cases mtx : s.mtx with
      | some t => exact advances_mtx sound alive mtx
      | none =>
          by_cases callbacks : ∀ c, s.callback c = .idle
          · by_cases polls : s.consumer = .poll
            · cases place : s.log with
              | idle => exact absurd ⟨callbacks, polls, place, logMtx, mtx⟩ busy
              | writing =>
                  have owner : s.logMtx = some .log :=
                    sound.log .log (by simp [State.logLock, State.inLog, place])
                  exact absurd (logMtx.symm.trans owner) (by simp)
            · exact advances_consumer sound alive logMtx mtx polls
          · obtain ⟨c, running⟩ := not_forall.1 callbacks
            exact advances_callback sound alive logMtx mtx running

/-- A run of harmless actions. -/
abbrev HarmlessRun (s : State) (as : List Action) (s' : State) : Prop :=
  Run step (fun _ => Harmless) s as s'

theorem HarmlessRun.cons {s s' s'' : State} {a : Action} {as : List Action}
    (stepped : Stepped s a s') (harmless : Harmless a) (rest : HarmlessRun s' as s'') :
    HarmlessRun s (a :: as) s'' :=
  Run.cons harmless (step_of_stepped stepped) rest

theorem HarmlessRun.keeps {s s' : State} {as : List Action} (run : HarmlessRun s as s')
    (sound : Sound s) (alive : Alive s) : Sound s' ∧ Alive s' :=
  run.invariant (I := fun s => Sound s ∧ Alive s) (fun s a s' both harmless taken =>
    ⟨sound_step s a s' both.1 taken, alive_step both.2 harmless (stepped_of_step taken)⟩)
    ⟨sound, alive⟩

/-- The threads come to rest, with no pair lost from the record. -/
theorem comes_to_rest {s : State} (sound : Sound s) (alive : Alive s) :
    ∃ as s', HarmlessRun s as s' ∧ s.handed.length ≤ s'.handed.length ∧ Resting s' := by
  obtain ⟨as, s', run, ⟨_, _, more⟩, resting⟩ : ∃ as s', HarmlessRun s as s' ∧
      (Sound s' ∧ Alive s' ∧ s.handed.length ≤ s'.handed.length) ∧ Resting s' := by
    refine Run.reach State.rank ?_ ⟨sound, alive, Nat.le_refl _⟩
    intro s₁ ⟨sound₁, alive₁, more⟩ busy
    obtain ⟨a, s₂, stepped, harmless, lower⟩ := advances_of_not_resting sound₁ alive₁ busy
    have taken := step_of_stepped stepped
    exact ⟨a, s₂, harmless, taken, ⟨sound_step s₁ a s₂ sound₁ taken,
      alive_step alive₁ harmless stepped, more.trans (handed_step stepped)⟩, lower⟩
  exact ⟨as, s', run, more, resting⟩

/-- From rest, a frame of one camera goes through its callback into its slot. -/
theorem delivers {s : State} (resting : Resting s) (c : Camera) :
    ∃ as s', HarmlessRun s as s' ∧ Resting s' ∧ s'.handed = s.handed ∧
      s'.tempImg = Function.update s.tempImg c (some (s.nextInfo c)) := by
  have logMtx := resting.logMtx
  have mtx := resting.mtx
  refine ⟨_, _, .cons (a := .capture c 0) (.captured (resting.callback c)) trivial <|
    .cons (.cameraLockedLog logMtx (callback_setCallback_self s c _)) trivial <|
    .cons (.cameraTimed (callback_setCallback_self _ c _)) rfl <|
    .cons (.parsed (callback_setCallback_self _ c _)) rfl <|
    .cons (.cameraLocked mtx (callback_setCallback_self _ c _)) trivial <|
    .cons (.assigned (callback_setCallback_self _ c _)) trivial <| .nil _, ?_, rfl, rfl⟩
  refine ⟨fun d => ?_, resting.consumer, resting.log, rfl, rfl⟩
  by_cases same : d = c
  · subst same
    exact callback_setCallback_self _ d _
  · simp [State.assigned, State.setSlot, State.setMtx, State.setLogMtx, State.captured,
      State.setCallback, Function.update_of_ne same, resting.callback d]

/-- From rest with both slots full, the consumer gets past its two tests. -/
theorem finds_both {s : State} (resting : Resting s) (full0 : (s.tempImg camera0).isSome = true)
    (full1 : (s.tempImg camera1).isSome = true) :
    ∃ as s', HarmlessRun s as s' ∧ s'.consumer = .copying0 ∧ s'.tempImg = s.tempImg ∧
      s'.handed = s.handed :=
  ⟨_, _, .cons (.consumerLocked resting.mtx resting.consumer) trivial <|
    .cons (.tested0 rfl full0) trivial <| .cons (.tested1 rfl full1) trivial <| .nil _, rfl, rfl, rfl⟩

/-- The consumer behind its tests copies both images. -/
theorem copies_both {s : State} (place : s.consumer = .copying0) {info0 info1 : HImageExtraInfo}
    (slot0 : s.tempImg camera0 = some info0) (slot1 : s.tempImg camera1 = some info1) :
    ∃ as s', HarmlessRun s as s' ∧ s'.consumer = .clearing0 info0.image info1.image ∧
      s'.handed = s.handed :=
  ⟨_, _, .cons (.copied0 place slot0) rfl <|
    .cons (.copied1 (s := s.setConsumer (.copying1 info0.image)) rfl slot1) rfl <| .nil _, rfl, rfl⟩

/-- The consumer with both images empties the slots and leaves its section. -/
theorem leaves_section {s : State} {img0 img1 : HImage}
    (place : s.consumer = .clearing0 img0 img1) :
    ∃ as s', HarmlessRun s as s' ∧ s'.consumer = .calling img0 img1 ∧ s'.handed = s.handed :=
  ⟨_, _, .cons (.cleared0 place) trivial <| .cons (.cleared1 rfl) trivial <|
    .cons (.unlocked rfl) trivial <| .nil _, rfl, rfl⟩

/-- From rest with both slots full, the consumer takes both images. -/
theorem collects {s : State} (resting : Resting s) {info0 info1 : HImageExtraInfo}
    (slot0 : s.tempImg camera0 = some info0) (slot1 : s.tempImg camera1 = some info1) :
    ∃ as s', HarmlessRun s as s' ∧ s'.consumer = .calling info0.image info1.image ∧
      s'.handed = s.handed := by
  obtain ⟨as₁, s₁, test, place₁, slots₁, handed₁⟩ :=
    finds_both resting (by rw [slot0]; rfl) (by rw [slot1]; rfl)
  obtain ⟨as₂, s₂, copy, place₂, handed₂⟩ :=
    copies_both place₁ ((congrFun slots₁ _).trans slot0) ((congrFun slots₁ _).trans slot1)
  obtain ⟨as₃, s₃, leave, place₃, handed₃⟩ := leaves_section place₂
  exact ⟨_, s₃, test.append (copy.append leave), place₃, handed₃.trans (handed₂.trans handed₁)⟩

/-- The consumer with both images hands them over. -/
theorem hands_over {s : State} {img0 img1 : HImage} (place : s.consumer = .calling img0 img1) :
    ∃ as s', HarmlessRun s as s' ∧ s'.handed.length = s.handed.length + 1 := by
  refine ⟨_, _, .cons (a := .call (.ok 3)) (.called place) (by simp [Harmless]) (.nil _), ?_⟩
  rw [State.called, List.length_append, List.length_singleton]

/-- One pair more, from any state in which nothing has failed. -/
theorem hands_one_more {s : State} (sound : Sound s) (alive : Alive s) :
    ∃ as s', HarmlessRun s as s' ∧ s.handed.length < s'.handed.length := by
  obtain ⟨as₁, s₁, toRest, more, resting₁⟩ := comes_to_rest sound alive
  obtain ⟨as₂, s₂, deliver0, resting₂, handed₂, slots₂⟩ := delivers resting₁ camera0
  obtain ⟨as₃, s₃, deliver1, resting₃, handed₃, slots₃⟩ := delivers resting₂ camera1
  have slot0 : s₃.tempImg camera0 = some (s₁.nextInfo camera0) := by
    rw [slots₃, Function.update_of_ne (by decide), slots₂, Function.update_self]
  have slot1 : s₃.tempImg camera1 = some (s₂.nextInfo camera1) := by
    rw [slots₃, Function.update_self]
  obtain ⟨as₄, s₄, collect, calling, handed₄⟩ := collects resting₃ slot0 slot1
  obtain ⟨as₅, s₅, last, handed₅⟩ := hands_over calling
  refine ⟨_, s₅, toRest.append (deliver0.append (deliver1.append (collect.append last))), ?_⟩
  rw [handed₅, handed₄, handed₃, handed₂]
  omega

theorem hands_any_number {s : State} (sound : Sound s) (alive : Alive s) (n : Nat) :
    ∃ as s', HarmlessRun s as s' ∧ n ≤ s'.handed.length := by
  induction n with
  | zero => exact ⟨[], s, .nil s, Nat.zero_le _⟩
  | succ n ih =>
      obtain ⟨as, s₁, first, enough⟩ := ih
      obtain ⟨sound₁, alive₁⟩ := first.keeps sound alive
      obtain ⟨bs, s₂, second, more⟩ := hands_one_more sound₁ alive₁
      exact ⟨as ++ bs, s₂, first.append second, Nat.lt_of_le_of_lt enough more⟩

/-! ## After an exception the line stops -/

/-- No further frame of the camera gets past `log_mtx`: an exception has left its callback, or the owner
of the lock has left the section without releasing it. -/
def Stopped (s : State) (c : Camera) : Prop :=
  (∃ info, s.callback c = .ended info) ∨ ∃ t, s.logMtx = some t ∧ s.inLog t = false

/-- A callback behind its section under `log_mtx`. -/
def CallbackPc.past : CallbackPc → Nat
  | .parsing _ | .atLock _ | .assigning _ => 1
  | _ => 0

/-- A callback that has ended makes no step. -/
theorem callback_ended {s s' : State} {a : Action} (stepped : Stepped s a s') {c : Camera}
    {info : HImageExtraInfo} (ended : s.callback c = .ended info) : s'.callback c = .ended info := by
  have moved : ∀ d pc pc', s.callback d = pc → pc ≠ .ended info →
      (s.setCallback d pc').callback c = .ended info := by
    intro d pc pc' place other
    have apart : c ≠ d := by
      rintro rfl
      exact other (place.symm.trans ended)
    rw [callback_setCallback_ne s apart, ended]
  cases stepped with
  | captured pc => exact moved _ _ _ pc (by simp)
  | cameraLockedLog _ pc => exact moved _ _ _ pc (by simp)
  | cameraTimed pc => exact moved _ _ _ pc (by simp)
  | cameraTimeThrew pc => exact moved _ _ _ pc (by simp)
  | parsed pc => exact moved _ _ _ pc (by simp)
  | parseThrew pc => exact moved _ _ _ pc (by simp)
  | cameraLocked _ pc => exact moved _ _ _ pc (by simp)
  | assigned pc => exact moved _ _ .idle pc (by simp)
  | _ => exact ended

theorem stopped_step {s s' : State} {a : Action} (sound : Sound s) (stepped : Stepped s a s')
    {c : Camera} (stopped : Stopped s c) : Stopped s' c := by
  rcases stopped with ⟨info, ended⟩ | ⟨t, owner, left⟩
  · exact .inl ⟨info, callback_ended stepped ended⟩
  · obtain ⟨_, _, move, _⟩ := log_moves stepped
    have same : s'.logLock = s.logLock := move.orphaned sound.log owner left
    exact .inr ⟨t, (congrArg Mutex.owner same).trans owner,
      (congrFun (congrArg Mutex.inside same) t).trans left⟩

/-- Nobody is inside a section whose lock has been abandoned. -/
theorem Stopped.not_timing {s : State} (sound : Sound s) {c : Camera} (stopped : Stopped s c)
    {info : HImageExtraInfo} : s.callback c ≠ .timing info := by
  intro place
  rcases stopped with ⟨_, ended⟩ | ⟨t, owner, left⟩
  · cases place.symm.trans ended
  · have inside : s.inLog (.camera c) = true := by simp [State.inLog, place, CallbackPc.inLog]
    have same : t = .camera c := Option.some.inj (owner.symm.trans (sound.log (.camera c) inside))
    rw [same, inside] at left
    cases left

theorem past_setCallback {s : State} {d : Camera} {pc : CallbackPc} (place : s.callback d = pc)
    (pc' : CallbackPc) (le : pc'.past ≤ pc.past) (c : Camera) :
    ((s.setCallback d pc').callback c).past ≤ (s.callback c).past := by
  by_cases same : c = d
  · subst same
    rwa [callback_setCallback_self, place]
  · rw [callback_setCallback_ne s same]

theorem past_step {s s' : State} {a : Action} (sound : Sound s) (stepped : Stepped s a s')
    {c : Camera} (stopped : Stopped s c) : (s'.callback c).past ≤ (s.callback c).past := by
  cases stepped with
  | @captured d _ pc => exact past_setCallback pc (.atLogLock (s.nextInfo d)) (Nat.le_refl 0) c
  | @cameraLockedLog _ info _ pc => exact past_setCallback pc (.timing info) (Nat.le_refl 0) c
  | @cameraTimed d info pc =>
      have apart : c ≠ d := by
        rintro rfl
        exact stopped.not_timing sound pc
      exact Nat.le_of_eq (congrArg CallbackPc.past (callback_setCallback_ne s apart (.parsing info)))
  | @cameraTimeThrew _ info _ pc => exact past_setCallback pc (.ended info) (Nat.le_refl 0) c
  | @parsed _ info pc => exact past_setCallback pc (.atLock info) (Nat.le_refl 1) c
  | @parseThrew _ info _ pc => exact past_setCallback pc (.ended info) (Nat.zero_le 1) c
  | @cameraLocked _ info _ pc => exact past_setCallback pc (.assigning info) (Nat.le_refl 1) c
  | assigned pc => exact past_setCallback pc .idle (Nat.zero_le 1) c
  | _ => exact Nat.le_refl _

/-- The pairs handed over and those that can still follow with the frames of one camera that have got
past `log_mtx`. -/
def State.potential (s : State) (c : Camera) : Nat :=
  s.handed.length + s.abs.taken.isSome.toNat + (s.abs.tempImg c).isSome.toNat + (s.callback c).past

/-- A frame of a stopped camera moves on or is overwritten; none is added. -/
theorem potential_step {s s' : State} {a : Action} (sound : Sound s) (stepped : Stepped s a s')
    {c : Camera} (stopped : Stopped s c) : s'.potential c ≤ s.potential c := by
  have past := past_step sound stepped stopped
  have handed : s'.abs.handed = s'.handed := rfl
  unfold State.potential
  rcases abs_step sound stepped with same | ⟨b, atomic, taken⟩
  · rw [← handed, same]
    exact Nat.add_le_add_left past _
  · rw [← handed]
    generalize s'.abs = abs' at taken
    cases Loader.stepped_of_step taken with
    | copied => exact Nat.add_le_add_left past _
    | @stored d info pending =>
        have own : info.cameraId = d := sound.own d info pending
        by_cases same : c = d
        · -- the frame goes from the callback into the slot
          subst same
          cases a <;> cases atomic
          cases stepped with
          | @assigned _ stored pc =>
              have after : ((s.assigned c stored).callback c).past = 0 :=
                congrArg CallbackPc.past (callback_setCallback_self s c .idle)
              have before : (s.callback c).past = 1 := congrArg CallbackPc.past pc
              rw [after, before]
              have slot : ((s.abs.stored c info).tempImg c).isSome.toNat ≤ 1 := Bool.toNat_le _
              show s.handed.length + s.abs.taken.isSome.toNat + _ + 0 ≤ _
              omega
        · have kept : (s.abs.stored d info).tempImg c = s.abs.tempImg c := by
            rw [← own] at same
            exact Function.update_of_ne same _ _
          rw [kept]
          exact Nat.add_le_add_left past _
    | @tookBoth info0 info1 noneTaken slot0 slot1 =>
        have full : s.abs.tempImg c ≠ none := by
          match c with
          | 0 => exact slot0 ▸ Option.some_ne_none info0
          | 1 => exact slot1 ▸ Option.some_ne_none info1
        obtain ⟨info, slot⟩ := Option.ne_none_iff_exists'.1 full
        rw [noneTaken, slot]
        simp only [Loader.State.tookBoth, Option.isSome_some, Option.isSome_none, Bool.toNat_true,
          Bool.toNat_false]
        show s.handed.length + _ + _ + _ ≤ _
        omega
    | tookNone => exact Nat.add_le_add_left past _
    | @called img0 img1 images =>
        rw [images]
        simp only [Loader.State.called, Option.isSome_some, Option.isSome_none, Bool.toNat_true,
          Bool.toNat_false, List.length_append, List.length_singleton]
        show s.handed.length + 1 + 0 + _ + _ ≤ s.handed.length + 1 + _ + _
        omega

/-- A consumer that has ended hands nothing over. -/
theorem consumer_ended {s s' : State} {a : Action} (stepped : Stepped s a s')
    (ended : s.consumer = .ended) : s'.consumer = .ended ∧ s'.handed = s.handed := by
  cases stepped with
  | consumerLockedLog _ pc => cases ended.symm.trans pc
  | consumerTimed pc => cases ended.symm.trans pc
  | consumerTimeThrew pc => cases ended.symm.trans pc
  | consumerLocked _ pc => cases ended.symm.trans pc
  | tested0 pc => cases ended.symm.trans pc
  | tested1 pc => cases ended.symm.trans pc
  | testedEmpty pc => rcases pc with ⟨pc, _⟩ | ⟨pc, _⟩ <;> cases ended.symm.trans pc
  | copied0 pc => cases ended.symm.trans pc
  | copied1 pc => cases ended.symm.trans pc
  | copyCrashed pc => rcases pc with ⟨pc, _⟩ | ⟨_, pc, _⟩ <;> cases ended.symm.trans pc
  | copyThrew pc => rcases pc with pc | ⟨_, pc⟩ <;> cases ended.symm.trans pc
  | cleared0 pc => cases ended.symm.trans pc
  | cleared1 pc => cases ended.symm.trans pc
  | unlocked pc => cases ended.symm.trans pc
  | called pc => cases ended.symm.trans pc
  | finished pc => rw [ended] at pc; cases pc
  | finishThrew pc => rw [ended] at pc; cases pc
  | _ => exact ⟨ended, rfl⟩

/-- At most `n` pairs will have been handed over, whatever follows. -/
def Bounded (n : Nat) (s : State) : Prop :=
  s.consumer = .ended ∧ s.handed.length ≤ n ∨ ∃ c, Stopped s c ∧ s.potential c ≤ n

theorem bounded_step {n : Nat} {s s' : State} {a : Action} (sound : Sound s) (bounded : Bounded n s)
    (stepped : Stepped s a s') : Bounded n s' := by
  rcases bounded with ⟨ended, few⟩ | ⟨c, stopped, few⟩
  · obtain ⟨ended', same⟩ := consumer_ended stepped ended
    exact .inl ⟨ended', same ▸ few⟩
  · exact .inr ⟨c, stopped_step sound stepped stopped,
      (potential_step sound stepped stopped).trans few⟩

theorem bounded_run {n : Nat} {s s' : State} {as : List Action} (sound : Sound s)
    (bounded : Bounded n s) (run : Run step Free s as s') : s'.handed.length ≤ n := by
  obtain ⟨_, kept⟩ : Sound s' ∧ Bounded n s' := by
    refine run.invariant (I := fun s => Sound s ∧ Bounded n s) ?_ ⟨sound, bounded⟩
    intro s a s' ⟨sound, bounded⟩ _ taken
    exact ⟨sound_step s a s' sound taken, bounded_step sound bounded (stepped_of_step taken)⟩
  rcases kept with ⟨_, few⟩ | ⟨c, _, few⟩
  · exact few
  · unfold State.potential at few
    omega

theorem potential_le_of_past {s : State} {c : Camera} (past : (s.callback c).past = 0) :
    s.potential c ≤ s.handed.length + 2 := by
  have taken := Bool.toNat_le s.abs.taken.isSome
  have slot := Bool.toNat_le (s.abs.tempImg c).isSome
  unfold State.potential
  omega

theorem potential_le_of_taken {s : State} (taken : s.consumer.taken = none) (c : Camera) :
    s.potential c ≤ s.handed.length + 2 := by
  have none : s.abs.taken.isSome.toNat = 0 := by
    show s.consumer.taken.isSome.toNat = 0
    rw [taken]
    rfl
  have slot := Bool.toNat_le (s.abs.tempImg c).isSome
  have past : (s.callback c).past ≤ 1 := by
    cases s.callback c <;> simp [CallbackPc.past]
  unfold State.potential
  omega

/-- What an exception leaves: a consumer that has ended, or a camera that is stopped. -/
theorem bounded_of_fault {s s' : State} {a : Action} (sound : Sound s) (stepped : Stepped s a s')
    (fault : ¬ Harmless a) : Bounded (s'.handed.length + 2) s' := by
  have endsConsumer : s'.consumer = .ended → Bounded (s'.handed.length + 2) s' :=
    fun ended => .inl ⟨ended, Nat.le_add_right _ _⟩
  have endsCamera : ∀ c info, s'.callback c = .ended info → Bounded (s'.handed.length + 2) s' :=
    fun c info ended => .inr ⟨c, .inl ⟨info, ended⟩,
      potential_le_of_past (congrArg CallbackPc.past ended)⟩
  cases stepped with
  | @cameraTimeThrew c info => exact endsCamera c info (callback_setCallback_self s c _)
  | @parseThrew c info => exact endsCamera c info (callback_setCallback_self s c _)
  | @consumerTimeThrew e pc =>
      -- the lock stays with the consumer, which is no longer inside
      have owner : s.logMtx = some .consumer :=
        sound.log .consumer (by simp [State.logLock, State.inLog, pc, ConsumerPc.inLog])
      exact .inr ⟨camera0, .inr ⟨.consumer, owner, (outside_handler e).log⟩,
        potential_le_of_taken (taken_handler e) camera0⟩
  | copyThrew => exact endsConsumer rfl
  | @called _ _ result =>
      have raised : result = .error .hException := not_not.1 fault
      subst raised
      exact endsConsumer rfl
  | @finishThrew _ e =>
      have raised : some e = some .hException := not_not.1 fault
      cases raised
      exact endsConsumer rfl
  | cameraTimed | consumerTimed | parsed | copied0 | copied1 | copyCrashed => exact absurd rfl fault
  | finished => exact absurd (by simp [Harmless]) fault
  | _ => exact absurd trivial fault

/-- What a run leaves: everything alive, or a bound. -/
structure Traced (as : List Action) (s : State) : Prop where
  sound : Sound s
  alive : (∀ a ∈ as, Harmless a) → Alive s
  bounded : (∃ a ∈ as, ¬ Harmless a) → ∃ n, Bounded n s

theorem traced_step {past : List Action} {s s' : State} {a : Action} (traced : Traced past s)
    (taken : step s a = some s') : Traced (past ++ [a]) s' := by
  have stepped := stepped_of_step taken
  refine ⟨sound_step s a s' traced.sound taken, fun harmless => ?_, ?_⟩
  · have earlier : ∀ b ∈ past, Harmless b := fun b found =>
      harmless b (List.mem_append_left _ found)
    exact alive_step (traced.alive earlier)
      (harmless a (List.mem_append_right _ (List.mem_singleton_self a))) stepped
  · rintro ⟨b, found, fault⟩
    rcases List.mem_append.1 found with earlier | last
    · obtain ⟨n, bounded⟩ := traced.bounded ⟨b, earlier, fault⟩
      exact ⟨n, bounded_step traced.sound bounded stepped⟩
    · rw [List.mem_singleton.1 last] at fault
      exact ⟨_, bounded_of_fault traced.sound stepped fault⟩

theorem traced_run {as : List Action} {s : State} (run : Run step Free State.init as s) :
    Traced as s :=
  run.invariant_trace (I := Traced) (fun _ _ _ _ traced _ => traced_step traced)
    (show Traced [] State.init from ⟨sound_init, fun _ => alive_init, by simp⟩)

/-- One pair is being pulsed, both slots are full again and both callbacks are past `log_mtx`. -/
def crowded : List Action :=
  frame camera0 ++ frame camera1 ++ takes ++ [.call (.ok 0)] ++ frame camera0 ++ frame camera1 ++
    (frame camera0).take 4 ++ (frame camera1).take 4 ++ [.finish none, .lockLog .consumer]

/-- `GetSystemTime` raises a `std::exception` in the consumer: the loop goes on, the lock stays taken. -/
def timeFault : Action := .time .consumer (some .stdException)

/-- What can still follow: the pair in the slots and the pair of the two callbacks. -/
def leftovers : List Action :=
  takes ++ [.call (.ok 3), .finish none] ++ (frame camera0).drop 4 ++ (frame camera1).drop 4 ++ takes ++
    [.call (.ok 3)]

/-- The bound is reached: one pair before the fault and two behind it. -/
example : (exec step Free State.init (crowded ++ [timeFault])).map (fun s => s.handed.length) = some 1 ∧
    (exec step Free State.init (crowded ++ timeFault :: leftovers)).map
      (fun s => s.handed.length) = some 3 := by
  decide +kernel

end TizerVision.Loader.Locks
