/-
# Loader.Atomic — the sections of the loader are atomic

The state of `Loader.Pairing` is read off the state of `Loader.Locks`: an image is being stored from the
copy of its status string to its slot assignment, and a pair is taken from the moment the consumer empties
the first slot.  `mtx` then makes every section one step.

* `refines_pairing` — whatever the interleaving, the handovers are those of a run of `Loader.Pairing`,
  and the consumer never reads an image through an empty slot.
* `in_step_handovers_agree` — so the pairs agree while the cameras stay in step.
-/
import TizerVision.Loader.Locks

namespace TizerVision.Loader.Locks

open TizerVision.Theory

set_option autoImplicit false

/-! ## The atomic steps behind the statements -/

/-- The pair the consumer has taken and not yet handed over.  It counts as taken from the moment the
first slot is emptied. -/
def ConsumerPc.taken : ConsumerPc → Option (HImage × HImage)
  | .clearing1 img0 img1 | .calling img0 img1 => some (img0, img1)
  | .unlocking images => images
  | _ => none

/-- The slots as the other threads will find them. -/
def ConsumerPc.slots (tempImg : Camera → Option HImageExtraInfo) :
    ConsumerPc → Camera → Option HImageExtraInfo
  | .clearing1 _ _ => fun _ => none
  | _ => tempImg

def State.storing (s : State) (c : Camera) : Option HImageExtraInfo := (s.callback c).storing

/-- The state of `Loader.Pairing` that the statements implement. -/
def State.abs (s : State) : Loader.State where
  capturedId := s.capturedId
  tempIn0 := s.tempIn0
  storing := s.storing
  tempImg := s.consumer.slots s.tempImg
  taken := s.consumer.taken
  handed := s.handed

theorem storing_setCallback (s : State) (c : Camera) (pc : CallbackPc) :
    (s.setCallback c pc).storing = Function.update s.storing c pc.storing := by
  funext d
  by_cases same : d = c
  · subst same
    simp [State.storing, State.setCallback]
  · simp [State.storing, State.setCallback, Function.update_of_ne same]

theorem slots_of_outside {pc : ConsumerPc} (outside : pc.inMtx = false)
    (tempImg : Camera → Option HImageExtraInfo) : pc.slots tempImg = tempImg := by
  cases pc <;> first | rfl | cases outside

/-- A callback that moves on with its image, seen from `Loader.Pairing`. -/
theorem abs_setCallback {s : State} {c : Camera} {pc pc' : CallbackPc} (place : s.callback c = pc)
    (same : pc'.storing = pc.storing) : (s.setCallback c pc').abs = s.abs := by
  have storing : (s.setCallback c pc').storing = s.storing := by
    rw [storing_setCallback]
    exact Function.update_eq_self_iff.2 (same.trans (congrArg CallbackPc.storing place.symm))
  show ({ s.abs with storing := (s.setCallback c pc').storing } : Loader.State) = s.abs
  rw [storing]
  rfl

/-- A consumer that moves on and keeps what it has taken, seen from `Loader.Pairing`. -/
theorem abs_setConsumer {s : State} {pc pc' : ConsumerPc} (place : s.consumer = pc)
    (taken : pc'.taken = pc.taken) (slots : pc'.slots s.tempImg = pc.slots s.tempImg) :
    (s.setConsumer pc').abs = s.abs := by
  show ({ s.abs with tempImg := pc'.slots s.tempImg, taken := pc'.taken } : Loader.State) = s.abs
  rw [taken, slots, ← place]
  rfl

theorem taken_handler (e : Thrown) : (handler e).taken = none := by cases e <;> rfl

theorem taken_afterPoll (images : Option (HImage × HImage)) :
    (afterPoll images).taken = images := by cases images <;> rfl

theorem taken_afterCall (result : Except Thrown Int) : (afterCall result).taken = none := by
  cases result with
  | error e => exact taken_handler e
  | ok status =>
      simp only [afterCall]
      split <;> rfl

theorem taken_afterReturn {pc next : ConsumerPc} (returns : pc.afterReturn = some next) :
    pc.taken = none ∧ next.taken = none := by
  cases pc <;> cases returns <;> exact ⟨rfl, rfl⟩

/-- A callback starts only when its camera's previous image has been taken and no taken pair is still
waiting to be handed over. -/
def InStep (s : State) : Action → Prop
  | .capture c _ => s.tempImg c = none ∧ s.consumer.taken = none
  | _ => True

instance (s : State) : (a : Action) → Decidable (InStep s a)
  | .capture c _ => inferInstanceAs (Decidable (s.tempImg c = none ∧ s.consumer.taken = none))
  | .lockLog _ | .time _ _ | .writeLog | .parse _ _ | .lock _ | .assign _ | .test | .copy _ | .clear |
    .unlock | .call _ | .finish _ => inferInstanceAs (Decidable True)

/-- The slot assignment under `mtx` is the one step of `Loader.Pairing`. -/
theorem abs_assigned {s : State} (sound : Sound s) {c : Camera} {info : HImageExtraInfo}
    (pc : s.callback c = .assigning info) : (s.assigned c info).abs = s.abs.stored c info := by
  have slots := slots_of_outside (sound.consumer_outside pc)
  simp only [State.abs, Loader.State.stored, Loader.State.mk.injEq]
  refine ⟨rfl, rfl, storing_setCallback s c .idle, ?_, rfl, rfl⟩
  show s.consumer.slots (Function.update s.tempImg info.cameraId (some info)) = _
  rw [slots, slots]

/-- The first slot is emptied: the poll of `Loader.Pairing` that finds both images. -/
theorem take_cleared0 {s : State} (sound : Sound s) {img0 img1 : HImage}
    (pc : s.consumer = .clearing0 img0 img1) :
    Loader.step s.abs .take = some (s.cleared camera0 (.clearing1 img0 img1)).abs := by
  have fits := sound.fits
  rw [pc] at fits
  obtain ⟨info0, slot0, rfl⟩ := Option.map_eq_some_iff.1 fits.1
  obtain ⟨info1, slot1, rfl⟩ := Option.map_eq_some_iff.1 fits.2
  have taken : s.abs.taken = none := congrArg ConsumerPc.taken pc
  have abs0 : s.abs.tempImg 0 = some info0 := by
    show s.consumer.slots s.tempImg camera0 = some info0
    rw [pc]
    exact slot0
  have abs1 : s.abs.tempImg 1 = some info1 := by
    show s.consumer.slots s.tempImg camera1 = some info1
    rw [pc]
    exact slot1
  simp only [Loader.step, takeImages, taken, abs0, abs1]
  rfl

/-- The second slot is emptied: nothing that `Loader.Pairing` sees. -/
theorem abs_cleared1 {s : State} (sound : Sound s) {img0 img1 : HImage}
    (pc : s.consumer = .clearing1 img0 img1) :
    (s.cleared camera1 (.unlocking (some (img0, img1)))).abs = s.abs := by
  have first : s.tempImg camera0 = none := by simpa [pc, ConsumerPc.Fits] using sound.fits
  have empty : Function.update s.tempImg camera1 none = fun _ => none := by
    funext c
    match c with
    | 0 => exact (Function.update_of_ne (by decide) _ _).trans first
    | 1 => exact Function.update_self camera1 none s.tempImg
  simp only [State.abs, Loader.State.mk.injEq]
  refine ⟨rfl, rfl, rfl, ?_, ?_, rfl⟩
  · rw [pc]
    exact empty
  · rw [pc]
    rfl

/-- The step of `Loader.Pairing` that an action can be. -/
def Action.atomic : Action → Option Loader.Action
  | .capture c msec => some (.callback c msec)
  | .assign c => some (.store c)
  | .clear => some .take
  | .call _ => some .call
  | _ => none

/-- **What `Loader.Pairing` sees of a step**: nothing, or one of its own steps. -/
theorem abs_step {s s' : State} {a : Action} (sound : Sound s) (stepped : Stepped s a s') :
    s'.abs = s.abs ∨
      ∃ b, a.atomic = some b ∧ Loader.step s.abs b = some s'.abs := by
  cases stepped with
  | @captured c msec pc =>
      refine .inr ⟨.callback c msec, rfl, ?_⟩
      have idle : s.abs.storing c = none := by simp [State.abs, State.storing, pc, CallbackPc.storing]
      simp only [Loader.step, imageCallBackEx, idle, Option.some.injEq]
      simp only [State.abs, Loader.State.copied, Loader.State.mk.injEq]
      exact ⟨rfl, rfl, (storing_setCallback s c (.atLogLock (s.nextInfo c))).symm, rfl, rfl, rfl⟩
  | @cameraLockedLog c info _ pc => exact .inl (abs_setCallback pc rfl)
  | consumerLockedLog _ pc => exact .inl (abs_setConsumer pc rfl rfl)
  | logLockedLog => exact .inl rfl
  | @cameraTimed c info pc => exact .inl (abs_setCallback pc rfl)
  | @cameraTimeThrew c info _ pc => exact .inl (abs_setCallback pc rfl)
  | consumerTimed pc => exact .inl (abs_setConsumer pc rfl rfl)
  | @consumerTimeThrew e pc =>
      exact .inl (abs_setConsumer pc (taken_handler e)
        (slots_of_outside (outside_handler e).mtx _))
  | logWritten => exact .inl rfl
  | @parsed c info pc => exact .inl (abs_setCallback pc rfl)
  | @parseThrew c info _ pc => exact .inl (abs_setCallback pc rfl)
  | @cameraLocked c info _ pc => exact .inl (abs_setCallback pc rfl)
  | consumerLocked _ pc => exact .inl (abs_setConsumer pc rfl rfl)
  | @assigned c info pc =>
      refine .inr ⟨.store c, rfl, ?_⟩
      have pending : s.abs.storing c = some info := by
        simp [State.abs, State.storing, pc, CallbackPc.storing]
      simp only [Loader.step, storeImage, pending, abs_assigned sound pc]
  | tested0 pc => exact .inl (abs_setConsumer pc rfl rfl)
  | tested1 pc => exact .inl (abs_setConsumer pc rfl rfl)
  | testedEmpty pc =>
      rcases pc with ⟨pc, _⟩ | ⟨pc, _⟩ <;> exact .inl (abs_setConsumer pc rfl rfl)
  | copied0 pc => exact .inl (abs_setConsumer pc rfl rfl)
  | copied1 pc => exact .inl (abs_setConsumer pc rfl rfl)
  | copyCrashed pc =>
      rcases pc with ⟨pc, _⟩ | ⟨_, pc, _⟩ <;> exact .inl (abs_setConsumer pc rfl rfl)
  | copyThrew pc =>
      rcases pc with pc | ⟨_, pc⟩ <;> exact .inl (abs_setConsumer pc rfl rfl)
  | cleared0 pc => exact .inr ⟨.take, rfl, take_cleared0 sound pc⟩
  | cleared1 pc => exact .inl (abs_cleared1 sound pc)
  | @unlocked images pc =>
      exact .inl (abs_setConsumer pc (taken_afterPoll images)
        (slots_of_outside (outside_afterPoll images).mtx _))
  | @called img0 img1 result pc =>
      refine .inr ⟨.call, rfl, ?_⟩
      have images : s.abs.taken = some (img0, img1) := congrArg ConsumerPc.taken pc
      simp only [Loader.step, callHalcon, images, Option.some.injEq]
      simp only [State.abs, Loader.State.called, Loader.State.mk.injEq]
      refine ⟨rfl, rfl, rfl, ?_, (taken_afterCall result).symm, rfl⟩
      rw [pc]
      exact (slots_of_outside (outside_afterCall result).mtx s.tempImg).symm
  | finished pc =>
      obtain ⟨before, after⟩ := outside_afterReturn pc
      obtain ⟨none0, none1⟩ := taken_afterReturn pc
      exact .inl (abs_setConsumer rfl (none1.trans none0.symm)
        ((slots_of_outside after.mtx _).trans (slots_of_outside before.mtx _).symm))
  | @finishThrew _ e pc =>
      obtain ⟨before, _⟩ := outside_afterReturn pc
      obtain ⟨none0, _⟩ := taken_afterReturn pc
      exact .inl (abs_setConsumer rfl ((taken_handler e).trans none0.symm)
        ((slots_of_outside (outside_handler e).mtx _).trans (slots_of_outside before.mtx _).symm))

theorem inStep_abs {s : State} {a : Action} {b : Loader.Action} (inStep : InStep s a)
    (atomic : a.atomic = some b) : Loader.InStep s.abs b := by
  cases a <;> cases atomic <;> try trivial
  obtain ⟨slot, taken⟩ := inStep
  refine ⟨?_, taken⟩
  show s.consumer.slots s.tempImg _ = none
  cases s.consumer <;> first | exact slot | rfl

/-- Every run is one of `Loader.Pairing`, and one in step is one in step. -/
theorem abs_run {as : List Action} {s : State} {ok : State → Action → Prop}
    {ok' : Loader.State → Loader.Action → Prop}
    (met : ∀ s a b, ok s a → a.atomic = some b → ok' s.abs b)
    (run : Run step ok State.init as s) : ∃ bs, Run Loader.step ok' Loader.State.init bs s.abs := by
  refine run.simulate State.abs (fun s a s' sound _ => sound_step s a s' sound) ?_ sound_init
  intro s a s' sound allowed taken
  rcases abs_step sound (stepped_of_step taken) with same | ⟨b, atomic, stepped⟩
  · exact ⟨[], same ▸ .nil _⟩
  · exact ⟨[b], .cons (met s a b allowed atomic) stepped (.nil _)⟩

/-- **The sections are atomic.**  Whatever the interleaving of the statements and whatever the calls
raise, the images handed over, and the status strings with them, are those of a run of the atomic steps
of `Loader.Pairing`; and the consumer never calls `get_image()` on an empty slot. -/
theorem refines_pairing (as : List Action) (s : State) (run : Run step Free State.init as s) :
    s.consumer ≠ .crashed ∧
      ∃ bs s₀, Run Loader.step Free Loader.State.init bs s₀ ∧ s₀.handed = s.handed := by
  have sound : Sound s := run.invariant (fun s a s' sound _ => sound_step s a s' sound) sound_init
  refine ⟨fun crashed => ?_, ?_⟩
  · have fits := sound.fits
    rwa [crashed] at fits
  · obtain ⟨bs, atomic⟩ : ∃ bs, Run Loader.step Free Loader.State.init bs s.abs :=
      abs_run (fun _ _ _ _ _ => trivial) run
    exact ⟨bs, s.abs, atomic, rfl⟩

/-- **Pairs agree while the cameras stay in step**, statement by statement. -/
theorem in_step_handovers_agree {as : List Action} {s : State}
    (run : Run step InStep State.init as s) : ∀ h ∈ s.handed, h.Agrees := by
  obtain ⟨bs, atomic⟩ := abs_run (fun _ _ _ => inStep_abs) run
  exact (atomic.invariant aligned_step aligned_init).agree

/-- A frame of a camera, from its callback into its slot. -/
def frame (c : Camera) : List Action :=
  [.capture c 0, .lockLog (.camera c), .time (.camera c) none, .parse c none, .lock (.camera c),
    .assign c]

/-- A poll that finds both images. -/
def takes : List Action :=
  [.lock .consumer, .test, .test, .copy none, .copy none, .clear, .clear, .unlock]

/-- Two pairs: the callbacks of the second overlap, while the consumer pulses the first and logs. -/
def twoPairs : List Action :=
  frame camera0 ++ frame camera1 ++ takes ++ [.call (.ok 0), .capture camera1 5, .finish none,
    .lockLog .consumer, .capture camera0 6, .time .consumer none] ++ (frame camera0).drop 1 ++
    [.finish none] ++ (frame camera1).drop 1 ++ [.finish none] ++ takes ++ [.call (.ok 1)]

theorem refines_pairing_twice : ∃ s, Run step Free State.init twoPairs s ∧ s.handed.length = 2 ∧
    s.consumer ≠ .crashed ∧ ∃ bs s₀, Run Loader.step Free Loader.State.init bs s₀ ∧ s₀.handed = s.handed := by
  obtain ⟨s, run, two⟩ := exists_run_of_exec step Free State.init twoPairs
    (fun s => s.handed.length) (b := 2) (by decide +kernel)
  exact ⟨s, run, two, refines_pairing twoPairs s run⟩

theorem in_step_handovers_agree_twice : ∃ s, Run step InStep State.init twoPairs s ∧
    s.handed.length = 2 ∧ ∀ h ∈ s.handed, h.Agrees := by
  obtain ⟨s, run, two⟩ := exists_run_of_exec step InStep State.init twoPairs
    (fun s => s.handed.length) (b := 2) (by decide +kernel)
  exact ⟨s, run, two, in_step_handovers_agree run⟩

end TizerVision.Loader.Locks
