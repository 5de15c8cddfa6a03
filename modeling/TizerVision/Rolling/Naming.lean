/-
# Rolling.Naming — the image a success message names

A success message names its image by `g_id`, which the polling loop reads after it has read the status
word.  `ImageConcatProc` assigns `g_id` at the start of each round, long before the image of that round
is written.  If a round starts while the success of the one before is unread, or read but not yet
named, the message names an image that does not exist yet (`next_image_named`); and if the clock gives
the new round the name of an image whose message is not yet sent, that image is written over.

In every run in which no round takes its time stamp at such a moment, each success message names a
completely written image, the one of the round it reports (`stamped_names_right`).
-/
import TizerVision.Rolling.Machine

namespace TizerVision.Rolling

open TizerVision.Theory

set_option autoImplicit false

/-! ## The property -/

/-- Every success message named, when it was passed on, the complete image of its round. -/
def NamedRight (s : State) : Prop :=
  ∀ m ∈ s.sent, m.status = .success → m.named = .complete m.round

/-! ## The condition -/

/-- No success in hand depends on `g_id`, or on the file that is about to be written. -/
def PollPc.mayStamp (file : String) : PollPc → Bool
  | .read => true
  | .clear concatStatus _ => concatStatus ≠ .success
  | .name concatStatus _ => concatStatus ≠ .success
  | .send concatStatus imageStr _ => concatStatus ≠ .success || imageStr ++ ".jpg" ≠ file

/-- A round takes its time stamp only while no success is unread, none is read but not named, and the
new file is not the one a message in hand names. -/
def StampFree (cfg : Config) (s : State) : Action → Prop
  | .concat now _ =>
      s.concat = .stamp →
        s.concatImageStatus ≠ .success ∧ s.poll.mayStamp (cfg.fileName now) = true
  | .grab _ => True
  | .poll => True

instance (cfg : Config) (s : State) : (a : Action) → Decidable (StampFree cfg s a)
  | .concat now _ => inferInstanceAs (Decidable (s.concat = .stamp →
      s.concatImageStatus ≠ .success ∧ s.poll.mayStamp (cfg.fileName now) = true))
  | .grab _ => inferInstanceAs (Decidable True)
  | .poll => inferInstanceAs (Decidable True)

/-! ## The invariant -/

/-- The round is between its time stamp and its outcome. -/
def ConcatPc.writes : ConcatPc → Bool
  | .copy _ => true
  | .stitch => true
  | .beginWrite => true
  | .endWrite => true
  | .markSuccess => true
  | .markThrown => true
  | _ => false

/-- `g_id` names the complete image of round `r`, which is the last one begun. -/
def IdNames (cfg : Config) (s : State) (r : Nat) : Prop :=
  s.concat.writes = false ∧ r = s.round ∧ s.files (cfg.fileName s.id) = .complete r

/-- What the polling loop has in hand is right. -/
def InHandRight (cfg : Config) (s : State) : Prop :=
  match s.poll with
  | .read => True
  | .clear concatStatus r => concatStatus = .success → IdNames cfg s r
  | .name concatStatus r => concatStatus = .success → IdNames cfg s r
  | .send concatStatus imageStr r => concatStatus = .success →
      s.files (imageStr ++ ".jpg") = .complete r ∧
        (s.concat.writes = true → imageStr ++ ".jpg" ≠ cfg.fileName s.id)

structure Named (cfg : Config) (s : State) : Prop where
  word : s.concatImageStatus = .success → IdNames cfg s s.statusRound
  inHand : InHandRight cfg s
  written : s.concat = .markSuccess → s.files (cfg.fileName s.id) = .complete s.round
  right : NamedRight s

variable {cfg : Config} {s s' : State}

theorem named_init : Named cfg State.init :=
  ⟨fun off => (by cases off), trivial, fun off => (by cases off), fun _ member => (by cases member)⟩

/-- A step that ends outside the writing, with `g_id` and the files as they were and no new success. -/
theorem named_moved (named : Named cfg s) (idle' : s'.concat.writes = false)
    (poll : s'.poll = s.poll) (files : s'.files = s.files) (id : s'.id = s.id)
    (round : s'.round = s.round) (sent : s'.sent = s.sent)
    (word : s'.concatImageStatus = .success →
      s.concatImageStatus = .success ∧ s'.statusRound = s.statusRound) : Named cfg s' := by
  have kept {r : Nat} (names : IdNames cfg s r) : IdNames cfg s' r := by
    refine ⟨idle', ?_, ?_⟩
    · rw [round]
      exact names.2.1
    · rw [files, id]
      exact names.2.2
  refine ⟨fun on => ?_, ?_, fun at_ => ?_, ?_⟩
  · obtain ⟨before, same⟩ := word on
    rw [same]
    exact kept (named.word before)
  · have inHand := named.inHand
    unfold InHandRight at inHand ⊢
    rw [poll]
    cases at_ : s.poll with
    | read => trivial
    | clear concatStatus r =>
        rw [at_] at inHand
        exact fun on => kept (inHand on)
    | name concatStatus r =>
        rw [at_] at inHand
        exact fun on => kept (inHand on)
    | send concatStatus imageStr r =>
        rw [at_] at inHand
        refine fun on => ⟨?_, fun busy => ?_⟩
        · rw [files]
          exact (inHand on).1
        · rw [idle'] at busy
          cases busy
  · rw [at_] at idle'
    cases idle'
  · unfold NamedRight
    rw [sent]
    exact named.right

/-- The scans of the results, before and after a round. -/
theorem named_scan (named : Named cfg s) {grabResults : Nat → GrabStatus} {next : ConcatPc}
    (outside : next.writes = false) :
    Named cfg { s with grabResults := grabResults, concat := next } :=
  named_moved named outside rfl rfl rfl rfl rfl fun on => ⟨on, rfl⟩

/-- A round that fails. -/
theorem named_fail (named : Named cfg s) {outcomes : List ConcatStatus} {next : ConcatPc}
    (outside : next.writes = false) :
    Named cfg { s with
      concatImageStatus := .fail
      statusRound := s.round
      outcomes := outcomes
      concat := next } :=
  named_moved named outside rfl rfl rfl rfl rfl fun on => (by cases on)

/-- While a round writes, no success waits for `g_id`. -/
theorem no_success_of_writes (named : Named cfg s) (busy : s.concat.writes = true) :
    s.concatImageStatus ≠ .success ∧
      ∀ r, s.poll ≠ .clear .success r ∧ s.poll ≠ .name .success r := by
  have never {r : Nat} (names : IdNames cfg s r) : False := by
    rw [names.1] at busy
    cases busy
  have inHand := named.inHand
  unfold InHandRight at inHand
  refine ⟨fun on => never (named.word on), fun r => ⟨fun at_ => ?_, fun at_ => ?_⟩⟩
  · rw [at_] at inHand
    exact never (inHand rfl)
  · rw [at_] at inHand
    exact never (inHand rfl)

/-- What is in hand stays right when no success waits for `g_id` and the named file is left alone. -/
theorem inHandRight_of_send {s' : State} (poll : s'.poll = s.poll)
    (none : ∀ r, s.poll ≠ .clear .success r ∧ s.poll ≠ .name .success r)
    (sends : ∀ imageStr r, s.poll = .send .success imageStr r →
      s'.files (imageStr ++ ".jpg") = .complete r ∧
        (s'.concat.writes = true → imageStr ++ ".jpg" ≠ cfg.fileName s'.id)) :
    InHandRight cfg s' := by
  unfold InHandRight
  rw [poll]
  cases at_ : s.poll with
  | read => trivial
  | clear concatStatus r =>
      intro on
      subst on
      exact absurd at_ (none r).1
  | name concatStatus r =>
      intro on
      subst on
      exact absurd at_ (none r).2
  | send concatStatus imageStr r =>
      intro on
      subst on
      exact sends imageStr r at_

theorem inHand_send (named : Named cfg s) {imageStr : String} {r : Nat}
    (at_ : s.poll = .send .success imageStr r) :
    s.files (imageStr ++ ".jpg") = .complete r ∧
      (s.concat.writes = true → imageStr ++ ".jpg" ≠ cfg.fileName s.id) := by
  have inHand := named.inHand
  unfold InHandRight at inHand
  rw [at_] at inHand
  exact inHand rfl

/-- A step inside the writing touches no file but that of the round. -/
theorem named_writing (named : Named cfg s) (busy : s.concat.writes = true)
    (poll : s'.poll = s.poll) (id : s'.id = s.id) (round : s'.round = s.round)
    (word : s'.concatImageStatus = s.concatImageStatus) (sent : s'.sent = s.sent)
    (files : ∀ f, f ≠ cfg.fileName s.id → s'.files f = s.files f)
    (written : s'.concat = .markSuccess → s'.files (cfg.fileName s.id) = .complete s.round) :
    Named cfg s' := by
  obtain ⟨empty, none⟩ := no_success_of_writes named busy
  refine ⟨fun on => ?_, inHandRight_of_send poll none fun imageStr r at_ => ?_, fun at_ => ?_, ?_⟩
  · rw [word] at on
    exact absurd on empty
  · obtain ⟨complete, other⟩ := inHand_send named at_
    rw [files _ (other busy), id]
    exact ⟨complete, fun _ => other busy⟩
  · rw [id, round]
    exact written at_
  · unfold NamedRight
    rw [sent]
    exact named.right

theorem named_stamp (named : Named cfg s) {now : Nat} (empty : s.concatImageStatus ≠ .success)
    (free : s.poll.mayStamp (cfg.fileName now) = true) :
    Named cfg { s with id := now, round := s.round + 1, concat := .copy 0 } := by
  refine ⟨fun on => absurd on empty, inHandRight_of_send rfl (fun r => ⟨fun at_ => ?_, fun at_ => ?_⟩)
    fun imageStr r at_ => ⟨(inHand_send named at_).1, fun _ => ?_⟩, fun at_ => (by cases at_),
    named.right⟩
  · rw [at_] at free
    cases free
  · rw [at_] at free
    cases free
  · rw [at_] at free
    simpa [PollPc.mayStamp] using free

theorem named_markSuccess (named : Named cfg s) (at_ : s.concat = .markSuccess) :
    Named cfg { s with
      concatImageStatus := .success
      statusRound := s.round
      outcomes := s.outcomes ++ [.success]
      concat := .resetSuccessed 0 } := by
  have busy : s.concat.writes = true := by
    rw [at_]
    rfl
  refine ⟨fun _ => ⟨rfl, rfl, named.written at_⟩,
    inHandRight_of_send rfl (no_success_of_writes named busy).2 fun imageStr r sending =>
      ⟨(inHand_send named sending).1, fun off => (by cases off)⟩,
    fun off => (by cases off), named.right⟩

theorem Config.next_writes (again : Nat → ConcatPc) (after : ConcatPc)
    (idle : ∀ k, (again k).writes = after.writes) (k : Nat) :
    (cfg.next k again after).writes = after.writes := by
  unfold Config.next
  split
  · exact idle _
  · rfl

theorem named_imageConcatProc (named : Named cfg s) {now : Nat} {fine : Bool}
    (free : StampFree cfg s (.concat now fine)) : Named cfg (imageConcatProc cfg s now fine) := by
  unfold imageConcatProc
  cases at_ : s.concat with
  | testFailed k =>
      dsimp only
      split <;> exact named_scan named rfl
  | testNone k =>
      dsimp only
      split
      · exact named_scan named rfl
      · exact named_scan named (Config.next_writes .testFailed .stamp (fun _ => rfl) k)
  | markFail | markFailAgain => exact named_fail named rfl
  | resetFailed k =>
      dsimp only
      split
      · exact named_scan named rfl
      · exact named_scan named (Config.next_writes .resetFailed (.testFailed 0) (fun _ => rfl) k)
  | clearFailed k =>
      exact named_scan named (Config.next_writes .resetFailed (.testFailed 0) (fun _ => rfl) k)
  | stamp =>
      obtain ⟨empty, ready⟩ := free at_
      exact named_stamp named empty ready
  | copy k =>
      have busy : s.concat.writes = true := congrArg ConcatPc.writes at_
      cases fine with
      | false =>
          exact named_writing named busy rfl rfl rfl rfl rfl (fun _ _ => rfl) fun off => (by cases off)
      | true =>
          have never : cfg.next k .copy .stitch ≠ .markSuccess := by
            unfold Config.next
            split <;> exact fun off => (by cases off)
          exact named_writing named busy rfl rfl rfl rfl rfl (fun _ _ => rfl) fun off =>
            absurd off never
  | stitch =>
      have busy : s.concat.writes = true := congrArg ConcatPc.writes at_
      cases fine <;>
        exact named_writing named busy rfl rfl rfl rfl rfl (fun _ _ => rfl) fun off => (by cases off)
  | beginWrite =>
      have busy : s.concat.writes = true := congrArg ConcatPc.writes at_
      exact named_writing named busy rfl rfl rfl rfl rfl
        (fun _ other => Function.update_of_ne other _ _) fun off => (by cases off)
  | endWrite =>
      have busy : s.concat.writes = true := congrArg ConcatPc.writes at_
      exact named_writing named busy rfl rfl rfl rfl rfl
        (fun _ other => Function.update_of_ne other _ _) fun _ => Function.update_self _ _ _
  | markSuccess => exact named_markSuccess named at_
  | markThrown => exact named_fail named rfl
  | resetSuccessed k =>
      dsimp only
      split
      · exact named_scan named rfl
      · exact named_scan named (Config.next_writes .resetSuccessed (.testFailed 0) (fun _ => rfl) k)
  | clearSuccessed k =>
      exact named_scan named (Config.next_writes .resetSuccessed (.testFailed 0) (fun _ => rfl) k)

theorem named_pollLoop (named : Named cfg s) : Named cfg (pollLoop cfg s) := by
  have inHand := named.inHand
  unfold InHandRight at inHand
  unfold pollLoop
  cases at_ : s.poll with
  | read => exact ⟨named.word, fun on => named.word on, named.written, named.right⟩
  | clear concatStatus r =>
      rw [at_] at inHand
      exact ⟨fun off => (by cases off), inHand, named.written, named.right⟩
  | name concatStatus r =>
      rw [at_] at inHand
      refine ⟨named.word, fun on => ?_, named.written, named.right⟩
      obtain ⟨idle, -, complete⟩ := inHand on
      refine ⟨complete, fun busy => ?_⟩
      rw [show s.concat.writes = false from idle] at busy
      cases busy
  | send concatStatus imageStr r =>
      rw [at_] at inHand
      dsimp only
      split
      · exact ⟨named.word, trivial, named.written, named.right⟩
      · refine ⟨named.word, trivial, named.written, fun m member success => ?_⟩
        rcases List.mem_append.1 member with old | new
        · exact named.right m old success
        · rw [List.mem_singleton.1 new] at success ⊢
          exact (inHand success).1

theorem named_grabProc (named : Named cfg s) (i : Nat) : Named cfg (grabProc cfg s i) := by
  unfold grabProc
  split
  · exact ⟨named.word, named.inHand, named.written, named.right⟩
  · split
    · exact ⟨named.word, named.inHand, named.written, named.right⟩
    · exact ⟨named.word, named.inHand, named.written, named.right⟩

theorem named_step {a : Action} (named : Named cfg s) (free : StampFree cfg s a)
    (taken : step cfg s a = some s') : Named cfg s' := by
  cases a with
  | grab i =>
      obtain ⟨-, rfl⟩ := step_grab taken
      exact named_grabProc named i
  | concat now fine =>
      cases taken
      exact named_imageConcatProc named free
  | poll =>
      cases taken
      exact named_pollLoop named

/-- **The name in a success message** is that of a completely written image, the one of the round it
reports. -/
theorem stamped_names_right (cfg : Config) {actions : List Action} {s : State}
    (run : Run (step cfg) (StampFree cfg) State.init actions s) : NamedRight s :=
  (run.invariant (fun _ _ _ named free taken => named_step named free taken) named_init).right

/-! ## One camera -/

/-- Two rounds, each reported before the next one starts. -/
def reportedActions : List Action :=
  [.grab 0, .grab 0] ++ concats 1 10 ++ polls ++ [.grab 0, .grab 0] ++ concats 2 10 ++ polls

theorem stamped_names_right_twice :
    ∃ s, Run (step (oneCamera true)) (StampFree (oneCamera true)) State.init reportedActions s ∧
      s.sent =
        [⟨.success, "d:/grabs/trigger_concat_1", .complete 1, 1⟩,
          ⟨.success, "d:/grabs/trigger_concat_2", .complete 2, 2⟩] ∧
      NamedRight s := by
  obtain ⟨s, run, shown⟩ := exists_run_of_exec (step (oneCamera true)) (StampFree (oneCamera true))
    State.init reportedActions State.sent
    (b := [⟨.success, "d:/grabs/trigger_concat_1", .complete 1, 1⟩,
      ⟨.success, "d:/grabs/trigger_concat_2", .complete 2, 2⟩]) (by decide)
  exact ⟨s, run, shown, stamped_names_right _ run⟩

/-- A second round takes its time stamp before the success of the first is polled. -/
def nextRoundActions : List Action :=
  [.grab 0, .grab 0] ++ concats 1 10 ++ [.grab 0, .grab 0] ++ concats 2 3 ++ polls

/-- **The next image is named.** The success of round 1 is reported with the name of an image that
round 2 has not begun to write. -/
theorem next_image_named :
    ∃ s, Run (step (oneCamera true)) Free State.init nextRoundActions s ∧
      s.sent = [⟨.success, "d:/grabs/trigger_concat_2", .absent, 1⟩] ∧ ¬ NamedRight s := by
  obtain ⟨s, run, shown⟩ := exists_run_of_exec (step (oneCamera true)) Free State.init
    nextRoundActions State.sent
    (b := [⟨.success, "d:/grabs/trigger_concat_2", .absent, 1⟩]) (by decide)
  refine ⟨s, run, shown, fun right => ?_⟩
  rw [NamedRight, shown] at right
  cases right _ (List.mem_singleton.2 rfl) rfl

end TizerVision.Rolling
