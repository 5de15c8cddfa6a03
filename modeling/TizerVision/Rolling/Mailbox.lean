/-
# Rolling.Mailbox — one status word between the rounds and the poll

`g_concatImageStatus` carries the outcome of a round from `ImageConcatProc` to the polling loop, which
reads it and clears it in two statements.  A failed round writes it twice.  An outcome that is written
over another one, or between the read and the clear, is lost; a failure that is polled between its two
writes is reported twice (`outcome_lost_or_doubled`).

The reports are the outcomes of the rounds, each once and in order, up to those still on their way,
in every run in which a round writes its outcome only into a word that is empty and not about to be
cleared, and repeats a failure only while the first write is unread (`polled_reports_each_once`).  A
step that breaches this condition breaks the reports at once (`reported_step_iff`).
-/
import TizerVision.Rolling.Machine

namespace TizerVision.Rolling

open TizerVision.Theory

set_option autoImplicit false

/-! ## The property -/

/-- The status the polling loop has read and not yet passed on. -/
def PollPc.inHand : PollPc → ConcatStatus
  | .read => .none
  | .clear concatStatus _ => concatStatus
  | .name concatStatus _ => concatStatus
  | .send concatStatus _ _ => concatStatus

/-- The polling loop is between its read of the status word and its clearing of it. -/
def PollPc.clearing : PollPc → Bool
  | .clear _ _ => true
  | _ => false

/-- What the next read will see: nothing, when the word is cleared before it. -/
def State.inWord (s : State) : ConcatStatus :=
  if s.poll.clearing then .none else s.concatImageStatus

/-- The outcomes among two statuses. -/
def ConcatStatus.outcome : ConcatStatus → List ConcatStatus
  | .none => []
  | .fail => [.fail]
  | .success => [.success]

/-- The outcomes still on their way: the one in hand, then the one in the word. -/
def State.pending (s : State) : List ConcatStatus := s.poll.inHand.outcome ++ s.inWord.outcome

/-- The reports, followed by what is on its way, are the outcomes of the rounds: each outcome is
reported once, with its status and in order, or will be. -/
def ReportedOnce (s : State) : Prop :=
  s.sent.map Message.status ++ s.pending = s.outcomes

instance (s : State) : Decidable (ReportedOnce s) := inferInstanceAs (Decidable (_ = _))

/-! ## The condition -/

/-- Whether the next statement of `ImageConcatProc` may write the word: an outcome only while the word
is empty and not about to be cleared, the repetition of a failure only while the first write is there
or the word is about to be cleared anyway. -/
def ConcatPc.mayWrite (word : ConcatStatus) (clearing : Bool) : ConcatPc → Bool
  | .markFail => word = .none && !clearing
  | .markSuccess => word = .none && !clearing
  | .markThrown => word = .none && !clearing
  | .markFailAgain => word = .fail || clearing
  | _ => true

def WordFree (s : State) : Action → Prop
  | .concat _ _ => s.concat.mayWrite s.concatImageStatus s.poll.clearing = true
  | .grab _ => True
  | .poll => True

instance (s : State) : (a : Action) → Decidable (WordFree s a)
  | .concat _ _ => inferInstanceAs (Decidable (_ = true))
  | .grab _ => inferInstanceAs (Decidable True)
  | .poll => inferInstanceAs (Decidable True)

/-! ## The steps -/

variable {cfg : Config} {s s' : State}

/-- The property reads the record, the poll and the word only. -/
theorem reportedOnce_congr (sent : s'.sent = s.sent) (poll : s'.poll = s.poll)
    (word : s'.concatImageStatus = s.concatImageStatus) (outcomes : s'.outcomes = s.outcomes) :
    ReportedOnce s' ↔ ReportedOnce s := by
  unfold ReportedOnce State.pending State.inWord
  rw [sent, poll, word, outcomes]

theorem outcome_length (c : ConcatStatus) : c.outcome.length = if c = .none then 0 else 1 := by
  cases c <;> rfl

/-- The first write of a round: the record of outcomes grows with it. -/
theorem reportedOnce_mark (x : ConcatStatus) (single : x.outcome = [x]) (reported : ReportedOnce s)
    (sent : s'.sent = s.sent) (poll : s'.poll = s.poll) (word : s'.concatImageStatus = x)
    (outcomes : s'.outcomes = s.outcomes ++ [x]) :
    ReportedOnce s' ↔ (s.concatImageStatus = .none && !s.poll.clearing) = true := by
  unfold ReportedOnce State.pending State.inWord at *
  rw [sent, poll, word, outcomes, ← reported]
  cases s.poll.clearing with
  | true =>
      -- the write will be wiped out: one outcome more, nothing more on its way
      refine ⟨fun same => ?_, fun free => ?_⟩
      · have lengths := congrArg List.length same
        simp at lengths
      · simp at free
  | false =>
      by_cases empty : s.concatImageStatus = .none
      · rw [empty]
        simp only [Bool.false_eq_true, if_false, single]
        simp [ConcatStatus.outcome]
      · -- the outcome in the word is written over
        refine ⟨fun same => ?_, fun free => ?_⟩
        · have lengths := congrArg List.length same
          simp [single, outcome_length, empty] at lengths
        · simp [empty] at free

/-- The second write of a failed round: the record does not grow. -/
theorem reportedOnce_markAgain (reported : ReportedOnce s) (sent : s'.sent = s.sent)
    (poll : s'.poll = s.poll) (word : s'.concatImageStatus = .fail)
    (outcomes : s'.outcomes = s.outcomes) :
    ReportedOnce s' ↔ (s.concatImageStatus = .fail || s.poll.clearing) = true := by
  unfold ReportedOnce State.pending State.inWord at *
  rw [sent, poll, word, outcomes, ← reported]
  cases s.poll.clearing with
  | true => simp
  | false => cases s.concatImageStatus <;> simp [ConcatStatus.outcome]

/-- The polling loop passes each status on without changing the sequence. -/
theorem reportedOnce_pollLoop (reported : ReportedOnce s) : ReportedOnce (pollLoop cfg s) := by
  unfold ReportedOnce State.pending State.inWord at *
  have recorded : (pollLoop cfg s).outcomes = s.outcomes := by
    unfold pollLoop
    cases s.poll with
    | send concatStatus imageStr round => cases concatStatus <;> rfl
    | _ => rfl
  rw [recorded, ← reported]
  unfold pollLoop
  cases s.poll with
  | read => simp [PollPc.inHand, PollPc.clearing, ConcatStatus.outcome]
  | clear concatStatus round => simp [PollPc.inHand, PollPc.clearing, ConcatStatus.outcome]
  | name concatStatus round => simp [PollPc.inHand, PollPc.clearing]
  | send concatStatus imageStr round =>
      cases concatStatus <;> simp [PollPc.inHand, PollPc.clearing, ConcatStatus.outcome]

theorem reportedOnce_grabProc (i : Nat) : ReportedOnce (grabProc cfg s i) ↔ ReportedOnce s := by
  unfold grabProc
  split
  · exact reportedOnce_congr rfl rfl rfl rfl
  · split <;> exact reportedOnce_congr rfl rfl rfl rfl

theorem reportedOnce_imageConcatProc (reported : ReportedOnce s) (now : Nat) (fine : Bool) :
    ReportedOnce (imageConcatProc cfg s now fine) ↔ WordFree s (.concat now fine) := by
  unfold imageConcatProc WordFree
  cases s.concat with
  | markFail => exact reportedOnce_mark .fail rfl reported rfl rfl rfl rfl
  | markSuccess => exact reportedOnce_mark .success rfl reported rfl rfl rfl rfl
  | markThrown => exact reportedOnce_mark .fail rfl reported rfl rfl rfl rfl
  | markFailAgain => exact reportedOnce_markAgain reported rfl rfl rfl rfl
  | _ =>
      -- no other statement touches the word or the record
      refine iff_of_true ?_ rfl
      first
        | exact (reportedOnce_congr rfl rfl rfl rfl).2 reported
        | dsimp only
          split <;> exact (reportedOnce_congr rfl rfl rfl rfl).2 reported

/-- **The condition is exact, step by step.** From a state in which all is reported once, a step keeps
it so exactly when it meets the condition. -/
theorem reported_step_iff {a : Action} (reported : ReportedOnce s)
    (taken : step cfg s a = some s') : ReportedOnce s' ↔ WordFree s a := by
  cases a with
  | grab i =>
      obtain ⟨-, rfl⟩ := step_grab taken
      exact iff_of_true ((reportedOnce_grabProc i).2 reported) trivial
  | concat now fine =>
      cases taken
      exact reportedOnce_imageConcatProc reported now fine
  | poll =>
      cases taken
      exact iff_of_true (reportedOnce_pollLoop reported) trivial

/-- **Each outcome is reported once.** -/
theorem polled_reports_each_once (cfg : Config) {actions : List Action} {s : State}
    (run : Run (step cfg) WordFree State.init actions s) : ReportedOnce s :=
  run.invariant (fun _ _ _ reported free taken => (reported_step_iff reported taken).2 free) rfl

/-! ## One camera -/

/-- Two rounds, each polled before the next one ends. -/
def polledActions : List Action :=
  [.grab 0, .grab 0] ++ concats 1 10 ++ polls ++ [.grab 0, .grab 0] ++ concats 2 10 ++ polls

theorem polled_reports_each_once_twice :
    ∃ s, Run (step (oneCamera true)) WordFree State.init polledActions s ∧
      s.sent.map Message.status = [.success, .success] ∧ ReportedOnce s := by
  obtain ⟨s, run, shown⟩ := exists_run_of_exec (step (oneCamera true)) WordFree State.init
    polledActions (fun s => s.sent.map Message.status) (b := [.success, .success]) (by decide)
  exact ⟨s, run, shown, polled_reports_each_once _ run⟩

/-- Two rounds end before the first poll. -/
def unpolledActions : List Action :=
  [.grab 0, .grab 0] ++ concats 1 10 ++ [.grab 0, .grab 0] ++ concats 2 10 ++ polls

/-- A failed round is polled between its two writes, and polled again. -/
def polledTwiceActions : List Action :=
  [.grab 0] ++ concats 1 2 ++ polls ++ concats 1 1 ++ polls

/-- **Lost and doubled.** Two successful rounds are reported as one; one failed round is reported as
two. -/
theorem outcome_lost_or_doubled :
    (∃ s, Run (step (oneCamera true)) Free State.init unpolledActions s ∧
        s.outcomes = [.success, .success] ∧ s.sent.map Message.status = [.success] ∧
        s.pending = [] ∧ ¬ ReportedOnce s) ∧
      ∃ s, Run (step (oneCamera false)) Free State.init polledTwiceActions s ∧
        s.outcomes = [.fail] ∧ s.sent.map Message.status = [.fail, .fail] ∧ ¬ ReportedOnce s := by
  refine ⟨?_, ?_⟩
  · obtain ⟨s, run, shown⟩ := exists_run_of_exec (step (oneCamera true)) Free State.init
      unpolledActions (fun s => (s.outcomes, s.sent.map Message.status, s.pending))
      (b := ([.success, .success], [.success], [])) (by decide)
    rw [Prod.mk.injEq, Prod.mk.injEq] at shown
    obtain ⟨outcomes, sent, pending⟩ := shown
    refine ⟨s, run, outcomes, sent, pending, fun reported => ?_⟩
    rw [ReportedOnce, outcomes, sent, pending] at reported
    cases reported
  · obtain ⟨s, run, shown⟩ := exists_run_of_exec (step (oneCamera false)) Free State.init
      polledTwiceActions (fun s => (s.outcomes, s.sent.map Message.status))
      (b := ([.fail], [.fail, .fail])) (by decide)
    rw [Prod.mk.injEq] at shown
    obtain ⟨outcomes, sent⟩ := shown
    refine ⟨s, run, outcomes, sent, fun reported => ?_⟩
    rw [ReportedOnce, outcomes, sent] at reported
    cases reported

end TizerVision.Rolling
