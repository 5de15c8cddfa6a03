/-
# Rolling.Reports — what EarRollingBaslerCameraMsa reports of its pictures

`ImageConcatProc` leaves its verdict in `g_earLocationCorrect` and the loop of `cameraWorker` polls it
there; between the two lies a mailbox of one place without a lock.  A message is put together from
variables that the next round may already have changed.

* `pictures_reported_once` — in every run no picture is reported twice, and the number a message names
  is not older than the picture.
-/
import TizerVision.Rolling.Interval

namespace TizerVision.Rolling.Interval

open TizerVision.Theory

set_option autoImplicit false

variable {cfg : Setup} {s s' : State}

/-- The status says what `isRollingOk` found. -/
def EarLocation.isVerdict : EarLocation → Bool
  | .correct => true
  | .error => true
  | _ => false

/-- The pictures that have been reported. -/
def reported (sent : List Message) : List Nat :=
  sent.filterMap fun message =>
    match message with
    | .grabFailed => none
    | .location _ _ picture => some picture

/-- The picture `g_earLocationCorrect` is about, if it is about one. -/
def State.box (s : State) : Option Nat :=
  if s.earLocationCorrect.isVerdict then some s.judged else none

/-- The picture the loop is about to report. -/
def State.composing (s : State) : Option Nat :=
  match s.main with
  | .compose earLocation picture => if earLocation.isVerdict then some picture else none
  | _ => none

/-- The picture the loop has read a verdict about. -/
def State.hand (s : State) : Option Nat :=
  match s.main with
  | .clear earLocation picture => if earLocation.isVerdict then some picture else none
  | _ => s.composing

/-- A round has a number and no verdict yet. -/
def ConcatPc.unjudged : ConcatPc → Bool
  | .copy _ => true
  | .stitch => true
  | .publish => true
  | _ => false

/-- Picture `p` has been stitched. -/
def State.Stitched (s : State) (p : Nat) : Prop :=
  ∃ round ∈ s.rounds, round.id = p ∧ round.frames ≠ none

/-- Pictures are judged in the order of their numbers, and go from the status to the loop and into the
messages in that order. -/
structure Reported (s : State) : Prop where
  ordered : (reported s.sent).Pairwise (· < ·)
  numbers : ∀ e id p, .location e id p ∈ s.sent → p ≤ id ∧ id ≤ s.id
  hand : ∀ p, s.hand = some p → ∀ q ∈ reported s.sent, q < p
  box : ∀ p, s.box = some p → (∀ q ∈ reported s.sent, q < p) ∧ ∀ q, s.composing = some q → q < p
  known : ∀ p, p ∈ reported s.sent ∨ s.hand = some p ∨ s.box = some p →
    s.Stitched p ∧ p ≤ s.id ∧ (s.concat.unjudged = true → p < s.id)
  publish : s.concat = .publish → s.Stitched s.id

theorem reported_init : Reported State.init where
  ordered := .nil
  numbers := fun _ _ _ member => (by cases member)
  hand := fun _ some => (by cases some)
  box := fun _ some => (by cases some)
  known := fun _ some => by simp [State.init, reported, State.hand, State.composing, State.box,
    EarLocation.isVerdict] at some
  publish := fun pc => (by cases pc)

/-- A step that neither judges nor reports. -/
theorem Reported.kept (before : Reported s) (sent : s'.sent = s.sent) (main : s'.main = s.main)
    (box : ∀ p, s'.box = some p → s.box = some p) (number : s.id ≤ s'.id)
    (rounds : ∀ p, s.Stitched p → s'.Stitched p)
    (unjudged : s'.concat.unjudged = true → s.concat.unjudged = true ∨ s.id < s'.id)
    (publish : s'.concat = .publish → s'.Stitched s'.id) : Reported s' := by
  have hand : s'.hand = s.hand := by simp only [State.hand, State.composing, main]
  have composing : s'.composing = s.composing := by simp only [State.composing, main]
  refine ⟨?_, fun e id p member => ?_, fun p some => ?_, fun p some => ?_, fun p known => ?_, publish⟩
  · rw [sent]
    exact before.ordered
  · rw [sent] at member
    exact (before.numbers e id p member).imp_right fun le => Nat.le_trans le number
  · rw [hand] at some
    rw [sent]
    exact before.hand p some
  · rw [sent, composing]
    exact before.box p (box p some)
  · rw [sent, hand] at known
    obtain ⟨stitched, le, lt⟩ := before.known p (known.imp_right (Or.imp_right (box p)))
    refine ⟨rounds p stitched, Nat.le_trans le number, fun busy => ?_⟩
    obtain busy | later := unjudged busy
    · exact Nat.lt_of_lt_of_le (lt busy) number
    · exact Nat.lt_of_le_of_lt le later

theorem Reported.camera {i : Nat} (before : Reported s) (elapsed : Nat) (answer : Answer) :
    Reported (intervalGrabProc cfg s i elapsed answer) := by
  have same {s' : State} (sent : s'.sent = s.sent) (main : s'.main = s.main)
      (status : s'.earLocationCorrect = s.earLocationCorrect) (judged : s'.judged = s.judged)
      (number : s'.id = s.id) (rounds : s'.rounds = s.rounds) (concat : s'.concat = s.concat) :
      Reported s' := by
    have stitched (p : Nat) : s'.Stitched p ↔ s.Stitched p := by simp only [State.Stitched, rounds]
    refine before.kept sent main (fun p some => ?_) (Nat.le_of_eq number.symm)
      (fun p => (stitched p).2) (fun busy => .inl (concat ▸ busy)) fun pc => ?_
    · simpa only [State.box, status, judged] using some
    · rw [stitched, number]
      exact before.publish (concat ▸ pc)
  unfold intervalGrabProc
  repeat' split
  all_goals exact same rfl rfl rfl rfl rfl rfl rfl

theorem stitched_append {p : Nat} (stitched : s.Stitched p) {round : Round}
    (rounds : s'.rounds = s.rounds ++ [round]) : s'.Stitched p := by
  obtain ⟨old, member, number⟩ := stitched
  exact ⟨old, by rw [rounds]; exact List.mem_append_left _ member, number⟩

theorem next_plain {i : Nat} {again : Nat → ConcatPc} {after : ConcatPc}
    (plain : ∀ k, (again k).unjudged = false) (plain' : after.unjudged = false) :
    (next cfg i again after).unjudged = false := by
  unfold next
  split
  · exact plain _
  · exact plain'

theorem not_publish {pc : ConcatPc} (plain : pc.unjudged = false) : pc ≠ .publish := fun same => by
  subst same
  cases plain

/-- A step of `ImageConcatProc` that gives no verdict and takes no number. -/
theorem Reported.passed (before : Reported s) (sent : s'.sent = s.sent) (main : s'.main = s.main)
    (box : ∀ p, s'.box = some p → s.box = some p) (number : s'.id = s.id)
    (rounds : ∀ p, s.Stitched p → s'.Stitched p) (plain : s'.concat.unjudged = false) : Reported s' :=
  before.kept sent main box (Nat.le_of_eq number.symm) rounds
    (fun busy => by rw [plain] at busy; cases busy) fun pc => absurd pc (not_publish plain)

theorem Reported.concat (before : Reported s) (fine : Bool) :
    Reported (imageConcatProc cfg s fine) := by
  cases pc : s.concat with
  | testFailed i =>
      simp only [imageConcatProc, pc]
      split <;> exact before.passed rfl rfl (fun _ => id) rfl (fun _ => id) rfl
  | testNone i =>
      simp only [imageConcatProc, pc]
      split
      · exact before.passed rfl rfl (fun _ => id) rfl (fun _ => id) rfl
      · exact before.passed rfl rfl (fun _ => id) rfl (fun _ => id) (next_plain (fun _ => rfl) rfl)
  | markGrabFailed =>
      simp only [imageConcatProc, pc]
      exact before.passed rfl rfl (fun _ some => (by cases some)) rfl (fun _ => id) rfl
  | resetFailed i =>
      simp only [imageConcatProc, pc]
      split
      · exact before.passed rfl rfl (fun _ => id) rfl (fun _ => id) rfl
      · exact before.passed rfl rfl (fun _ => id) rfl (fun _ => id) (next_plain (fun _ => rfl) rfl)
  | clearFailed i =>
      simp only [imageConcatProc, pc]
      exact before.passed rfl rfl (fun _ => id) rfl (fun _ => id) (next_plain (fun _ => rfl) rfl)
  | increment =>
      simp only [imageConcatProc, pc]
      exact before.kept rfl rfl (fun _ => id) (Nat.le_succ _) (fun _ => id)
        (fun _ => .inr (Nat.lt_succ_self _)) (fun copying => (by cases copying))
  | copy i =>
      simp only [imageConcatProc, pc]
      split
      · refine before.kept rfl rfl (fun _ => id) (Nat.le_refl _) (fun _ => id)
          (fun _ => .inl (by rw [pc]; rfl)) fun copying => ?_
        obtain ⟨-, goes⟩ | ⟨-, goes⟩ := next_cases cfg (i := i) .copy .stitch
        · simp [goes] at copying
        · simp [goes] at copying
      · exact before.passed rfl rfl (fun _ => id) rfl (fun _ old => stitched_append old rfl) rfl
  | stitch =>
      simp only [imageConcatProc, pc]
      split
      · exact before.kept rfl rfl (fun _ => id) (Nat.le_refl _) (fun _ old => stitched_append old rfl)
          (fun _ => .inl (by rw [pc]; rfl)) fun _ =>
            ⟨_, List.mem_append_right _ (List.mem_singleton.2 rfl), rfl, fun none => (by cases none)⟩
      · exact before.passed rfl rfl (fun _ => id) rfl (fun _ old => stitched_append old rfl) rfl
  | publish =>
      simp only [imageConcatProc, pc]
      have latest (p : Nat) (known : p ∈ reported s.sent ∨ s.hand = some p) : p < s.id :=
        (before.known p (known.imp_right .inl)).2.2 (by rw [pc]; rfl)
      refine ⟨before.ordered, before.numbers, before.hand, fun p some => ?_, fun p known => ?_,
        fun resetting => (by cases resetting)⟩
      · obtain rfl : s.id = p := Option.some.inj some
        refine ⟨fun q sent => latest q (.inl sent), fun q composing => latest q (.inr ?_)⟩
        simp only [State.hand]
        simp only [State.composing] at composing ⊢
        split <;> simp_all
      · obtain sent | hand | box := known
        · exact (before.known p (.inl sent)).imp_right fun le => ⟨le.1, fun busy => (by cases busy)⟩
        · exact (before.known p (.inr (.inl hand))).imp_right fun le => ⟨le.1, fun busy => (by cases busy)⟩
        · obtain rfl : s.id = p := Option.some.inj box
          exact ⟨before.publish pc, Nat.le_refl _, fun busy => (by cases busy)⟩
  | resetSuccessed i =>
      simp only [imageConcatProc, pc]
      split
      · exact before.passed rfl rfl (fun _ => id) rfl (fun _ => id) rfl
      · exact before.passed rfl rfl (fun _ => id) rfl (fun _ => id) (next_plain (fun _ => rfl) rfl)
  | clearSuccessed i =>
      simp only [imageConcatProc, pc]
      exact before.passed rfl rfl (fun _ => id) rfl (fun _ => id) (next_plain (fun _ => rfl) rfl)

/-- The loop of `cameraWorker` lets go of what it has in hand. -/
theorem Reported.dropped (before : Reported s) {main : MainPc}
    (empty : ({ s with main := main } : State).hand = none)
    (empty' : ({ s with main := main } : State).composing = none) : Reported { s with main := main } where
  ordered := before.ordered
  numbers := before.numbers
  hand := fun p some => by rw [empty] at some; cases some
  box := fun p some => ⟨(before.box p some).1, fun q composing => by
    rw [empty'] at composing
    cases composing⟩
  known := fun p known => before.known p (known.imp_right fun hand => .inr
    (hand.resolve_left fun some => by rw [empty] at some; cases some))
  publish := before.publish

/-- The message about a failed grab names no picture. -/
theorem Reported.toldFailed (before : Reported s) (fine : Bool) :
    Reported (s.send .grabFailed fine) := by
  unfold State.send
  split
  · have same : reported (s.sent ++ [.grabFailed]) = reported s.sent := by simp [reported]
    refine ⟨same ▸ before.ordered, fun e id q member => ?_, fun q some => (by cases some),
      fun q some => ⟨same ▸ (before.box q some).1, fun r some' => (by cases some')⟩, fun q known => ?_,
      before.publish⟩
    · exact before.numbers e id q (by simpa using member)
    · rw [same] at known
      exact before.known q (known.imp_right fun box =>
        .inr (box.resolve_left fun some => (by cases some)))
  · exact before.dropped rfl rfl

/-- A message about a picture is sent, with the number of that moment. -/
theorem Reported.told (before : Reported s) {e : EarLocation} {p : Nat} (verdict : e.isVerdict = true)
    (pc : s.main = .compose e p) (fine : Bool) : Reported (s.send (messageOf e s.id p) fine) := by
  have composing : s.composing = some p := by simp [State.composing, pc, verdict]
  have hand : s.hand = some p := by simp [State.hand, pc, composing]
  obtain ⟨stitched, le, lt⟩ := before.known p (.inr (.inl hand))
  unfold messageOf
  split
  · exact before.toldFailed fine
  · unfold State.send
    split
    · have more : reported (s.sent ++ [.location e s.id p]) = reported s.sent ++ [p] := by
        simp [reported]
      refine ⟨?_, fun e' id q member => ?_, fun q some => (by cases some),
        fun q some => ⟨fun r member => ?_, fun r some' => (by cases some')⟩, fun q known => ?_,
        before.publish⟩
      · rw [more, List.pairwise_append]
        exact ⟨before.ordered, List.pairwise_singleton _ _, fun q old r new =>
          List.mem_singleton.1 new ▸ before.hand p hand q old⟩
      · obtain old | new := List.mem_append.1 member
        · exact before.numbers e' id q old
        · cases List.mem_singleton.1 new
          exact ⟨le, Nat.le_refl _⟩
      · rw [more] at member
        obtain old | new := List.mem_append.1 member
        · exact (before.box q some).1 r old
        · rw [List.mem_singleton.1 new]
          exact (before.box q some).2 p composing
      · rw [more] at known
        obtain member | hand' | box := known
        · obtain old | new := List.mem_append.1 member
          · exact before.known q (.inl old)
          · rw [List.mem_singleton.1 new]
            exact ⟨stitched, le, lt⟩
        · cases hand'
        · exact before.known q (.inr (.inr box))
    · exact before.dropped rfl rfl

theorem Reported.main (before : Reported s) (fine : Bool) : Reported (cameraWorker s fine) := by
  cases pc : s.main with
  | read =>
      simp only [cameraWorker, pc]
      -- what is read is what the status is about
      have read : ({ s with main := .clear s.earLocationCorrect s.judged } : State).hand = s.box := rfl
      refine ⟨before.ordered, before.numbers, fun p some => (before.box p (read ▸ some)).1,
        fun p some => ⟨(before.box p some).1, fun q composing => (by cases composing)⟩, fun p known => ?_,
        before.publish⟩
      rw [read] at known
      exact before.known p (known.imp_right fun either => .inr (either.elim id id))
  | clear e p =>
      simp only [cameraWorker, pc]
      have hand : ({ s with earLocationCorrect := .wait, main := .compose e p } : State).hand =
          s.hand := by simp only [State.hand, State.composing, pc]
      refine ⟨before.ordered, before.numbers, fun q some => before.hand q (hand ▸ some),
        fun q some => (by cases some), fun q known => ?_, before.publish⟩
      rw [hand] at known
      exact before.known q (known.imp_right fun either =>
        .inl (either.resolve_right fun some => (by cases some)))
  | compose e p =>
      cases e with
      | error =>
          simp only [cameraWorker, pc]
          exact before.told rfl pc fine
      | correct =>
          simp only [cameraWorker, pc]
          exact before.told rfl pc fine
      | grabFailed =>
          simp only [cameraWorker, pc]
          exact before.toldFailed fine
      | wait =>
          simp only [cameraWorker, pc]
          exact before.dropped rfl rfl
  | ended =>
      simp only [cameraWorker, pc]
      exact before

/-- **No picture is reported twice.**  The pictures that verdicts are sent about were stitched and have
increasing numbers, in every run; the number in a message is the picture's or that of a later round. -/
theorem pictures_reported_once (cfg : Setup) {actions : List Action} {s : State}
    (run : Run (step cfg) Free State.init actions s) :
    (reported s.sent).Pairwise (· < ·) ∧
    ∀ e id p, .location e id p ∈ s.sent → s.Stitched p ∧ p ≤ id ∧ id ≤ s.id := by
  have final : Reported s := run.invariant (fun s a s' before _ taken => by
    cases a with
    | grab i elapsed answer =>
        simp only [step] at taken
        split at taken
        · obtain rfl := Option.some.inj taken
          exact before.camera elapsed answer
        · cases taken
    | concat fine =>
        obtain rfl := Option.some.inj taken
        exact before.concat fine
    | main fine =>
        obtain rfl := Option.some.inj taken
        exact before.main fine) reported_init
  refine ⟨final.ordered, fun e id p member => ⟨?_, final.numbers e id p member⟩⟩
  exact (final.known p (.inl (List.mem_filterMap.2 ⟨_, member, rfl⟩))).1

/-- The verdict about the first picture is read, the second round takes its number, and the message about
the first picture names the second. -/
theorem pictures_reported_once_late :
    ∃ s, Run (step (twoCameras fun _ _ => true)) Free State.init
        (grabs 0 ++ grabs 1 ++ concats 13 ++ [.main true, .main true] ++ grabs 0 ++ grabs 1 ++
          concats 5 ++ [.main true]) s ∧
      s.sent = [.location .correct 2 1] ∧ (reported s.sent).Pairwise (· < ·) := by
  obtain ⟨s, run, shown⟩ := exists_run_of_exec (step (twoCameras fun _ _ => true)) Free State.init
    (grabs 0 ++ grabs 1 ++ concats 13 ++ [.main true, .main true] ++ grabs 0 ++ grabs 1 ++
      concats 5 ++ [.main true]) State.sent (b := [.location .correct 2 1]) (by decide)
  exact ⟨s, run, shown, (pictures_reported_once _ run).1⟩

end TizerVision.Rolling.Interval
