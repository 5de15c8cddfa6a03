/-
# Service.ZmqServer — one reply for each request, with the newest result

`ZmqServer::ThreadProc` receives a request, and under `hMutex` answers it with element 0 of the result
list; the grabbing thread inserts at index 0 under the same mutex.  The loop ignores what `zmq_recv`
returns and sends nothing while the list is empty: the next `zmq_recv` then fails at once, since the
REP socket owes a reply, and the loop comes back to the list until there is something to send.

`replies_in_turn` — at the head of the loop at most one request is unanswered, and then only because
the list was empty at every check since; every reply is the element inserted last before the mutex was
taken for it.
-/
import TizerVision.Theory.Run
import Mathlib.Data.List.Basic

namespace TizerVision.Service

open TizerVision.Theory

set_option autoImplicit false

/-! ## The list and the socket -/

/-- What is assumed of `Fixed2WayList`: it starts empty, and after an insertion at index 0 it is not
empty and has the new element there. -/
structure Fixed2WayList (ε : Type) where
  Carrier : Type
  empty : Carrier
  size : Carrier → Nat
  getElement : Carrier → Nat → ε
  insertElement : Carrier → ε → Nat → Carrier
  size_empty : size empty = 0
  size_insert : ∀ list x, 0 < size (insertElement list x 0)
  getElement_insert : ∀ list x, getElement (insertElement list x 0) 0 = x

/-- The two states of a REP socket. -/
inductive Socket where
  | receive
  | send
deriving DecidableEq, Repr

/-- The next statement of `ThreadProc`. -/
inductive Place where
  | recv
  | wait
  | check
  | send
  | release
deriving DecidableEq, Repr

/-- The grabbing thread between `WaitForSingleObject` and `ReleaseMutex`. -/
inductive Grabbing (ε : Type) where
  | outside
  | holding (x : ε)
  | inserted

/-- The owner of `hMutex`. -/
inductive Owner where
  | server
  | grabber
deriving DecidableEq, Repr

/-- A reply, with the number of insertions made when the mutex was taken for it. -/
structure Reply (ε : Type) where
  element : ε
  before : Nat

variable {ε : Type}

structure Server (F : Fixed2WayList ε) where
  socket : Socket
  /-- requests that have arrived and were not received -/
  pending : Nat
  mutex : Option Owner
  place : Place
  grabbing : Grabbing ε
  burrsInfoList : F.Carrier
  /-- the number of requests received -/
  received : Nat
  /-- the sizes the checks since the last request have found -/
  checks : List Nat
  /-- the elements inserted so far -/
  history : List ε
  /-- the number of insertions when the server last took the mutex -/
  before : Nat
  replies : List (Reply ε)

/-- Both threads are about to start. -/
def Server.init (F : Fixed2WayList ε) : Server F where
  socket := .receive
  pending := 0
  mutex := none
  place := .recv
  grabbing := .outside
  burrsInfoList := F.empty
  received := 0
  checks := []
  history := []
  before := 0
  replies := []

/-! ## The steps -/

variable {F : Fixed2WayList ε}

/-- `zmq_recv`: in the receive state it blocks until there is a request, in the send state it fails at
once; the return code is not looked at. -/
def zmqRecv (s : Server F) : Option (Server F) :=
  match s.place, s.socket, s.pending with
  | .recv, .receive, pending + 1 =>
      some { s with
        place := .wait, socket := .send, pending := pending
        received := s.received + 1, checks := [] }
  | .recv, .send, _ => some { s with place := .wait }
  | _, _, _ => none

/-- `WaitForSingleObject(hMutex, INFINITE)` of the server. -/
def serverWait (s : Server F) : Option (Server F) :=
  match s.place, s.mutex with
  | .wait, none =>
      some { s with place := .check, mutex := some .server, before := s.history.length }
  | _, _ => none

/-- `burrsInfoList->size() > 0` -/
def checkSize (s : Server F) : Option (Server F) :=
  match s.place with
  | .check =>
      some { s with
        place := if F.size s.burrsInfoList > 0 then .send else .release
        checks := s.checks ++ [F.size s.burrsInfoList] }
  | _ => none

/-- `zmq_send` of element 0; in the receive state it fails. -/
def zmqSend (s : Server F) : Option (Server F) :=
  match s.place, s.socket with
  | .send, .send =>
      some { s with
        place := .release, socket := .receive
        replies := s.replies ++ [⟨F.getElement s.burrsInfoList 0, s.before⟩] }
  | .send, .receive => some { s with place := .release }
  | _, _ => none

/-- `ReleaseMutex(hMutex)` of the server. -/
def serverRelease (s : Server F) : Option (Server F) :=
  match s.place with
  | .release => some { s with place := .recv, mutex := none }
  | _ => none

/-- `WaitForSingleObject(ZmqServer::hMutex, INFINITE)` of the grabbing thread, with a new result. -/
def grabberWait (s : Server F) (x : ε) : Option (Server F) :=
  match s.grabbing, s.mutex with
  | .outside, none => some { s with grabbing := .holding x, mutex := some .grabber }
  | _, _ => none

/-- `burrsInfoList.insertElement(burrString, 0)` -/
def insertResult (s : Server F) : Option (Server F) :=
  match s.grabbing with
  | .holding x =>
      some { s with
        grabbing := .inserted
        burrsInfoList := F.insertElement s.burrsInfoList x 0
        history := s.history ++ [x] }
  | _ => none

/-- `ReleaseMutex(ZmqServer::hMutex)` of the grabbing thread. -/
def grabberRelease (s : Server F) : Option (Server F) :=
  match s.grabbing with
  | .inserted => some { s with grabbing := .outside, mutex := none }
  | _ => none

inductive ServerAction (ε : Type) where
  /-- a request arrives -/
  | request
  | zmqRecv
  | serverWait
  | checkSize
  | zmqSend
  | serverRelease
  | grabberWait (x : ε)
  | insertResult
  | grabberRelease

def Server.step (s : Server F) : ServerAction ε → Option (Server F)
  | .request => some { s with pending := s.pending + 1 }
  | .zmqRecv => Service.zmqRecv s
  | .serverWait => Service.serverWait s
  | .checkSize => Service.checkSize s
  | .zmqSend => Service.zmqSend s
  | .serverRelease => Service.serverRelease s
  | .grabberWait x => Service.grabberWait s x
  | .insertResult => Service.insertResult s
  | .grabberRelease => Service.grabberRelease s

/-! ## The invariant -/

/-- The list as the insertions left it. -/
def Mirrors (F : Fixed2WayList ε) (list : F.Carrier) (history : List ε) : Prop :=
  match history.getLast? with
  | none => F.size list = 0
  | some x => 0 < F.size list ∧ F.getElement list 0 = x

/-- The statements made under the mutex. -/
def Place.Locked (place : Place) : Prop := place = .check ∨ place = .send ∨ place = .release

/-- The reply carries the element inserted last before its mutex was taken. -/
def Reply.Newest (history : List ε) (r : Reply ε) : Prop :=
  (history.take r.before).getLast? = some r.element

structure Serving (s : Server F) : Prop where
  /-- the socket is in the send state exactly while a request is unanswered -/
  owed : s.received = s.replies.length + if s.socket = .send then 1 else 0
  asked : s.place = .wait ∨ s.place = .check ∨ s.place = .send → s.socket = .send
  empties : s.socket = .send → s.place ≠ .send → ∀ size ∈ s.checks, size = 0
  filled : s.place = .send → 0 < F.size s.burrsInfoList
  mirrors : Mirrors F s.burrsInfoList s.history
  server : s.place.Locked → s.mutex = some .server
  grabber : s.grabbing ≠ .outside → s.mutex = some .grabber
  frozen : s.place.Locked → s.before = s.history.length
  newest : ∀ r ∈ s.replies, r.before ≤ s.history.length ∧ r.Newest s.history

theorem serving_init : Serving (Server.init F) := by
  constructor <;> simp [Server.init, Mirrors, Place.Locked, F.size_empty]

theorem serving_zmqRecv {s s' : Server F} (serving : Serving s) (taken : zmqRecv s = some s') :
    Serving s' := by
  unfold zmqRecv at taken
  split at taken
  case h_1 pending place socket waiting =>
    cases taken
    have owed := serving.owed
    simp only [socket] at owed
    exact {
      owed := by simpa using owed
      asked := fun _ => rfl
      empties := by simp
      filled := by simp
      mirrors := serving.mirrors
      server := by simp [Place.Locked]
      grabber := serving.grabber
      frozen := by simp [Place.Locked]
      newest := serving.newest }
  case h_2 place socket =>
    cases taken
    exact {
      owed := serving.owed
      asked := fun _ => socket
      empties := fun sending _ => serving.empties sending (by simp [place])
      filled := by simp
      mirrors := serving.mirrors
      server := by simp [Place.Locked]
      grabber := serving.grabber
      frozen := by simp [Place.Locked]
      newest := serving.newest }
  case h_3 => cases taken

theorem serving_serverWait {s s' : Server F} (serving : Serving s)
    (taken : serverWait s = some s') : Serving s' := by
  unfold serverWait at taken
  split at taken
  case h_1 place free =>
    cases taken
    have socket := serving.asked (.inl place)
    exact {
      owed := serving.owed
      asked := fun _ => socket
      empties := fun sending _ => serving.empties sending (by simp [place])
      filled := by simp
      mirrors := serving.mirrors
      server := fun _ => rfl
      grabber := fun inside => by
        have held := serving.grabber inside
        simp [free] at held
      frozen := fun _ => rfl
      newest := serving.newest }
  case h_2 => cases taken

theorem serving_checkSize {s s' : Server F} (serving : Serving s) (taken : checkSize s = some s') :
    Serving s' := by
  unfold checkSize at taken
  split at taken
  case h_1 place =>
    cases taken
    have socket := serving.asked (.inr (.inl place))
    have locked : s.place.Locked := .inl place
    have emptySoFar := serving.empties socket (by simp [place])
    exact {
      owed := serving.owed
      asked := fun _ => socket
      empties := by
        intro _ notSending size member
        rcases List.mem_append.1 member with old | new
        · exact emptySoFar size old
        · rw [List.mem_singleton.1 new]
          by_contra some
          exact notSending (if_pos (Nat.pos_of_ne_zero some))
      filled := by
        intro sending
        by_contra empty
        simp [empty] at sending
      mirrors := serving.mirrors
      server := fun _ => serving.server locked
      grabber := serving.grabber
      frozen := fun _ => serving.frozen locked
      newest := serving.newest }
  case h_2 => cases taken

/-- What a list that is not empty has at index 0. -/
theorem Mirrors.getLast {list : F.Carrier} {history : List ε} (mirrors : Mirrors F list history)
    (filled : 0 < F.size list) : history.getLast? = some (F.getElement list 0) := by
  unfold Mirrors at mirrors
  split at mirrors
  case h_1 => omega
  case h_2 x last => rw [last, mirrors.2]

theorem serving_zmqSend {s s' : Server F} (serving : Serving s) (taken : zmqSend s = some s') :
    Serving s' := by
  unfold zmqSend at taken
  split at taken
  case h_1 place socket =>
    cases taken
    have locked : s.place.Locked := .inr (.inl place)
    have frozen := serving.frozen locked
    have last := serving.mirrors.getLast (serving.filled place)
    have owed := serving.owed
    simp only [socket, if_true] at owed
    exact {
      owed := by simpa using owed
      asked := by simp
      empties := by simp
      filled := by simp
      mirrors := serving.mirrors
      server := fun _ => serving.server locked
      grabber := serving.grabber
      frozen := fun _ => frozen
      newest := by
        intro r member
        rcases List.mem_append.1 member with old | new
        · exact serving.newest r old
        · rw [List.mem_singleton.1 new]
          refine ⟨Nat.le_of_eq frozen, ?_⟩
          simpa [Reply.Newest, frozen] using last }
  case h_2 place socket =>
    have sending := serving.asked (.inr (.inr place))
    rw [socket] at sending
    cases sending
  case h_3 => cases taken

theorem serving_serverRelease {s s' : Server F} (serving : Serving s)
    (taken : serverRelease s = some s') : Serving s' := by
  unfold serverRelease at taken
  split at taken
  case h_1 place =>
    cases taken
    have owner := serving.server (.inr (.inr place))
    exact {
      owed := serving.owed
      asked := by simp
      empties := fun sending _ => serving.empties sending (by simp [place])
      filled := by simp
      mirrors := serving.mirrors
      server := by simp [Place.Locked]
      grabber := fun inside => by
        have held := serving.grabber inside
        simp [owner] at held
      frozen := by simp [Place.Locked]
      newest := serving.newest }
  case h_2 => cases taken

theorem serving_grabberWait {s s' : Server F} {x : ε} (serving : Serving s)
    (taken : grabberWait s x = some s') : Serving s' := by
  unfold grabberWait at taken
  split at taken
  case h_1 outside free =>
    cases taken
    exact {
      owed := serving.owed
      asked := serving.asked
      empties := serving.empties
      filled := serving.filled
      mirrors := serving.mirrors
      server := fun locked => by
        have held := serving.server locked
        simp [free] at held
      grabber := fun _ => rfl
      frozen := serving.frozen
      newest := serving.newest }
  case h_2 => cases taken

/-- An insertion happens while the server is outside the mutex, and older replies stay what they
were. -/
theorem serving_insertResult {s s' : Server F} (serving : Serving s)
    (taken : insertResult s = some s') : Serving s' := by
  unfold insertResult at taken
  split at taken
  case h_1 x inside =>
    cases taken
    have owner := serving.grabber (by simp [inside])
    have unlocked : ¬ s.place.Locked := by
      intro locked
      have held := serving.server locked
      simp [owner] at held
    exact {
      owed := serving.owed
      asked := serving.asked
      empties := serving.empties
      filled := fun _ => F.size_insert _ _
      mirrors := by simp [Mirrors, F.size_insert, F.getElement_insert]
      server := serving.server
      grabber := fun _ => owner
      frozen := fun locked => absurd locked unlocked
      newest := by
        intro r member
        obtain ⟨past, newest⟩ := serving.newest r member
        refine ⟨by simp; omega, ?_⟩
        rw [Reply.Newest, List.take_append_of_le_length past]
        exact newest }
  case h_2 => cases taken

theorem serving_grabberRelease {s s' : Server F} (serving : Serving s)
    (taken : grabberRelease s = some s') : Serving s' := by
  unfold grabberRelease at taken
  split at taken
  case h_1 inside =>
    cases taken
    have owner := serving.grabber (by simp [inside])
    exact {
      owed := serving.owed
      asked := serving.asked
      empties := serving.empties
      filled := serving.filled
      mirrors := serving.mirrors
      server := fun locked => by
        have held := serving.server locked
        simp [owner] at held
      grabber := by simp
      frozen := serving.frozen
      newest := serving.newest }
  case h_2 => cases taken

theorem serving_step (s : Server F) (a : ServerAction ε) (s' : Server F) (serving : Serving s)
    (_ : Free s a) (taken : s.step a = some s') : Serving s' := by
  cases a with
  | request =>
      cases taken
      obtain ⟨owed, asked, empties, filled, mirrors, server, grabber, frozen, newest⟩ := serving
      exact ⟨owed, asked, empties, filled, mirrors, server, grabber, frozen, newest⟩
  | zmqRecv => exact serving_zmqRecv serving taken
  | serverWait => exact serving_serverWait serving taken
  | checkSize => exact serving_checkSize serving taken
  | zmqSend => exact serving_zmqSend serving taken
  | serverRelease => exact serving_serverRelease serving taken
  | grabberWait x => exact serving_grabberWait serving taken
  | insertResult => exact serving_insertResult serving taken
  | grabberRelease => exact serving_grabberRelease serving taken

/-! ## Replies -/

/-- **Requests are answered in turn, with the newest result.**  In every interleaving of requests,
insertions and the statements of the server loop: at the head of the loop the requests received exceed
the replies sent by 0 or by 1, and by 1 only if the list was empty at every check since the request;
and every reply carries the element inserted last before the mutex was taken for it. -/
theorem replies_in_turn (as : List (ServerAction ε)) (s : Server F)
    (run : Run Server.step Free (Server.init F) as s) :
    (s.place = .recv → s.received = s.replies.length ∨
        (s.received = s.replies.length + 1 ∧ ∀ size ∈ s.checks, size = 0)) ∧
      ∀ r ∈ s.replies, r.Newest s.history := by
  have serving := run.invariant serving_step serving_init
  refine ⟨fun head => ?_, fun r member => (serving.newest r member).2⟩
  have owed := serving.owed
  cases socket : s.socket with
  | receive =>
      left
      simpa [socket] using owed
  | send =>
      right
      refine ⟨by simpa [socket] using owed, serving.empties socket ?_⟩
      simp [head]

/-- A list of fixed capacity that drops its last elements. -/
def boundedList (ε : Type) [Inhabited ε] (capacity : Nat) : Fixed2WayList ε where
  Carrier := List ε
  empty := []
  size := List.length
  getElement list i := list.getD i default
  insertElement list x i := (list.insertIdx i x).take (capacity + 1)
  size_empty := rfl
  size_insert list x := by simp
  getElement_insert list x := by simp

/-- A request that finds the list empty twice and is answered after an insertion, while another result
is on its way. -/
def lateResult : List (ServerAction Nat) :=
  [.request, .zmqRecv, .serverWait, .checkSize, .serverRelease, .zmqRecv, .serverWait, .checkSize,
    .serverRelease, .grabberWait 7, .insertResult, .grabberRelease, .zmqRecv, .serverWait, .checkSize,
    .zmqSend, .serverRelease, .grabberWait 8, .insertResult, .grabberRelease]

theorem replies_in_turn_late : ∃ s,
    Run Server.step Free (Server.init (boundedList Nat 4)) lateResult s ∧
    s.replies.length = 1 ∧ ∀ r ∈ s.replies, r.Newest s.history := by
  obtain ⟨s, run, one⟩ := exists_run_of_exec Server.step Free (Server.init (boundedList Nat 4))
    lateResult (fun s => s.replies.length) (b := 1) (by decide)
  exact ⟨s, run, one, (replies_in_turn lateResult s run).2⟩

end TizerVision.Service
