/-
# Theory.Stream — reading a message off a stream, whatever pieces the stream comes in

A reader does not know the length of a message beforehand.  It asks for a number of symbols; when it has
them, what it has read so far says how many more it asks for, none when the message is whole, or that
the message is refused.  A stream gives it what it asks for in pieces of any size.

* `Reader.accept_reads` — a piece leads the reader where its symbols lead one by one.
* `Reader.Framed.accept` — a reader in front of a message stays inside it: any piece of what it asks for
  is taken, and what is left of the message is at the head of the rest of the stream.
* `Reader.Framed.stage` — a message is built stage by stage.
-/
import Mathlib.Logic.Basic
import Mathlib.Data.List.Basic

namespace TizerVision.Theory

set_option autoImplicit false

universe u v w

variable {σ : Type u} {β : Type v} {ε : Type w}

/-- A reader: with a stage of the message read whole, the next stage and how many symbols it takes. -/
structure Reader (σ : Type u) (β : Type v) (ε : Type w) where
  next : σ → List β → Except ε (σ × Nat)

/-- A reader at work: the stage, how many symbols of the stage are missing, and what has been read. -/
structure Reading (σ : Type u) (β : Type v) where
  stage : σ
  want : Nat
  got : List β

namespace Reader

variable (R : Reader σ β ε)

/-- The reader gets a piece of the stage it is in. -/
def accept (s : Reading σ β) (piece : List β) : Except ε (Reading σ β) :=
  if s.want - piece.length = 0 then
    match R.next s.stage (s.got ++ piece) with
    | .ok (stage, want) => .ok ⟨stage, want, s.got ++ piece⟩
    | .error e => .error e
  else .ok ⟨s.stage, s.want - piece.length, s.got ++ piece⟩

/-- From `s` the reader gets to `t` by reading `bs` symbol by symbol. -/
inductive Reads : Reading σ β → List β → Reading σ β → Prop where
  | nil (s : Reading σ β) : Reads s [] s
  | cons {s t r : Reading σ β} {b : β} {bs : List β} (wants : 0 < s.want)
      (taken : R.accept s [b] = .ok t) (rest : Reads t bs r) : Reads s (b :: bs) r

/-- Reading `bs` symbol by symbol, the reader refuses the message at the last of them. -/
inductive Refuses : Reading σ β → List β → ε → Prop where
  | last {s : Reading σ β} {b : β} {e : ε} (wants : 0 < s.want) (refused : R.accept s [b] = .error e) :
      Refuses s [b] e
  | cons {s t : Reading σ β} {b : β} {bs : List β} {e : ε} (wants : 0 < s.want)
      (taken : R.accept s [b] = .ok t) (rest : Refuses t bs e) : Refuses s (b :: bs) e

/-- `frame` is one whole message for a reader in `s`. -/
def Framed (s : Reading σ β) (frame : List β) : Prop := ∃ t, R.Reads s frame t ∧ t.want = 0

variable {R} {s t r : Reading σ β} {bs cs : List β}

/-! ## Pieces and symbols -/

theorem accept_within {piece : List β} (within : piece.length < s.want) :
    R.accept s piece = .ok ⟨s.stage, s.want - piece.length, s.got ++ piece⟩ :=
  if_neg (by omega)

/-- What a reader has become that took a piece. -/
theorem accept_cases {piece : List β} (taken : R.accept s piece = .ok t) :
    (s.want ≤ piece.length ∧
        ∃ next, R.next s.stage (s.got ++ piece) = .ok next ∧ t = ⟨next.1, next.2, s.got ++ piece⟩) ∨
      piece.length < s.want ∧ t = ⟨s.stage, s.want - piece.length, s.got ++ piece⟩ := by
  unfold accept at taken
  split at taken
  · split at taken
    · cases taken
      exact .inl ⟨by omega, _, ‹_›, rfl⟩
    · cases taken
  · cases taken
    exact .inr ⟨by omega, rfl⟩

theorem got_of_accept {piece : List β} (taken : R.accept s piece = .ok t) : t.got = s.got ++ piece := by
  obtain ⟨-, next, -, rfl⟩ | ⟨-, rfl⟩ := accept_cases taken <;> rfl

/-- A symbol and a piece behind it are a piece. -/
theorem accept_cons {b : β} {piece : List β} (more : piece ≠ []) (within : piece.length < s.want) :
    ∃ u, 0 < u.want ∧ piece.length ≤ u.want ∧ R.accept s [b] = .ok u ∧
      R.accept s (b :: piece) = R.accept u piece := by
  have some_left : 0 < piece.length := List.length_pos_of_ne_nil more
  refine ⟨⟨s.stage, s.want - 1, s.got ++ [b]⟩, ?_, ?_, accept_within ?_, ?_⟩
  · simp only
    omega
  · simp only
    omega
  · simp only [List.length_singleton]
    omega
  · have same : s.want - (b :: piece).length = s.want - 1 - piece.length := by
      rw [List.length_cons]
      omega
    simp only [accept, same, List.append_assoc, List.singleton_append]

/-- **Cutting is of no account.**  A piece of the size asked for or less leads where its symbols lead. -/
theorem accept_reads {piece : List β} (some_piece : piece ≠ []) (within : piece.length ≤ s.want) :
    (∀ t, R.accept s piece = .ok t → R.Reads s piece t) ∧
      ∀ e, R.accept s piece = .error e → R.Refuses s piece e := by
  induction piece generalizing s with
  | nil => exact absurd rfl some_piece
  | cons b piece ih =>
      have wants : 0 < s.want := Nat.lt_of_lt_of_le (Nat.succ_pos _) within
      by_cases more : piece = []
      · subst more
        exact ⟨fun t taken => .cons wants taken (.nil t), fun e refused => .last wants refused⟩
      · obtain ⟨u, _, fits, first, same⟩ := accept_cons (R := R) (b := b) more within
        obtain ⟨reads, refuses⟩ := ih more fits
        rw [same]
        exact ⟨fun t taken => .cons wants first (reads t taken),
          fun e refused => .cons wants first (refuses e refused)⟩

namespace Reads

theorem append (first : R.Reads s bs t) (second : R.Reads t cs r) : R.Reads s (bs ++ cs) r := by
  induction first with
  | nil s => exact second
  | cons wants taken _ ih => exact .cons wants taken (ih second)

theorem got_eq (reads : R.Reads s bs t) : t.got = s.got ++ bs := by
  induction reads with
  | nil s => exact (List.append_nil _).symm
  | cons _ taken _ ih =>
      rw [ih, got_of_accept taken, List.append_assoc]
      rfl

end Reads

/-! ## Messages at the head of a stream -/

/-- **The reader stays inside the message.**  On a stream that begins with a message, what has been read
is a beginning of the message, and the rest of the message is still to come. -/
theorem Framed.of_reads {frame rest more : List β} (framed : R.Framed s frame) (reads : R.Reads s bs t)
    (stream : bs ++ rest = frame ++ more) :
    ∃ left, frame = bs ++ left ∧ rest = left ++ more ∧ R.Framed t left := by
  induction reads generalizing frame with
  | nil s => exact ⟨frame, rfl, stream, framed⟩
  | @cons s t r b bs wants taken _ ih =>
      obtain ⟨u, whole, ended⟩ := framed
      cases whole with
      | nil => exact absurd ended (Nat.ne_of_gt wants)
      | @cons _ t' _ b' frame' _ taken' whole =>
          obtain ⟨rfl, tails⟩ := List.cons.inj stream
          obtain rfl : t = t' := by
            cases taken.symm.trans taken'
            rfl
          obtain ⟨left, rfl, last, framed⟩ := ih ⟨u, whole, ended⟩ tails
          exact ⟨left, rfl, last, framed⟩

/-- A reader that asks for no more has the message whole. -/
theorem Framed.ends {frame : List β} (framed : R.Framed s frame) (ended : s.want = 0) : frame = [] := by
  obtain ⟨u, whole, -⟩ := framed
  cases whole with
  | nil => rfl
  | cons wants => exact absurd ended (Nat.ne_of_gt wants)

/-- A reader refuses nothing of a message. -/
theorem Framed.not_refuses {frame rest more : List β} {e : ε} (framed : R.Framed s frame)
    (stream : bs ++ rest = frame ++ more) : ¬ R.Refuses s bs e := by
  intro refuses
  induction refuses generalizing frame with
  | last wants refused =>
      obtain ⟨u, whole, ended⟩ := framed
      cases whole with
      | nil => exact absurd ended (Nat.ne_of_gt wants)
      | cons _ taken' _ =>
          obtain ⟨rfl, -⟩ := List.cons.inj stream
          cases refused.symm.trans taken'
  | cons wants taken _ ih =>
      obtain ⟨u, whole, ended⟩ := framed
      cases whole with
      | nil => exact absurd ended (Nat.ne_of_gt wants)
      | cons _ taken' whole =>
          obtain ⟨rfl, tails⟩ := List.cons.inj stream
          cases taken.symm.trans taken'
          exact ih ⟨u, whole, ended⟩ tails

/-- **A piece of a message.**  A reader in front of a message takes any piece it asks for, and is then in
front of the rest of the message. -/
theorem Framed.accept {frame piece rest more : List β} (framed : R.Framed s frame)
    (some_piece : piece ≠ []) (within : piece.length ≤ s.want) (stream : piece ++ rest = frame ++ more) :
    ∃ t left, R.accept s piece = .ok t ∧ frame = piece ++ left ∧ rest = left ++ more ∧
      R.Framed t left := by
  obtain ⟨reads, refuses⟩ := accept_reads (R := R) some_piece within
  cases taken : R.accept s piece with
  | error e => exact absurd (refuses e taken) (framed.not_refuses stream)
  | ok t =>
      obtain ⟨left, here, last, framed'⟩ := framed.of_reads (reads t taken) stream
      exact ⟨t, left, rfl, here, last, framed'⟩

/-- A stage of the size asked for, and the stages behind it, are a message. -/
theorem Framed.stage (s : Reading σ β) (next : σ × Nat) {piece left : List β} (some_piece : piece ≠ [])
    (whole : piece.length = s.want) (follows : R.next s.stage (s.got ++ piece) = .ok next)
    (rest : R.Framed ⟨next.1, next.2, s.got ++ piece⟩ left) : R.Framed s (piece ++ left) := by
  have taken : R.accept s piece = .ok ⟨next.1, next.2, s.got ++ piece⟩ := by
    rw [Reader.accept, if_pos (by omega), follows]
  obtain ⟨t, reads, ended⟩ := rest
  exact ⟨t, ((accept_reads some_piece (Nat.le_of_eq whole)).1 _ taken).append reads, ended⟩

end Reader

end TizerVision.Theory
