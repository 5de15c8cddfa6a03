/-
# Loader.Line — from the images of a part to the pulse of an output

The consumer thread of LibraryLoaderConsole calls `halconActionWithImageList` for one part after the
other and pulses the NG or the OK output for each.  `Measure` says what a call does, `Loader.Outputs`
what the thread makes of its status; here the two are put together.  The library catches nothing: an
exception of `vector::at` is a `std::exception` and costs the part its pulse, one of Halcon ends the
thread.  `result_status` is not initialised by the thread.

* `pulses_follow_verdicts` — with parts of type 0 that are configured completely, whatever the calls of
  the PLC, of the clock and of redis do, each part the thread gets to is pulsed at most once, in the
  order of the parts, and on the output that its six compared dimensions ask for.
-/
import TizerVision.Loader.Outputs
import TizerVision.Measure.Tolerance

namespace TizerVision.Loader

open TizerVision.Theory
open TizerVision.Measure (Headers Call)

set_option autoImplicit false

/-! ## One part after the other -/

/-- A part: what is measured of it, what the variable `result_status` happens to hold, and how the calls
made after the verdict end. -/
structure Part where
  call : Call
  garbage : Int
  raise : Written
  systemTime : Option Thrown
  lower : Written
  push : Option Thrown

/-- The exceptions of the measuring library as the thread sees them. -/
def thrownBy : Measure.Thrown → Thrown
  | .hException => .hException
  | .outOfRange => .stdException

def Part.pair (part : Part) (resultStatus : Except Thrown Int) : Pair :=
  ⟨resultStatus, part.raise, part.systemTime, part.lower, part.push⟩

/-- The measuring object, the thread, and the record: each part the thread has got to, with the status
it was given if the call returned. -/
structure Line where
  halcon : Measure.State
  consumer : Consumer
  judged : List (Part × Option Int)

def Line.init (halcon : Measure.State) : Line := ⟨halcon, Consumer.init, []⟩

section

variable (hds : Headers)

/-- One turn of the loop of `thd_call_halcon_camera_array_with_delegate` that finds a pair of images. -/
def Line.process (s : Line) (part : Part) : Line :=
  match s.consumer.phase with
  | .loopHead =>
      match (Measure.halconActionWithImageList hds part.call).run
          { s.halcon with outStatus := none, out := none } with
      | .ok _ halcon =>
          let status := halcon.outStatus.getD part.garbage
          ⟨halcon, s.consumer.consume (part.pair (.ok status)), s.judged ++ [(part, some status)]⟩
      | .error e halcon =>
          ⟨halcon, s.consumer.consume (part.pair (.error (thrownBy e))), s.judged ++ [(part, none)]⟩
  | _ => s

def Line.run (s : Line) (parts : List Part) : Line := parts.foldl (Line.process hds) s

/-! ## What is right -/

/-- The part is measured by type 0, with the values the configuration has to have. -/
structure Part.Ready (part : Part) : Prop where
  type : part.call.type hds = 0
  enough : 12 ≤ part.call.adjustValues.length
  images : 2 ≤ part.call.images

/-- The status of the part: 0 and 1 by its six compared dimensions, 2 if it was not measured. -/
def Part.standing (part : Part) : Int :=
  match part.call.measured with
  | some size => if ∀ d ∈ Measure.checked, part.call.Within hds size d then 0 else 1
  | none => 2

end

/-- The pulse of a status. -/
def pulseOf (status : Int) : Option (Output × Int) := (outputOf status).map fun addr => (addr, status)

/-! ## The pulses of one turn -/

section Turn

variable {s : Lines} {pulses : List (Output × Int)}

theorem keeps_writePlc (addr : Output) (value : Bool) (written : Written) :
    Keeps (fun s : Lines => s.pulses = pulses) (writePlc addr value written) := by
  intro s same
  rw [wp_writePlc]
  cases written.answer with
  | ok _ => exact same
  | error _ => exact same

theorem keeps_callOut (outcome : Option Thrown) :
    Keeps (fun s : Lines => s.pulses = pulses) (callOut outcome) := by
  intro s same
  rw [wp_callOut]
  cases outcome with
  | none => exact same
  | some _ => exact same

theorem keeps_noteTime (systemTime : Option Thrown) :
    Keeps (fun s : Lines => s.pulses = pulses) (noteTime systemTime) := by
  refine .bind ?_ fun _ => .bind (keeps_callOut systemTime) fun _ => ?_
  · exact .get_bind fun s => .ite (fun _ => .throw _) fun _ => .modify fun _ same => same
  · exact .modify fun _ same => same

/-- A turn begins the pulse of its status and no other, however it ends. -/
theorem processPair_pulses (p : Pair) :
    wp (processPair p)
      (fun _ s' => s'.pulses = s.pulses ++ (p.resultStatus.toOption.bind pulseOf).toList)
      (fun _ s' => s'.pulses = s.pulses ++ (p.resultStatus.toOption.bind pulseOf).toList) s := by
  unfold processPair
  cases verdict : p.resultStatus with
  | error e => simp [Except.toOption]
  | ok status =>
      show wp (signal status p >>= fun _ => callOut p.push) _ _ _
      rw [wp_bind, signal]
      cases pulsed : outputOf status with
      | none =>
          have same : s.pulses ++ (((Except.ok status : Except Thrown Int).toOption.bind
              pulseOf).toList) = s.pulses := by simp [Except.toOption, pulseOf, pulsed]
          rw [same]
          exact keeps_callOut p.push s rfl
      | some addr =>
          have more : s.pulses ++ (((Except.ok status : Except Thrown Int).toOption.bind
              pulseOf).toList) = (s.noted addr status).pulses := by
            simp [Except.toOption, pulseOf, pulsed, Lines.noted]
          rw [more]
          have rest : Keeps (fun s' : Lines => s'.pulses = (s.noted addr status).pulses)
              (do writePlc addr true p.raise; noteTime p.systemTime; writePlc addr false p.lower) :=
            .bind (keeps_writePlc _ _ _) fun _ => .bind (keeps_noteTime _) fun _ => keeps_writePlc _ _ _
          show wp (pulse addr status p) _ _ s
          rw [pulse, wp_bind, wp_modify]
          exact wp_mono (rest (s.noted addr status) rfl)
            (fun _ s' same => keeps_callOut p.push s' same) fun _ _ same => same

end Turn

theorem Consumer.consume_pulses {c : Consumer} (waiting : c.phase = .loopHead) (p : Pair) :
    (c.consume p).lines.pulses =
      c.lines.pulses ++ (p.resultStatus.toOption.bind pulseOf).toList := by
  have ends := processPair_pulses (s := c.lines) p
  unfold wp at ends
  unfold Consumer.consume
  rw [waiting]
  cases ran : (processPair p).run c.lines with
  | ok _ lines =>
      rw [ran] at ends
      exact ends
  | error fault lines =>
      rw [ran] at ends
      exact ends

/-! ## The status of one call -/

/-- A call that returns for a part that is ready has given it its status. -/
theorem Part.Ready.standing_of_ok {hds : Headers} {part : Part} (ready : part.Ready hds)
    {h h' : Measure.State}
    (ran : (Measure.halconActionWithImageList hds part.call).run { h with outStatus := none, out := none } =
      .ok () h') : h'.outStatus = some (part.standing hds) := by
  have after : Measure.afterCall hds h part.call = h' := by rw [Measure.afterCall, ran]
  have verdict : (Measure.verdict hds h part.call).1 = h'.outStatus := by
    rw [Measure.verdict, after]
  rw [← verdict, Part.standing]
  cases measured : part.call.measured with
  | some size => exact Measure.status_of_measured ready.type ready.enough measured h
  | none =>
      rw [Measure.status_of_notMeasured ready.type measured, if_pos ready.images]

/-! ## The run -/

/-- What holds of the line after the parts `past`. -/
structure Line.Follows (hds : Headers) (past : List Part) (s : Line) : Prop where
  pulses : s.consumer.lines.pulses = s.judged.filterMap fun entry => entry.2.bind pulseOf
  order : s.judged.map Prod.fst = past.take s.judged.length
  length_le : s.judged.length ≤ past.length
  all : s.consumer.phase = .loopHead → s.judged.length = past.length
  right : ∀ entry ∈ s.judged, ∀ v, entry.2 = some v → v = entry.1.standing hds

/-- A part the thread gets to is recorded, with the status its call returned. -/
theorem Line.Follows.judge {hds : Headers} {past : List Part} {s : Line} (before : s.Follows hds past)
    (waiting : s.consumer.phase = .loopHead) (part : Part) (halcon : Measure.State)
    (status : Except Thrown Int)
    (right : ∀ v, status.toOption = some v → v = part.standing hds) :
    Line.Follows hds (past ++ [part])
      ⟨halcon, s.consumer.consume (part.pair status), s.judged ++ [(part, status.toOption)]⟩ := by
  have length := before.all waiting
  refine ⟨?_, ?_, ?_, fun _ => ?_, fun entry member v some => ?_⟩
  · show (s.consumer.consume (part.pair status)).lines.pulses = _
    rw [s.consumer.consume_pulses waiting, before.pulses, List.filterMap_append]
    congr 1
  · have whole : (past ++ [part]).length = past.length + 1 := by simp
    simp only [List.map_append, before.order, length, List.length_append, List.length_singleton,
      List.map_singleton, List.take_length]
    rw [← whole, List.take_length]
  · simp [length]
  · simp [length]
  · obtain old | new := List.mem_append.1 member
    · exact before.right entry old v some
    · obtain rfl := List.mem_singleton.1 new
      exact right v some

theorem Line.Follows.process {hds : Headers} {past : List Part} {s : Line} (before : s.Follows hds past)
    {part : Part} (ready : part.Ready hds) : Line.Follows hds (past ++ [part]) (s.process hds part) := by
  by_cases waiting : s.consumer.phase = .loopHead
  · unfold Line.process
    rw [waiting]
    cases ran : (Measure.halconActionWithImageList hds part.call).run
        { s.halcon with outStatus := none, out := none } with
    | ok _ halcon =>
        refine before.judge waiting part halcon (.ok (halcon.outStatus.getD part.garbage)) ?_
        intro v some
        rw [ready.standing_of_ok ran] at some
        exact (Option.some.inj some).symm
    | error e halcon =>
        exact before.judge waiting part halcon (.error (thrownBy e)) fun v some => nomatch some
  · have same : s.process hds part = s := by
      unfold Line.process
      split
      · exact absurd ‹_› waiting
      · rfl
    rw [same]
    refine ⟨before.pulses, ?_, ?_, fun head => absurd head waiting, before.right⟩
    · rw [List.take_append_of_le_length before.length_le]
      exact before.order
    · rw [List.length_append]
      exact Nat.le_add_right_of_le before.length_le

theorem Line.Follows.run {hds : Headers} {past parts : List Part} {s : Line} (before : s.Follows hds past)
    (ready : ∀ part ∈ parts, part.Ready hds) : Line.Follows hds (past ++ parts) (s.run hds parts) := by
  induction parts generalizing past s with
  | nil => rwa [List.append_nil]
  | cons part parts ih =>
      have rest := ih (before.process (ready part List.mem_cons_self)) fun p member =>
        ready p (List.mem_cons_of_mem _ member)
      rwa [List.append_assoc] at rest

/-- **The pulses follow the verdicts.**  Whatever state the measuring object is in and whatever the calls
made after a verdict do: the pulses begun are those of the statuses of the parts the thread has got to,
in the order of the parts and one for each; these are all parts as long as the thread is at its loop;
and each status is the one its part deserves. -/
theorem pulses_follow_verdicts (hds : Headers) (halcon : Measure.State) (parts : List Part)
    (ready : ∀ part ∈ parts, part.Ready hds) :
    let s := (Line.init halcon).run hds parts
    s.consumer.lines.pulses = (s.judged.filterMap fun entry => entry.2.bind pulseOf) ∧
    s.judged.map Prod.fst = parts.take s.judged.length ∧
    (s.consumer.phase = .loopHead → s.judged.length = parts.length) ∧
    ∀ entry ∈ s.judged, ∀ v, entry.2 = some v → v = entry.1.standing hds := by
  have start : (Line.init halcon).Follows hds [] :=
    ⟨rfl, rfl, Nat.le_refl _, fun _ => rfl, fun _ member => nomatch member⟩
  have final := start.run ready
  exact ⟨final.pulses, final.order, final.all, final.right⟩

/-- A part that is measured and all of whose calls end well. -/
def plainPart : Part := ⟨Measure.longPart, 7, ⟨true, .ok true⟩, none, ⟨true, .ok true⟩, none⟩

theorem plainPart_ready : plainPart.Ready Headers.whole := ⟨by decide, by decide, by decide⟩

/-- The two parts, measured one after the other. -/
def plainRun : Line :=
  (Line.init (Measure.State.init fun _ => 0)).run Headers.whole [plainPart, plainPart]

theorem pulses_follow_verdicts_plain :
    (∀ part ∈ [plainPart, plainPart], part.Ready Headers.whole) ∧
      plainRun.consumer.lines.pulses = [(.ok, 0), (.ok, 0)] ∧
      ∀ entry ∈ plainRun.judged, ∀ v, entry.2 = some v → v = entry.1.standing Headers.whole := by
  have ready : ∀ part ∈ [plainPart, plainPart], part.Ready Headers.whole := fun part member => by
    obtain rfl : part = plainPart := by simpa using member
    exact plainPart_ready
  exact ⟨ready, by decide +kernel, (pulses_follow_verdicts _ _ _ ready).2.2.2⟩

end TizerVision.Loader
