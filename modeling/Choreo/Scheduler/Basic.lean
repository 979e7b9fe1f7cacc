import Choreo.Event
import Choreo.Number.Scalar
import Choreo.Routine.Basic

/-!
The scheduler: plays one flow at a time against a clock.

A mount starts a flow, and seeking replays it from the start in small steps of one size, the last
one clipped so that it lands on the offset. Once caught up, the host calls with timestamps: the
first only starts the clock, and each later one steps the flow by the time that passed, within a
bound. Whoever mounts a flow may leave a callback, which is run when the flow is done and may itself
use the scheduler. An abandoned run never calls back.

What is played is a parameter, so nothing here depends on what flows are made of.
-/

namespace Choreo

/-- What a scheduler works in: flows `F` that are built in a world `W`, the machine that runs their
leaves, and the acts `A` of a callback beside those on the scheduler. -/
structure Theatre (F A L α W ε : Type) where
  machine : Machine L (Option α) W ε
  build : F → W → Task L × W
  act : A → W → Except ε Unit × W
  /-- Notes that a run with a tag is over, and what the scheduler is doing then. -/
  announce : String → Phase → W → W

mutual

/-- A call on a scheduler, or an act of the host. -/
inductive Command (F A α : Type) where
  | mount (flow : F) (playing : Bool) (offset : α) (callback : Option (Callback F A α))
  | frame (now : α)
  | frames (times : List α)
  | seek (offset : α)
  | pause
  | play
  | unmount
  | act (a : A)

/-- What is done when a run is over. -/
inductive Callback (F A α : Type) where
  | mk (tag : String) (commands : List (Command F A α))

end

/-- Why a call on a scheduler failed. -/
inductive SchedulerFault (ε : Type) where
  /-- There is no flow to seek in. -/
  | unmounted
  /-- Callbacks or steps without an end. -/
  | endless
  | flow (fault : ε)
  deriving DecidableEq, Repr

/-- What is said of seeking without a flow. -/
def SchedulerFault.unmountedMessage : String := "seek() before mount()"

/-- What a call reports. -/
inductive Reply where
  | nothing
  /-- Whether the scheduler wants more frames. -/
  | wants (more : Bool)
  | each (more : List Bool)
  deriving DecidableEq, Repr

structure Scheduler (F A L α : Type) where
  /-- The step of seeking. -/
  step : α
  /-- The longest step of a frame. -/
  longest : α
  phase : Phase
  /-- How far into the flow the run is. -/
  time : α
  mounted : Option (F × Option (Callback F A α))
  task : Option (Task L)
  /-- The timestamp of the last frame, once the clock runs. -/
  last : Option α
  playing : Bool

namespace Scheduler
variable {F A L α W ε : Type}

section
variable [Scalar α]

/-- The usual step of seeking. -/
def usualStep : α := Scalar.ofRat (1 / 60)

/-- The usual bound of a frame's step. -/
def usualLongest : α := Scalar.ofRat (1 / 10)

/-- How close to its target a seek has to come. -/
def slack : α := Scalar.ofRat (1 / 1000000000)

def idle (step longest : α) : Scheduler F A L α :=
  { step := step, longest := longest, phase := .uninitialized, time := Scalar.zero, mounted := none,
    task := none, last := none, playing := true }

end

/-- Whether the scheduler wants frames. -/
def isActive (s : Scheduler F A L α) : Bool := s.phase = .running

/-- Detaches from the clock without finishing. -/
def unmount (s : Scheduler F A L α) : Scheduler F A L α :=
  { s with phase := .uninitialized, mounted := none, task := none, last := none }

def pause (s : Scheduler F A L α) : Scheduler F A L α :=
  { s with playing := false, phase := if s.phase = .running then .paused else s.phase }

/-- Plays on. After a pause the clock starts anew. -/
def play (s : Scheduler F A L α) : Scheduler F A L α :=
  if s.phase = .paused then { s with playing := true, last := none, phase := .running }
  else { s with playing := true }

/-- The phase of a run that has caught up. -/
def caughtUp (s : Scheduler F A L α) : Scheduler F A L α :=
  { s with phase := if s.playing then .running else .paused }

end Scheduler

/-- A scheduler and the world it plays in. -/
structure Stagehand (F A L α W : Type) where
  scheduler : Scheduler F A L α
  world : W

namespace Stagehand
variable {F A L α W ε : Type}

/-- What a call ends in. It may change things before it fails. -/
abbrev Turn (F A L α W ε β : Type) := Except (SchedulerFault ε) β × Stagehand F A L α W

/-- How a callback is run. -/
abbrev Caller (F A L α W ε : Type) :=
  Callback F A α → Stagehand F A L α W → Turn F A L α W ε Unit

/-- Ends the run, which is done, and runs the callback of its mount. -/
def finish (call : Caller F A L α W ε) (h : Stagehand F A L α W) : Turn F A L α W ε Unit :=
  let h := { h with scheduler := { h.scheduler with phase := .done, task := none } }
  match h.scheduler.mounted with
  | some (_, some callback) => call callback h
  | _ => (.ok (), h)

section
variable [Scalar α]

/-- Steps a task of the run and keeps it. -/
def stepTask (th : Theatre F A L α W ε) (dt : α) (t : Task L) (h : Stagehand F A L α W) :
    Turn F A L α W ε Bool :=
  let s := { h.scheduler with time := h.scheduler.time + dt }
  let ((r, t'), w) := t.next th.machine (some dt) h.world
  (r.mapError .flow, { scheduler := { s with task := some t' }, world := w })

/-- Replays a task up to an offset. Reports whether it was done on the way. -/
def catchUp (th : Theatre F A L α W ε) (offset : α) :
    (limit : Nat) → Task L → Stagehand F A L α W → Turn F A L α W ε Bool
  | 0, _, h => (.error .endless, h)
  | limit + 1, t, h =>
    if h.scheduler.time < offset - Scheduler.slack then
      let dt := Scalar.smaller h.scheduler.step (offset - h.scheduler.time)
      match stepTask th dt t h with
      | (.ok false, h') =>
        match h'.scheduler.task with
        | some t' => catchUp th offset limit t' h'
        | none => (.ok false, h')
      | turn => turn
    else (.ok false, h)

/-- More steps than a replay up to an offset needs. -/
def catchUpLimit (step offset : α) : Nat :=
  100000000 +
    match Scalar.truncate (offset / step) with
    | .ok n => 2 * n.toNat
    | .error _ => 0

/-- Starts a flow afresh and replays it up to an offset. -/
def restart (th : Theatre F A L α W ε) (call : Caller F A L α W ε) (flow : F) (offset : α)
    (h : Stagehand F A L α W) : Turn F A L α W ε Unit :=
  let (t, w) := th.build flow h.world
  let h : Stagehand F A L α W :=
    { scheduler :=
        { h.scheduler with task := some t, last := none, time := Scalar.zero, phase := .seeking }
      world := w }
  let turn :=
    if Scalar.zero < offset then
      catchUp th offset (catchUpLimit h.scheduler.step offset) t h
    else (.ok false, h)
  match turn with
  | (.error f, h) => (.error f, h)
  | (.ok true, h) => finish call h
  | (.ok false, h) => (.ok (), { h with scheduler := h.scheduler.caughtUp })

/-- A frame at a timestamp. The step is the time since the last frame, no less than nought and no
more than the bound. Reports whether more frames are wanted. -/
def frame (th : Theatre F A L α W ε) (call : Caller F A L α W ε) (now : α)
    (h : Stagehand F A L α W) : Turn F A L α W ε Bool :=
  let s := h.scheduler
  if s.phase ≠ .running then (.ok false, h)
  else
    match s.last, s.task with
    | none, _ => (.ok true, { h with scheduler := { s with last := some now } })
    | some _, none => (.ok false, h)
    | some last, some t =>
      let dt := Scalar.smaller (Scalar.larger (now - last) Scalar.zero) s.longest
      match stepTask th dt t { h with scheduler := { s with last := some now } } with
      | (.error f, h) => (.error f, h)
      | (.ok false, h) => (.ok true, h)
      | (.ok true, h) =>
        match finish call h with
        | (.error f, h) => (.error f, h)
        | (.ok (), h) => (.ok h.scheduler.isActive, h)

/-- Frames at several timestamps. -/
def frames (th : Theatre F A L α W ε) (call : Caller F A L α W ε) :
    List α → Stagehand F A L α W → Turn F A L α W ε (List Bool)
  | [], h => (.ok [], h)
  | now :: rest, h =>
    match frame th call now h with
    | (.error f, h) => (.error f, h)
    | (.ok more, h) =>
      let (r, h) := frames th call rest h
      (r.map (more :: ·), h)

/-- Carries out a command, given how callbacks are run. -/
def perform (th : Theatre F A L α W ε) (call : Caller F A L α W ε) (c : Command F A α)
    (h : Stagehand F A L α W) : Turn F A L α W ε Reply :=
  let quiet := fun (turn : Turn F A L α W ε Unit) => (turn.1.map fun _ => Reply.nothing, turn.2)
  match c with
  | .mount flow playing offset callback =>
    let s := { h.scheduler.unmount with mounted := some (flow, callback), playing := playing }
    quiet (restart th call flow offset { h with scheduler := s })
  | .seek offset =>
    match h.scheduler.mounted with
    | none => (.error .unmounted, h)
    | some (flow, _) => quiet (restart th call flow offset h)
  | .frame now =>
    let (r, h) := frame th call now h
    (r.map .wants, h)
  | .frames times =>
    let (r, h) := frames th call times h
    (r.map .each, h)
  | .pause => (.ok .nothing, { h with scheduler := h.scheduler.pause })
  | .play => (.ok .nothing, { h with scheduler := h.scheduler.play })
  | .unmount => (.ok .nothing, { h with scheduler := h.scheduler.unmount })
  | .act a =>
    let (r, w) := th.act a h.world
    ((r.map fun _ => Reply.nothing).mapError .flow, { h with world := w })

/-- Carries out commands until one fails. -/
def performAll (th : Theatre F A L α W ε) (call : Caller F A L α W ε) :
    List (Command F A α) → Stagehand F A L α W → Turn F A L α W ε Unit
  | [], h => (.ok (), h)
  | c :: cs, h =>
    match perform th call c h with
    | (.error f, h) => (.error f, h)
    | (.ok _, h) => performAll th call cs h

/-- Runs a callback whose commands may end runs and so run callbacks, to a depth. -/
def callBack (th : Theatre F A L α W ε) : (depth : Nat) → Caller F A L α W ε
  | 0, _, h => (.error .endless, h)
  | depth + 1, .mk tag commands, h =>
    performAll th (callBack th depth) commands
      { h with world := th.announce tag h.scheduler.phase h.world }

/-- How deep callbacks may run one another. -/
def depthLimit : Nat := 1000

/-- Carries out a command. -/
def run (th : Theatre F A L α W ε) (c : Command F A α) (h : Stagehand F A L α W) :
    Turn F A L α W ε Reply :=
  perform th (callBack th depthLimit) c h

end
end Stagehand
end Choreo
