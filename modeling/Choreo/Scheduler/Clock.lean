import Choreo.Scheduler.Basic

/-!
Driving a scheduler from a clock that only sleeping advances.

The driver asks for a frame at the present time and sleeps for the length of one frame, for as long
as the scheduler wants more. It may be cancelled in a sleep, or before it starts.
-/

namespace Choreo

/-- How a drive came to its end. -/
inductive Ending where
  | returned | cancelled
  deriving DecidableEq, Repr

/-- The end of a drive, and how often it slept. -/
structure Drive where
  ending : Ending
  sleeps : Nat
  deriving DecidableEq, Repr

/-- Why a drive failed. -/
inductive DriveFault (ε : Type) where
  | number (fault : NumberFault)
  | scheduler (fault : SchedulerFault ε)

namespace Stagehand
variable {F A L α W ε : Type} [Scalar α]

/-- Frames and sleeps from a time on, after some sleeps. -/
def driveFrom (th : Theatre F A L α W ε) (call : Caller F A L α W ε) (interval : α)
    (cancelAt : Option Nat) :
    (limit sleeps : Nat) → (now : α) → Stagehand F A L α W → Turn F A L α W ε Drive
  | 0, _, _, h => (.error .endless, h)
  | limit + 1, sleeps, now, h =>
    match frame th call now h with
    | (.error f, h) => (.error f, h)
    | (.ok false, h) => (.ok ⟨.returned, sleeps⟩, h)
    | (.ok true, h) =>
      if cancelAt = some (sleeps + 1) then (.ok ⟨.cancelled, sleeps + 1⟩, h)
      else driveFrom th call interval cancelAt limit (sleeps + 1) (now + interval) h

/-- More frames than any drive is given. -/
def driveLimit : Nat := 100000000

/-- Drives a scheduler at a frame rate from a time on, until it wants no more frames or the sleep
with a given number is cancelled. The rate may not be nought. -/
def drive (th : Theatre F A L α W ε) (rate now : α) (cancelAt : Option Nat)
    (h : Stagehand F A L α W) : Except (DriveFault ε) Drive × Stagehand F A L α W :=
  if cancelAt = some 0 then (.ok ⟨.cancelled, 0⟩, h)
  else if rate == Scalar.zero then (.error (.number .divisionByZero), h)
  else
    let (r, h) :=
      driveFrom th (callBack th depthLimit) (Scalar.one / rate) cancelAt driveLimit 0 now h
    (r.mapError .scheduler, h)

end Stagehand
end Choreo
