import Choreo.Transition

/-!
The master timeline: scenes laid end to end by their estimated durations.

Scenes do not overlap. A scene that opens with a transition is drawn over the last frame of the
scene before it while the transition runs.
-/

namespace Choreo

/-- How long a scene takes, and the transition it opens with. -/
structure Estimate (α : Type) where
  duration : α
  transition : Option (Transition α)
  deriving DecidableEq, Repr

/-- Scenes laid end to end. -/
structure Timeline (α : Type) where
  durations : List α
  /-- When each scene starts. -/
  starts : List α
  total : α
  deriving Repr

namespace Timeline
variable {α : Type} [Scalar α]

/-- The starts of scenes laid out from a time on, and the time where the last ends. A negative
duration counts as none. -/
def layOut : α → List α → List α × α
  | time, [] => ([], time)
  | time, d :: ds =>
    let (starts, stop) := layOut (time + Scalar.larger d Scalar.zero) ds
    (time :: starts, stop)

def ofDurations (ds : List α) : Timeline α :=
  let (starts, total) := layOut Scalar.zero ds
  { durations := ds, starts := starts, total := total }

def length (l : Timeline α) : Nat := l.durations.length

/-- Where a time would be inserted among sorted starts, behind those equal to it. The search keeps
the place between `lo` and `hi`. -/
def insertion (starts : List α) (t : α) (lo hi : Nat) : Nat :=
  if h : lo < hi then
    let middle := (lo + hi) / 2
    if t < starts.getD middle t then insertion starts t lo middle
    else insertion starts t (middle + 1) hi
  else lo
termination_by hi - lo

/-- From a scene on, the first that is not over at a time, or else the last. -/
def settle (l : Timeline α) (t : α) (i : Nat) : (remaining : Nat) → Nat
  | 0 => i
  | remaining + 1 =>
    match l.starts[i]?, l.durations[i]? with
    | some start, some d => if start + d ≤ t then settle l t (i + 1) remaining else i
    | _, _ => i

/-- The scene that plays at a time and how far into it the time is. Times past the end lie in the
last scene, and negative ones at the start. A timeline without scenes has no answer. -/
def locate (l : Timeline α) (t : α) : Option (Nat × α) :=
  if l.length = 0 then none
  else
    let t := Scalar.larger t Scalar.zero
    let i := insertion l.starts t 0 l.length - 1
    let i := settle l t i (l.length - 1 - i)
    some (i, t - l.starts.getD i Scalar.zero)

/-- What is said of a timeline without scenes. -/
def emptyMessage : String := "Timeline has no scenes"

/-- The member of a list at a position. A negative position counts from the end. -/
def member? {β : Type} (xs : List β) (i : Int) : Option β :=
  if 0 ≤ i then xs[i.toNat]? else if i.natAbs ≤ xs.length then xs[xs.length - i.natAbs]? else none

/-- When a scene starts. A negative position counts from the end. -/
def startOf? (l : Timeline α) (i : Int) : Option α := member? l.starts i

end Timeline

/-- How far along the opening transition of a scene is, at an offset into the scene at a position.
There is none to draw in the first scene, and none once it is over. -/
def Estimate.progress? {α : Type} [Scalar α] (e : Estimate α) (position : Int) (offset : α) :
    Option α :=
  match e.transition with
  | none => none
  | some t =>
    if position = 0 then none
    else if t.duration ≤ offset then none
    else if t.duration ≤ Scalar.zero then some Scalar.one
    else some (Scalar.smaller (Scalar.larger (offset / t.duration) Scalar.zero) Scalar.one)

end Choreo
