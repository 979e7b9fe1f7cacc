import Choreo.Flow.Leaf

/-!
A flow in play: its task, with the named tasks it uses.
-/

namespace Choreo

structure Playback (α : Type) where
  task : Task (Leaf α)
  crew : Crew α

namespace Playback
variable {α : Type}

def ofFlow (f : Flow α) : Playback α := { task := f.toTask .drain, crew := .ofFlow f }

def isDone (p : Playback α) : Bool := p.task.isDone

def close (p : Playback α) : Playback α := { p with task := p.task.close }

section
variable [Scalar α] [Analytic α]

/-- Makes a call on the task of a playback, with its own crew in the show. -/
def call (p : Playback α)
    (f : Task (Leaf α) → Show α → (Except FlowFault Bool × Task (Leaf α)) × Show α)
    (w : Show α) : (Except FlowFault Bool × Playback α) × Show α :=
  let ((r, t), w') := f p.task { w with crew := p.crew }
  ((r, { task := t, crew := w'.crew }), w')

/-- Runs the flow to its first pause. Reports whether it is done. -/
def start (p : Playback α) (w : Show α) : (Except FlowFault Bool × Playback α) × Show α :=
  p.call (Task.start Leaf.machine) w

/-- One step. -/
def next (p : Playback α) (dt : Option α) (w : Show α) :
    (Except FlowFault Bool × Playback α) × Show α :=
  p.call (Task.next Leaf.machine dt) w

/-- One step while updates are suppressed. -/
def nextSuppressed (p : Playback α) (dt : Option α) (w : Show α) :
    (Except FlowFault Bool × Playback α) × Show α :=
  let (r, w') := p.next dt { w with suppressed := true }
  (r, { w' with suppressed := w.suppressed })

/-- Steps until the flow is done, and counts the steps. A flow that is not done within the limit has
no count. -/
def play (dt : Option α) : (limit : Nat) → (p : Playback α) → (w : Show α) →
    (Except FlowFault (Option Nat) × Playback α) × Show α
  | 0, p, w => ((.ok none, p), w)
  | limit + 1, p, w =>
    match p.next dt w with
    | ((.error f, p'), w') => ((.error f, p'), w')
    | ((.ok true, p'), w') => ((.ok (some 1), p'), w')
    | ((.ok false, p'), w') =>
      let ((r, p''), w'') := play dt limit p' w'
      ((r.map fun n => n.map (· + 1), p''), w'')

end
end Playback
end Choreo
