import Choreo.Flow.Animation

/-!
The leaves of a flow in play, and the tasks that go by a name.

A named task belongs to the crew of the flow, and every node that names it is a leaf that steps it
there. It is given its part when the first node that names it is built. A task that is being stepped
cannot be stepped again from within, so at most one step of each named task is under way: the
machine of a flow needs to reach no deeper than the number of its named nodes.
-/

namespace Choreo

/-- A leaf of a flow: an action not yet begun, one under way, or a use of a named task. -/
inductive Leaf (α : Type) where
  | todo (action : Action α)
  | waiting (elapsed duration : α)
  | tweening (t : Tween α)
  | ticking (tag : String) (left : Nat)
  /-- Builds the named tasks a part needs before the part is reached. -/
  | enlist (part : Flow α)
  /-- Steps a named task and never starts it by itself. -/
  | visit (name : String)
  /-- Starts a named task and steps it until it is done. -/
  | drain (name : String)
  /-- A task in the place of a routine. -/
  | handle

/-- A named task, and whether a step of it is under way. -/
structure Member (α : Type) where
  name : String
  task : Task (Leaf α)
  busy : Bool

/-- The named tasks of a flow. -/
structure Crew (α : Type) where
  /-- The tasks built so far, in order. -/
  members : List (Member α)
  /-- How many tasks may be stepped from within one another. -/
  depth : Nat

/-- What a flow plays in. -/
abbrev Show (α : Type) := World α (Crew α)

namespace Crew
variable {α : Type}

def empty : Crew α := { members := [], depth := 0 }

def member? (c : Crew α) (name : String) : Option (Member α) := c.members.find? (·.name = name)

def put (c : Crew α) (m : Member α) : Crew α :=
  { c with members := c.members.map fun x => if x.name = m.name then m else x }

def add (c : Crew α) (name : String) (t : Task (Leaf α)) : Crew α :=
  { c with members := c.members ++ [{ name := name, task := t, busy := false }] }

end Crew

namespace Flow
variable {α : Type}

mutual

/-- The routine of a flow. -/
def toRoutine : Flow α → Routine (Leaf α)
  | .act a => .leaf (.todo a)
  | .all fs => .all (toTasks .visit fs)
  | .chain fs => .chain (toTasks .drain fs)
  | .delay seconds f => .delay (.todo (.wait seconds)) (toTask .drain f)
  | .steps fs => .seq (toRoutines fs)
  | .task _ => .leaf .handle
  | .named _ _ => .leaf .handle

/-- The task of a flow, given how a named task is used here. -/
def toTask (use : String → Leaf α) : Flow α → Task (Leaf α)
  | .act a => .fresh (.leaf (.todo a))
  | .all fs => .fresh (.all (toTasks .visit fs))
  | .chain fs => .fresh (.chain (toTasks .drain fs))
  | .delay seconds f => .fresh (.delay (.todo (.wait seconds)) (toTask .drain f))
  | .steps fs => .fresh (.seq (toRoutines fs))
  | .task f => .fresh (toRoutine f)
  | .named name _ => .fresh (.leaf (use name))

/-- The tasks of several flows. -/
def toTasks (use : String → Leaf α) : List (Flow α) → List (Task (Leaf α))
  | [] => []
  | f :: fs => toTask use f :: toTasks use fs

/-- The routines of the parts of a sequence. The named tasks of a part are built when the part is
reached. -/
def toRoutines : List (Flow α) → List (Routine (Leaf α))
  | [] => []
  | f :: fs =>
    if nameCount f = 0 then toRoutine f :: toRoutines fs
    else .leaf (.enlist f) :: toRoutine f :: toRoutines fs

end

mutual

/-- Builds the named tasks of a flow that are not built yet, outermost first. Parts of a sequence
wait until they are reached, and a name that is taken hides what else is said of it. -/
def enlist : Flow α → Crew α → Crew α
  | .act _, c => c
  | .all fs, c => enlistAll fs c
  | .chain fs, c => enlistAll fs c
  | .delay _ f, c => enlist f c
  | .steps _, c => c
  | .task f, c => enlist f c
  | .named name f, c =>
    if (c.member? name).isSome then c
    else enlist f (c.add name (.fresh (toRoutine f)))

def enlistAll : List (Flow α) → Crew α → Crew α
  | [], c => c
  | f :: fs, c => enlistAll fs (enlist f c)

end

end Flow

namespace Leaf
variable {α : Type} [Scalar α] [Analytic α]

/-- A machine for leaves. -/
abbrev Player (α : Type) := Machine (Leaf α) (Option α) (Show α) FlowFault

/-- What a call on a leaf ends in. -/
abbrev Turn (α : Type) := Signal (Leaf α) FlowFault × Show α

/-- A step of a tween as a step of a leaf. -/
def ofTween : Signal (Tween α) FlowFault × Show α → Turn α
  | (.paused t, w) => (.paused (.tweening t), w)
  | (.finished, w) => (.finished, w)
  | (.failed f, w) => (.failed f, w)

/-- Waits as long as less than the duration has passed. -/
def wait (elapsed d : α) (w : Show α) : Turn α :=
  if elapsed < d then (.paused (.waiting elapsed d), w) else (.finished, w)

/-- Begins an action. -/
def begin : Action α → Show α → Turn α
  | .wait d, w => wait Scalar.zero d w
  | .transition t, w => wait Scalar.zero t.duration w
  | .tween tag d easing, w =>
    ofTween (Animation.startTween (.report tag) (.number d) easing w)
  | .animate target arguments easing, w =>
    ofTween (Animation.start target arguments easing w)
  | .type target content d, w => ofTween (Animation.startTyping target content d w)
  | .mark tag, w => (.finished, w.report (.mark tag))
  | .ticks _ 0, w => (.finished, w)
  | .ticks tag (n + 1), w => (.paused (.ticking tag (n + 1)), w)
  | .fail message, w => (.failed (.raised message), w)

/-- A call on a named task. While the task is being stepped, starting it does nothing and stepping
it is a fault. -/
def call (player : Player α) (name : String) (dt : Option (Option α)) (w : Show α) :
    Except FlowFault Bool × Show α :=
  match w.crew.member? name with
  | none => (.error .notRoutine, w)
  | some m =>
    if m.busy then
      match dt with
      | none => (.ok false, w)
      | some _ => (.error .alreadyRunning, w)
    else
      let w := { w with crew := w.crew.put { m with busy := true } }
      let ((r, t), w) := match dt with
        | none => m.task.start player w
        | some dt => m.task.next player dt w
      (r, { w with crew := w.crew.put { m with task := t, busy := false } })

/-- A leaf that stays as it is until the task it uses is done. -/
def follow (l : Leaf α) : Except FlowFault Bool × Show α → Turn α
  | (.ok true, w) => (.finished, w)
  | (.ok false, w) => (.paused l, w)
  | (.error f, w) => (.failed f, w)

/-- Starts a leaf. Named tasks are run by `player`. -/
def start (player : Player α) (l : Leaf α) (w : Show α) : Turn α :=
  match l with
  | .todo a => begin a w
  | .waiting elapsed d => wait elapsed d w
  | .tweening t => ofTween (t.start w)
  | .ticking tag left => begin (.ticks tag left) w
  | .enlist part => (.finished, { w with crew := part.enlist w.crew })
  | .visit name => (.paused (.visit name), w)
  | .drain name => follow (.drain name) (call player name none w)
  | .handle => (.failed .notRoutine, w)

/-- Resumes a leaf with a step size. -/
def resume (player : Player α) (l : Leaf α) (dt : Option α) (w : Show α) : Turn α :=
  match l with
  | .waiting elapsed d => wait (elapsed + dt.getD Scalar.zero) d w
  | .tweening t => ofTween (t.resume dt w)
  | .ticking tag (n + 1) => begin (.ticks tag n) (w.report (.tick tag dt))
  | .visit name => follow (.visit name) (call player name (some dt) w)
  | .drain name => follow (.drain name) (call player name (some dt) w)
  | .ticking _ 0 | .todo _ | .enlist _ | .handle => (.finished, w)

/-- A machine over one that runs named tasks. -/
def around (player : Player α) : Player α :=
  { start := start player, resume := resume player, stepped := .finishedTask }

/-- A machine that runs nothing. -/
def idle : Player α :=
  { start := fun l w => (.paused l, w)
    resume := fun _ _ w => (.failed .alreadyRunning, w)
    stepped := .finishedTask }

/-- The machine that runs leaves whose named tasks step one another no deeper than a bound. -/
def bounded : Nat → Player α
  | 0 => around idle
  | depth + 1 => around (bounded depth)

/-- The machine that runs the leaves of a flow, as deep as its crew needs. -/
def machine : Player α :=
  { start := fun l w => (bounded w.crew.depth).start l w
    resume := fun l dt w => (bounded w.crew.depth).resume l dt w
    stepped := .finishedTask }

end Leaf

/-- The crew of a flow that is just built. -/
def Crew.ofFlow {α : Type} (f : Flow α) : Crew α :=
  f.enlist { Crew.empty with depth := f.nameCount }

end Choreo
