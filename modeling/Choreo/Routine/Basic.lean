/-!
Routines: computations that pause and are resumed with a step.

A machine describes the leaves: what starting a leaf does and what resuming it with a step does. On
top of any machine there are four ways of combining routines: in parallel, one task after another,
a task behind a leaf, and one routine after another. The leaves are a parameter, so every law about
the combinations holds for arbitrary step machines.

A routine that has been started either pauses, finishes or fails; one that failed is never resumed.
`advance` covers starting, resuming and both in a row with one recursion: it is given at most one
step, and what finishes before it pauses hands the step on unused.
-/

namespace Choreo

/-- How a leaf left the last call: paused in a new state, finished, or failed. -/
inductive Signal (S ε : Type) where
  | paused (state : S)
  | finished
  | failed (fault : ε)

/-- How an advance ended. A routine that finished before it paused did not use its step. -/
inductive Outcome (S δ ε : Type) where
  | paused (state : S)
  | finished (unused : Option δ)
  | failed (fault : ε)

namespace Outcome
variable {S T δ ε : Type}

def map (f : S → T) : Outcome S δ ε → Outcome T δ ε
  | paused s => paused (f s)
  | finished unused => finished unused
  | failed e => failed e

/-- The outcome of a call that used its step. -/
def ofSignal : Signal S ε → Outcome S δ ε
  | .paused s => paused s
  | .finished => finished none
  | .failed e => failed e

end Outcome

/-- The leaves of routines: states `L`, steps `δ`, a world `W` they act on, and faults `ε`. -/
structure Machine (L δ W ε : Type) where
  /-- Runs a leaf to its first pause. -/
  start : L → W → Signal L ε × W
  /-- Resumes a paused leaf with a step. -/
  resume : L → δ → W → Signal L ε × W
  /-- The fault of stepping a task that is done. -/
  stepped : ε

mutual

/-- A computation over leaves. -/
inductive Routine (L : Type) where
  | leaf (state : L)
  /-- All tasks in parallel, each given every step, until all are done. -/
  | all (tasks : List (Task L))
  /-- The tasks one after another; a paused chain waits in its first task. -/
  | chain (tasks : List (Task L))
  /-- A leaf, and behind it a task. -/
  | delay (wait : L) (next : Task L)
  /-- The parts one after another; a paused sequence waits in its first part. -/
  | seq (parts : List (Routine L))

/-- A routine with its life cycle. -/
inductive Task (L : Type) where
  | fresh (routine : Routine L)
  | paused (routine : Routine L)
  /-- The routine failed: the task was not completed, and its next step finds nothing to run. -/
  | crashed
  | done

end

namespace Machine
variable {L δ W ε : Type}

/-- Starts a fresh leaf, and resumes it if there is a step and it paused. -/
def advance (m : Machine L δ W ε) (fresh : Bool) (input : Option δ) (l : L) (w : W) :
    Outcome L δ ε × W :=
  if fresh then
    match m.start l w with
    | (.paused l', w') =>
      match input with
      | none => (.paused l', w')
      | some dt =>
        let (s, w'') := m.resume l' dt w'
        (.ofSignal s, w'')
    | (.finished, w') => (.finished input, w')
    | (.failed e, w') => (.failed e, w')
  else
    match input with
    | none => (.paused l, w)
    | some dt =>
      let (s, w') := m.resume l dt w
      (.ofSignal s, w')

end Machine

section
variable {L δ W ε : Type}

mutual

/-- Runs a fresh routine to its first pause, and a paused one through one step. With a step, a
fresh routine that pauses is resumed at once. -/
def Routine.advance (m : Machine L δ W ε) (fresh : Bool) (input : Option δ) :
    Routine L → W → Outcome (Routine L) δ ε × W
  | .leaf l, w =>
    let (o, w') := m.advance fresh input l w
    (o.map .leaf, w')
  | .all ts, w =>
    if fresh && ts.isEmpty then (.finished input, w)
    else
      match input with
      | none => (.paused (.all ts), w)
      | some dt =>
        match Task.advanceAll m dt ts w with
        | (.error e, w') => (.failed e, w')
        | (.ok [], w') => (.finished none, w')
        | (.ok live, w') => (.paused (.all live), w')
  | .chain ts, w => Task.advanceChain m input ts w
  | .delay l t, w =>
    match m.advance fresh input l w with
    | (.paused l', w') => (.paused (.delay l' t), w')
    | (.failed e, w') => (.failed e, w')
    | (.finished unused, w') =>
      let (o, w'') := Task.advance m unused t w'
      (o.map fun t' => .chain [t'], w'')
  | .seq rs, w => Routine.advanceSeq m fresh input rs w

/-- Runs a task that is not started to its first pause, and gives it the step. A task that is done
leaves the step unused. -/
def Task.advance (m : Machine L δ W ε) (input : Option δ) :
    Task L → W → Outcome (Task L) δ ε × W
  | .fresh r, w =>
    let (o, w') := Routine.advance m true input r w
    (o.map .paused, w')
  | .paused r, w =>
    let (o, w') := Routine.advance m false input r w
    (o.map .paused, w')
  | .crashed, w =>
    match input with
    | none => (.paused .crashed, w)
    | some _ => (.finished none, w)
  | .done, w => (.finished input, w)

/-- Gives the step to every task in order, and keeps those that are not done. -/
def Task.advanceAll (m : Machine L δ W ε) (dt : δ) :
    List (Task L) → W → Except ε (List (Task L)) × W
  | [], w => (.ok [], w)
  | .done :: _, w => (.error m.stepped, w)
  | t :: ts, w =>
    match Task.advance m (some dt) t w with
    | (.failed e, w') => (.error e, w')
    | (.finished _, w') => Task.advanceAll m dt ts w'
    | (.paused t', w') =>
      match Task.advanceAll m dt ts w' with
      | (.error e, w'') => (.error e, w'')
      | (.ok live, w'') => (.ok (t' :: live), w'')

/-- Runs the tasks one after another until one pauses. -/
def Task.advanceChain (m : Machine L δ W ε) (input : Option δ) :
    List (Task L) → W → Outcome (Routine L) δ ε × W
  | [], w => (.finished input, w)
  | t :: ts, w =>
    match Task.advance m input t w with
    | (.failed e, w') => (.failed e, w')
    | (.finished unused, w') => Task.advanceChain m unused ts w'
    | (.paused t', w') => (.paused (.chain (t' :: ts)), w')

/-- Runs the parts one after another until one pauses. Only the first may have been started. -/
def Routine.advanceSeq (m : Machine L δ W ε) (fresh : Bool) (input : Option δ) :
    List (Routine L) → W → Outcome (Routine L) δ ε × W
  | [], w => (.finished input, w)
  | r :: rs, w =>
    match Routine.advance m fresh input r w with
    | (.failed e, w') => (.failed e, w')
    | (.finished unused, w') => Routine.advanceSeq m true unused rs w'
    | (.paused r', w') => (.paused (.seq (r' :: rs)), w')

end

namespace Task

def isDone : Task L → Bool
  | .done => true
  | _ => false

/-- The task after an advance, with what the call reports: whether it is done, or its fault. -/
def report : Outcome (Task L) δ ε → Except ε Bool × Task L
  | .paused t => (.ok false, t)
  | .finished _ => (.ok true, .done)
  | .failed e => (.error e, .crashed)

/-- Runs the task to its first pause if it was not started. Reports whether it is done. -/
def start (m : Machine L δ W ε) (t : Task L) (w : W) : (Except ε Bool × Task L) × W :=
  let (o, w') := Task.advance m none t w
  (report o, w')

/-- One step of the task. The first step starts it, so that step counts too. Stepping a task that is
done is a fault. -/
def next (m : Machine L δ W ε) (dt : δ) (t : Task L) (w : W) : (Except ε Bool × Task L) × W :=
  match t with
  | .done => ((.error m.stepped, .done), w)
  | t =>
    let (o, w') := Task.advance m (some dt) t w
    (report o, w')

/-- Discards the task. -/
def close (_ : Task L) : Task L := .done

/-- A task that is not done has a step. -/
theorem next_of_ne_done (m : Machine L δ W ε) (dt : δ) {t : Task L} (ht : t ≠ .done) (w : W) :
    t.next m dt w =
      (report (t.advance m (some dt) w).1, (t.advance m (some dt) w).2) :=
  next.eq_2 m dt t w ht

/-- In a group, a task that is not done is stepped before the others. -/
theorem advanceAll_cons (m : Machine L δ W ε) (dt : δ) {t : Task L} (ht : t ≠ .done)
    (ts : List (Task L)) (w : W) :
    advanceAll m dt (t :: ts) w =
      match t.advance m (some dt) w with
      | (.failed e, w') => (.error e, w')
      | (.finished _, w') => advanceAll m dt ts w'
      | (.paused t', w') =>
        match advanceAll m dt ts w' with
        | (.error e, w'') => (.error e, w'')
        | (.ok live, w'') => (.ok (t' :: live), w'') :=
  advanceAll.eq_3 m dt w t ts ht

end Task
end

end Choreo
