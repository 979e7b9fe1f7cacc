import Choreo.Easing
import Choreo.Transition

/-!
Flows: what a scene does over time, as a tree.

The leaves are actions: waits, transitions, tweens, animations of a target, text that types itself,
and a flow's own steps. They are combined in parallel, one after another, and behind a delay. A
`steps` node is a routine the author wrote: each of its parts is built when it is reached, while the
parts of the other nodes are all built together. A part under a name is one task however often it
is named; whoever steps it, steps the same one.
-/

namespace Choreo

/-- An argument of an animation. -/
inductive Argument (α : Type) where
  | text (s : String)
  | nothing
  | number (x : α)
  deriving DecidableEq, Repr

/-- Something a flow does that is not made of other flows. -/
inductive Action (α : Type) where
  | wait (duration : α)
  | transition (t : Transition α)
  /-- Reports its progress under a tag. -/
  | tween (tag : String) (duration : α) (easing : Easing α)
  /-- Brings a target to the state its arguments describe. -/
  | animate (target : String) (arguments : List (Argument α)) (easing : Easing α)
  /-- Types a text into a target. -/
  | type (target content : String) (duration : α)
  | mark (tag : String)
  /-- Pauses a number of times and reports what it is resumed with. -/
  | ticks (tag : String) (count : Nat)
  | fail (message : String)

/-- What a scene does. -/
inductive Flow (α : Type) where
  | act (action : Action α)
  | all (parts : List (Flow α))
  | chain (parts : List (Flow α))
  | delay (seconds : α) (part : Flow α)
  | steps (parts : List (Flow α))
  /-- A flow that is a task already and not a routine. -/
  | task (part : Flow α)
  /-- The task of a name. The first use of the name says what it is. -/
  | named (name : String) (part : Flow α)

instance Flow.inhabited {α : Type} : Inhabited (Flow α) := ⟨.chain []⟩

namespace Flow
variable {α : Type}

mutual

/-- How many nodes name a task. -/
def nameCount : Flow α → Nat
  | .act _ => 0
  | .all fs => nameCounts fs
  | .chain fs => nameCounts fs
  | .delay _ f => nameCount f
  | .steps fs => nameCounts fs
  | .task f => nameCount f
  | .named _ f => nameCount f + 1

def nameCounts : List (Flow α) → Nat
  | [] => 0
  | f :: fs => nameCount f + nameCounts fs

end

end Flow
end Choreo
