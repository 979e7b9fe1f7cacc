/-!
What a show reports while it plays, in order: texts for the renderer, the marks of a flow's own
steps, the end of runs, and remarks for the author.
-/

namespace Choreo

/-- What a scheduler is doing. -/
inductive Phase where
  | uninitialized | seeking | running | paused | done
  deriving DecidableEq, Repr

def Phase.name : Phase → String
  | uninitialized => "uninitialized"
  | seeking => "seeking"
  | running => "running"
  | paused => "paused"
  | done => "done"

/-- How urgent a remark is. -/
inductive Level where
  | warning | error
  deriving DecidableEq, Repr

def Level.name : Level → String
  | warning => "WARNING"
  | error => "ERROR"

/-- One thing that happened. -/
inductive Event (α : Type) where
  /-- The renderer was handed the text of a property of a target. -/
  | apply (target property text : String)
  /-- A tween of the flow reported its progress. -/
  | update (tag : String) (progress : α)
  | mark (tag : String)
  /-- A flow's own step received a step size. -/
  | tick (tag : String) (dt : Option α)
  | finished (tag : String) (phase : Phase)
  | remark (level : Level) (text : String)
  deriving DecidableEq, Repr

end Choreo
