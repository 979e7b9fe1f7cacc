import Choreo.Easing

/-!
What can go wrong while a flow plays.
-/

namespace Choreo

inductive FlowFault where
  /-- A task that is done was stepped. -/
  | finishedTask
  /-- A task was stepped from within its own step. -/
  | alreadyRunning
  /-- A task was used where a routine was needed. -/
  | notRoutine
  /-- The flow failed by itself. -/
  | raised (message : String)
  | unknownEasing (name : String)
  /-- A duration that is not a number. -/
  | notDuration
  /-- A number where tokens were expected. -/
  | notTokens
  | number (fault : NumberFault)
  deriving DecidableEq, Repr

def FlowFault.message : FlowFault → String
  | finishedTask => "next() called on a finished task"
  | alreadyRunning => "generator already executing"
  | notRoutine => "a task cannot run as a routine"
  | raised message => message
  | unknownEasing name => Easing.unknownMessage name
  | notDuration => "a duration is a number"
  | notTokens => "'float' object has no attribute 'split'"
  | number fault => fault.message

end Choreo
