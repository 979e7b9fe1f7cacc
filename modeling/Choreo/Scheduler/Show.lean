import Choreo.Flow.Playback
import Choreo.Scheduler.Basic

/-!
Scheduling flows on a stage.
-/

namespace Choreo

/-- A flow to play. A flow that is bound to the stage plays from the declared view each time. -/
structure Source (α : Type) where
  flow : Flow α
  isBound : Bool

/-- What a callback does beside its calls on the scheduler. -/
inductive HostAct where
  | resetStage
  | fail (message : String)
  deriving DecidableEq, Repr

namespace Show
variable {α : Type}

/-- Builds a flow afresh. -/
def build (s : Source α) (w : Show α) : Task (Leaf α) × Show α :=
  let w : Show α := if s.isBound then w.resetStage else w
  (.fresh s.flow.toRoutine, { w with crew := .ofFlow s.flow })

def act : HostAct → Show α → Except FlowFault Unit × Show α
  | .resetStage, w => (.ok (), w.resetStage)
  | .fail message, w => (.error (.raised message), w)

/-- Flows on a stage. -/
def theatre [Scalar α] [Analytic α] :
    Theatre (Source α) HostAct (Leaf α) α (Show α) FlowFault :=
  { machine := Leaf.machine
    build := build
    act := act
    announce := fun tag phase w => w.report (.finished tag phase) }

end Show
end Choreo
