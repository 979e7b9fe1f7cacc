import Choreo.Flow.Basic
import Choreo.Timeline

/-!
A scene: a numbered part of a show.
-/

namespace Choreo

structure Scene (α : Type) where
  index : Int
  name : String
  /-- The classes each target starts with. -/
  view : List (String × String)
  /-- What the scene does. A scene without a flow plays as an empty one. -/
  flow : Option (Flow α)
  estimate : Estimate α

namespace Scene
variable {α : Type}

/-- The flow a scene plays. -/
def played (s : Scene α) : Flow α := s.flow.getD (.steps [])

/-- The timeline of scenes. -/
def timeline [Scalar α] (scenes : List (Scene α)) : Timeline α :=
  .ofDurations (scenes.map fun s => s.estimate.duration)

end Scene
end Choreo
