import Choreo.Bake
import Choreo.Json

/-!
The document a bake writes: how the frames were made, the scenes they show and the frames
themselves, so that a renderer needs nothing else.
-/

namespace Choreo

/-- A scene as a document lists it. -/
structure Listing (α : Type) where
  index : Int
  name : String
  estimate : Estimate α
  /-- When it starts on the master timeline. -/
  start : α

structure Document (α : Type) where
  fps : Quantity α
  width : Int
  height : Int
  audio : Option String
  scenes : List (Listing α)
  frames : List (Frame α)

namespace Listing
variable {α : Type} [Scalar α]

/-- Lists scenes with their starts, which follow from their numbers. -/
def ofScenes? (timeline : Timeline α) (scenes : List (Scene α)) : Option (List (Listing α)) :=
  scenes.mapM fun s => (timeline.startOf? (s.index - 1)).map fun start =>
    { index := s.index, name := s.name, estimate := s.estimate, start := start }

def json (l : Listing α) : String :=
  Json.object [
    ("index", toString l.index),
    ("name", Json.text l.name),
    ("estimate", Json.real l.estimate.duration),
    ("start", Json.real l.start),
    ("transition", Json.orNull (fun (t : Transition α) =>
      Json.object [("type", Json.text t.kind.name), ("duration", Json.real t.duration)])
      l.estimate.transition)]

end Listing

namespace Document
variable {α : Type} [Scalar α]

def pictureJson (p : Picture) : String :=
  Json.object (p.map fun (target, texts) =>
    (target, Json.object (texts.map fun (property, text) => (property, Json.text text))))

def frameJson (x : Frame α) : String :=
  Json.object [
    ("time", Json.real x.time),
    ("scene", toString x.scene),
    ("values", pictureJson x.picture)]

/-- The document as it is written. -/
def json (d : Document α) : String :=
  Json.object [
    ("fps", Json.quantity d.fps),
    ("resolution", Json.array [toString d.width, toString d.height]),
    ("audio", Json.orNull Json.text d.audio),
    ("scenes", Json.array (d.scenes.map Listing.json)),
    ("frames", Json.array (d.frames.map frameJson))]

end Document
end Choreo
