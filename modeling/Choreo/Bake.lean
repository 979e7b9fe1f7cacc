import Choreo.Scene
import Choreo.Scheduler.Show

/-!
Baking: playing scenes at a fixed frame rate and recording every frame.

Each frame steps the flow by the length of one frame, so a bake is the same on every run. A frame
holds, for every target, the last text of each of its properties, starting from the classes of the
view. The first frame of a scene shows it before its first step and the last shows the step at which
the flow was done. A scene that plays too long is cut off.
-/

namespace Choreo

/-- The text of each property of each target, in the order they first came. -/
abbrev Picture := List (String × List (String × String))

namespace Picture

/-- What a view looks like before anything happens. -/
def ofView (view : List (String × String)) : Picture :=
  view.foldl (fun p (id, classes) => assign id [("class", classes)] p) []

/-- Sets a property of a target. -/
def set (p : Picture) (target property text : String) : Picture :=
  assign target (assign property text ((p.lookup target).getD [])) p

/-- What a picture becomes by events. Only texts for the renderer change it. -/
def after {α : Type} (p : Picture) (events : List (Event α)) : Picture :=
  events.foldl (fun p e => match e with
    | .apply target property text => p.set target property text
    | _ => p) p

end Picture

/-- One frame of a bake. -/
structure Frame (α : Type) where
  time : α
  scene : Int
  picture : Picture

/-- Why a bake failed. -/
inductive BakeFault (α : Type) where
  /-- The frame rate is not positive. -/
  | rate (fps : α)
  | reservedId (id : String)
  | number (fault : NumberFault)
  | flow (fault : FlowFault)

def BakeFault.rateMessage {α : Type} [Scalar α] (fps : α) : String :=
  "fps must be > 0, got " ++ Scalar.text fps

/-- A scene being recorded. -/
structure Take (α : Type) where
  scene : Scene α
  task : Task (Leaf α)
  world : Show α
  picture : Picture
  steps : Nat
  /-- The frames so far, newest first. -/
  frames : List (Frame α)

namespace Take
variable {α : Type} [Scalar α] [Analytic α]

/-- Makes a call on the task and lets the picture follow what it did. -/
def call (t : Take α)
    (f : Task (Leaf α) → Show α → (Except FlowFault Bool × Task (Leaf α)) × Show α) :
    Except FlowFault Bool × Take α :=
  let ((r, task), w) := f t.task { t.world with log := [] }
  (r, { t with
    task := task
    picture := t.picture.after w.events
    world := { w with log := w.log ++ t.world.log } })

/-- Adds the present picture as a frame. -/
def shoot (t : Take α) (dt : α) : Take α :=
  let time := if t.steps = 0 then Scalar.zero else Scalar.ofNat t.steps * dt
  { t with frames := ⟨time, t.scene.index, t.picture⟩ :: t.frames }

/-- What is said of a scene that is cut off. -/
def limitMessage (s : Scene α) (seconds : α) : String :=
  "Scene " ++ toString s.index ++ "-" ++ s.name ++ " still running after " ++ Scalar.text seconds ++
    "s, stopping bake"

/-- Steps and shoots a scene that is not done until it is, or until the limit is reached. -/
def roll (dt seconds : α) : (limit : Nat) → Take α → Except FlowFault Unit × Take α
  | 0, t =>
    let w := t.world.report (.remark .warning (limitMessage t.scene seconds))
    (.ok (), { t with task := t.task.close, world := w })
  | limit + 1, t =>
    match t.call (Task.next Leaf.machine (some dt)) with
    | (.error f, t) => (.error f, t)
    | (.ok done, t) =>
      let t := { t with steps := t.steps + 1 }.shoot dt
      if done then (.ok (), t) else roll dt seconds limit t

end Take

namespace Bake
variable {α : Type} [Scalar α] [Analytic α]

/-- The frames of a bake, or why it failed, and the events of the flows either way. -/
structure Outcome (α : Type) where
  frames : Except (BakeFault α) (List (Frame α))
  events : List (Event α)

/-- What happened apart from the texts for the renderer, which are in the frames. -/
def Outcome.rest (o : Outcome α) : List (Event α) :=
  o.events.filter fun
    | .apply .. => false
    | _ => true

/-- How many steps a scene is given. -/
def stepLimit (fps seconds : α) : Except NumberFault Nat :=
  (Scalar.truncate (seconds * fps)).map Int.toNat

/-- The usual longest playback of a scene in seconds. -/
def usualSeconds : α := Scalar.ofInt 600

/-- Records a scene from its start at a frame rate. -/
def scene (fps seconds : α) (s : Scene α) : Outcome α :=
  if fps ≤ Scalar.zero then ⟨.error (.rate fps), []⟩
  else
    match stepLimit fps seconds, Stage.ofView s.view none true with
    | .error f, _ => ⟨.error (.number f), []⟩
    | .ok _, .error id => ⟨.error (.reservedId id), []⟩
    | .ok limit, .ok stage =>
      let dt := Scalar.one / fps
      let (task, w) := Show.build ⟨s.played, true⟩ (World.ofStage stage .empty)
      let t : Take α :=
        { scene := s, task := task, world := w, picture := .ofView s.view, steps := 0,
          frames := [] }
      match t.call (Task.start Leaf.machine) with
      | (.error f, t) => ⟨.error (.flow f), t.world.events⟩
      | (.ok done, t) =>
        let t := t.shoot dt
        let (r, t) := if done then (.ok (), t) else t.roll dt seconds limit
        ⟨(r.mapError .flow).map fun _ => t.frames.reverse, t.world.events⟩

/-- Records scenes one after another from a time on. The first frame of a scene comes one frame
after the last of the scene before it. -/
def scenesFrom (fps seconds : α) : (offset : α) → List (Scene α) → Outcome α
  | _, [] => ⟨.ok [], []⟩
  | offset, s :: rest =>
    let o := scene fps seconds s
    match o.frames with
    | .error f => ⟨.error f, o.events⟩
    | .ok frames =>
      let frames := frames.map fun x => { x with time := offset + x.time }
      let last := (frames.getLast?.map (·.time)).getD offset
      let o' := scenesFrom fps seconds (last + Scalar.one / fps) rest
      ⟨o'.frames.map (frames ++ ·), o.events ++ o'.events⟩

/-- Records the scenes of a project. -/
def project (fps seconds : α) (scenes : List (Scene α)) : Outcome α :=
  scenesFrom fps seconds Scalar.zero scenes

end Bake
end Choreo
