import Choreo.CommandLine.Report

/-!
The command that plays a project's scenes and writes every frame.

The frame rate is the manifest's unless another one is asked for, and nought asks for none. Of
several scenes one may be chosen by its number.
-/

namespace Choreo
namespace CommandLine
variable {α : Type} [Scalar α] [Analytic α]

structure BakeRequest (α : Type) where
  project : String
  output : String
  fps : Option α
  scene : Option Int

/-- The frame rate of a bake. -/
def frameRate (m : Manifest α) (asked : Option α) : Quantity α :=
  match asked with
  | some x => if (Scalar.exact x).value? = some 0 then m.fps else .real x
  | none => m.fps

/-- The scenes of a number, or all. -/
def chosen (scenes : List (Scene α)) (number : Option Int) :
    Except (CommandFault α) (List (Scene α)) :=
  match number with
  | none => .ok scenes
  | some n =>
    match scenes.filter (·.index = n) with
    | [] => .error (.noScene n scenes.length)
    | found => .ok found

/-- The frames of scenes at a frame rate that may be a whole number of any size. Without scenes the
rate is not looked at. -/
def record (fps : Quantity α) (scenes : List (Scene α)) :
    Except (CommandFault α) (List (Frame α)) × List (Event α) :=
  if scenes.isEmpty then (.ok [], [])
  else
    match fps.toReal with
    | .error f => (.error (.number f), [])
    | .ok x =>
      let o := Bake.project x Bake.usualSeconds scenes
      (o.frames.mapError .bake, o.rest)

def headingText (count : Nat) (fps : Quantity α) : Except NumberFault String := do
  return "Baking " ++ toString count ++ " scene(s) at " ++ (← fps.text) ++ " fps..."

/-- Plays the scenes of a project and writes what they show. -/
def bake (d : Disk) (programs : Programs α) (q : BakeRequest α) : Report α :=
  match Project.manifest d (.ofString q.project) with
  | .error f => .fail [] [] (.project f)
  | .ok m =>
    let fps := frameRate m q.fps
    match Project.scenes d programs m with
    | (.error f, remarks) => .fail [] remarks (.project f)
    | (.ok all, remarks) =>
      let ready : Except (CommandFault α) (List (Scene α) × String) := do
        let scenes ← chosen all q.scene
        return (scenes, ← (headingText scenes.length fps).mapError .number)
      match ready with
      | .error f => .fail [] remarks f
      | .ok (scenes, heading) =>
        match record fps scenes with
        | (.error f, more) => .fail [heading] (remarks ++ more) f
        | (.ok frames, more) =>
          let listed := (Listing.ofScenes? (Scene.timeline all) scenes).getD []
          let document : Document α :=
            { fps := fps, width := m.width, height := m.height, audio := m.audio,
              scenes := listed, frames := frames }
          match d.write q.output document.json with
          | .error f => .fail [heading] (remarks ++ more) (.write f)
          | .ok (disk, place) =>
            .succeed
              [heading, "Wrote " ++ toString frames.length ++ " frames to: " ++ q.output]
              (remarks ++ more)
              (some ⟨q.output, place, disk, document⟩)

end CommandLine
end Choreo
