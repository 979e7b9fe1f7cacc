import Choreo.CommandLine.Report

/-!
The command that lays out a project's timeline without running it, or only checks its scene folders.
-/

namespace Choreo
namespace CommandLine
variable {α : Type} [Scalar α]

/-- Seconds with two decimal places. -/
def seconds (x : α) : String := String.ofList (Decimal.fixed 2 (Scalar.exact x)) ++ "s"

/-- A transition with its length, or a dash. -/
def transitionText : Option (Transition α) → String
  | some t =>
    t.kind.name ++ " " ++ String.ofList (Decimal.significant (Scalar.exact t.duration)) ++ "s"
  | none => "-"

def sceneLine (s : Scene α) (start : α) : String :=
  "  " ++ toString s.index ++ "-" ++ s.name ++ ": " ++ seconds s.estimate.duration ++
    "  start " ++ seconds start ++ "  transition " ++ transitionText s.estimate.transition

def projectLine (m : Manifest α) (count : Nat) : Except NumberFault String := do
  return "Project: " ++ m.root.toString ++ " (" ++ toString count ++ " scenes, " ++
    (← m.fps.text) ++ " fps)"

/-- Prints the timeline of a project. -/
def layOut (d : Disk) (project : String) : Report α :=
  let loaded : Except ProjectFault (Manifest α × List (Scene α)) := do
    let m ← Project.manifest d (.ofString project)
    return (m, ← Project.outline d m)
  match loaded with
  | .error f => .fail [] [] (.project f)
  | .ok (m, scenes) =>
    match projectLine m scenes.length with
    | .error f => .fail [] [] (.number f)
    | .ok heading =>
      let l := Scene.timeline scenes
      .succeed
        (heading :: (scenes.zip l.starts).map (fun (s, start) => sceneLine s start) ++
          ["Total: " ++ seconds l.total]) [] none

/-- Checks the names and the order of the scene folders of a project. -/
def validate (d : Disk) (project : String) : Report α :=
  let found : Except ProjectFault (List Entry) := do
    let m : Manifest α ← Project.manifest d (.ofString project)
    Project.entries d m.scenesFolder
  match found with
  | .error f => .fail [] [] (.project f)
  | .ok es =>
    .succeed
      (("Scenes valid: " ++ toString es.length ++ " scenes in order") ::
        es.map fun e => "  " ++ toString e.index ++ ": " ++ e.folder) [] none

end CommandLine
end Choreo
