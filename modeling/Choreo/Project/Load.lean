import Choreo.Project.Disk
import Choreo.Project.Entry
import Choreo.Project.Manifest
import Choreo.Scene
import Choreo.Script.Duration
import Choreo.Stage.Basic
import Choreo.Yaml.Document

/-!
Loading a project: its manifest, the scenes found in its folder, and what each of them does.

A scene is a folder with a script. How long it takes is estimated from the script's text. What the
script does when it runs is supplied from outside: the targets it declares and its flow, or why it
could not be run.
-/

namespace Choreo

/-- What a scene's script defines. -/
structure Program (α : Type) where
  view : List (String × String)
  flow : Option (Flow α)

/-- A failure of a script, by its kind and what it says. -/
structure ScriptFault where
  kind : String
  text : String
  deriving DecidableEq, Repr

/-- What the script of each entry does when it runs. -/
abbrev Programs (α : Type) := Entry → Except ScriptFault (Program α)

/-- Why a project could not be loaded. -/
inductive ProjectFault where
  | noProject (root : Path)
  | noScenes (folder : Path)
  /-- A path is longer than any can be. -/
  | tooLong
  /-- A folder has the name of a file. -/
  | isFolder
  | document (fault : Yaml.Fault)
  | manifest (fault : ManifestFault)
  | entry (fault : EntryFault)
  | script (fault : ScriptFault)
  /-- A script declares a target by a name of the stage. -/
  | reservedId (id : String)
  deriving DecidableEq, Repr

namespace ProjectFault

def message : ProjectFault → String
  | noProject root => "Project directory not found: " ++ root.toString
  | noScenes folder => "Scenes directory not found: " ++ folder.toString
  | tooLong => "a path of the project is too long"
  | isFolder => "a folder of the project has the name of a file"
  | document fault => fault.message
  | manifest fault => fault.message
  | entry fault => fault.message
  | script fault => fault.text
  | reservedId id => Stage.reservedMessage id

end ProjectFault

namespace Project
variable {α : Type} [Scalar α]

/-- The name of the script of a scene. -/
def scriptName : String := "scene.py"

/-- The function of a script that is the flow of its scene. -/
def flowName : String := "flow"

/-- The text of a file, if there is something of the name. -/
def text? (d : Disk) (p : Path) : Except ProjectFault (Option String) :=
  match d.locate p with
  | .error .tooLong => .error .tooLong
  | .error _ => .ok none
  | .ok place => if d.isFolderAt place then .error .isFolder else .ok (d.textAt? place)

/-- The manifest of the project in a folder. Without a file every field has its usual value. -/
def manifest (d : Disk) (root : Path) : Except ProjectFault (Manifest α) := do
  match ← (d.folder? root).mapError fun _ => .tooLong with
  | none => throw (.noProject root)
  | some _ =>
    let contents ← match ← text? d (root.child Manifest.fileName) with
      | some text => (Yaml.Contents.ofText text).mapError .document
      | none => pure (Yaml.Contents.single .null)
    (Manifest.ofContents root contents).mapError .manifest

/-- The scenes found in a folder, in order. -/
def entries (d : Disk) (folder : Path) : Except ProjectFault (List Entry) := do
  match ← (d.folder? folder).mapError fun _ => .tooLong with
  | none => throw (.noScenes folder)
  | some place =>
    let paths := (d.foldersWith place scriptName).map fun name =>
      (folder.inner name).inner scriptName
    let found ← paths.mapM fun p => (Entry.ofPath p).mapError .entry
    (Entry.order found).mapError .entry

def estimate (d : Disk) (fallback : α) (e : Entry) : Except ProjectFault (Estimate α) := do
  return Script.estimate ((← text? d e.path).getD "") flowName fallback

/-- The scenes of a project without what they do, which is enough to lay out a timeline. -/
def outline (d : Disk) (m : Manifest α) : Except ProjectFault (List (Scene α)) := do
  (← entries d m.scenesFolder).mapM fun e => do
    return { index := e.index, name := e.name, view := [], flow := none,
             estimate := ← estimate d m.fallback e }

/-- What is said of a scene whose script defines no flow. -/
def emptyMessage (e : Entry) : String :=
  "Scene " ++ e.folder ++ " defines no flow(), it will play empty"

/-- A scene and the remarks on it. -/
def scene (d : Disk) (programs : Programs α) (fallback : α) (e : Entry) :
    Except ProjectFault (Scene α) × List (Event α) :=
  match estimate d fallback e, programs e with
  | .error f, _ => (.error f, [])
  | .ok _, .error f => (.error (.script f), [])
  | .ok estimate, .ok p =>
    let remarks := if p.flow.isNone then [.remark .warning (emptyMessage e)] else []
    match p.view.find? fun (id, _) => Stage.isReserved id with
    | some (id, _) => (.error (.reservedId id), remarks)
    | none =>
      (.ok { index := e.index, name := e.name, view := p.view, flow := p.flow,
             estimate := estimate }, remarks)

/-- Scenes up to the first that fails, with the remarks on all that were reached. -/
def scenesOf (d : Disk) (programs : Programs α) (fallback : α) : List Entry →
    Except ProjectFault (List (Scene α)) × List (Event α)
  | [] => (.ok [], [])
  | e :: rest =>
    match scene d programs fallback e with
    | (.error f, remarks) => (.error f, remarks)
    | (.ok s, remarks) =>
      let (scenes, more) := scenesOf d programs fallback rest
      (scenes.map (s :: ·), remarks ++ more)

/-- The scenes of a project, and the remarks on them. -/
def scenes (d : Disk) (programs : Programs α) (m : Manifest α) :
    Except ProjectFault (List (Scene α)) × List (Event α) :=
  match entries d m.scenesFolder with
  | .error f => (.error f, [])
  | .ok found => scenesOf d programs m.fallback found

end Project
end Choreo
