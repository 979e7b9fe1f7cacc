import Choreo.CommandLine.Run

/-!
The program: looks at the project on disk, runs the command and writes what it leaves behind.

Scripts are not run. A scene plays what its program is known to do, and nothing is known of any.
-/

namespace Choreo
namespace CommandLine

def isFolder (p : String) : IO Bool := do
  try (← IO.FS.realPath p).isDir catch _ => return false

def readFile? (p : String) : IO (Option String) := do
  try return some (← IO.FS.readFile p) catch _ => return none

def members (p : String) : IO (List String) := do
  try return ((← (← IO.FS.realPath p).readDir).map (·.fileName)).toList catch _ => return []

/-- The project in a folder, as far as commands look at it. -/
def look (project : String) : IO Disk := do
  let root := Path.ofString project
  if ¬ (← isFolder root.toString) then return .empty
  let file := root.child Manifest.fileName
  let mut d := Disk.empty.withFolder root
  if let some text := ← readFile? file.toString then d := d.withFile file text
  let manifest : Except ProjectFault (Manifest Float) := Project.manifest d root
  match manifest with
  | .error _ => return d
  | .ok m =>
    if ¬ (← isFolder m.scenesFolder.toString) then return d
    d := d.withFolder m.scenesFolder
    for name in ← members m.scenesFolder.toString do
      let script := (m.scenesFolder.child name).child Project.scriptName
      if let some text := ← readFile? script.toString then d := d.withFile script text
    return d

/-- Prints a remark. -/
def printRemark : Event Float → IO Unit
  | .remark level text => IO.eprintln (level.name ++ ": " ++ text)
  | _ => pure ()

def writeDocument (path : String) (d : Document Float) : IO Unit := do
  IO.FS.createDirAll (Path.ofString path).parent.toString
  IO.FS.writeFile path d.json

/-- Runs a command line on the disk. -/
def program (arguments : List String) : IO UInt32 := do
  let disk ← match (Request.ofArguments arguments : Except Refusal (Request Float)) with
    | .ok q => look q.project
    | .error _ => pure .empty
  let r : Report Float := run disk (fun _ => .ok ⟨[], none⟩) arguments
  r.remarks.forM printRemark
  IO.print r.stdout
  IO.eprint r.stderr
  if let some w := r.written then writeDocument w.path w.document
  match r.ending with
  | .ok code => return code.toUInt32
  | .error fault =>
    IO.eprintln fault.message
    return 1

end CommandLine
end Choreo

def main (arguments : List String) : IO UInt32 := Choreo.CommandLine.program arguments
