import Choreo.Bake.Document
import Choreo.Project.Load

/-!
What a command leaves behind: the lines it prints, its ending, the remarks made on the way, and the
document it writes.
-/

namespace Choreo
namespace CommandLine

/-- Why a command failed. -/
inductive CommandFault (α : Type) where
  | project (fault : ProjectFault)
  /-- No scene has the number. -/
  | noScene (number : Int) (count : Nat)
  | bake (fault : BakeFault α)
  | number (fault : NumberFault)
  | write (fault : WriteFault)

def noSceneMessage (number : Int) (count : Nat) : String :=
  "No scene number " ++ toString number ++ " (project has " ++ toString count ++ ")"

/-- What is said of a document that cannot be written. -/
def writeMessage : WriteFault → String
  | .isFolder => "the output is a folder"
  | .takenByFile => "a file has the name of the output folder"
  | .astray .absent _ => "the output leads nowhere"
  | .astray .notFolder _ => "a file stands in the way of the output folder"
  | .astray .tooLong _ => "the output has too long a name"
  | .noName => "the output has no name"

def CommandFault.message {α : Type} [Scalar α] : CommandFault α → String
  | .project fault => fault.message
  | .noScene n count => noSceneMessage n count
  | .bake (.rate fps) => BakeFault.rateMessage fps
  | .bake (.reservedId id) => Stage.reservedMessage id
  | .bake (.number fault) => fault.message
  | .bake (.flow fault) => fault.message
  | .number fault => fault.message
  | .write fault => writeMessage fault

/-- A document that is written. -/
structure Written (α : Type) where
  path : String
  /-- The place of its file, and the disk once it is there. -/
  place : Path
  disk : Disk
  document : Document α

structure Report (α : Type) where
  stdout : String
  stderr : String
  /-- The exit code, or why there is none. -/
  ending : Except (CommandFault α) Nat
  remarks : List (Event α)
  written : Option (Written α)

namespace Report
variable {α : Type}

def lines (ls : List String) : String := String.join (ls.map (· ++ "\n"))

/-- Ends with an exit code and lines on one of the channels. -/
def exit (code : Nat) (stdout stderr : String) : Report α :=
  { stdout := stdout, stderr := stderr, ending := .ok code, remarks := [], written := none }

def fail (printed : List String) (remarks : List (Event α)) (fault : CommandFault α) : Report α :=
  { stdout := lines printed, stderr := "", ending := .error fault, remarks := remarks,
    written := none }

def succeed (printed : List String) (remarks : List (Event α))
    (written : Option (Written α)) : Report α :=
  { stdout := lines printed, stderr := "", ending := .ok 0, remarks := remarks,
    written := written }

end Report
end CommandLine
end Choreo
