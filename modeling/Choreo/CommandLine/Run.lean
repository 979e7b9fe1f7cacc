import Choreo.CommandLine.Bake
import Choreo.CommandLine.Estimate
import Choreo.CommandLine.Options

/-!
The command line: a command, and options of its own behind it.

Help and complaints about options are printed with the usage of whatever they are about. Options in
front of a command that mean nothing there are handed to the command.
-/

namespace Choreo
namespace CommandLine
variable {α : Type} [Scalar α] [Analytic α]

/-! ## Usage -/

def programName : String := "motionflow"

def commandUsage : String := "usage: motionflow [-h] \x7bestimate,bake\x7d ...\n"

def commandHelp : String :=
  commandUsage ++ "\n" ++
    "Scene timing and offline playback for coroutine-driven animations.\n" ++
    "\n" ++
    "positional arguments:\n" ++
    "  \x7bestimate,bake\x7d\n" ++
    "    estimate       Static scene durations and project timeline\n" ++
    "    bake           Play scenes at a fixed frame rate, write frames as JSON\n" ++
    "\n" ++
    "options:\n" ++
    "  -h, --help       show this help message and exit\n"

/-- The usage of a command as far as it is known in front of its options. -/
def innerUsage (command : String) : String :=
  "usage: " ++ programName ++ " " ++ command ++ " [-h]\n"

def innerHelp (command : String) : String :=
  innerUsage command ++ "\noptions:\n  -h, --help  show this help message and exit\n"

def estimateUsage : String := "usage: motionflow [-h] --project PROJECT [--validate]\n"

def bakeUsage : String :=
  "usage: motionflow [-h] --project PROJECT --output OUTPUT [--fps FPS]\n" ++
    "                  [--scene SCENE]\n"

def projectHelp : String :=
  "Project directory (holding motionflow.yaml and the scenes folder)\n"

def estimateHelp : String :=
  estimateUsage ++ "\n" ++
    "Estimate CLI — static scene durations and project timeline.\n" ++
    "\n" ++
    "options:\n" ++
    "  -h, --help         show this help message and exit\n" ++
    "  --project PROJECT  " ++ projectHelp ++
    "  --validate         Only check scene folder naming and ordering\n"

def bakeHelp : String :=
  bakeUsage ++ "\n" ++
    "Bake CLI — play scenes at a fixed frame rate, write frames as JSON.\n" ++
    "\n" ++
    "options:\n" ++
    "  -h, --help         show this help message and exit\n" ++
    "  --project PROJECT  " ++ projectHelp ++
    "  --output OUTPUT    Output JSON path\n" ++
    "  --fps FPS          Frame rate (default: video.fps from the manifest)\n" ++
    "  --scene SCENE      Bake only this scene number\n"

/-- The end of a command line that asks for no command: an exit code, and what is printed. -/
structure Refusal where
  code : Nat
  stdout : String
  stderr : String
  deriving DecidableEq, Repr

/-- Ends with help, or with a complaint behind the usage. -/
def stopped (name usage help : String) : Stop → Refusal
  | .help => ⟨0, help, ""⟩
  | .fault text => ⟨2, "", usage ++ name ++ ": error: " ++ text ++ "\n"⟩

/-! ## Options -/

def helpSwitch : Switch := ⟨["-h", "--help"], false, true, fun _ => none⟩

def flagSwitch (name : String) : Switch := ⟨[name], false, false, fun _ => none⟩

def textSwitch (name : String) : Switch := ⟨[name], true, false, fun _ => none⟩

/-- An option whose value has to be read as a number of some kind. -/
def numberSwitch (name kind : String) (isNumber : String → Bool) : Switch :=
  ⟨[name], true, false, fun v =>
    if isNumber v then none else some ("invalid " ++ kind ++ " value: " ++ Text.quoted v)⟩

def readReal? (s : String) : Option α :=
  (Text.readDecimal s.toList).toOption.map Scalar.ofReading

def readWhole? (s : String) : Option Int := (Text.readWhole 10 s.toList).toOption

def estimateSwitches : List Switch :=
  [helpSwitch, textSwitch "--project", flagSwitch "--validate"]

def bakeSwitches : List Switch :=
  [helpSwitch, textSwitch "--project", textSwitch "--output",
    numberSwitch "--fps" "float" fun s => (Text.readDecimal s.toList).toOption.isSome,
    numberSwitch "--scene" "int" fun s => (readWhole? s).isSome]

/-- Options of a command, where some are required and no other word is left. -/
def readOptions (switches : List Switch) (required arguments : List String) :
    Except Stop Reading := do
  let r ← Reading.ofArguments switches arguments
  let absent := required.filter fun n => (r.get? n).isNone
  if ¬ absent.isEmpty then
    throw (.fault ("the following arguments are required: " ++ ", ".intercalate absent))
  if ¬ r.extras.isEmpty then
    throw (.fault ("unrecognized arguments: " ++ " ".intercalate r.extras))
  return r

/-! ## Commands -/

/-- What a command line asks for. -/
inductive Request (α : Type) where
  | layOut (project : String)
  | validate (project : String)
  | bake (q : BakeRequest α)

namespace Request

def ofEstimate (arguments : List String) : Except Refusal (Request α) := do
  let r ← (readOptions estimateSwitches ["--project"] arguments).mapError
    (stopped programName estimateUsage estimateHelp)
  let project := (r.get? "--project").getD ""
  return if (r.get? "--validate").isSome then .validate project else .layOut project

def ofBake (arguments : List String) : Except Refusal (Request α) := do
  let r ← (readOptions bakeSwitches ["--project", "--output"] arguments).mapError
    (stopped programName bakeUsage bakeHelp)
  return .bake {
    project := (r.get? "--project").getD ""
    output := (r.get? "--output").getD ""
    fps := (r.get? "--fps").bind readReal?
    scene := (r.get? "--scene").bind readWhole? }

def commands : List String := ["estimate", "bake"]

def choiceMessage (command : String) : String :=
  "argument command: invalid choice: " ++ Text.quoted command ++ " (choose from " ++
    ", ".intercalate (commands.map Text.quoted) ++ ")"

/-- Reads a command line. -/
def ofArguments (arguments : List String) : Except Refusal (Request α) := do
  let outer := stopped programName commandUsage commandHelp
  match ← (command [helpSwitch] [] arguments).mapError outer with
  | (none, _) => throw ⟨1, commandHelp, ""⟩
  | (some (name, rest), extras) =>
    if ¬ commands.contains name then throw (outer (.fault (choiceMessage name)))
    let inner := stopped (programName ++ " " ++ name) (innerUsage name) (innerHelp name)
    let r ← (Reading.ofArguments [helpSwitch] rest).mapError inner
    if name = "estimate" then ofEstimate (extras ++ r.extras) else ofBake (extras ++ r.extras)

/-- The folder of the project a request is about. -/
def project : Request α → String
  | layOut p => p
  | validate p => p
  | bake q => q.project

def run (d : Disk) (programs : Programs α) : Request α → Report α
  | layOut p => CommandLine.layOut d p
  | validate p => CommandLine.validate d p
  | bake q => CommandLine.bake d programs q

end Request

/-- Runs the command a command line asks for. -/
def run (d : Disk) (programs : Programs α) (arguments : List String) : Report α :=
  match Request.ofArguments arguments with
  | .error r => .exit r.code r.stdout r.stderr
  | .ok q => q.run d programs

end CommandLine
end Choreo
