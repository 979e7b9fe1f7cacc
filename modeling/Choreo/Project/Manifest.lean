import Choreo.Project.Path
import Choreo.Project.Variables
import Choreo.Yaml.Datum

/-!
The manifest of a project: frame rate, size, paths, the folder of the scenes, a sound track and the
duration of scenes nothing is known of. Each has a usual value.

Fields are checked one after another, and the first that is wrong is reported. Texts may refer to
the paths by variables.
-/

namespace Choreo

open Yaml

structure Manifest (α : Type) where
  root : Path
  fps : Quantity α
  width : Int
  height : Int
  /-- Everything said about the picture. -/
  video : List (Atom α × Datum α)
  paths : List (Atom α × Datum α)
  scenesFolder : Path
  audio : Option String
  fallback : α

/-- What is wrong with a manifest. A value that is refused is kept as it is shown. -/
inductive ManifestFault where
  | notMapping
  /-- The part of a list at a position should be a pair, and is not that long. -/
  | notPair (position length : Nat)
  /-- What should be pairs has no parts. -/
  | notPairs
  | fps (shown : String)
  | resolution (shown : String)
  | paths
  | fallback (shown : String)
  | unexpanded (fault : Variables.Fault)
  | number (fault : NumberFault)
  /-- A value cannot be shown. -/
  | unshown (fault : Yaml.Fault)
  deriving DecidableEq, Repr

namespace Manifest

/-- The name of the file that holds a manifest. -/
def fileName : String := "motionflow.yaml"

end Manifest

namespace ManifestFault

def aboutFile (s : String) : String := Manifest.fileName ++ ": " ++ s

def message : ManifestFault → String
  | notMapping => aboutFile "top level must be a mapping"
  | notPair position length =>
    "dictionary update sequence element #" ++ toString position ++ " has length " ++
      toString length ++ "; 2 is required"
  | notPairs => "the video settings are not pairs"
  | fps shown => aboutFile ("video.fps must be > 0, got " ++ shown)
  | resolution shown => aboutFile ("video.resolution must be [width, height], got " ++ shown)
  | paths => aboutFile "paths must be a mapping"
  | fallback shown => aboutFile ("fallback_duration must be >= 0, got " ++ shown)
  | unexpanded fault => fault.message
  | number fault => fault.message
  | unshown fault => fault.message

end ManifestFault

namespace Manifest
variable {α : Type} [Scalar α]

def usualFps : Quantity α := .whole 60

def usualWidth : Int := 1920

def usualHeight : Int := 1080

def usualScenesFolder : String := "scenes"

/-- How long a scene takes that nothing is known of, unless a manifest says otherwise. -/
def usualFallback : Quantity α := .real (Scalar.ofInt 10)

/-- The parts of a datum that has parts. -/
def parts? (c : Contents α) : Datum α → Option (List (Datum α))
  | .pair a b => some [a, b]
  | .collection n =>
    match c.collection n with
    | .list items => some items
    | .mapping entries => some (entries.map fun (k, _) => .atom k)
    | .set members => some (members.map .atom)
  | .atom (.text s) => some (s.toList.map fun c => .text (String.singleton c))
  | .atom (.bytes ns) => some (ns.map fun (n : Nat) => .atom (.number (.whole n)))
  | .atom (.pair a b) => some [.atom a, .atom b]
  | .atom _ => none

/-- Entries from pairs of a key and a datum. The first part that is no such pair is refused. -/
def entriesOf (c : Contents α) (position : Nat) (entries : List (Atom α × Datum α)) :
    List (Datum α) → Except ManifestFault (List (Atom α × Datum α))
  | [] => .ok entries
  | d :: rest =>
    match parts? c d with
    | none => .error .notPairs
    | some [k, x] =>
      match k.key? with
      | some k => entriesOf c (position + 1) (Entries.put k x entries) rest
      | none => .error .notPairs
    | some xs => .error (.notPair position xs.length)

/-- What is said about the picture: a mapping, or pairs. Nothing at all is an empty mapping. -/
def videoOf (c : Contents α) (d : Datum α) : Except ManifestFault (List (Atom α × Datum α)) :=
  if c.isTruthy d then
    match c.entries? d with
    | some entries => .ok entries
    | none =>
      match parts? c d with
      | some items => entriesOf c 0 [] items
      | none => .error .notPairs
  else .ok []

/-- The fault of a value that is refused as it is shown. -/
def refused (c : Contents α) (d : Datum α) (fault : String → ManifestFault) : ManifestFault :=
  match c.shown d with
  | .ok s => fault s
  | .error e => .unshown e

/-- A datum as a number. -/
def quantity? : Datum α → Option (Quantity α)
  | .atom a => a.quantity?
  | _ => none

/-- A datum as a whole number above nought. -/
def positive? : Datum α → Option Int
  | .atom (.number (.whole n)) => if 0 < n then some n else none
  | _ => none

def isPositive : Quantity α → Bool
  | .whole n => decide (0 < n)
  | .real x => !decide (x ≤ Scalar.zero)

def isNegative : Quantity α → Bool
  | .whole n => decide (n < 0)
  | .real x => decide (x < Scalar.zero)

/-- A frame rate: a number that is not zero or less. -/
def fpsOf (c : Contents α) (d : Datum α) : Except ManifestFault (Quantity α) :=
  match quantity? d with
  | some q => if isPositive q then .ok q else .error (refused c d .fps)
  | none => .error (refused c d .fps)

/-- A size: two positive whole numbers. -/
def resolutionOf (c : Contents α) (d : Datum α) : Except ManifestFault (Int × Int) :=
  let size? := match d with
    | .collection n =>
      match c.collection n with
      | .list [a, b] => do return (← positive? a, ← positive? b)
      | _ => none
    | .pair a b => do return (← positive? a, ← positive? b)
    | .atom _ => none
  match size? with
  | some size => .ok size
  | none => .error (refused c d .resolution)

def pathsOf (c : Contents α) (d : Datum α) : Except ManifestFault (List (Atom α × Datum α)) :=
  if c.isTruthy d then
    match c.entries? d with
    | some entries => .ok entries
    | none => .error .paths
  else .ok []

/-- What a variable is bound to. -/
def binding (paths : List (Atom α × Datum α)) (name : String) : Variables.Binding :=
  match Entries.get? name paths with
  | none => .unbound
  | some (.atom .null) => .empty
  | some (.atom (.text s)) => .text s
  | some _ => .other

def expand (c : Contents α) (paths : List (Atom α × Datum α)) (d : Datum α) :
    Except ManifestFault String :=
  match c.plain d with
  | .ok s => (Variables.expand (binding paths) s).mapError .unexpanded
  | .error e => .error (.unshown e)

def fallbackOf (c : Contents α) (d : Datum α) : Except ManifestFault (Quantity α) :=
  match quantity? d with
  | some q => if isNegative q then .error (refused c d .fallback) else .ok q
  | none => .error (refused c d .fallback)

/-- The manifest of a project in a folder, from what its document says. -/
def ofContents (root : Path) (c : Contents α) : Except ManifestFault (Manifest α) := do
  let fields ←
    if c.isTruthy c.whole then
      match c.entries? c.whole with
      | some entries => pure entries
      | none => throw .notMapping
    else pure []
  let field := fun (name : String) => (Entries.get? name fields).getD .null
  let video ← videoOf c (field "video")
  let fps ← match Entries.get? "fps" video with
    | some d => fpsOf c d
    | none => pure usualFps
  let (width, height) ← match Entries.get? "resolution" video with
    | some d => resolutionOf c d
    | none => pure (usualWidth, usualHeight)
  let paths ← pathsOf c (field "paths")
  let scenes := (Entries.get? "scenes_dir" fields).getD (.text usualScenesFolder)
  let folder ← expand c paths scenes
  let audio ← match field "audio" with
    | .atom .null => pure none
    | d => some <$> expand c paths d
  let fallback ← match Entries.get? "fallback_duration" fields with
    | some d => fallbackOf c d
    | none => pure usualFallback
  return {
    root := root, fps := fps, width := width, height := height, video := video, paths := paths,
    scenesFolder := root.child folder, audio := audio,
    fallback := ← fallback.toReal.mapError .number }

/-- Names in the order of the codes of their characters. -/
def sortedNames (names : List String) : List String :=
  names.mergeSort fun a b => Text.isAtMost a.toList b.toList

/-- The names of some keys. -/
def namesOf (entries : List (Atom α × Datum α)) : Except NumberFault (List String) :=
  entries.mapM fun (k, _) => k.plain

/-- The names of what is known about the picture, usual values included. -/
def videoNames (m : Manifest α) : Except NumberFault (List String) := do
  let given ← namesOf m.video
  let missing := ["fps", "resolution"].filter fun n => (Entries.get? n m.video).isNone
  return sortedNames (given ++ missing)

def pathNames (m : Manifest α) : Except NumberFault (List String) :=
  (namesOf m.paths).map sortedNames

end Manifest
end Choreo
