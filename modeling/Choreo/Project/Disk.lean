import Choreo.Project.Path

/-!
What is on disk, as far as a project looks at it: folders, and files with their texts.

A path is followed name by name, and each name but the last has to lead to a folder. Double dots
lead to the folder around. The folders that paths start from are always there.
-/

namespace Choreo

/-- Folders and files, by their places: paths without double dots, but for those in front that lead
out of the folder that paths without a root start from. -/
structure Disk where
  folders : List Path
  files : List (Path × String)

/-- Why a path leads nowhere. -/
inductive Astray where
  | absent
  /-- A file stands where a folder is passed through. -/
  | notFolder
  /-- The path or a name in it is longer than any can be. -/
  | tooLong
  deriving DecidableEq, Repr

/-- Why a file cannot be written. -/
inductive WriteFault where
  /-- A folder has the name. -/
  | isFolder
  /-- A file has the name of the folder the file should lie in. -/
  | takenByFile
  /-- The path leads nowhere. -/
  | astray (why : Astray) (path : String)
  /-- The path holds a character that no name can have. -/
  | noName
  deriving DecidableEq, Repr

namespace Path

/-- Where paths that are spelled with a root or without one start. -/
def start (p : Path) : Path := { p with parts := [] }

/-- The place of a member of a folder. -/
def inner (place : Path) (name : String) : Path := { place with parts := place.parts ++ [name] }

/-- The place of the folder around a place. There is none around a root. -/
def outer (place : Path) : Path :=
  if place.parts.all (· = "..") then if place.root = "" then place.inner ".." else place
  else place.parent

end Path

namespace Disk

def empty : Disk := ⟨[], []⟩

/-- Most bytes of a name. -/
def nameLimit : Nat := 255

/-- Most bytes of a path. -/
def pathLimit : Nat := 4095

def isFolderAt (d : Disk) (place : Path) : Bool :=
  place.parts.all (· = "..") || d.folders.contains place

def textAt? (d : Disk) (place : Path) : Option String := d.files.lookup place

def hasAt (d : Disk) (place : Path) : Bool := d.isFolderAt place || (d.textAt? place).isSome

/-! ## Following paths -/

/-- Where names lead from a folder. -/
def follow (d : Disk) (place : Path) : List String → Except Astray Path
  | [] => .ok place
  | name :: rest =>
    if name = ".." then d.follow place.outer rest
    else if nameLimit < name.utf8ByteSize then .error .tooLong
    else if d.isFolderAt (place.inner name) then d.follow (place.inner name) rest
    else if (d.textAt? (place.inner name)).isNone then .error .absent
    else if rest.isEmpty then .ok (place.inner name)
    else .error .notFolder

/-- The folder that names lead to. -/
def followToFolder (d : Disk) (place : Path) (names : List String) : Except Astray Path := do
  let place ← d.follow place names
  if d.isFolderAt place then return place else throw .notFolder

/-- Where a path leads. -/
def locate (d : Disk) (p : Path) : Except Astray Path :=
  if p.toString.contains '\x00' then .error .absent
  else if pathLimit < p.toString.utf8ByteSize then .error .tooLong
  else d.follow p.start p.parts

/-- The folder a path leads to, if it leads to one. Only a path that is too long is an error. -/
def folder? (d : Disk) (p : Path) : Except Astray (Option Path) :=
  match d.locate p with
  | .ok place => .ok (if d.isFolderAt place then some place else none)
  | .error .tooLong => .error .tooLong
  | .error _ => .ok none

/-- The text of the file a path leads to. -/
def read? (d : Disk) (p : Path) : Option String := (d.locate p).toOption.bind d.textAt?

/-- Whether a path leads to a folder. -/
def isFolder (d : Disk) (p : Path) : Bool := (d.locate p).toOption.any d.isFolderAt

/-- The folders right inside a folder that hold something of a name, in the order of their names. -/
def foldersWith (d : Disk) (place : Path) (name : String) : List String :=
  let inside := d.folders.filter fun f =>
    f.parts.length = place.parts.length + 1 && f.parent == place && d.hasAt (f.inner name)
  (inside.map Path.name).eraseDups.mergeSort fun a b => a ≤ b

/-! ## Writing -/

/-- Makes the folders that names lead to from a folder, where they are not there yet. -/
def makeFolders (d : Disk) (place : Path) (path : String) : List String → Except WriteFault Disk
  | [] => .ok d
  | name :: rest =>
    if name = ".." then d.makeFolders place.outer path rest
    else if nameLimit < name.utf8ByteSize then .error (.astray .tooLong path)
    else if d.isFolderAt (place.inner name) then d.makeFolders (place.inner name) path rest
    else if (d.textAt? (place.inner name)).isSome then
      .error (if rest.isEmpty then .takenByFile else .astray .notFolder path)
    else
      makeFolders { d with folders := d.folders ++ [place.inner name] } (place.inner name) path rest

/-- Makes the folder a path leads to, and those around it. -/
def makeFolder (d : Disk) (p : Path) : Except WriteFault Disk :=
  if p.toString.contains '\x00' then .error .noName
  else if pathLimit < p.toString.utf8ByteSize then .error (.astray .tooLong p.toString)
  else d.makeFolders p.start p.toString p.parts

/-- The place of the file a path names, which may not be there yet. Behind a slash or a dot a path
names no file. -/
def filePlace (d : Disk) (written : String) : Except WriteFault Path := do
  let p := Path.ofString written
  let lost {β : Type} : Except Astray β → Except WriteFault β :=
    Except.mapError fun why => .astray why written
  if written.contains '\x00' then throw .noName
  if pathLimit < written.utf8ByteSize then throw (.astray .tooLong written)
  match p.parts.reverse, (Path.divided [] written.toList).getLast? with
  | [], _ => throw (if written = "" then .astray .absent written else .isFolder)
  | name :: around, last =>
    if last = some ['.'] then
      let _ ← lost (d.followToFolder p.start p.parts)
      throw .isFolder
    else
      let folder ← lost (d.followToFolder p.start around.reverse)
      if last = some [] ∨ name = ".." then throw .isFolder
      else if nameLimit < name.utf8ByteSize then throw (.astray .tooLong written)
      else if d.isFolderAt (folder.inner name) then throw .isFolder
      else return folder.inner name

/-- Writes a file, and makes the folders its path passes through. Gives the place of the file. -/
def write (d : Disk) (written text : String) : Except WriteFault (Disk × Path) := do
  let d ← d.makeFolder (Path.ofString written).parent
  let place ← d.filePlace written
  return ({ d with files := (place, text) :: d.files }, place)

/-- The disk with a folder, if there can be one. -/
def withFolder (d : Disk) (p : Path) : Disk := (d.makeFolder p).toOption.getD d

/-- The disk with a file, if there can be one. -/
def withFile (d : Disk) (p : Path) (text : String) : Disk :=
  ((d.write p.toString text).toOption.map (·.1)).getD d

end Disk
end Choreo
