import Choreo.Number.Fault
import Choreo.Project.Path
import Choreo.Text.Numeral

/-!
Scene folders: a number and a name, as in `1-intro`.

Scenes play in the order of their numbers, which run from one without a gap and without a number
that comes twice. Anything else is refused with the folders involved.
-/

namespace Choreo

/-- A scene as it is found on disk. -/
structure Entry where
  index : Nat
  name : String
  folder : String
  path : Path
  deriving DecidableEq, Repr

/-- What is wrong with scene folders. -/
inductive EntryFault where
  | misnamed (folder : String) (path : Path)
  | number (fault : NumberFault)
  /-- Two folders carry one number. -/
  | duplicate (first second : Entry)
  /-- No folder carries the number. The entry is the one that stands in its place. -/
  | missing (number : Nat) (found : Entry)
  deriving DecidableEq, Repr

namespace EntryFault

def message : EntryFault → String
  | misnamed folder path =>
    "Invalid scene folder: \"" ++ folder ++ "\"\n" ++
      "  Scene folders must follow the format \"NUMBER-NAME\" (e.g. \"1-intro\").\n" ++
      "  Found at: " ++ path.toString
  | number fault => fault.message
  | duplicate first second =>
    "Duplicate scene number: \"" ++ toString first.index ++ "\"\n" ++
      "  1. " ++ first.folder ++ "\n" ++
      "  2. " ++ second.folder ++ "\n" ++
      "  Please change one of them."
  | missing n found =>
    "Missing scene number: " ++ toString n ++ "\n" ++
      (if n = 1 then
        "  Scene numbers must start at 1, the first is #" ++ toString found.index ++ ".\n"
      else
        "  You have scene #" ++ toString (n - 1) ++ " and then jumped to #" ++
          toString found.index ++ ".\n") ++
      "  Please rename \"" ++ found.folder ++ "\" to start with \"" ++ toString n ++ "-\"."

end EntryFault

namespace Entry

/-- A line without the line end it may close with. Only one that holds no other is a line. -/
def line? (cs : List Char) : Option (List Char) :=
  let body := if cs.getLast? = some '\n' then cs.dropLast else cs
  if body.contains '\n' then none else some body

/-- Digits, a hyphen and a name. -/
def split? (folder : String) : Option (List Char × List Char) :=
  let cs := folder.toList
  let digits := cs.takeWhile Text.isDigit
  match cs.dropWhile Text.isDigit with
  | '-' :: rest => if digits.isEmpty then none else (line? rest).map fun name => (digits, name)
  | _ => none

/-- The entry of a scene file, which lies in the scene's folder. -/
def ofPath (path : Path) : Except EntryFault Entry :=
  let folder := path.parent.name
  match split? folder with
  | none => .error (.misnamed folder path)
  | some (digits, name) =>
    match Text.readWhole 10 digits with
    | .error f => .error (.number f)
    | .ok n => .ok { index := n.toNat, name := String.ofList name, folder := folder, path := path }

/-- The first entry, from a position on, that does not carry the number of its position, with that
position. -/
def firstAstray? : (position : Nat) → List Entry → Option (Nat × Entry)
  | _, [] => none
  | i, e :: rest => if e.index = i + 1 then firstAstray? (i + 1) rest else some (i, e)

/-- Sorts entries by number and checks that the numbers run from one. -/
def order (entries : List Entry) : Except EntryFault (List Entry) :=
  let sorted := entries.mergeSort fun a b => a.index ≤ b.index
  match firstAstray? 0 sorted with
  | none => .ok sorted
  | some (i, e) =>
    match (sorted.eraseIdx i).find? fun x => x.index = e.index with
    | some twin => .error (.duplicate e twin)
    | none => .error (.missing (i + 1) e)

end Entry
end Choreo
