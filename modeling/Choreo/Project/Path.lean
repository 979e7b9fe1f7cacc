/-!
Paths: names divided by slashes, told apart by what they mean and not by how they are spelled.

Empty parts and single dots mean nothing and are left out. Double dots stay: where they lead is up
to the disk. Two slashes in front, and no more, are a root of their own.
-/

namespace Choreo

structure Path where
  /-- The slashes in front. -/
  root : String
  parts : List String
  deriving DecidableEq, Repr

namespace Path

/-- The parts of a text between slashes. -/
def divided : List Char → List Char → List (List Char)
  | part, [] => [part.reverse]
  | part, c :: rest => if c = '/' then part.reverse :: divided [] rest else divided (c :: part) rest

/-- The parts that mean something. -/
def partsOf (cs : List Char) : List String :=
  ((divided [] cs).map String.ofList).filter fun p => p ≠ "" && p ≠ "."

def ofString (s : String) : Path :=
  let slashes := (s.toList.takeWhile (· == '/')).length
  { root := if slashes = 0 then "" else if slashes = 2 then "//" else "/"
    parts := partsOf s.toList }

def toString (p : Path) : String :=
  if p.root = "" ∧ p.parts = [] then "." else p.root ++ "/".intercalate p.parts

/-- A path seen from another. A path with a root leads to the same place from everywhere. -/
def join (p q : Path) : Path :=
  if q.root = "" then { p with parts := p.parts ++ q.parts } else q

/-- The path of a member of a folder. -/
def child (p : Path) (name : String) : Path := p.join (ofString name)

/-- The last part, if there is one. -/
def name (p : Path) : String := p.parts.getLast?.getD ""

def parent (p : Path) : Path := { p with parts := p.parts.dropLast }

end Path
end Choreo
