import Choreo.Text.Digit

/-!
Tables that map characters to characters, written as texts.

An entry such as `c0=41.300` gives the codes that stand for a code; `ff21-ff3a=41` maps a run of
codes onto the run that starts at its image. Entries are divided by blanks and line ends, and codes
are hexadecimal.
-/

namespace Choreo
namespace Text

/-- A run of codes, and the codes that stand for the first of them. A longer run has one code for
each of its own, which count on from the first. -/
structure Mapping where
  first : Nat
  last : Nat
  images : List Nat

namespace Mapping

def code (s : String) : Nat :=
  s.toList.foldl (fun n c => 16 * n + (hexDigit? c).getD 0) 0

def ofEntry? (entry : String) : Option Mapping :=
  match entry.splitOn "=" with
  | [run, images] =>
    let images := (images.splitOn ".").map code
    match run.splitOn "-" with
    | [first] => some ⟨code first, code first, images⟩
    | [first, last] => some ⟨code first, code last, images⟩
    | _ => none
  | _ => none

/-- The entries of a table. -/
def ofTable (table : String) : List Mapping :=
  (table.splitOn "\n").flatMap fun line => (line.splitOn " ").filterMap ofEntry?

/-- The codes that stand for a code of the run. -/
def image (m : Mapping) (n : Nat) : List Nat :=
  match m.images with
  | [c] => [c + (n - m.first)]
  | cs => cs

/-- The codes that stand for a code in one of the mappings. -/
def find? (ms : List Mapping) (n : Nat) : Option (List Nat) :=
  (ms.find? fun m => m.first ≤ n && n ≤ m.last).map fun m => m.image n

end Mapping
end Text
end Choreo
