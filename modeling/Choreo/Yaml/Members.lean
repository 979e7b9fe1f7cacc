import Choreo.Yaml.Datum

/-!
The order of the members of a set.

Sets show numbers where a table keeps them. The table has a power of two of slots; the slot of a
number is looked for from its residue on, a few slots in a row and then elsewhere. Sets that hold
anything but numbers keep their members as they come.
-/

namespace Choreo
namespace Yaml
namespace Members

/-- Residues of numbers are taken by this prime. -/
def modulus : Nat := Nat.pow 2 61 - 1

/-- A power of a residue, its exponent halved from step to step. -/
def power (base : Nat) : (fuel exponent : Nat) → Nat
  | 0, _ => 1
  | fuel + 1, exponent =>
    let root := power (base * base % modulus) fuel (exponent / 2)
    if exponent % 2 = 1 then base * root % modulus else root

/-- The residue of a number above nought. The denominator counts as the residue that it gives one
with. -/
def ratio (q : Rat) : Nat :=
  q.num.natAbs % modulus * power (q.den % modulus) 61 (modulus - 2) % modulus

/-- A residue of sixty-four bits, with the sign of the number. Minus one is not among them. -/
def signed (negative : Bool) (n : Nat) : Nat :=
  if ¬ negative ∨ n = 0 then n else Nat.pow 2 64 - max n 2

/-- The residue of what is worth a number. -/
def residue? : Exact → Option Nat
  | .finite negative q => some (signed negative (ratio q))
  | .infinite negative => some (signed negative 314159)
  | .nan => none

/-- How many slots the table has for so many members. -/
def slots (count : Nat) : Nat := if count < 5 then 8 else Nat.pow 2 ((2 * count).log2 + 1)

/-- How many slots are looked at in a row after the first one. -/
def run : Nat := 9

/-- The first free slot for a residue, of which `spread` is left to look further on by. -/
def freeSlot {β : Type} (table : Array (Option β)) : (fuel slot spread : Nat) → Nat
  | 0, slot, _ => slot
  | fuel + 1, slot, spread =>
    let row := if slot + run < table.size then (List.range (run + 1)).map (slot + ·) else [slot]
    match row.find? fun i => ((table[i]?).getD none).isNone with
    | some i => i
    | none =>
      let spread := spread / 32
      freeSlot table fuel ((slot * 5 + 1 + spread) % table.size) spread

def place {β : Type} (table : Array (Option β)) (residue : Nat) (x : β) : Array (Option β) :=
  let slot := freeSlot table (table.size + 16) (residue % table.size) residue
  table.setIfInBounds slot (some x)

variable {α : Type} [Scalar α]

/-- The members of a set in the order they are shown in. -/
def ordered (members : List (Atom α)) : List (Atom α) :=
  match members.mapM fun a => a.worth?.bind residue? with
  | some residues =>
    let empty := Array.replicate (slots members.length) none
    let table := (residues.zip members).foldl (fun t (n, a) => place t n a) empty
    table.toList.filterMap id
  | none => members

end Members
end Yaml
end Choreo
