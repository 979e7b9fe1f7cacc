/-!
What a number is worth, apart from the arithmetic it was computed in.

Printing, rounding and truncating all start from `Exact`, so each of them is one function of a
rational: the text of a number does not depend on whether it was reached in binary or exactly.
-/

namespace Choreo

/-- The value of a number: a signed rational (zero keeps its sign), an infinity, or no value. -/
inductive Exact where
  | finite (negative : Bool) (magnitude : Rat)
  | infinite (negative : Bool)
  | nan
  deriving DecidableEq

namespace Exact

/-- A rational as it stands. Its zero is positive. -/
def ofRat (q : Rat) : Exact := .finite (decide (q < 0)) q.abs

/-- Significand and exponent of a finite double of the given exponent and fraction fields: the
value is `significand * 2 ^ exponent`. An exponent field of zero has no hidden bit. -/
def significand (field fraction : Nat) : Nat × Int :=
  if field = 0 then (fraction, -1074) else (4503599627370496 + fraction, (field : Int) - 1075)

/-- `m * 2 ^ e`. -/
def scaled (m : Nat) (e : Int) : Rat :=
  if e < 0 then mkRat m (Nat.pow 2 (-e).toNat) else mkRat (m * Nat.pow 2 e.toNat) 1

/-- The value the bits of a double stand for. -/
def ofBits (bits : UInt64) : Exact :=
  let negative := bits >>> 63 == 1
  let field := ((bits >>> 52) &&& 0x7FF).toNat
  let fraction := (bits &&& 0xFFFFFFFFFFFFF).toNat
  if field = 0x7FF then
    if fraction = 0 then .infinite negative else .nan
  else
    let (m, e) := significand field fraction
    .finite negative (scaled m e)

def ofFloat (x : Float) : Exact := ofBits x.toBits

/-- The rational, for a number that has one. -/
def value? : Exact → Option Rat
  | .finite true q => some (-q)
  | .finite false q => some q
  | _ => none

def isNegative : Exact → Bool
  | .finite n _ => n
  | .infinite n => n
  | .nan => false

end Exact

end Choreo
