import Choreo.Number.Exact

/-!
Rounding to the nearest whole number or to a number of decimal places. A half always goes to the
even neighbour.
-/

namespace Choreo
namespace Rounding

/-- `num / den` to the nearest whole number, a half going to the even neighbour. -/
def halfEvenDiv (num den : Nat) : Nat :=
  let q := num / den
  let r := num % den
  if 2 * r < den then q
  else if den < 2 * r then q + 1
  else if q % 2 = 0 then q else q + 1

/-- A rational that is not negative, in units of `10 ^ -places`, to the nearest unit. -/
def units (places : Nat) (magnitude : Rat) : Nat :=
  halfEvenDiv (magnitude.num.natAbs * Nat.pow 10 places) magnitude.den

/-- The sign put back onto a whole number. -/
def signed (negative : Bool) (n : Nat) : Int := if negative then -(n : Int) else n

/-- A rational to the nearest multiple of `10 ^ -places`. -/
def toPlaces (places : Nat) (q : Rat) : Rat :=
  mkRat (signed (decide (q < 0)) (units places q.abs)) (Nat.pow 10 places)

end Rounding

/-- A number rounded to a number of decimal places. It keeps its sign, also when it becomes zero. -/
def Exact.toPlaces (places : Nat) : Exact → Exact
  | .finite n q => .finite n (mkRat (Rounding.units places q) (Nat.pow 10 places))
  | x => x

end Choreo
