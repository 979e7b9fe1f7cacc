import Choreo.Number.Significant

/-!
The shortest decimal text that identifies a double.

A decimal identifies a double when it lies among the reals that round to it. The digits are found
by trying one digit, then two, and so on: on each grid only the two neighbours of the value can
lie in that interval, and the first grid with a hit wins.
-/

namespace Choreo
namespace Decimal

/-- A positive double, `m * 2 ^ e`. Below a power of two the gap to the next double is halved. -/
structure Binary where
  m : Nat
  e : Int
  narrowBelow : Bool

/-- A decimal `digits * 10 ^ scale`. -/
structure Scaled where
  digits : Nat
  scale : Int

/-- How `a * 10 ^ i` compares with `b * 2 ^ j`. -/
def compareScaled (a : Nat) (i : Int) (b : Nat) (j : Int) : Ordering :=
  compare (a * Nat.pow 10 i.toNat * Nat.pow 2 (-j).toNat)
    (b * Nat.pow 2 j.toNat * Nat.pow 10 (-i).toNat)

namespace Binary

/-- The decimal lies among the reals that round to the double. The ends of that interval belong to
it exactly when the significand is even. -/
def identifiedBy (x : Binary) (d : Scaled) : Bool :=
  let low := if x.narrowBelow then 4 * x.m - 1 else 4 * x.m - 2
  let closed := x.m % 2 == 0
  let atLow := compareScaled d.digits d.scale low (x.e - 2)
  let atHigh := compareScaled d.digits d.scale (4 * x.m + 2) (x.e - 2)
  (atLow == .gt || (closed && atLow == .eq)) && (atHigh == .lt || (closed && atHigh == .eq))

def num (x : Binary) : Nat := x.m * Nat.pow 2 x.e.toNat

def den (x : Binary) : Nat := Nat.pow 2 (-x.e).toNat

/-- The grid point below the value and the one above it, nearest first, an exact half going to the
even one. -/
def neighbours (x : Binary) (scale : Int) : List Scaled :=
  let near := unitsAt x.num x.den scale
  let low := x.num * Nat.pow 10 (-scale).toNat / (x.den * Nat.pow 10 scale.toNat)
  [⟨near, scale⟩, ⟨if near = low then low + 1 else low, scale⟩]

/-- The identifying decimal with the fewest digits. Seventeen always suffice. -/
def shortest (x : Binary) : Scaled :=
  let top := leadingExponent x.num x.den
  let found := (List.range 17).findSome? fun (k : Nat) =>
    (x.neighbours (top - (k : Int))).find? x.identifiedBy
  found.getD ⟨unitsAt x.num x.den (top - 16), top - 16⟩

end Binary

/-- The digits without trailing zeros, and the exponent of the leading one. -/
def Scaled.normal (d : Scaled) : List Char × Int :=
  let cs := Decimal.digits d.digits
  let short := dropRight '0' cs
  (if short.isEmpty then ['0'] else short, d.scale + (cs.length - 1 : Nat))

/-- Positional from the fourth decimal place to the sixteenth whole one, always with a point;
scientific otherwise. -/
def spelled (cs : List Char) (e : Int) : List Char :=
  if e < -4 ∨ 16 ≤ e then
    match cs with
    | [c] => c :: exponent e
    | c :: rest => c :: '.' :: rest ++ exponent e
    | [] => exponent e
  else if e < 0 then '0' :: '.' :: List.replicate (-e - 1).toNat '0' ++ cs
  else
    let whole := e.toNat + 1
    let cs := cs ++ List.replicate (whole - cs.length) '0'
    let rest := cs.drop whole
    cs.take whole ++ '.' :: (if rest.isEmpty then ['0'] else rest)

/-- The shortest text that identifies a double. -/
def shortest (x : Float) : List Char :=
  let bits := x.toBits
  let field := ((bits >>> 52) &&& 0x7FF).toNat
  let fraction := (bits &&& 0xFFFFFFFFFFFFF).toNat
  match Exact.ofBits bits with
  | .nan => notANumber
  | .infinite n => infinity n
  | .finite n _ =>
    let (m, e) := Exact.significand field fraction
    if m = 0 then sign n ['0', '.', '0']
    else
      let (cs, top) := (Binary.shortest ⟨m, e, fraction == 0 && field > 1⟩).normal
      sign n (spelled cs top)

end Decimal
end Choreo
