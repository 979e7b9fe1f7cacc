import Choreo.Number.Fault
import Choreo.Number.Rounding
import Choreo.Number.Shortest
import Choreo.Text.Numeral

/-!
The arithmetic a show is computed in.

Everything that has to do with time is written once, over `Scalar`. Doubles run; rationals are the
exact arithmetic the laws of timing are stated in. What is not rational (curves through sines and
powers of two, and the mixing of colors) is kept apart in `Analytic`, so a law about it never
depends on a particular sine.
-/

namespace Choreo

/-- Arithmetic with comparison, rounding and exact values. -/
class Scalar (α : Type) extends Add α, Sub α, Mul α, Div α, Neg α, LT α, LE α, BEq α where
  decideLt (a b : α) : Decidable (a < b)
  decideLe (a b : α) : Decidable (a ≤ b)
  /-- The number nearest to a rational. -/
  ofRat : Rat → α
  /-- The number nearest to a sign, digits and a power of ten. -/
  ofReading : Text.Reading → α
  /-- What the number is worth. -/
  exact : α → Exact
  /-- A whole power. A finite base has no infinite power. -/
  power : α → Nat → Except NumberFault α
  /-- The remainder of a division, with the sign of the divisor. -/
  modulo : α → α → α
  /-- How the number is written in messages. -/
  text : α → String

instance Scalar.decidableLt {α : Type} [Scalar α] (a b : α) : Decidable (a < b) :=
  Scalar.decideLt a b

instance Scalar.decidableLe {α : Type} [Scalar α] (a b : α) : Decidable (a ≤ b) :=
  Scalar.decideLe a b

/-- The functions of analysis that curves and colors need. -/
class Analytic (α : Type) where
  /-- A power of two. -/
  exp2 : α → Except NumberFault α
  sin : α → α
  cos : α → α
  /-- The angle of the point `(x, y)`, given as `y` and `x`. -/
  angle : α → α → α
  /-- The length of the vector `(x, y)`. -/
  length : α → α → α
  cubeRoot : α → α
  /-- A positive number to a real power. -/
  realPower : α → α → α
  pi : α

namespace Scalar
variable {α : Type} [Scalar α]

def ofInt (n : Int) : α := ofRat n

def ofNat (n : Nat) : α := ofRat n

def zero : α := ofRat 0

def one : α := ofRat 1

/-- The larger of two numbers, the first unless the second is strictly larger. -/
def larger (a b : α) : α := if a < b then b else a

/-- The smaller of two numbers, the first unless the second is strictly smaller. -/
def smaller (a b : α) : α := if b < a then b else a

/-- The whole part. -/
def truncate (x : α) : Except NumberFault Int :=
  match exact x with
  | .finite negative q => .ok (Rounding.signed negative q.floor.toNat)
  | .infinite _ => .error .overflow
  | .nan => .error .nanToWhole

/-- The nearest whole number, a half going to the even one. -/
def round (x : α) : Except NumberFault Int :=
  match exact x with
  | .finite negative q => .ok (Rounding.signed negative (Rounding.units 0 q))
  | .infinite _ => .error .overflow
  | .nan => .error .nanToWhole

/-- The sum of a list, from the left. -/
def sum (xs : List α) : α := xs.foldl (· + ·) zero

end Scalar

/-! ## Exact arithmetic -/

namespace Exact

/-- `digits * 10 ^ exponent` with its sign. -/
def decimal (negative : Bool) (digits : Nat) (exponent : Int) : Rat :=
  let m : Int := if negative then -(digits : Int) else digits
  if exponent < 0 then mkRat m (Nat.pow 10 (-exponent).toNat)
  else mkRat (m * Nat.pow 10 exponent.toNat) 1

end Exact

/-- Rationals have no special values: those are read as zero. -/
instance Scalar.ofRationals : Scalar Rat where
  decideLt a b := inferInstanceAs (Decidable (a < b))
  decideLe a b := inferInstanceAs (Decidable (a ≤ b))
  ofRat q := q
  ofReading
    | .finite negative m e => Exact.decimal negative m e
    | _ => 0
  exact := Exact.ofRat
  power x n := .ok (Rat.pow x n)
  modulo x y := x - y * (x / y).floor
  text x := toString x.num ++ "/" ++ toString x.den

/-! ## Doubles -/

namespace Binary64

/-- Whether `2 ^ e <= num / den`. -/
def reaches (num den : Nat) (e : Int) : Bool :=
  decide (den * Nat.pow 2 e.toNat ≤ num * Nat.pow 2 (-e).toNat)

/-- The exponent of the leading bit of a positive quotient. The difference of the bit counts is that
exponent or one more. -/
def leadingExponent (num den : Nat) : Int :=
  let e : Int := (num.log2 : Int) - den.log2
  if reaches num den e then e else e - 1

/-- The exponent of the last bit a double keeps of a positive quotient: it keeps fifty-three bits,
and none below its smallest unit. -/
def lastExponent (num den : Nat) : Int := max (leadingExponent num den - 52) (-1074)

/-- A positive quotient in units of the last bit kept, to the nearest unit. -/
def keptUnits (num den : Nat) : Nat :=
  let e := lastExponent num den
  Rounding.halfEvenDiv (num * Nat.pow 2 (-e).toNat) (den * Nat.pow 2 e.toNat)

/-- The word of the infinite double. -/
def infiniteWord : Nat := 2047 * 4503599627370496

/-- The word of the double nearest to a positive quotient. Words number the doubles upwards from
nought, so a carry out of the bits kept is one into the exponent, and what lies beyond the largest
double is infinite. -/
def nearestWord (num den : Nat) : Nat :=
  min ((lastExponent num den + 1074).toNat * 4503599627370496 + keptUnits num den) infiniteWord

/-- A quotient of positive whole numbers to the nearest double. -/
def ofQuotient (num den : Nat) : Float := Float.ofBits (UInt64.ofNat (nearestWord num den))

def ofRat (q : Rat) : Float :=
  if q.num = 0 then 0
  else
    let x := ofQuotient q.num.natAbs q.den
    if q < 0 then -x else x

/-- Digits and a power of ten to the nearest double. What lies far outside the range is decided
without computing the power. -/
def ofDecimal (digits : Nat) (exponent : Int) : Float :=
  if digits = 0 then 0
  else if 400 < exponent then 1.0 / 0.0
  else if (digits.log2 : Int) + 3 * exponent < -1200 then 0
  else if exponent < 0 then ofQuotient digits (Nat.pow 10 (-exponent).toNat)
  else ofQuotient (digits * Nat.pow 10 exponent.toNat) 1

def ofReading : Text.Reading → Float
  | .finite negative m e => if negative then -(ofDecimal m e) else ofDecimal m e
  | .infinite negative => if negative then -(1.0 / 0.0) else 1.0 / 0.0
  | .nan => 0.0 / 0.0

/-- A power whose base and exponent are finite may not be infinite. -/
def power (x y : Float) : Except NumberFault Float :=
  let p := Float.pow x y
  if x.isFinite && y.isFinite && p.isInf then .error .overflow else .ok p

/-- Rounded toward the divisor's sign: a remainder of the other sign is moved by one divisor. -/
def modulo (x y : Float) : Float :=
  match Exact.ofFloat x, Exact.ofFloat y with
  | .finite n a, .finite _ b =>
    let q := if n then -a else a
    if b = 0 then 0.0 / 0.0 else ofRat (q - b * (q / b).floor)
  | _, _ => 0.0 / 0.0

/-- The larger leg is divided out, so no square overflows. -/
def length (x y : Float) : Float :=
  if x.isInf || y.isInf then 1.0 / 0.0
  else
    let a := x.abs
    let b := y.abs
    let (big, small) := if a < b then (b, a) else (a, b)
    if big == 0 then small else
      let r := small / big
      big * (1 + r * r).sqrt

end Binary64

instance Scalar.ofDoubles : Scalar Float where
  decideLt a b := inferInstanceAs (Decidable (a < b))
  decideLe a b := inferInstanceAs (Decidable (a ≤ b))
  ofRat := Binary64.ofRat
  ofReading := Binary64.ofReading
  exact := Exact.ofFloat
  power x n := Binary64.power x n.toFloat
  modulo := Binary64.modulo
  text x := String.ofList (Decimal.shortest x)

instance Analytic.ofDoubles : Analytic Float where
  exp2 x := Binary64.power 2 x
  sin := Float.sin
  cos := Float.cos
  angle := Float.atan2
  length := Binary64.length
  cubeRoot := Float.cbrt
  realPower := Float.pow
  pi := 3.141592653589793

end Choreo
