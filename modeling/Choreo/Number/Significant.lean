import Choreo.Number.Fixed

/-!
Decimal text with at most six significant digits: positional while the leading digit stands
between the fourth decimal place and the sixth whole one, in scientific form otherwise.
-/

namespace Choreo
namespace Decimal

/-- Whether `10 ^ e <= num / den`. -/
def reaches (num den : Nat) (e : Int) : Bool :=
  decide (den * Nat.pow 10 e.toNat ≤ num * Nat.pow 10 (-e).toNat)

/-- The exponent of the leading decimal digit of a positive quotient. The difference of the digit
counts is that exponent or one more. -/
def leadingExponent (num den : Nat) : Int :=
  let e : Int := (digits num).length - (digits den).length
  if reaches num den e then e else e - 1

/-- `num / den` in units of `10 ^ e`, to the nearest unit. -/
def unitsAt (num den : Nat) (e : Int) : Nat :=
  Rounding.halfEvenDiv (num * Nat.pow 10 (-e).toNat) (den * Nat.pow 10 e.toNat)

/-- The first `count` significant digits of a positive quotient, rounded, and the exponent of the
first of them. A carry out of the top digit moves the exponent. -/
def leadingDigits (count num den : Nat) : Nat × Int :=
  let e := leadingExponent num den
  let n := unitsAt num den (e - (count - 1 : Nat))
  if n = Nat.pow 10 count then (Nat.pow 10 (count - 1), e + 1) else (n, e)

/-- An exponent with its sign and at least two digits. -/
def exponent (e : Int) : List Char :=
  'e' :: (if e < 0 then '-' else '+') :: padded 2 (digits e.natAbs)

/-- A number with at most six significant digits. -/
def significant : Exact → List Char
  | .nan => notANumber
  | .infinite n => infinity n
  | .finite negative q =>
    if q.num = 0 then sign negative ['0']
    else
      let (n, e) := leadingDigits 6 q.num.natAbs q.den
      if -4 ≤ e ∧ e < 6 then sign negative (trimmed (placed (5 - e).toNat n))
      else sign negative (trimmed (placed 5 n) ++ exponent e)

end Decimal
end Choreo
