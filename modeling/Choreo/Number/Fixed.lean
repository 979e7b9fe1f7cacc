import Choreo.Number.Rounding

/-!
Decimal text with a fixed number of places, and its short form without trailing zeros.

`fixed` rounds the exact value once, so the text never depends on a neighbour of the number.
`canonical` is the spelling used for every quantity handed to a renderer: no trailing zero after a
point, no trailing point, and no negative zero.
-/

namespace Choreo
namespace Decimal

/-- The digits of a whole number. -/
def digits (n : Nat) : List Char := Nat.toDigits 10 n

/-- Zeros in front up to the given width. -/
def padded (width : Nat) (cs : List Char) : List Char :=
  List.replicate (width - cs.length) '0' ++ cs

/-- `n` units of `10 ^ -places`, with every place written. -/
def placed (places n : Nat) : List Char :=
  let cs := padded (places + 1) (digits n)
  let whole := cs.take (cs.length - places)
  if places = 0 then whole else whole ++ '.' :: cs.drop (cs.length - places)

/-- The list without the longest run of `c` at its end. -/
def dropRight (c : Char) (cs : List Char) : List Char :=
  (cs.reverse.dropWhile (· == c)).reverse

/-- A text with a point loses its trailing zeros, and then the point if nothing follows it. -/
def trimmed (cs : List Char) : List Char :=
  if cs.contains '.' then dropRight '.' (dropRight '0' cs) else cs

def infinity (negative : Bool) : List Char :=
  if negative then ['-', 'i', 'n', 'f'] else ['i', 'n', 'f']

def notANumber : List Char := ['n', 'a', 'n']

def sign (negative : Bool) (cs : List Char) : List Char := if negative then '-' :: cs else cs

/-- A number with exactly `places` decimal places. -/
def fixed (places : Nat) : Exact → List Char
  | .finite n q => sign n (placed places (Rounding.units places q))
  | .infinite n => infinity n
  | .nan => notANumber

/-- A number rounded to at most `places` decimal places, in its shortest spelling. -/
def canonical (places : Nat) (x : Exact) : List Char :=
  match trimmed (fixed places x) with
  | ['-', '0'] => ['0']
  | cs => cs

end Decimal
end Choreo
