import Choreo.Number.Quantity
import Choreo.Number.Significant

/-!
Colors, and the text a renderer reads them from.
-/

namespace Choreo

/-- Three channels out of 255 and an opacity out of one. Nothing holds them to those ranges: they
are limited where a color is written. -/
structure Color (α : Type) where
  red : Quantity α
  green : Quantity α
  blue : Quantity α
  alpha : Quantity α
  deriving DecidableEq, BEq, Repr

namespace Color
variable {α : Type} [Scalar α]

/-- A color of whole channels, fully opaque. -/
def opaqueOf (r g b : Int) : Color α := ⟨.whole r, .whole g, .whole b, .whole 1⟩

/-- No color at all. -/
def transparent : Color α := ⟨.whole 0, .whole 0, .whole 0, .whole 0⟩

def black : Color α := opaqueOf 0 0 0

def toList (c : Color α) : List (Quantity α) := [c.red, c.green, c.blue, c.alpha]

/-- A number held between nought and a whole limit. -/
def limited (limit : Int) : Quantity α → Quantity α
  | .whole n => .whole (min (max n 0) limit)
  | .real x => .real (Scalar.smaller (Scalar.larger x Scalar.zero) (Scalar.ofInt limit))

/-- A channel as it is written: held to its range and rounded to a whole number. -/
def channel (q : Quantity α) : Except NumberFault Int :=
  match limited 255 q with
  | .whole n => .ok n
  | .real x => Scalar.round x

/-- An opacity as it is written: held to its range and rounded to four places. -/
def opacity (q : Quantity α) : List Char :=
  Decimal.significant ((limited 1 q).exact.toPlaces 4)

/-- The functional notation of a color. -/
def css (c : Color α) : Except NumberFault String := do
  let r ← channel c.red
  let g ← channel c.green
  let b ← channel c.blue
  return "rgba(" ++ toString r ++ ", " ++ toString g ++ ", " ++ toString b ++ ", " ++
    String.ofList (opacity c.alpha) ++ ")"

end Color
end Choreo
