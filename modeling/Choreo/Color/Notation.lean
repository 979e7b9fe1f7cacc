import Choreo.Color.Basic
import Choreo.Color.Named

/-!
Color notations of style sheets other than the loose functional one: names, hexadecimal digits,
whole and percent channels, and the two notations by hue.

Letter case is ignored and blanks may stand around the numbers between the parentheses. A notation
is at most a hundred characters long.
-/

namespace Choreo
namespace Color

/-- Channels as a notation gives them: three, or four with an opacity out of 255. -/
inductive Channels where
  | three (r g b : Int)
  | four (r g b a : Int)
  deriving DecidableEq, Repr

/-- A letter without its case. The sign of the kelvin is a letter K. -/
def lower (c : Char) : Char := if c = '\u212a' then 'k' else c.toLower

/-- The digits of a plain hexadecimal text. -/
def hexDigits? (cs : List Char) : Option (List Nat) :=
  cs.mapM fun c => if c.toNat < 128 then Text.hexDigit? c else none

/-- The channels of three, four, six or eight hexadecimal digits. A single digit stands for itself
twice. -/
def ofHex? (cs : List Char) : Option Channels :=
  match hexDigits? cs with
  | some [r, g, b] => some (.three (r * 17) (g * 17) (b * 17))
  | some [r, g, b, a] => some (.four (r * 17) (g * 17) (b * 17) (a * 17))
  | some [r, r', g, g', b, b'] => some (.three (r * 16 + r') (g * 16 + g') (b * 16 + b'))
  | some [r, r', g, g', b, b', a, a'] =>
    some (.four (r * 16 + r') (g * 16 + g') (b * 16 + b') (a * 16 + a'))
  | _ => none

/-- The channels of a color name. -/
def ofName? (cs : List Char) : Option Channels :=
  (named.lookup (String.ofList cs)).map fun rgb =>
    .three (rgb / 65536 : Nat) (rgb / 256 % 256 : Nat) (rgb % 256 : Nat)

/-- The texts between the parentheses of a function call, cut at commas, without the blanks at
their ends. -/
def arguments? (function : String) (cs : List Char) : Option (List (List Char)) :=
  match ((function ++ "(").toList.isPrefixOf? cs).map List.reverse with
  | some (')' :: body) => some ((body.reverse.splitOn ',').map Text.strip)
  | _ => none

/-- A whole number in decimal digits of any script. -/
def whole? (cs : List Char) : Option Nat :=
  if cs.isEmpty then none else (cs.mapM Text.digit?).map (Text.numeral 10)

/-- A whole number with a percent sign. -/
def percent? (cs : List Char) : Option Nat :=
  match cs.reverse with
  | '%' :: ds => whole? ds.reverse
  | _ => none

section
variable {α : Type} [Scalar α]

/-- Digits, and perhaps a point with more digits. -/
def decimal? (cs : List Char) : Option α :=
  match cs.head?.any Text.isDigit, Text.openingDecimal? cs with
  | true, some (m, places, []) => some (Scalar.ofReading (.finite false m (-(places : Int))))
  | _, _ => none

/-- A decimal with a percent sign, as a fraction. -/
def fraction? (cs : List Char) : Option α :=
  match cs.reverse with
  | '%' :: ds => (decimal? ds.reverse).map (· / Scalar.ofInt 100)
  | _ => none

/-- A fraction of the full channel, to the nearest whole number, a half going up. -/
def ofFraction (x : α) : Except NumberFault Int :=
  Scalar.truncate (x * Scalar.ofInt 255 + Scalar.ofRat (1 / 2))

/-- A percentage of the full channel, to the nearest whole number, a half going up. -/
def ofPercent (α : Type) [Scalar α] (p : Nat) : Except NumberFault Int := do
  let x : α ← Quantity.ofWhole (p * 255)
  Scalar.truncate (x / Scalar.ofInt 100 + Scalar.ofRat (1 / 2))

/-- One channel of a hue: rising through the first sixth of the circle, full to the half, falling
to two thirds, and low from there on. -/
def hueChannel (low high hue : α) : α :=
  let hue := Scalar.modulo hue Scalar.one
  let twoThirds : α := Scalar.ofInt 2 / Scalar.ofInt 3
  if hue < Scalar.one / Scalar.ofInt 6 then low + (high - low) * hue * Scalar.ofInt 6
  else if hue < Scalar.ofRat (1 / 2) then high
  else if hue < twoThirds then low + (high - low) * (twoThirds - hue) * Scalar.ofInt 6
  else low

/-- The channels of hue, saturation and lightness, as fractions. -/
def ofLightness (h s l : α) : List α :=
  if s == Scalar.zero then [l, l, l]
  else
    let high := if l ≤ Scalar.ofRat (1 / 2) then l * (Scalar.one + s) else l + s - l * s
    let low := Scalar.ofInt 2 * l - high
    let third : α := Scalar.one / Scalar.ofInt 3
    [hueChannel low high (h + third), hueChannel low high h, hueChannel low high (h - third)]

/-- The channels of hue, saturation and brightness, as fractions: which of them is full depends on
the sixth of the circle the hue lies in. -/
def ofBrightness (h s v : α) : Except NumberFault (List α) := do
  if s == Scalar.zero then return [v, v, v]
  let sixth ← Scalar.truncate (h * Scalar.ofInt 6)
  let f := h * Scalar.ofInt 6 - Scalar.ofInt sixth
  let p := v * (Scalar.one - s)
  let q := v * (Scalar.one - s * f)
  let t := v * (Scalar.one - s * (Scalar.one - f))
  return match Int.fmod sixth 6 with
    | 0 => [v, t, p]
    | 1 => [q, v, p]
    | 2 => [p, v, t]
    | 3 => [p, q, v]
    | 4 => [t, p, v]
    | _ => [v, p, q]

/-- Three fractions as channels. -/
def ofFractions (xs : List α) : Except NumberFault (Option Channels) := do
  match ← xs.mapM ofFraction with
  | [r, g, b] => return some (.three r g b)
  | _ => return none

/-- Hue in degrees and two percentages. -/
def hueArguments? (args : Option (List (List Char))) : Option (α × α × α) :=
  match args with
  | some [h, a, b] => do
    return ((← decimal? h) / Scalar.ofInt 360, ← fraction? a, ← fraction? b)
  | _ => none

end

/-- Three or four whole channels, as they stand. -/
def ofWholeCall? (cs : List Char) : Option Channels :=
  match (arguments? "rgb" cs).bind (·.mapM whole?), (arguments? "rgba" cs).bind (·.mapM whole?) with
  | some [r, g, b], _ => some (.three r g b)
  | _, some [r, g, b, a] => some (.four r g b a)
  | _, _ => none

/-- The channels of a notation by percentages or by hue. -/
def ofComputedCall? (α : Type) [Scalar α] (cs : List Char) :
    Except NumberFault (Option Channels) := do
  if let some [r, g, b] := (arguments? "rgb" cs).bind (·.mapM percent?) then
    return some (.three (← ofPercent α r) (← ofPercent α g) (← ofPercent α b))
  if let some (h, s, l) := hueArguments? (arguments? "hsl" cs) then
    let xs : List α := ofLightness h s l
    return ← ofFractions xs
  let brightness := (arguments? "hsv" cs).or (arguments? "hsb" cs)
  if let some (h, s, v) := hueArguments? brightness then
    let xs : List α ← ofBrightness h s v
    return ← ofFractions xs
  return none

/-- The longest notation that is read. -/
def notationLimit : Nat := 100

/-- The channels a notation stands for, computed in the arithmetic `α`. -/
def channels? (α : Type) [Scalar α] (cs : List Char) : Except NumberFault (Option Channels) :=
  if cs.length > notationLimit then .ok none
  else
    let cs := cs.map lower
    let direct := match cs with
      | '#' :: ds => ofHex? ds
      | _ => (ofName? cs).or (ofWholeCall? cs)
    match direct with
    | some c => .ok (some c)
    | none => ofComputedCall? α cs

end Color
end Choreo
