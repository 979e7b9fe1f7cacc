import Choreo.Color.Basic

/-!
Mixing colors by lightness, chroma and hue.

Two saturated colors mixed channel by channel pass through grey. Here lightness, chroma and hue
move apart from one another, and the hue takes the shorter way round. A grey has no hue of its own:
it takes the other color's, so that a fade from white does not swing through unrelated colors.
-/

namespace Choreo

/-- The number at fraction `t` of the way from `a` to `b`. -/
def lerp {α : Type} [Add α] [Sub α] [Mul α] (a b t : α) : α := a + (b - a) * t

namespace Color
variable {α : Type} [Scalar α] [Analytic α]

/-- A color by lightness, chroma and hue in degrees. -/
structure Polar (α : Type) where
  lightness : α
  chroma : α
  hue : α

/-- Three numbers transformed by a matrix given by rows. -/
def transform (m : List (Rat × Rat × Rat)) (x y z : α) : List α :=
  m.map fun (a, b, c) => Scalar.ofRat a * x + Scalar.ofRat b * y + Scalar.ofRat c * z

/-- From linear red, green and blue to the stimulus of the eye's three receptors. -/
def toStimulus : List (Rat × Rat × Rat) :=
  [(0.4124564, 0.3575761, 0.1804375), (0.2126729, 0.7151522, 0.0721750),
   (0.0193339, 0.1191920, 0.9503041)]

/-- The inverse of `toStimulus`, to twenty places. -/
def ofStimulus : List (Rat × Rat × Rat) :=
  [(3.24045483602140846638, -1.53713885010257506535, -0.49853154686848087345),
   (-0.96926638987565377174, 1.87601092884249122030, 0.04155608234667352653),
   (0.05564341960421365667, -0.20402585426769813734, 1.05722516245792879499)]

/-- The stimulus of daylight white. -/
def white : List Rat := [0.95047, 1, 1.08883]

/-- Where the straight part near black meets the cube root, as a response. -/
def knee : Rat := 6 / 29

/-- The same point as a stimulus. -/
def kneeStimulus : Rat := 216 / 24389

/-- The straight part: its slope, inverted, and its response to black. -/
def kneeSlope : Rat := 108 / 841

def kneeOffset : Rat := 4 / 29

/-- A channel out of 255 as a share of the light. -/
def linear (channel : α) : α :=
  let c := channel / Scalar.ofInt 255
  if c ≤ Scalar.ofRat 0.04045 then c / Scalar.ofRat 12.92
  else Analytic.realPower ((c + Scalar.ofRat 0.055) / Scalar.ofRat 1.055) (Scalar.ofRat 2.4)

/-- A share of the light, held to the range of light, as a channel out of 255. -/
def encode (light : α) : α :=
  let x := Scalar.smaller (Scalar.larger light Scalar.zero) Scalar.one
  let c := if x ≤ Scalar.ofRat 0.0031308 then x * Scalar.ofRat 12.92
    else Scalar.ofRat 1.055 * Analytic.realPower x (Scalar.one / Scalar.ofRat 2.4)
      - Scalar.ofRat 0.055
  Scalar.smaller (Scalar.larger (c * Scalar.ofInt 255) Scalar.zero) (Scalar.ofInt 255)

/-- The response of the eye to a stimulus relative to white. -/
def response (x : α) : α :=
  if Scalar.ofRat kneeStimulus < x then Analytic.cubeRoot x
  else x / Scalar.ofRat kneeSlope + Scalar.ofRat kneeOffset

/-- The stimulus relative to white that causes a response. -/
def stimulus (f : α) : α :=
  if Scalar.ofRat knee < f then f * f * f
  else Scalar.ofRat kneeSlope * (f - Scalar.ofRat kneeOffset)

def toPolar (r g b : α) : Polar α :=
  let fs := ((transform toStimulus (linear r) (linear g) (linear b)).zip white).map
    fun (x, w) => response (x / Scalar.ofRat w)
  match fs with
  | [fx, fy, fz] =>
    let lightness := Scalar.ofInt 116 * fy - Scalar.ofInt 16
    let u := Scalar.ofInt 500 * (fx - fy)
    let v := Scalar.ofInt 200 * (fy - fz)
    let degrees := Analytic.angle v u * (Scalar.ofInt 180 / Analytic.pi)
    ⟨lightness, Analytic.length u v, Scalar.modulo degrees (Scalar.ofInt 360)⟩
  | _ => ⟨Scalar.zero, Scalar.zero, Scalar.zero⟩

def ofPolar (p : Polar α) : List α :=
  let radians := p.hue * (Analytic.pi / Scalar.ofInt 180)
  let u := p.chroma * Analytic.cos radians
  let v := p.chroma * Analytic.sin radians
  let fy := (p.lightness + Scalar.ofInt 16) / Scalar.ofInt 116
  let fs := [fy + u / Scalar.ofInt 500, fy, fy - v / Scalar.ofInt 200]
  match (fs.zip white).map fun (f, w) => stimulus f * Scalar.ofRat w with
  | [x, y, z] => (transform ofStimulus x y z).map encode
  | _ => []

/-- Below this chroma a color is a grey. -/
def greyChroma : α := Scalar.ofRat (1 / 10000)

/-- The hues of two colors, a grey taking that of the other. -/
def hues (p q : Polar α) : α × α :=
  if p.chroma < greyChroma ∧ greyChroma ≤ q.chroma then (q.hue, q.hue)
  else if q.chroma < greyChroma ∧ greyChroma ≤ p.chroma then (p.hue, p.hue)
  else (p.hue, q.hue)

/-- The way from one hue to another, at most half the circle. -/
def hueStep (h k : α) : α :=
  let d := k - h
  if Scalar.ofInt 180 < d then d - Scalar.ofInt 360
  else if d < Scalar.ofInt (-180) then d + Scalar.ofInt 360
  else d

def mixPolar (p q : Polar α) (t : α) : Polar α :=
  let (h, k) := hues p q
  ⟨lerp p.lightness q.lightness t, lerp p.chroma q.chroma t,
    Scalar.modulo (h + hueStep h k * t) (Scalar.ofInt 360)⟩

/-- The color at fraction `t` of the way. Both ends are kept as they are; the opacity moves along a
straight line. -/
def mix (start stop : Color α) (t : α) : Except NumberFault (Color α) := do
  if t ≤ Scalar.zero then return start
  if Scalar.one ≤ t then return stop
  let p := toPolar (← start.red.toReal) (← start.green.toReal) (← start.blue.toReal)
  let q := toPolar (← stop.red.toReal) (← stop.green.toReal) (← stop.blue.toReal)
  let a := lerp (← start.alpha.toReal) (← stop.alpha.toReal) t
  match ofPolar (mixPolar p q t) with
  | [r, g, b] => return ⟨.real r, .real g, .real b, .real a⟩
  | _ => return start

end Color
end Choreo
