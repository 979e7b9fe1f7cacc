import Choreo.Number.Scalar

/-!
Easing curves: how the progress of an animation follows the progress of time.

Every curve runs from nought to one. The curves in, out and in-out of one family are reflections of
one another: entering is leaving backwards, and each half of in-out is a scaled copy of one of them.
-/

namespace Choreo

/-- A curve of progress over time. -/
abbrev Curve (α : Type) := α → Except NumberFault α

namespace Curve
variable {α : Type} [Scalar α]

private def c (q : Rat) : α := Scalar.ofRat q

def linear : Curve α := fun t => .ok t

/-! ## Cubic -/

def inCubic : Curve α := fun t => .ok (t * t * t)

def outCubic : Curve α := fun t => do
  return c 1 - (← Scalar.power (c 1 - t) 3)

def inOutCubic : Curve α := fun t =>
  if t < c 0.5 then .ok (c 4 * t * t * t)
  else do return c 1 - (← Scalar.power (c (-2) * t + c 2) 3) / c 2

/-! ## Back: a swing beyond the ends -/

/-- How far the curve swings back. -/
def swing : α := c 1.70158

/-- The swing of the two halves of in-out. -/
def halfSwing : α := swing * c 1.525

def inBack : Curve α := fun t => do
  return (swing + c 1) * (← Scalar.power t 3) - swing * (← Scalar.power t 2)

def outBack : Curve α := fun t => do
  let cube ← Scalar.power (t - c 1) 3
  let square ← Scalar.power (t - c 1) 2
  return c 1 + (swing + c 1) * cube + swing * square

def inOutBack : Curve α := fun t =>
  if t < c 0.5 then do
    let square ← Scalar.power (c 2 * t) 2
    return square * ((halfSwing + c 1) * c 2 * t - halfSwing) / c 2
  else do
    let square ← Scalar.power (c 2 * t - c 2) 2
    return (square * ((halfSwing + c 1) * (t * c 2 - c 2) + halfSwing) + c 2) / c 2

/-! ## Bounce: four parabolas, each lower than the one before -/

/-- The curve of a dropped ball. -/
def bounce (t : α) : α :=
  let arc := fun (foot rise : α) => c 7.5625 * (t - foot) * (t - foot) + rise
  if t < c 1 / c 2.75 then c 7.5625 * t * t
  else if t < c 2 / c 2.75 then arc (c 1.5 / c 2.75) (c 0.75)
  else if t < c 2.5 / c 2.75 then arc (c 2.25 / c 2.75) (c 0.9375)
  else arc (c 2.625 / c 2.75) (c 0.984375)

def outBounce : Curve α := fun t => .ok (bounce t)

def inBounce : Curve α := fun t => .ok (c 1 - bounce (c 1 - t))

def inOutBounce : Curve α := fun t =>
  if t < c 0.5 then .ok ((c 1 - bounce (c 1 - c 2 * t)) / c 2)
  else .ok ((c 1 + bounce (c 2 * t - c 1)) / c 2)

/-! ## Elastic: a fading oscillation -/

section
variable [Analytic α]

/-- An oscillation of an amplitude that is a power of two. The sine of an infinite angle is a
fault. -/
def oscillation (exponent angle : α) : Except NumberFault α := do
  let amplitude ← Analytic.exp2 exponent
  match Scalar.exact angle with
  | .infinite _ => .error .outsideDomain
  | _ => return amplitude * Analytic.sin angle

/-- The angular speed of one elastic curve, and of the two halves of in-out. -/
def elasticSpeed : α := c 2 * Analytic.pi / c 3

def elasticHalfSpeed : α := c 2 * Analytic.pi / c 4.5

/-- The ends of an elastic curve are exact. -/
def betweenEnds (f : Curve α) : Curve α := fun t =>
  if t == c 0 || t == c 1 then .ok t else f t

def inElastic : Curve α := betweenEnds fun t => do
  return -(← oscillation (c 10 * t - c 10) ((t * c 10 - c 10.75) * elasticSpeed))

def outElastic : Curve α := betweenEnds fun t => do
  return (← oscillation (c (-10) * t) ((t * c 10 - c 0.75) * elasticSpeed)) + c 1

def inOutElastic : Curve α := betweenEnds fun t =>
  if t < c 0.5 then do
    return -(← oscillation (c 20 * t - c 10) ((c 20 * t - c 11.125) * elasticHalfSpeed)) / c 2
  else do
    return (← oscillation (c (-20) * t + c 10) ((c 20 * t - c 11.125) * elasticHalfSpeed)) / c 2
      + c 1

end
end Curve

/-- The curve an animation asks for: the usual one, one by name, or one of its own. -/
inductive Easing (α : Type) where
  | usual
  | named (name : String)
  | custom (curve : Curve α)

namespace Easing
variable {α : Type} [Scalar α] [Analytic α]

/-- The named curves, in the order of their names. -/
def curves (α : Type) [Scalar α] [Analytic α] : List (String × Curve α) :=
  [("in-back", Curve.inBack), ("in-bounce", Curve.inBounce), ("in-cubic", Curve.inCubic),
   ("in-elastic", Curve.inElastic), ("in-out-back", Curve.inOutBack),
   ("in-out-bounce", Curve.inOutBounce), ("in-out-cubic", Curve.inOutCubic),
   ("in-out-elastic", Curve.inOutElastic), ("linear", Curve.linear),
   ("out-back", Curve.outBack), ("out-bounce", Curve.outBounce), ("out-cubic", Curve.outCubic),
   ("out-elastic", Curve.outElastic)]

/-- The names a curve can be asked for by. -/
def names : List String :=
  ["in-back", "in-bounce", "in-cubic", "in-elastic", "in-out-back", "in-out-bounce",
   "in-out-cubic", "in-out-elastic", "linear", "out-back", "out-bounce", "out-cubic",
   "out-elastic"]

/-- The curve asked for, or the name that no curve has. -/
def resolve : Easing α → Except String (Curve α)
  | .usual => .ok Curve.inOutCubic
  | .custom f => .ok f
  | .named name =>
    match (curves α).lookup name with
    | some f => .ok f
    | none => .error name

/-- What is said of an unknown name. -/
def unknownMessage (name : String) : String :=
  "Unknown easing '" ++ name ++ "'. Valid: [" ++
    ", ".intercalate (names.map Text.quoted) ++ "]"

end Easing
end Choreo
