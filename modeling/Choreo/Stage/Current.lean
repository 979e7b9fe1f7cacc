import Choreo.Stage.Basic

/-!
The current value of a property: where an animation starts.

What the stage last applied comes first, so an interrupted animation goes on from where it visually
is; then what the host reports; then a default. A gradient stop cannot be read from the host: it
falls back to the class that declares it and then to the background.
-/

namespace Choreo
namespace Stage
variable {α : Type} [Scalar α]

/-- A value as a number, if it is one. A tuple is written out, and its text opens with no number. -/
def toNumber? : Value α → Except NumberFault (Option α)
  | .number q => q.toReal.map some
  | .text s => .ok ((Text.leadingReading? s.toList).map Scalar.ofReading)
  | .tuple xs => (xs.mapM Quantity.text).map fun _ => none
  | _ => .ok none

/-- Numbers of properties nobody has set. -/
def defaultNumber (key : String) : α :=
  if ["opacity", "scale", "brightness"].contains key then Scalar.one else Scalar.zero

/-- Colors of properties nobody has set. -/
def defaultColor (key : String) : Color α :=
  if key = "color" then Color.black else Color.transparent

/-- The current number of a key. -/
def currentNumber (s : Stage α) (t : Target α) (key : String) : Except NumberFault α := do
  let applied ← match t.applied.lookup key with
    | some v => toNumber? v
    | none => pure none
  if let some x := applied then return x
  if let some x ← toNumber? (← s.read t.id key) then return x
  return defaultNumber key

/-- The current color of a key. -/
def currentColor (s : Stage α) (t : Target α) (key : String) : Except NumberFault (Color α) := do
  if let some v := t.applied.lookup key then return ← Color.parse v
  match ← s.read t.id key with
  | .none => return defaultColor key
  | v => Color.parse v

/-- Whether a color can be seen at all. -/
def isVisible (c : Color α) : Bool :=
  match c.alpha.exact with
  | .finite _ q => q.num != 0
  | _ => true

/-- A color if it can be seen. -/
def visible? (c : Option (Color α)) : Option (Color α) := c.filter isVisible

/-- The current color of a gradient stop, whose class has the given beginning. -/
def currentStop (s : Stage α) (t : Target α) (property start : String) :
    Except NumberFault (Color α) := do
  let applied ← match t.applied.lookup property with
    | some .none => pure none
    | some v => (Color.parse v).map some
    | none => pure none
  if let some c := visible? applied then return c
  let declared ← match t.findClass? start with
    | some token => Token.color? token.toList
    | none => pure none
  if let some c := visible? declared then return c
  s.currentColor t "backgroundColor"

/-- A number or a color. -/
inductive Current (α : Type) where
  | number (x : α)
  | color (c : Color α)

/-- The current value of a property in a measure. The key, if it is not empty, tells channels of one
property apart. -/
def current (s : Stage α) (t : Target α) (property : String) (measure : Measure)
    (key : String) : Except NumberFault (Current α) :=
  let key := if key = "" then property else key
  if measure = .color then
    match stopStart? property with
    | some start => (s.currentStop t property start).map .color
    | none => (s.currentColor t key).map .color
  else (s.currentNumber t key).map .number

end Stage
end Choreo
