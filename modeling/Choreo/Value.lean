import Choreo.Color.Basic

/-!
Values a host or a stage holds for a property of a target.
-/

namespace Choreo

/-- A value of a property: nothing, a flag, a number, a text or a tuple of numbers. A color is a
tuple of four. -/
inductive Value (α : Type) where
  | none
  | flag (b : Bool)
  | number (q : Quantity α)
  | text (s : String)
  | tuple (xs : List (Quantity α))
  deriving DecidableEq, BEq, Repr

namespace Value
variable {α : Type}

def ofColor (c : Color α) : Value α := .tuple [c.red, c.green, c.blue, c.alpha]

def real (x : α) : Value α := .number (.real x)

end Value
end Choreo
