import Choreo.Number.Scalar

/-!
Quantities read from text: whole numbers keep all their digits, decimals are numbers of the
arithmetic in use.
-/

namespace Choreo

/-- A whole number of any size, or a number of the arithmetic. -/
inductive Quantity (α : Type) where
  | whole (n : Int)
  | real (x : α)
  deriving DecidableEq, BEq, Repr

namespace Quantity
variable {α : Type} [Scalar α]

/-- A whole number as a number of the arithmetic, if it is in range. -/
def ofWhole (n : Int) : Except NumberFault α :=
  let x : α := Scalar.ofInt n
  match Scalar.exact x with
  | .infinite _ => .error .overflow
  | _ => .ok x

/-- The number a quantity counts as in a computation. -/
def toReal : Quantity α → Except NumberFault α
  | .whole n => ofWhole n
  | .real x => .ok x

/-- What the quantity is worth. -/
def exact : Quantity α → Exact
  | .whole n => Exact.ofRat n
  | .real x => Scalar.exact x

/-- A whole multiple. Whole numbers stay whole. -/
def times (k : Int) : Quantity α → Quantity α
  | .whole n => .whole (n * k)
  | .real x => .real (x * Scalar.ofInt k)

/-- A quarter of the quantity. -/
def quarter (q : Quantity α) : Except NumberFault (Quantity α) := do
  return .real ((← q.toReal) * Scalar.ofRat (1 / 4))

/-- The quantity divided by a positive whole number. A whole number is divided exactly and rounded
once. -/
def dividedBy (k : Nat) : Quantity α → Except NumberFault (Quantity α)
  | .whole n =>
    let x : α := Scalar.ofRat (mkRat n k)
    match Scalar.exact x with
    | .infinite _ => .error .overflow
    | _ => .ok (.real x)
  | .real x => .ok (.real (x / Scalar.ofNat k))

/-- How a quantity is written in messages. The length of whole numbers is limited. -/
def text : Quantity α → Except NumberFault String
  | .whole n =>
    let s := toString n.natAbs
    if NumberFault.digitLimit < s.length then .error .tooLong
    else .ok (if n < 0 then "-" ++ s else s)
  | .real x => .ok (Scalar.text x)

end Quantity
end Choreo
