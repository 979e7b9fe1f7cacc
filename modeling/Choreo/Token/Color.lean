import Choreo.Color.Parse
import Choreo.Token.Value

/-!
The color a token names.
-/

namespace Choreo
namespace Token
variable {α : Type} [Scalar α]

/-- Beginnings of the tokens that name a color. A gradient stop names it as a background does. -/
def colorStarts : List String := ["bg-", "text-", "border-"] ++ gradientStops

/-- The color a token names, if it names a known one. Only a number out of range is a fault. -/
def color? (token : List Char) : Except NumberFault (Option (Color α)) :=
  match colorStarts.findSome? fun start => after? start token with
  | none => .ok none
  | some name =>
    match Color.resolve Palette.standard (String.ofList name) with
    | .ok c => .ok (some c)
    | .error (.number .overflow) => .error .overflow
    | .error _ => .ok none

end Token
end Choreo
