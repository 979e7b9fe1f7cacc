import Choreo.Color.Mix
import Choreo.Stage.Current
import Choreo.Stage.World

/-!
Animation jobs: one property of a target going from a start to an end.

Every token of the target state that animates something becomes one job, in order. Its start comes
from the token at the same place of the explicit start state, and where that is missing from what
the target currently shows.
-/

namespace Choreo

/-- The two ends of a job. -/
inductive Span (α : Type) where
  | numbers (start stop : Quantity α)
  | colors (start stop : Color α)
  deriving DecidableEq, Repr

/-- One property on its way. -/
structure Job (α : Type) where
  property : Property
  key : String
  span : Span α
  token : List Char

namespace Job
variable {α : Type} [Scalar α]

/-- The color a token names, transparent if it names none. -/
def tokenColor (token : List Char) : Except NumberFault (Color α) :=
  (Token.color? token).map (·.getD Color.transparent)

/-- The job of a token, given the token its start is read from. -/
def ofDescriptor (s : Stage α) (t : Target α) (d : Token.Descriptor α) (start? : Option String) :
    Except NumberFault (Job α) := do
  let p := d.property
  let key := Token.key p.name d.token
  if p.measure = .color then
    let start ← match start? with
      | some token => tokenColor token.toList
      | none =>
        match ← s.current t p.name p.measure key with
        | .color c => pure c
        | .number _ => pure Color.transparent
    return { property := p, key := key, token := d.token,
             span := .colors start (← tokenColor d.token) }
  else
    let start ← match start? with
      | some token => do Token.inMeasure (← Token.value token.toList) p.measure
      | none =>
        match ← s.current t p.name p.measure key with
        | .number x => pure (.real x)
        | .color _ => pure (.whole 0)
    return { property := p, key := key, token := d.token,
             span := .numbers start (.real (← d.inMeasure)) }

/-- The jobs of two lists of tokens. Tokens that animate nothing are skipped, and the others keep
their places. -/
def build (s : Stage α) (t : Target α) (goals : List String) (start : List String) :
    Except NumberFault (List (Job α)) :=
  match goals with
  | [] => .ok []
  | token :: rest => do
    let described : Option (Token.Descriptor α) ← Token.describe? token.toList
    let job? ← match described with
      | none => pure none
      | some d => (ofDescriptor s t d start.head?).map some
    let jobs ← build s t rest (start.drop 1)
    return job?.toList ++ jobs

/-! ## Applying -/

variable {C : Type}

/-- The text of a shift along one axis: both are written, the other one with its current value. -/
def translateText (s : Stage α) (t : Target α) (key : String) (x : α) :
    Except NumberFault String := do
  let axis := fun (k : String) => if key = k then pure x else s.currentNumber t k
  let across ← axis "translateX"
  let down ← axis "translateY"
  return Token.numberText across ++ "px " ++ Token.numberText down ++ "px"

/-- The value and the text of a job at a progress. -/
def valueAt [Analytic α] (j : Job α) (s : Stage α) (t : Target α) (progress : α) :
    Except NumberFault (Value α × String) := do
  match j.span with
  | .colors start stop =>
    let c ← Color.mix start stop progress
    return (Value.ofColor c, ← c.css)
  | .numbers start stop =>
    let x := lerp (← start.toReal) (← stop.toReal) progress
    let text ← if j.property.name = "translate" then translateText s t j.key x
      else pure (Token.serialize j.property.name j.property.measure x j.token)
    return (.real x, text)

/-- Applies the jobs of a target in order. The first that fails ends the list. -/
def applyAll [Analytic α] (h : Handle) (progress : α) :
    List (Job α) → World α C → Except NumberFault Unit × World α C
  | [], w => (.ok (), w)
  | j :: rest, w =>
    match w.stage.targets[h]? with
    | none => (.ok (), w)
    | some t =>
      match j.valueAt w.stage t progress with
      | .error e => (.error e, w)
      | .ok (value, text) => applyAll h progress rest (w.apply h j.key value j.property.name text)

end Job
end Choreo
