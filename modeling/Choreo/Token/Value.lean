import Choreo.Number.Fixed
import Choreo.Number.Quantity
import Choreo.Token.Property

/-!
The number a token carries, in the token's own scale and in the measure of its property.

Lengths are counted in quarters of the base length: `w-4` is four of them, sixteen pixels, and the
arbitrary form `w-[16px]` carries the same four. A token without a number carries nought.
-/

namespace Choreo
namespace Token
variable {α : Type} [Scalar α]

/-- The rational constants among the named tokens, lengths in quarters. -/
def namedValues : List (String × Rat) :=
  [("rounded-none", 0), ("rounded-sm", 0.5), ("rounded", 1), ("rounded-md", 1.5),
   ("rounded-lg", 2), ("rounded-xl", 3), ("rounded-2xl", 4), ("rounded-3xl", 6),
   ("rounded-full", 2499.75), ("tracking-tighter", -0.05), ("tracking-tight", -0.025),
   ("tracking-normal", 0), ("tracking-wide", 0.025), ("tracking-wider", 0.05),
   ("tracking-widest", 0.1), ("opacity-0", 0), ("opacity-100", 100), ("blur-none", 0),
   ("blur-sm", 1), ("blur", 2), ("blur-md", 3), ("blur-lg", 4), ("blur-xl", 6),
   ("blur-2xl", 10), ("blur-3xl", 16), ("text-xs", 3), ("text-sm", 3.5), ("text-base", 4),
   ("text-lg", 4.5), ("text-xl", 5), ("text-2xl", 6), ("text-3xl", 7.5), ("text-4xl", 9),
   ("text-5xl", 12), ("text-6xl", 15), ("text-7xl", 18), ("text-8xl", 24), ("text-9xl", 32)]

/-- A rational as a quantity: whole if it is. -/
def quantity (q : Rat) : Quantity α := if q.den = 1 then .whole q.num else .real (Scalar.ofRat q)

/-- Whether a character may stand before the bracket of an arbitrary value. -/
def isStemChar (c : Char) : Bool := ('a' ≤ c && c ≤ 'z') || c == '-'

/-- The payload of an arbitrary value, as in `w-[50px]`: plain lower-case letters and hyphens, the
last of them a hyphen, then brackets with something in them. -/
def payload? (cs : List Char) : Option (List Char) :=
  let cs := dropLineEnd cs
  let stem := cs.takeWhile isStemChar
  if stem.length < 2 ∨ stem.getLast? ≠ some '-' then none
  else (bracketed? (cs.drop stem.length)).filter (!·.isEmpty)

/-- The number of an arbitrary payload. A minus in the brackets and one in front of the token cancel
each other. -/
def payloadValue (negative : Bool) (payload : List Char) : Quantity α :=
  match Text.openingDecimal? (withoutMinus payload) with
  | none => .whole 0
  | some (digits, places, rest) =>
    let unit := Text.strip rest
    let x : α := Scalar.ofReading (.finite false digits (-(places : Int)))
    let x := if negative != isNegative payload then -x else x
    if unit = "px".toList then .real (x / Scalar.ofInt 4)
    else if unit = "rem".toList then .real (x * Scalar.ofInt 4)
    else .real x

/-- The digits a token ends with, behind a hyphen. -/
def scaledDigits? (cs : List Char) : Option (List Char) :=
  let cs := (dropLineEnd cs).reverse
  let ds := cs.takeWhile Text.isDigit
  if !ds.isEmpty && (cs.drop ds.length).head? == some '-' then some ds.reverse else none

/-- The number a token carries. Only a numeral longer than the limit is a fault. -/
def value (token : List Char) : Except NumberFault (Quantity α) :=
  match namedValues.lookup (String.ofList token) with
  | some q => .ok (quantity q)
  | none =>
    let negative := isNegative token
    let clean := withoutMinus token
    match payload? clean with
    | some payload => .ok (payloadValue negative payload)
    | none =>
      if (property? token).isNone then .ok (.whole 0)
      else
        match scaledDigits? clean with
        | none => .ok (.whole 0)
        | some ds => do
          let n ← Text.readWhole 10 ds
          return .whole (if negative then -n else n)

/-- A token's number in the measure of its property. -/
def inMeasure (q : Quantity α) : Measure → Except NumberFault (Quantity α)
  | .px => .ok (q.times 4)
  | .rem => q.quarter
  | .percent => q.dividedBy 100
  | _ => .ok q

/-- What a token says: a property, and a number in the token's scale. A color token carries no
number; its color is resolved by name. -/
structure Descriptor (α : Type) where
  property : Property
  value : α
  token : List Char

/-- The descriptor of a token, if it animates anything. -/
def describe? (token : List Char) : Except NumberFault (Option (Descriptor α)) :=
  match property? token with
  | none => .ok none
  | some p =>
    if p.measure = .color then .ok (some ⟨p, Scalar.zero, token⟩)
    else do return some ⟨p, ← (← value token).toReal, token⟩

/-- The number of a descriptor in the measure of its property. -/
def Descriptor.inMeasure (d : Descriptor α) : Except NumberFault α := do
  (← Token.inMeasure (.real d.value) d.property.measure).toReal

/-! ## Writing -/

/-- A number as it is handed to a renderer: at most four places. -/
def numberText (x : α) : String := String.ofList (Decimal.canonical 4 (Scalar.exact x))

/-- The text of a value in its measure. The two channels of a filter are written as functions. -/
def serialize (property : String) (measure : Measure) (x : α) (token : List Char) : String :=
  if property = "filter" then
    if key property token = "brightness" then
      "brightness(" ++ numberText (x * Scalar.ofInt 100) ++ "%)"
    else "blur(" ++ numberText x ++ "px)"
  else numberText x ++ measure.suffix

end Token
end Choreo
