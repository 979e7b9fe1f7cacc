import Choreo.Number.Fault
import Choreo.Text.Blank
import Choreo.Text.Digit

/-!
Numerals: whole numbers in a base, and decimals with an exponent.

Both may be surrounded by blanks and carry a sign, and a single underscore may stand between two
digits. A decimal is read exactly, as digits and a power of ten; which number it becomes is up to
the arithmetic.
-/

namespace Choreo
namespace Text

/-- What a decimal numeral says: `digits * 10 ^ exponent` with a sign, or a special value. -/
inductive Reading where
  | finite (negative : Bool) (digits : Nat) (exponent : Int)
  | infinite (negative : Bool)
  | nan
  deriving DecidableEq, Repr

/-- Single underscores stand between digits only; they are dropped. -/
def ungrouped (digit : Char → Bool) : Option Char → List Char → Option (List Char)
  | prev, [] => if prev = some '_' then none else some []
  | prev, c :: rest =>
    if c = '_' then
      if prev.any digit then ungrouped digit (some c) rest else none
    else if prev = some '_' && !digit c then none
    else (ungrouped digit (some c) rest).map (c :: ·)

/-- A sign in front, if there is one. -/
def splitSign : List Char → Bool × List Char
  | '-' :: rest => (true, rest)
  | '+' :: rest => (false, rest)
  | cs => (false, cs)

/-- The marker of a base after a nought, with one underscore allowed behind it. -/
def dropMarker (base : Nat) : List Char → List Char
  | '0' :: m :: rest =>
    let marks := if base = 16 then ['x', 'X'] else if base = 8 then ['o', 'O']
      else if base = 2 then ['b', 'B'] else []
    if marks.contains m then
      match rest with
      | '_' :: rest => rest
      | rest => rest
    else '0' :: m :: rest
  | cs => cs

/-- The whole number a numeral spells in the given base. Only decimal numerals have a limited
length. -/
def readWhole (base : Nat) (cs : List Char) : Except NumberFault Int :=
  let wrong := NumberFault.notWhole base (String.ofList cs)
  let value? := fun c => (hexDigit? c).filter (· < base)
  let isValue := fun c => (value? c).isSome
  let (negative, body) := splitSign (stripWhere isMargin cs)
  let body := dropMarker base body
  let run := body.takeWhile fun c => isValue c || c == '_'
  let rest := body.dropWhile fun c => isValue c || c == '_'
  match ungrouped isValue none run with
  | none => .error wrong
  | some ds =>
    if base = 10 ∧ ds.length > NumberFault.digitLimit then .error (.tooManyDigits ds.length)
    else if ds.isEmpty ∨ ¬ rest.isEmpty then .error wrong
    else
      let n := numeral base (ds.filterMap value?)
      .ok (if negative then -(n : Int) else n)

/-- A character without its case, for the plain letters. -/
def lowered (c : Char) : Char := c.toLower

/-- The decimal a text opens with: digits and perhaps a point, or a point and digits. Gives the
digits as one number, how many of them are places, and what follows. -/
def openingDecimal? (cs : List Char) : Option (Nat × Nat × List Char) :=
  let whole := cs.takeWhile isDigit
  let (places, rest) := match cs.dropWhile isDigit with
    | '.' :: r => (r.takeWhile isDigit, r.dropWhile isDigit)
    | r => ([], r)
  let ds := (whole ++ places).filterMap digit?
  if ds.isEmpty then none else some (numeral 10 ds, places.length, rest)

/-- The exponent a text opens with, and what follows it. An exponent without digits is none. -/
def openingExponent? (cs : List Char) : Option (Int × List Char) :=
  match cs with
  | e :: r =>
    if lowered e = 'e' then
      let (down, r) := splitSign r
      let ds := r.takeWhile isDigit
      let n : Int := numeral 10 (ds.filterMap digit?)
      if ds.isEmpty then none else some (if down then -n else n, r.dropWhile isDigit)
    else none
  | [] => none

/-- A decimal with perhaps an exponent, or one of the special words. -/
def readUnsigned? (negative : Bool) (cs : List Char) : Option Reading :=
  let word := String.ofList (cs.map lowered)
  if word = "inf" ∨ word = "infinity" then some (.infinite negative)
  else if word = "nan" then some .nan
  else
    match openingDecimal? cs with
    | none => none
    | some (m, places, []) => some (.finite negative m (-(places : Int)))
    | some (m, places, rest) =>
      match openingExponent? rest with
      | some (e, []) => some (.finite negative m (e - places))
      | _ => none

/-- The number a text opens with: blanks, a sign, a decimal and an exponent if it is complete. -/
def leadingReading? (cs : List Char) : Option Reading :=
  let (negative, body) := splitSign (cs.dropWhile isBlank)
  (openingDecimal? body).map fun (m, places, rest) =>
    .finite negative m (((openingExponent? rest).map (·.1)).getD 0 - places)

/-- The decimal a numeral spells. -/
def readDecimal (cs : List Char) : Except NumberFault Reading :=
  let (negative, body) := splitSign (stripWhere isMargin cs)
  match (ungrouped isDigit none body).bind (readUnsigned? negative) with
  | some r => .ok r
  | none => .error (.notReal (String.ofList cs))

end Text
end Choreo
