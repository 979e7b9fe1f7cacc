import Choreo.Text.Blank
import Choreo.Text.Digit

/-!
Style tokens and the properties they animate.

A token is a word such as `w-[50px]`, `opacity-100` or `-translate-x-8`. Its beginning decides which
property it animates and in what measure; the longest beginning of the table wins. A token that
matches nothing animates nothing.
-/

namespace Choreo

/-- The measure a property is expressed in. -/
inductive Measure where
  | px | rem | em | deg | percent | color | number
  deriving DecidableEq, Repr

namespace Measure

def name : Measure → String
  | px => "px"
  | rem => "rem"
  | em => "em"
  | deg => "deg"
  | percent => "percent"
  | color => "color"
  | number => "number"

/-- The measure of a name. Any other name measures plain numbers. -/
def ofName (s : String) : Measure :=
  ([px, rem, em, deg, percent, color].find? (·.name == s)).getD number

/-- The mark written behind a number of this measure. -/
def suffix : Measure → String
  | px => "px"
  | rem => "rem"
  | em => "em"
  | deg => "deg"
  | _ => ""

end Measure

/-- A property of a target and the measure of its values. -/
structure Property where
  name : String
  measure : Measure
  deriving DecidableEq, Repr

namespace Token

/-- The beginnings of tokens with the property each animates. -/
def table : List (String × Property) :=
  [("w-", ⟨"width", .px⟩), ("h-", ⟨"height", .px⟩), ("min-w-", ⟨"minWidth", .px⟩),
   ("min-h-", ⟨"minHeight", .px⟩), ("max-w-", ⟨"maxWidth", .px⟩), ("max-h-", ⟨"maxHeight", .px⟩),
   ("m-", ⟨"margin", .px⟩), ("mt-", ⟨"marginTop", .px⟩), ("mb-", ⟨"marginBottom", .px⟩),
   ("ml-", ⟨"marginLeft", .px⟩), ("mr-", ⟨"marginRight", .px⟩), ("p-", ⟨"padding", .px⟩),
   ("pt-", ⟨"paddingTop", .px⟩), ("pb-", ⟨"paddingBottom", .px⟩),
   ("pl-", ⟨"paddingLeft", .px⟩), ("pr-", ⟨"paddingRight", .px⟩), ("text-", ⟨"color", .color⟩),
   ("tracking-", ⟨"letterSpacing", .em⟩), ("leading-", ⟨"lineHeight", .rem⟩),
   ("font-", ⟨"fontWeight", .number⟩), ("border-", ⟨"borderWidth", .px⟩),
   ("rounded-", ⟨"borderRadius", .px⟩), ("bg-", ⟨"backgroundColor", .color⟩),
   ("from-", ⟨"--tw-gradient-from", .color⟩), ("via-", ⟨"--tw-gradient-via", .color⟩),
   ("to-", ⟨"--tw-gradient-to", .color⟩), ("rotate-", ⟨"rotate", .deg⟩),
   ("scale-", ⟨"scale", .percent⟩), ("translate-x-", ⟨"translate", .px⟩),
   ("translate-y-", ⟨"translate", .px⟩), ("opacity-", ⟨"opacity", .percent⟩),
   ("blur-", ⟨"filter", .px⟩), ("brightness-", ⟨"filter", .percent⟩)]

/-- Tokens that are complete without a value. -/
def bare : List (String × Property) :=
  [("rounded", ⟨"borderRadius", .px⟩), ("blur", ⟨"filter", .px⟩)]

/-- The sizes of text: behind `text-` any other word names a color. -/
def fontSizes : List String :=
  ["xs", "sm", "base", "lg", "xl", "2xl", "3xl", "4xl", "5xl", "6xl", "7xl", "8xl", "9xl"]

/-- Beginnings of the tokens that set a stop of a gradient. -/
def gradientStops : List String := ["from-", "via-", "to-"]

/-- The rest of a text behind a given beginning. -/
def after? (start : String) (cs : List Char) : Option (List Char) :=
  start.toList.isPrefixOf? cs

/-- A text without one line end at its end. -/
def dropLineEnd (cs : List Char) : List Char :=
  if cs.getLast? = some '\n' then cs.dropLast else cs

/-- A text without the minus sign in front of it. -/
def withoutMinus : List Char → List Char
  | '-' :: rest => rest
  | cs => cs

def isNegative (cs : List Char) : Bool := cs.head? == some '-'

/-- What stands between two brackets on one line. -/
def bracketed? (cs : List Char) : Option (List Char) :=
  match cs with
  | '[' :: rest =>
    match rest.reverse with
    | ']' :: body => if body.contains '\n' then none else some body.reverse
    | _ => none
  | _ => none

/-- Whether what follows `border-` is a width: a whole number, or brackets that open with a number.
Anything else names a color. -/
def isBorderWidth (cs : List Char) : Bool :=
  let cs := dropLineEnd cs
  (!cs.isEmpty && cs.all Text.isDigit) ||
    match (bracketed? cs).map withoutMinus with
    | some (c :: _) => Text.isDigit c || c == '.'
    | _ => false

/-- The entry of the table with the longest beginning of a text. -/
def longestMatch? (cs : List Char) : Option (String × Property) :=
  (table.filter fun (start, _) => (after? start cs).isSome).foldl
    (fun best entry =>
      if best.any fun b => entry.1.length ≤ b.1.length then best else some entry) none

/-- The property a token animates. -/
def property? (token : List Char) : Option Property :=
  let lookup := withoutMinus token
  match bare.lookup (String.ofList lookup) with
  | some p => some p
  | none =>
    (longestMatch? lookup).map fun (start, p) =>
      let rest := lookup.drop start.length
      if start = "text-" ∧ fontSizes.contains (String.ofList rest) then ⟨"fontSize", .rem⟩
      else if start = "border-" ∧ ¬ isBorderWidth rest then ⟨"borderColor", .color⟩
      else p

/-- Whether a token sets a stop of a gradient. -/
def isGradientStop (token : List Char) : Bool :=
  gradientStops.any fun start => (after? start token).isSome

/-- Whether `part` occurs in a text. -/
def occursIn (part : String) : List Char → Bool
  | [] => part.isEmpty
  | c :: rest => (after? part (c :: rest)).isSome || occursIn part rest

/-- The key a property's value is kept under. Two properties are shared by two channels each, and
the token tells which one it means. -/
def key (property : String) (token : List Char) : String :=
  if property = "translate" then
    if occursIn "translate-y" token then "translateY" else "translateX"
  else if property = "filter" then
    if occursIn "brightness" token then "brightness" else "blur"
  else property

/-- The tokens of a text. -/
def split (text : String) : List String := (Text.words text.toList).map String.ofList

end Token
end Choreo
