import Choreo.Color.Notation
import Choreo.Color.Palette
import Choreo.Value

/-!
Reading colors: from values, from free text, and by name through a palette.

A text that is no color is fully transparent, so a bad color never stops an animation. A name that
the palette does not hold is a fault.
-/

namespace Choreo

/-- Why a color name has no color. -/
inductive ColorFault where
  | unknown (name : String)
  | number (fault : NumberFault)
  deriving DecidableEq, Repr

def ColorFault.message : ColorFault → String
  | .unknown name => "Unknown color: '" ++ name ++ "'. Not in palette."
  | .number fault => fault.message

namespace Color

/-- The text between the parentheses behind `rgb` or `rgba`, at the first place where it is closed
and not empty. -/
def functionalBody? : List Char → Option (List Char)
  | [] => none
  | c :: rest =>
    let opened := match c :: rest with
      | 'r' :: 'g' :: 'b' :: '(' :: r => some r
      | 'r' :: 'g' :: 'b' :: 'a' :: '(' :: r => some r
      | _ => none
    let body := (opened.getD []).takeWhile (· != ')')
    let closed := !((opened.getD []).dropWhile (· != ')')).isEmpty
    if closed && !body.isEmpty then some body else functionalBody? rest

/-- The parts of a functional notation, which blanks, commas and slashes keep apart. -/
def functionalParts (body : List Char) : List (List Char) :=
  Text.pieces (fun c => Text.isBlank c || c == ',' || c == '/') body

section
variable {α : Type} [Scalar α]

/-- A decimal text as a number. -/
def readReal (cs : List Char) : Except NumberFault α :=
  (Text.readDecimal cs).map Scalar.ofReading

/-- An opacity: a number, or a percentage. -/
def readAlpha (cs : List Char) : Except NumberFault α :=
  match cs.reverse with
  | '%' :: ds => (readReal ds.reverse).map (· / Scalar.ofInt 100)
  | _ => readReal cs

/-- The whole part of a decimal text. -/
def readChannel (α : Type) [Scalar α] (cs : List Char) : Except NumberFault Int := do
  let x : α ← readReal cs
  Scalar.truncate x

/-- The color of three or more functional parts. Parts behind the fourth are ignored. -/
def ofParts (r g b : List Char) (rest : List (List Char)) : Except NumberFault (Color α) := do
  let r ← readChannel α r
  let g ← readChannel α g
  let b ← readChannel α b
  match rest with
  | [] => return ⟨.whole r, .whole g, .whole b, .whole 1⟩
  | a :: _ => return ⟨.whole r, .whole g, .whole b, .real (← readAlpha a)⟩

/-- What cannot be read is transparent. Only a number out of range stays a fault. -/
def orTransparent (x : Except NumberFault (Color α)) : Except NumberFault (Color α) :=
  match x with
  | .error .overflow => .error .overflow
  | .error _ => .ok transparent
  | .ok c => .ok c

def ofChannels : Option Channels → Except NumberFault (Color α)
  | some (.three r g b) => .ok ⟨.whole r, .whole g, .whole b, .whole 1⟩
  | some (.four r g b a) => do
    return ⟨.whole r, .whole g, .whole b, ← (Quantity.whole a).dividedBy 255⟩
  | none => .ok transparent

/-- The color a text describes. The loose functional notation is tried before all others. -/
def parseText (s : List Char) : Except NumberFault (Color α) :=
  let cs := Text.strip s
  if cs.isEmpty ∨ cs = "transparent".toList then .ok transparent
  else
    match (functionalBody? cs).map functionalParts with
    | some (r :: g :: b :: rest) => orTransparent (ofParts r g b rest)
    | _ => orTransparent (do ofChannels (← channels? α cs))

/-- The color a value describes. A tuple of three channels is opaque. A number is written out to be
read, though no number's text is a color. -/
def parse : Value α → Except NumberFault (Color α)
  | .tuple [r, g, b] => .ok ⟨r, g, b, .whole 1⟩
  | .tuple [r, g, b, a] => .ok ⟨r, g, b, a⟩
  | .text s => parseText s.toList
  | .number q => q.text.map fun _ => transparent
  | _ => .ok transparent

end

/-- The three channels of a hexadecimal color text, with or without the number sign: two characters
each, read as a whole number. -/
def hexChannels (s : List Char) : Except NumberFault (Int × Int × Int) := do
  let cs := s.dropWhile (· == '#')
  let r ← Text.readWhole 16 (cs.take 2)
  let g ← Text.readWhole 16 ((cs.drop 2).take 2)
  let b ← Text.readWhole 16 ((cs.drop 4).take 2)
  return (r, g, b)

section
variable {α : Type} [Scalar α]

def ofHexText (s : String) : Except ColorFault (Color α) :=
  match hexChannels s.toList with
  | .ok (r, g, b) => .ok (opaqueOf r g b)
  | .error e => .error (.number e)

/-- The parts of a text around the last occurrence of a character. Without one, all of it is
behind. -/
def cutAtLast (c : Char) (cs : List Char) : List Char × List Char :=
  let behind := (cs.reverse.takeWhile (· != c)).reverse
  if cs.contains c then (cs.take (cs.length - behind.length - 1), behind) else ([], cs)

/-- Underscores stand for blanks where a blank cannot be written. -/
def withBlanks (cs : List Char) : List Char := cs.map fun c => if c = '_' then ' ' else c

def isBracketed (cs : List Char) : Bool := cs.head? == some '[' && cs.getLast? == some ']'

/-- The color of a name without an opacity. -/
def resolveOpaque (palette : Palette) (cs : List Char) : Except ColorFault (Color α) :=
  let name := String.ofList cs
  if isBracketed cs then
    (parseText (withBlanks ((cs.drop 1).dropLast))).mapError .number
  else if name = "transparent" then .ok transparent
  else
    match Palette.keywords.lookup name with
    | some hex => ofHexText hex
    | none =>
      let (family, shade) := cutAtLast '-' cs
      match palette.find? (String.ofList family) (String.ofList shade) with
      | some hex => ofHexText hex
      | none => .error (.unknown name)

/-- The color of a name: a shade of the palette, a keyword or an arbitrary color in brackets. An
opacity in percent may follow a slash, unless the name opens with a bracket. -/
def resolve (palette : Palette) (s : String) : Except ColorFault (Color α) :=
  let cs := s.toList
  if cs.contains '/' && cs.head? != some '[' then do
    let percent : α ← (readReal ((cs.dropWhile (· != '/')).drop 1)).mapError .number
    let c ← resolveOpaque palette (cs.takeWhile (· != '/'))
    return { c with alpha := .real (percent / Scalar.ofInt 100) }
  else resolveOpaque palette cs

end
end Color
end Choreo
