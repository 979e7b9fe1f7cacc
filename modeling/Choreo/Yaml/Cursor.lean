import Choreo.Yaml.Fault

/-!
A place in a document, and the classes of characters that matter there.
-/

namespace Choreo
namespace Yaml

/-- Ends a line. -/
def isBreak (c : Char) : Bool := c == '\n' || c == '\x85' || c == '\u2028' || c == '\u2029'

/-- Ends a word: a blank, a line end, or the end of the document. -/
def isGap : Option Char → Bool
  | none => true
  | some c => c == ' ' || c == '\t' || isBreak c

/-- Ends a word, where a tab does not. -/
def isSpaceOrEnd : Option Char → Bool
  | none => true
  | some c => c == ' ' || isBreak c

/-- Stands in a name. -/
def isNameChar (c : Char) : Bool :=
  c.isDigit || ('A' ≤ c && c ≤ 'Z') || ('a' ≤ c && c ≤ 'z') || c == '-' || c == '_'

/-- The value of a digit of the first sixteen. -/
def hexDigit? (c : Char) : Option Nat :=
  if c.isDigit then some (c.toNat - 48)
  else if 'a' ≤ c ∧ c ≤ 'f' then some (c.toNat - 87)
  else if 'A' ≤ c ∧ c ≤ 'F' then some (c.toNat - 55)
  else none

/-- A line that opens or closes a document, from its first character on. -/
def isMarker (mark : Char) (cs : List Char) : Bool :=
  cs.take 3 == [mark, mark, mark] && isGap cs[3]?

def isAnyMarker (cs : List Char) : Bool := isMarker '-' cs || isMarker '.' cs

/-- What is left of a document, and where that begins. -/
structure Cursor where
  rest : List Char
  /-- How many characters stand before it. -/
  index : Nat
  line : Nat
  column : Nat

namespace Cursor

def start (cs : List Char) : Cursor := ⟨cs, 0, 0, 0⟩

/-- The character so many places on. -/
def peek (c : Cursor) (k : Nat) : Option Char := c.rest[k]?

def here (c : Cursor) : Option Char := c.rest.head?

/-- Whether the character here is of a class. -/
def holds (c : Cursor) (p : Char → Bool) : Bool := c.here.any p

/-- One character on. A byte order mark takes no room in its line. -/
def step (c : Cursor) : Cursor :=
  match c.rest with
  | [] => c
  | x :: rest =>
    if isBreak x then ⟨rest, c.index + 1, c.line + 1, 0⟩
    else ⟨rest, c.index + 1, c.line, if x = '\ufeff' then c.column else c.column + 1⟩

def skip : Nat → Cursor → Cursor
  | 0, c => c
  | n + 1, c => skip n c.step

/-- The characters of a class that stand here, and what follows them. -/
def take (p : Char → Bool) (c : Cursor) : List Char × Cursor :=
  let cs := c.rest.takeWhile p
  (cs, c.skip cs.length)

def drop (p : Char → Bool) (c : Cursor) : Cursor := (c.take p).2

def dropSpaces (c : Cursor) : Cursor := c.drop (· == ' ')

/-- The line end here, as a text keeps it, and what follows it. -/
def lineEnd? (c : Cursor) : Option (Char × Cursor) :=
  match c.here with
  | some x =>
    if isBreak x then some (if x = '\u2028' ∨ x = '\u2029' then x else '\n', c.step) else none
  | none => none

/-- Past a comment, if one stands here. -/
def dropComment (c : Cursor) : Cursor :=
  if c.here = some '#' then c.drop (fun x => !isBreak x) else c

/-- Past the end of a line that holds nothing more than a comment. -/
def finishLine (c : Cursor) : Except Fault Cursor :=
  let c := c.dropSpaces.dropComment
  match c.lineEnd? with
  | some (_, c) => .ok c
  | none => if c.rest.isEmpty then .ok c else .error .malformed

end Cursor
end Yaml
end Choreo
