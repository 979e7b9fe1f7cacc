import Choreo.Yaml.Block
import Choreo.Yaml.Quoted
import Choreo.Yaml.Tag

/-!
The words and the layout of a document.

Indentation opens and closes blocks. That a text is a key is seen only at the colon behind it, so
the place of a possible key is remembered, one for each depth of brackets, until its line ends or
it gets too long; the opening of its mapping is put in there afterwards. A text at the indentation
of an open block has to be a key.

A document is read no further than it takes to know its next token, so of two faults the one that
is met first is reported.
-/

namespace Choreo
namespace Yaml

inductive Token where
  | directive (d : Directive)
  | documentStart | documentEnd
  | listBlock | mappingBlock | blockEnd
  | openList | closeList | openMapping | closeMapping
  /-- The dash in front of a member of a block. -/
  | entry
  /-- The comma between members in brackets. -/
  | comma
  | key | value
  | reference (name : String)
  | anchor (name : String)
  | tag (t : Tag)
  | text (s : String) (isPlain : Bool)
  deriving DecidableEq, Repr

/-- A place where a key may have begun. -/
structure PossibleKey where
  /-- How many tokens stand before it. -/
  position : Nat
  /-- Whether nothing but a key may stand there. -/
  isRequired : Bool
  index : Nat
  line : Nat
  column : Nat
  deriving Repr

/-- How far the layout of a document has been read. -/
structure Layout where
  cursor : Cursor
  /-- How long the text is. -/
  size : Nat
  /-- Whether the text goes on with what no document may hold. -/
  isCut : Bool
  /-- How many tokens have been taken, and those that have been read since. -/
  taken : Nat
  tokens : List Token
  isOver : Bool
  /-- The column of the innermost block, and of those around it. -/
  indent : Int
  around : List Int
  mayBeKey : Bool
  possible : Option PossibleKey
  /-- The possible keys around each open bracket, innermost first. -/
  outer : List (Option PossibleKey)

namespace Layout

/-- In front of a text. A byte order mark may open it. -/
def start (cs : List Char) (isCut : Bool) : Layout :=
  let c := Cursor.start cs
  { cursor := if c.here = some '\ufeff' then c.step else c, size := cs.length, isCut := isCut,
    taken := 0, tokens := [], isOver := false, indent := -1, around := [], mayBeKey := true,
    possible := none, outer := [] }

/-- The longest key whose colon is looked for. -/
def keyLimit : Nat := 1024

def inFlow (s : Layout) : Bool := !s.outer.isEmpty

/-- How many tokens have been read. -/
def count (s : Layout) : Nat := s.taken + s.tokens.length

def push (s : Layout) (t : Token) : Layout := { s with tokens := s.tokens ++ [t] }

/-- Puts a token in at an earlier position. -/
def insert (s : Layout) (position : Nat) (t : Token) : Layout :=
  let n := position - s.taken
  { s with tokens := s.tokens.take n ++ t :: s.tokens.drop n }

/-- Takes the next token. -/
def take (s : Layout) : Layout := { s with taken := s.taken + 1, tokens := s.tokens.tail }

/-- Past blanks, comments and line ends. A key may follow a line end outside of brackets. -/
def toToken : (fuel : Nat) → Layout → Layout
  | 0, s => s
  | fuel + 1, s =>
    let c := s.cursor.dropSpaces.dropComment
    match c.lineEnd? with
    | some (_, c) => toToken fuel { s with cursor := c, mayBeKey := s.mayBeKey || !s.inFlow }
    | none => { s with cursor := c }

/-- What is left of a possible key at a place. -/
def fresh (c : Cursor) (k : Option PossibleKey) : Except Fault (Option PossibleKey) :=
  match k with
  | none => .ok none
  | some p =>
    if p.line = c.line ∧ c.index - p.index ≤ keyLimit then .ok k
    else if p.isRequired then .error .malformed
    else .ok none

def dropStale (s : Layout) : Except Fault Layout := do
  let possible ← fresh s.cursor s.possible
  let outer ← s.outer.mapM (fresh s.cursor)
  return { s with possible := possible, outer := outer }

/-- Gives up the possible key of the present depth. -/
def forget (s : Layout) : Except Fault Layout :=
  if s.possible.any (·.isRequired) then .error .malformed else .ok { s with possible := none }

/-- Notes that a key may begin here. -/
def remember (s : Layout) : Except Fault Layout :=
  if s.mayBeKey then do
    let s ← s.forget
    let c := s.cursor
    let isRequired := !s.inFlow && s.indent == c.column
    return { s with possible := some ⟨s.count, isRequired, c.index, c.line, c.column⟩ }
  else .ok s

/-- The columns that stay open at a column, and how many close. -/
def unwound (column : Int) : Int → List Int → Int × List Int × Nat
  | indent, [] => (indent, [], 0)
  | indent, i :: around =>
    if column < indent then
      let (indent, around, n) := unwound column i around
      (indent, around, n + 1)
    else (indent, i :: around, 0)

/-- Closes the blocks deeper than a column. Indentation means nothing inside brackets. -/
def unwind (s : Layout) (column : Int) : Layout :=
  if s.inFlow then s
  else
    let (indent, around, n) := unwound column s.indent s.around
    n.repeat (fun s => s.push .blockEnd) { s with indent := indent, around := around }

/-- Opens a block at a column, if that is deeper than the innermost one. -/
def deepen (s : Layout) (column : Nat) : Option Layout :=
  if s.indent < column then some { s with indent := column, around := s.indent :: s.around }
  else none

def skip (s : Layout) (n : Nat) : Layout := { s with cursor := s.cursor.skip n }

/-- A sign in front of a member or key of a block. -/
def blockSign (s : Layout) (opening sign : Token) : Except Fault Layout := do
  let s ←
    if s.inFlow then pure s
    else if ¬ s.mayBeKey then throw .malformed
    else pure (match s.deepen s.cursor.column with
      | some s => s.push opening
      | none => s)
  let s ← s.forget
  return (s.push sign).skip 1

def entry (s : Layout) : Except Fault Layout := do
  let s ← s.blockSign .listBlock .entry
  return { s with mayBeKey := true }

def key (s : Layout) : Except Fault Layout := do
  let s ← s.blockSign .mappingBlock .key
  return { s with mayBeKey := !s.inFlow }

/-- A colon. If a key may have begun before it, that was one. -/
def value (s : Layout) : Except Fault Layout :=
  match s.possible with
  | some k =>
    let s := { s with possible := none }.insert k.position .key
    let s := if s.inFlow then s else
      match s.deepen k.column with
      | some s => s.insert k.position .mappingBlock
      | none => s
    .ok { (s.push .value).skip 1 with mayBeKey := false }
  | none => do
    let s ← s.blockSign .mappingBlock .value
    return { s with mayBeKey := !s.inFlow }

def openBracket (s : Layout) (t : Token) : Except Fault Layout := do
  let s ← s.remember
  let s := (s.push t).skip 1
  return { s with possible := none, outer := s.possible :: s.outer, mayBeKey := true }

/-- A closing bracket. One that closes nothing is refused. -/
def closeBracket (s : Layout) (t : Token) : Except Fault Layout := do
  let s ← s.forget
  match s.outer with
  | [] => throw .malformed
  | k :: outer =>
    return { (s.push t).skip 1 with possible := k, outer := outer, mayBeKey := false }

def comma (s : Layout) : Except Fault Layout := do
  let s ← s.forget
  return { (s.push .comma).skip 1 with mayBeKey := true }

/-- A line that has the whole document to itself. -/
def lone (s : Layout) : Except Fault Layout := do
  let s ← (s.unwind (-1)).forget
  return { s with mayBeKey := false }

def directive (s : Layout) : Except Fault Layout := do
  let s ← s.lone
  let (d, c) ← Directive.read s.cursor
  return { s.push (.directive d) with cursor := c }

def marker (s : Layout) (t : Token) : Except Fault Layout := do
  let s ← s.lone
  return (s.push t).skip 3

/-- A word that may begin a key. -/
def word (s : Layout) (read : Cursor → Except Fault (Token × Cursor)) : Except Fault Layout := do
  let s ← s.remember
  let (t, c) ← read s.cursor
  return { s.push t with cursor := c, mayBeKey := false }

def plain (s : Layout) : Except Fault Layout := do
  let s ← s.remember
  let (text, c, crossed) := Plain.text s.inFlow (s.indent + 1) s.cursor
  return { s.push (.text text true) with cursor := c, mayBeKey := crossed }

def block (s : Layout) (isFolded : Bool) : Except Fault Layout := do
  let s ← s.forget
  let (text, c) ← Block.text isFolded s.indent s.cursor
  return { s.push (.text text false) with cursor := c, mayBeKey := true }

/-- Whether a character begins something other than a plain text. -/
def isIndicator (c : Char) : Bool :=
  "-?:,[]\x7b\x7d#&*!|>\x27\"%@\x60".toList.contains c

/-- Whether a plain text begins here. -/
def startsPlain (s : Layout) (x : Char) : Bool :=
  (!isGap (some x) && !isIndicator x) ||
    (!isGap (s.cursor.peek 1) && (x == '-' || (!s.inFlow && (x == '?' || x == ':'))))

/-- Reads one token that begins with a character. -/
def read (s : Layout) (x : Char) : Except Fault Layout :=
  let c := s.cursor
  let isSign := s.inFlow || isGap (c.peek 1)
  if c.column = 0 ∧ x = '%' then s.directive
  else if c.column = 0 ∧ isMarker '-' c.rest then s.marker .documentStart
  else if c.column = 0 ∧ isMarker '.' c.rest then s.marker .documentEnd
  else if x = '[' then s.openBracket .openList
  else if x = '\x7b' then s.openBracket .openMapping
  else if x = ']' then s.closeBracket .closeList
  else if x = '\x7d' then s.closeBracket .closeMapping
  else if x = ',' then s.comma
  else if x = '-' ∧ isGap (c.peek 1) then s.entry
  else if x = '?' ∧ isSign then s.key
  else if x = ':' ∧ isSign then s.value
  else if x = '*' then s.word fun c => (anchorName c).map fun (n, c) => (.reference n, c)
  else if x = '&' then s.word fun c => (anchorName c).map fun (n, c) => (.anchor n, c)
  else if x = '!' then s.word fun c => (Tag.read c).map fun (t, c) => (.tag t, c)
  else if x = '|' ∧ ¬ s.inFlow then s.block false
  else if x = '>' ∧ ¬ s.inFlow then s.block true
  else if x = '\x27' ∨ x = '"' then
    s.word fun c => (Quoted.text x c).map fun (t, c) => (.text t false, c)
  else if s.startsPlain x then s.plain
  else .error .malformed

/-- The end of the text closes every block. -/
def finish (s : Layout) : Except Fault Layout := do
  let s ← (s.unwind (-1)).forget
  return { s with mayBeKey := false, possible := none, outer := [], isOver := true }

/-- Reads on by what stands next: a token with the blocks it closes or opens, or the end. -/
def advance (s : Layout) : Except Fault Layout := do
  let s ← (s.toToken (s.size + 1)).dropStale
  let s := s.unwind s.cursor.column
  let s ← match s.cursor.here with
    | some x => s.read x
    | none => s.finish
  if s.isCut ∧ s.cursor.rest.isEmpty then throw .malformed
  return s

/-- Whether no key can begin before the next token any more. -/
def isSettled (s : Layout) : Bool :=
  !(s.possible :: s.outer).any fun k => k.any (·.position == s.taken)

/-- Reads on until the next token is there, and settled. -/
def settle : (fuel : Nat) → Layout → Except Fault Layout
  | 0, s => .ok s
  | fuel + 1, s => do
    if s.isOver then return s
    if s.tokens.isEmpty then settle fuel (← s.advance)
    else
      let s ← s.dropStale
      if s.isSettled then return s else settle fuel (← s.advance)

end Layout
end Yaml
end Choreo
