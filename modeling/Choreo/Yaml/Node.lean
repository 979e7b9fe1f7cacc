import Choreo.Yaml.Kind
import Choreo.Yaml.Token

/-!
The nodes of a document: texts, lists and mappings with their kinds, and names resolved.

Each node knows its kind, from its tag or from how it is spelled. Nodes have numbers, and an alias
stands for the number of the node that was named before it; that may be one that is still open.
-/

namespace Choreo
namespace Yaml

/-- A node. Its parts are given by their numbers. -/
inductive Node where
  | text (kind : Kind) (s : String)
  | list (kind : Kind) (items : List Nat)
  | mapping (kind : Kind) (pairs : List (Nat × Nat))

/-- The nodes of a document by their numbers. -/
abbrev Graph := Array Node

namespace Node

/-- A node that is left out. -/
def empty : Node := .text .null ""

/-- In how many lists and mappings a node may stand. -/
def depthLimit : Nat := 486

/-- What is still to be read, the nodes so far, and the numbers of those that have names. -/
structure Source where
  layout : Layout
  nodes : Graph
  named : List (String × Nat)

abbrev Reader := StateT Source (Except Fault)

namespace Reader

/-- The next token, if the text has not ended. -/
def next? : Reader (Option Token) := do
  let s ← get
  let layout ← s.layout.settle (s.layout.size + 2)
  set { s with layout := layout }
  return layout.tokens.head?

def skip : Reader Unit := modify fun s => { s with layout := s.layout.take }

/-- Skips a token if it comes next, and says whether it did. -/
def accept (t : Token) : Reader Bool := do
  if (← next?) = some t then
    skip
    return true
  else return false

def expect (t : Token) : Reader Unit := do
  if ¬ (← accept t) then throw .malformed

/-- Whether the next token is one of these, or none is left. -/
def isBefore (ts : List Token) : Reader Bool := do
  match ← next? with
  | some t => return ts.contains t
  | none => return true

/-- Adds a node and gives its number. -/
def add (n : Node) : Reader Nat :=
  modifyGet fun s => (s.nodes.size, { s with nodes := s.nodes.push n })

/-- Puts a node in the place of one that was added before. -/
def fill (number : Nat) (n : Node) : Reader Unit :=
  modify fun s => { s with nodes := s.nodes.setIfInBounds number n }

end Reader

/-- What is said in front of a node. -/
structure Properties where
  anchor : Option String
  tag : Option String

namespace Properties

def bare : Properties := ⟨none, none⟩

def isBare (p : Properties) : Bool := p.anchor.isNone && p.tag.isNone

/-- The kind of a node by its tag, if it has one that says more than a lone mark. -/
def kind? (p : Properties) : Option Kind :=
  match p.tag with
  | some t => if t = "!" then none else some (Kind.ofTag t)
  | none => none

def kindOfText (p : Properties) (s : String) (isPlain : Bool) : Kind :=
  match p.kind? with
  | some k => k
  | none => if isPlain || p.tag.isSome then Kind.ofSpelling s else .text

/-- Reads an anchor and a tag, in any order. What the tag stands for is asked for afterwards. -/
def read (handles : List (String × String)) : Reader Properties := do
  let anchor? : Reader (Option String) := do
    match ← Reader.next? with
    | some (.anchor n) => Reader.skip; return some n
    | _ => return none
  let tag? : Reader (Option Tag) := do
    match ← Reader.next? with
    | some (.tag t) => Reader.skip; return some t
    | _ => return none
  let (anchor, tag) ← match ← anchor? with
    | some a => do pure (some a, ← tag?)
    | none => do
      match ← tag? with
      | some t => do pure (← anchor?, some t)
      | none => pure (none, none)
  return ⟨anchor, ← tag.mapM (·.resolve handles)⟩

end Properties

/-- Gives a node its name. -/
def name (p : Properties) (number : Nat) : Reader Unit :=
  match p.anchor with
  | some a => modify fun s => { s with named := (a, number) :: s.named }
  | none => pure ()

/-- What an alias stands for. -/
def named (a : String) : Reader Nat := do
  match (← get).named.lookup a with
  | some number => return number
  | none => throw .malformed

/-- Each name is given once. -/
def checkName (p : Properties) : Reader Unit := do
  if p.anchor.any ((← get).named.any fun x => x.1 == ·) then throw .malformed

/-- A text behind its properties. -/
def single (p : Properties) (s : String) (isPlain : Bool) : Reader Nat := do
  checkName p
  let number ← Reader.add (.text (p.kindOfText s isPlain) s)
  name p number
  return number

/-- A node that is left out behind its properties. It has to have some. -/
def leftOut (p : Properties) : Reader Nat :=
  if p.isBare then throw .malformed else single p "" true

/-- A list or mapping. Its name stands for it inside it too. -/
def nested {β : Type} (p : Properties) (make : List β → Node) (parts : Reader (List β)) :
    Reader Nat := do
  checkName p
  let number ← Reader.add (make [])
  name p number
  Reader.fill number (make (← parts))
  return number

mutual

/-- A node that stands in some lists and mappings. Blocks are read only where they are allowed, and
members without indentation only as the value or key of a block. -/
def read (handles : List (String × String)) (inBlock isFlat : Bool) :
    (fuel depth : Nat) → Reader Nat
  | 0, _ => throw .malformed
  | fuel + 1, depth => do
    if depthLimit < depth then throw .tooDeep
    match ← Reader.next? with
    | some (.reference a) =>
      Reader.skip
      named a
    | _ => content handles inBlock isFlat (← Properties.read handles) fuel depth
termination_by structural fuel _ => fuel

/-- A node behind its properties. -/
def content (handles : List (String × String)) (inBlock isFlat : Bool) (p : Properties) :
    (fuel depth : Nat) → Reader Nat
  | 0, _ => throw .malformed
  | fuel + 1, depth => do
    let list := nested p (Node.list (p.kind?.getD .list))
    let mapping := nested p (Node.mapping (p.kind?.getD .mapping))
    match ← Reader.next? with
    | some (.text s isPlain) =>
      Reader.skip
      single p s isPlain
    | some .openList =>
      Reader.skip
      list (listItems handles true fuel (depth + 1))
    | some .openMapping =>
      Reader.skip
      mapping (mappingPairs handles true fuel (depth + 1))
    | some .entry =>
      if isFlat then list (flatItems handles fuel (depth + 1)) else leftOut p
    | some .listBlock =>
      if inBlock then
        Reader.skip
        list (blockItems handles fuel (depth + 1))
      else leftOut p
    | some .mappingBlock =>
      if inBlock then
        Reader.skip
        mapping (blockPairs handles fuel (depth + 1))
      else leftOut p
    | _ => leftOut p
termination_by structural fuel _ => fuel

/-- A node, unless one of these comes next: then it is left out. -/
def readUnless (handles : List (String × String)) (ends : List Token) (inBlock isFlat : Bool) :
    (fuel depth : Nat) → Reader Nat
  | 0, _ => throw .malformed
  | fuel + 1, depth => do
    if ← Reader.isBefore ends then Reader.add empty else read handles inBlock isFlat fuel depth
termination_by structural fuel _ => fuel

/-- The members of an indented list. -/
def blockItems (handles : List (String × String)) : (fuel depth : Nat) → Reader (List Nat)
  | 0, _ => throw .malformed
  | fuel + 1, depth => do
    if ← Reader.accept .entry then
      let n ← readUnless handles [.entry, .blockEnd] true false fuel depth
      return n :: (← blockItems handles fuel depth)
    else
      Reader.expect .blockEnd
      return []
termination_by structural fuel _ => fuel

/-- The members of a list that is not indented. It ends where no dash follows. -/
def flatItems (handles : List (String × String)) : (fuel depth : Nat) → Reader (List Nat)
  | 0, _ => throw .malformed
  | fuel + 1, depth => do
    if ← Reader.accept .entry then
      let n ← readUnless handles [.entry, .key, .value, .blockEnd] true false fuel depth
      return n :: (← flatItems handles fuel depth)
    else return []
termination_by structural fuel _ => fuel

/-- The pairs of an indented mapping. -/
def blockPairs (handles : List (String × String)) :
    (fuel depth : Nat) → Reader (List (Nat × Nat))
  | 0, _ => throw .malformed
  | fuel + 1, depth => do
    let ends := [Token.key, .value, .blockEnd]
    if ← Reader.accept .key then
      let k ← readUnless handles ends true true fuel depth
      if ← Reader.accept .value then
        let v ← readUnless handles ends true true fuel depth
        return (k, v) :: (← blockPairs handles fuel depth)
      else return (k, ← Reader.add empty) :: (← blockPairs handles fuel depth)
    else
      Reader.expect .blockEnd
      return []
termination_by structural fuel _ => fuel

/-- The members of a list in brackets, divided by commas. A member may be a single pair. -/
def listItems (handles : List (String × String)) (isFirst : Bool) : (fuel depth : Nat) →
    Reader (List Nat)
  | 0, _ => throw .malformed
  | fuel + 1, depth => do
    if ← Reader.accept .closeList then return []
    if ¬ isFirst then Reader.expect .comma
    if ← Reader.accept .key then
      let pair := onePair handles [.comma, .closeList] fuel (depth + 1)
      let n ← nested .bare (Node.mapping .mapping) ((fun p => [p]) <$> pair)
      return n :: (← listItems handles false fuel depth)
    else if ← Reader.accept .closeList then return []
    else
      let n ← read handles false false fuel depth
      return n :: (← listItems handles false fuel depth)
termination_by structural fuel _ => fuel

/-- The pairs of a mapping in brackets, divided by commas. A key may stand alone. -/
def mappingPairs (handles : List (String × String)) (isFirst : Bool) : (fuel depth : Nat) →
    Reader (List (Nat × Nat))
  | 0, _ => throw .malformed
  | fuel + 1, depth => do
    if ← Reader.accept .closeMapping then return []
    if ¬ isFirst then Reader.expect .comma
    if ← Reader.accept .key then
      let pair ← onePair handles [.comma, .closeMapping] fuel depth
      return pair :: (← mappingPairs handles false fuel depth)
    else if ← Reader.accept .closeMapping then return []
    else
      let k ← read handles false false fuel depth
      return (k, ← Reader.add empty) :: (← mappingPairs handles false fuel depth)
termination_by structural fuel _ => fuel

/-- A key in brackets and what follows its colon. -/
def onePair (handles : List (String × String)) (ends : List Token) : (fuel depth : Nat) →
    Reader (Nat × Nat)
  | 0, _ => throw .malformed
  | fuel + 1, depth => do
    let k ← readUnless handles (.value :: ends) false false fuel depth
    if ← Reader.accept .value then return (k, ← readUnless handles ends false false fuel depth)
    else return (k, ← Reader.add empty)
termination_by structural fuel _ => fuel

end

/-! ## Documents -/

/-- What the handles of tags mean without directives. -/
def usualHandles : List (String × String) := [("!", "!"), ("!!", Kind.standard)]

/-- The directives in front of a document, and the meanings they give. A handle has one meaning and
a document one version, which starts with one. -/
def directives (versioned : Bool) (handles : List (String × String)) :
    (fuel : Nat) → Reader (List (String × String))
  | 0 => throw .malformed
  | fuel + 1 => do
    match ← Reader.next? with
    | some (.directive d) =>
      Reader.skip
      match d with
      | .version major _ =>
        if versioned ∨ major ≠ 1 then throw .malformed
        directives true handles fuel
      | .tag h s =>
        if (handles.lookup h).isSome then throw .malformed
        directives versioned ((h, s) :: handles) fuel
      | .other => directives versioned handles fuel
    | _ => return handles ++ usualHandles

/-- A document that says where it starts. It may be empty. -/
def explicit (fuel : Nat) : Reader Nat := do
  let handles ← directives false [] fuel
  Reader.expect .documentStart
  match ← Reader.next? with
  | none | some (.directive _) | some .documentStart | some .documentEnd => Reader.add empty
  | _ => read handles true false fuel 0

/-- Past the marks behind a document. -/
def skipEnds : (fuel : Nat) → Reader Unit
  | 0 => return
  | fuel + 1 => do if ← Reader.accept .documentEnd then skipEnds fuel

/-- The node of the document, if there is one. There may be no second document. -/
def only (fuel : Nat) : Reader (Option Nat) := do
  let number ← match ← Reader.next? with
    | none => return none
    | some (.directive _) | some .documentStart => explicit fuel
    | _ => read usualHandles true false fuel 0
  skipEnds fuel
  if (← Reader.next?).isSome then
    let _ ← directives false [] fuel
    throw .malformed
  return some number

/-- The nodes of a document, and the number of the one that is the whole, if it says anything. -/
def ofLayout (s : Layout) : Except Fault (Graph × Option Nat) := do
  let (number, s) ← (only (32 * (s.size + 1))).run ⟨s, #[], []⟩
  return (s.nodes, number)

end Node
end Yaml
end Choreo
