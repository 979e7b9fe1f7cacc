import Choreo.Text.Line
import Choreo.Yaml.Literal
import Choreo.Yaml.Members
import Choreo.Yaml.Node

/-!
The contents of a document.

Texts become values by their kind, lists and mappings are filled. Mappings may take in others under
a key of its own; what they say themselves goes before what they take in. Keys are single values.

A collection is made when it is first met, and once only; it is filled in the round after that. So
a collection may stand inside itself, and of two faults the one met in the earlier round is
reported, and within a round the first in the text.
-/

namespace Choreo
namespace Yaml

namespace Kind

/-- Whether a kind is that of a single value. -/
def isSingle : Kind → Bool
  | .null | .flag | .whole | .real | .moment | .bytes | .text => true
  | _ => false

/-- Whether a kind is that of a collection. -/
def isCollection : Kind → Bool
  | .list | .mapping | .set | .pairs => true
  | _ => false

end Kind

namespace Node

def kind : Node → Kind
  | text k _ => k
  | list k _ => k
  | mapping k _ => k

def withKind (k : Kind) : Node → Node
  | text _ s => text k s
  | list _ items => list k items
  | mapping _ pairs => mapping k pairs

/-- The pairs of a node, if it is a mapping. -/
def pairs? : Node → Option (List (Nat × Nat))
  | mapping _ pairs => some pairs
  | _ => none

end Node

/-- The nodes of a document, and what has been made of them. -/
structure Filling (α : Type) where
  nodes : Graph
  /-- The collections that have been met, empty until they are filled. -/
  collections : Array (Option (Collection α))
  /-- Those that have been met in the present round, the last of them first. -/
  waiting : List Nat

namespace Filling

/-- How many mappings in a row may take in each other. -/
def mergeLimit : Nat := 979

/-- How many mappings in a row may be worth what they hold under the default key. -/
def worthLimit : Nat := 978

/-- A step in the making of contents. -/
abbrev Filler (α β : Type) := StateT (Filling α) (Except Fault) β

variable {α : Type} [Scalar α]

def node (n : Nat) : Filler α Node := do return ((← get).nodes[n]?).getD .empty

def setNode (n : Nat) (x : Node) : Filler α Unit :=
  modify fun s => { s with nodes := s.nodes.setIfInBounds n x }

def pairsOf (n : Nat) : Filler α (List (Nat × Nat)) := do return (← node n).pairs?.getD []

def setPairs (n : Nat) (pairs : List (Nat × Nat)) : Filler α Unit := do
  setNode n (.mapping (← node n).kind pairs)

/-! ## Texts -/

/-- What a node is worth as a text. A mapping is worth what it holds under the default key. -/
def worth : (fuel : Nat) → Nat → Filler α String
  | 0, _ => throw .tooDeep
  | fuel + 1, n => do
    match ← node n with
    | .text _ s => return s
    | .list _ _ => throw .malformed
    | .mapping _ pairs =>
      match ← pairs.findM? fun (k, _) => do return (← node k).kind = .default with
      | some (_, v) => worth fuel v
      | none => throw .malformed

/-- The single value a node stands for. -/
def single (n : Nat) : Filler α (Atom α) := do
  let x ← node n
  if ¬ x.kind.isSingle then throw .malformed
  let s ← worth worthLimit n
  if x.kind = .moment ∧ x.pairs?.isSome then throw .notText
  return (← Literal.read x.kind s).standingAt n

/-! ## Collections -/

/-- Notes that a collection is met, unless it has been before. -/
def meet (n : Nat) : Filler α Unit :=
  modify fun s =>
    if ((s.collections[n]?).getD none).isSome then s
    else
      { s with
        collections := s.collections.setIfInBounds n (some (.list []))
        waiting := n :: s.waiting }

/-- The datum a node stands for. -/
def datum (n : Nat) : Filler α (Datum α) := do
  if (← node n).kind.isCollection then
    meet n
    return .collection n
  else return .atom (← single n)

/-- The key a node stands for, which has to be a single value. -/
def key (n : Nat) : Filler α (Atom α) := do
  match ← datum n with
  | .atom a => return a
  | _ => throw .malformed

/-- The pair that is all of a mapping. -/
def onlyPair (n : Nat) : Filler α (Datum α) := do
  match (← node n).pairs? with
  | some [(k, v)] => return .pair (← datum k) (← datum v)
  | _ => throw .malformed

/-- The pairs a node gives to a mapping that takes it in. Of several mappings the first goes before
the others, so it comes last. -/
def given (takeIn : Nat → Filler α Unit) (n : Nat) : Filler α (List (Nat × Nat)) := do
  let give := fun (n : Nat) => do
    if (← node n).pairs?.isNone then throw Fault.malformed
    takeIn n
    pairsOf n
  match ← node n with
  | .list _ items => return (← items.mapM give).reverse.flatten
  | _ => give n

/-- Takes the pairs out of a mapping that say what it takes in, and gives what that is. A default
key that is passed on the way is a text from then on. -/
def takenFrom (takeIn : Nat → Filler α Unit) (n : Nat) :
    (steps index : Nat) → Filler α (List (Nat × Nat))
  | 0, _ => return []
  | steps + 1, index => do
    let pairs ← pairsOf n
    match pairs[index]? with
    | none => return []
    | some (k, v) =>
      let x ← node k
      if x.kind = .merge then
        setPairs n (pairs.eraseIdx index)
        return (← given takeIn v) ++ (← takenFrom takeIn n steps index)
      else
        if x.kind = .default then setNode k (x.withKind .text)
        takenFrom takeIn n steps (index + 1)

/-- Puts what a mapping takes in before what it says itself. -/
def takeIn : (fuel : Nat) → Nat → Filler α Unit
  | 0, _ => throw .tooDeep
  | fuel + 1, n => do
    let others ← takenFrom (takeIn fuel) n (← pairsOf n).length 0
    setPairs n (others ++ (← pairsOf n))

/-- The entries of a mapping. -/
def entries (n : Nat) : Filler α (List (Atom α × Datum α)) := do
  takeIn mergeLimit n
  let pairs ← (← pairsOf n).mapM fun (k, v) => do
    let k ← key k
    return (k, ← datum v)
  return Entries.ofPairs pairs

/-- What a node of a collection's kind holds. It has to fit its kind. -/
def held (x : Node) (n : Nat) : Filler α (Collection α) := do
  match x.kind, x with
  | .list, .list _ items => return .list (← items.mapM datum)
  | .pairs, .list _ items => return .list (← items.mapM onlyPair)
  | .mapping, .mapping _ _ => return .mapping (← entries n)
  | .set, .mapping _ _ => return .set (Members.ordered ((← entries n).map (·.1)))
  | _, _ => throw .malformed

def fill (n : Nat) : Filler α Unit := do
  let c ← held (← node n) n
  modify fun s => { s with collections := s.collections.setIfInBounds n (some c) }

/-- Fills the collections that have been met, and those that are met on the way. -/
def rounds : (fuel : Nat) → Filler α Unit
  | 0 => return
  | fuel + 1 => do
    let met := (← get).waiting.reverse
    if met.isEmpty then return
    modify fun s => { s with waiting := [] }
    met.forM fill
    rounds fuel

end Filling

namespace Contents
variable {α : Type} [Scalar α]

/-- What a node stands for, with all that it holds. No more rounds are needed than there are
nodes. -/
def ofGraph (nodes : Graph) (whole : Nat) : Except Fault (Contents α) := do
  let make : Filling.Filler α (Datum α) := do
    let d ← Filling.datum whole
    Filling.rounds nodes.size
    return d
  let (d, s) ← make.run ⟨nodes, Array.replicate nodes.size none, []⟩
  return ⟨s.collections, d⟩

/-- Whether documents may hold a character. -/
def isAllowed (c : Char) : Bool :=
  c == '\t' || c == '\n' || c == '\r' || c == '\x85' ||
    (' ' ≤ c && c ≤ '~') || ('\xa0' ≤ c && c ≠ '\ufffe' && c ≠ '\uffff')

/-- How much of a text is looked through at once at its beginning, and further on. -/
def firstPiece : Nat := 8192

def laterPiece : Nat := 4096

/-- A text up to the piece that holds a character no document may hold, and whether there is one.
That piece is refused when it is reached. -/
def allowedPart (cs : List Char) : List Char × Bool :=
  let n := (cs.takeWhile isAllowed).length
  if n = cs.length then (cs, false)
  else if n < firstPiece then ([], true)
  else (cs.take (n - (n - firstPiece) % laterPiece), true)

/-- What a text says. An empty document says nothing. -/
def ofText (s : String) : Except Fault (Contents α) := do
  let (cs, isCut) := allowedPart (Text.withLineFeeds s.toList)
  match ← Node.ofLayout (.start cs isCut) with
  | (nodes, some whole) => ofGraph nodes whole
  | (_, none) => return single .null

end Contents
end Yaml
end Choreo
