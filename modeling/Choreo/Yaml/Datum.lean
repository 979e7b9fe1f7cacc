import Choreo.Number.Quantity
import Choreo.Text.Quoted
import Choreo.Yaml.Fault

/-!
What a document says: values of a few kinds, lists and mappings.

Collections have numbers, for one that is named may be met in several places, and within itself. A
mapping keeps the order in which its keys first came. Keys are single values; numbers are the same
key when they are worth the same, and a flag counts as nought or one.
-/

namespace Choreo
namespace Yaml

/-- A single value. -/
inductive Atom (α : Type) where
  | null
  | flag (b : Bool)
  | number (q : Quantity α)
  /-- Not a number. It has the number of the place where it stands, unless it is spelled as what it
  is. -/
  | nan (place : Option Nat)
  | text (s : String)
  | bytes (octets : List Nat)
  | day (d : Day)
  | moment (d : Day) (c : Clock)
  /-- Two values that are a key together. -/
  | pair (first second : Atom α)

namespace Atom
variable {α : Type} [Scalar α]

/-- What a value is worth as a number. -/
def worth? : Atom α → Option Exact
  | flag b => some (Exact.ofRat (if b then 1 else 0))
  | number q => some q.exact
  | _ => none

/-- A value as it stands in a place. -/
def standingAt (place : Nat) (a : Atom α) : Atom α :=
  match a with
  | number q => if q.exact = .nan then nan (some place) else number q
  | a => a

/-- A value as a number. -/
def quantity? : Atom α → Option (Quantity α)
  | number q => some q
  | nan _ => some (.real (Scalar.ofReading .nan))
  | _ => none

/-- Whether two values that are no pairs are the same key. What is not a number is the same only in
one place. -/
def sameSingle (a b : Atom α) : Bool :=
  match a.worth?, b.worth? with
  | some x, some y =>
    match x.value?, y.value? with
    | some p, some q => p == q
    | _, _ => decide (x = y)
  | none, none =>
    match a, b with
    | null, null => true
    | nan p, nan q => decide (p = q)
    | text s, text t => s == t
    | bytes s, bytes t => s == t
    | day s, day t => decide (s = t)
    | moment s c, moment t d => Clock.isSame s c t d
    | _, _ => false
  | _, _ => false

/-- Whether two values are the same key. -/
def same : Atom α → Atom α → Bool
  | pair a b, pair c d => same a c && same b d
  | a, b => a.sameSingle b

/-- Whether a value counts as something. -/
def isTruthy (a : Atom α) : Bool :=
  match a.worth? with
  | some x => decide (x.value? ≠ some 0)
  | none =>
    match a with
    | null => false
    | text s => s != ""
    | bytes s => !s.isEmpty
    | _ => true

/-- An octet inside the given quotes. -/
def escapedOctet (quote : Char) (n : Nat) : List Char :=
  let c := Char.ofNat n
  if c = quote ∨ c = '\\' then ['\\', c]
  else if c = '\n' then ['\\', 'n']
  else if c = '\r' then ['\\', 'r']
  else if c = '\t' then ['\\', 't']
  else if 0x20 ≤ n ∧ n < 0x7f then [c]
  else '\\' :: 'x' :: Text.hexDigits 2 n

/-- Octets in quotes, with a letter in front that tells them from a text. -/
def quotedOctets (ns : List Nat) : String :=
  let q := Text.quoteFor (ns.map Char.ofNat)
  String.ofList ('b' :: q :: ns.flatMap (escapedOctet q) ++ [q])

/-- How a value is shown inside messages. -/
def shown : Atom α → Except NumberFault String
  | null => .ok "None"
  | flag b => .ok (if b then "True" else "False")
  | number q => q.text
  | nan _ => .ok "nan"
  | text s => .ok (Text.quoted s)
  | bytes ns => .ok (quotedOctets ns)
  | day d => .ok d.expression
  | moment d c => .ok (c.expression d)
  | pair a b => do return "(" ++ (← shown a) ++ ", " ++ (← shown b) ++ ")"

/-- A value as a text of its own. -/
def plain : Atom α → Except NumberFault String
  | text s => .ok s
  | day d => .ok d.text
  | moment d c => .ok (d.text ++ " " ++ c.text)
  | a => a.shown

end Atom

/-- What a document says in a place. -/
inductive Datum (α : Type) where
  | atom (a : Atom α)
  | pair (first second : Datum α)
  /-- The collection of a number. -/
  | collection (n : Nat)

inductive Collection (α : Type) where
  | list (items : List (Datum α))
  | mapping (entries : List (Atom α × Datum α))
  | set (members : List (Atom α))

/-- All that a document says: its collections by their numbers, and the datum that is the whole. -/
structure Contents (α : Type) where
  collections : Array (Option (Collection α))
  whole : Datum α

/-! ## Entries -/

namespace Entries
variable {α : Type} [Scalar α]

/-- Puts a datum under a key. A key that is there stays as it is, in its place. -/
def put (key : Atom α) (d : Datum α) : List (Atom α × Datum α) → List (Atom α × Datum α)
  | [] => [(key, d)]
  | (k, x) :: rest => if k.same key then (k, d) :: rest else (k, x) :: put key d rest

def ofPairs (pairs : List (Atom α × Datum α)) : List (Atom α × Datum α) :=
  pairs.foldl (fun entries (k, d) => put k d entries) []

/-- What stands under a name. -/
def get? (name : String) (entries : List (Atom α × Datum α)) : Option (Datum α) :=
  (entries.find? fun (k, _) => k.same (.text name)).map (·.2)

end Entries

namespace Datum
variable {α : Type}

def null : Datum α := .atom .null

def text (s : String) : Datum α := .atom (.text s)

/-- A datum as a key. Collections are no keys, nor what holds one. -/
def key? : Datum α → Option (Atom α)
  | atom a => some a
  | pair a b => do return .pair (← key? a) (← key? b)
  | collection _ => none

end Datum

namespace Contents
variable {α : Type} [Scalar α]

/-- The contents of a document that says one thing, and has no collections. -/
def single (a : Atom α) : Contents α := ⟨#[], .atom a⟩

/-- The collection of a number. There is one for every number a datum mentions. -/
def collection (c : Contents α) (n : Nat) : Collection α :=
  ((c.collections[n]?).getD none).getD (.list [])

/-- The entries of a datum that is a mapping. -/
def entries? (c : Contents α) : Datum α → Option (List (Atom α × Datum α))
  | .collection n =>
    match c.collection n with
    | .mapping entries => some entries
    | _ => none
  | _ => none

/-- Whether a datum counts as something: nought, the empty text and empty collections do not. -/
def isTruthy (c : Contents α) : Datum α → Bool
  | .atom a => a.isTruthy
  | .pair _ _ => true
  | .collection n =>
    match c.collection n with
    | .list items => !items.isEmpty
    | .mapping entries => !entries.isEmpty
    | .set members => !members.isEmpty

/-! ## Shown texts -/

def bracketed (opening closing : String) (parts : List String) : String :=
  opening ++ ", ".intercalate parts ++ closing

/-- How many data around each other can be shown. -/
def shownLimit : Nat := 985

/-- How a value is shown inside a datum. -/
def shownAtom (a : Atom α) : Except Fault String := a.shown.mapError .number

/-- How a datum is shown that stands inside some collections. A collection inside itself is not
shown again. -/
def shownWithin (c : Contents α) : (depth : Nat) → (around : List Nat) → Datum α →
    Except Fault String
  | 0, _, _ => .error .tooDeep
  | _ + 1, _, .atom a => shownAtom a
  | depth + 1, around, .pair a b => do
    let first ← shownWithin c depth around a
    return bracketed "(" ")" [first, ← shownWithin c depth around b]
  | depth + 1, around, .collection n =>
    let isInside := around.contains n
    match c.collection n with
    | .list items =>
      if isInside then .ok "[...]"
      else do return bracketed "[" "]" (← items.mapM (shownWithin c depth (n :: around)))
    | .mapping entries =>
      if isInside then .ok "\x7b...\x7d"
      else do
        let parts ← entries.mapM fun (k, d) => do
          let key ← shownAtom k
          return key ++ ": " ++ (← shownWithin c depth (n :: around) d)
        return bracketed "\x7b" "\x7d" parts
    | .set [] => .ok "set()"
    | .set members => do return bracketed "\x7b" "\x7d" (← members.mapM shownAtom)

/-- How a datum is shown inside messages. -/
def shown (c : Contents α) (d : Datum α) : Except Fault String := c.shownWithin shownLimit [] d

/-- A datum as a text of its own. -/
def plain (c : Contents α) : Datum α → Except Fault String
  | .atom a => a.plain.mapError .number
  | d => c.shownWithin (shownLimit - 1) [] d

end Contents
end Yaml
end Choreo
