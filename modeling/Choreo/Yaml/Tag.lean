import Choreo.Text.Numeral
import Choreo.Yaml.Cursor

/-!
Names in documents: anchors, aliases, tags and directives.

A tag is written in full between angle brackets, or with a handle that a directive may give a
meaning. Characters a tag cannot hold are written by their octets.
-/

namespace Choreo
namespace Yaml

/-- A tag as it is written: a handle, unless it is written in full, and what follows it. -/
structure Tag where
  handle : Option String
  suffix : String
  deriving DecidableEq, Repr

/-- A line that says how the document behind it is to be read. -/
inductive Directive where
  | version (major minor : Int)
  | tag (handle expansion : String)
  | other
  deriving DecidableEq, Repr

namespace Tag

/-- Stands in a tag as it is. -/
def isTagChar (c : Char) : Bool :=
  isNameChar c || ";/?:@&=+$,.!~*\x27()[]".toList.contains c

/-- The octets that signs and two digits each spell. -/
def octets : (fuel : Nat) → Cursor → Except Fault (List Nat × Cursor)
  | 0, c => .ok ([], c)
  | fuel + 1, c =>
    if c.here = some '%' then
      match c.peek 1, c.peek 2 with
      | some a, some b =>
        match hexDigit? a, hexDigit? b with
        | some x, some y => do
          let (ns, c) ← octets fuel (c.skip 3)
          return ((x * 16 + y) :: ns, c)
        | _, _ => .error .malformed
      | _, _ => .error .malformed
    else .ok ([], c)

/-- The text octets encode. -/
def decode (ns : List Nat) : Except Fault (List Char) :=
  match String.fromUTF8? ⟨(ns.map UInt8.ofNat).toArray⟩ with
  | some s => .ok s.toList
  | none => .error .malformed

/-- The body of a tag. -/
def body : (fuel : Nat) → Cursor → Except Fault (List Char × Cursor)
  | 0, c => .ok ([], c)
  | fuel + 1, c =>
    match c.here with
    | none => .ok ([], c)
    | some x =>
      if x = '%' then do
        let (ns, c) ← octets c.rest.length c
        let cs ← decode ns
        let (more, c) ← body fuel c
        return (cs ++ more, c)
      else if isTagChar x then do
        let (more, c) ← body fuel c.step
        return (x :: more, c)
      else .ok ([], c)

/-- The body of a tag, which holds something. -/
def uri (c : Cursor) : Except Fault (String × Cursor) := do
  let (cs, d) ← body (c.rest.length + 1) c
  if d.index = c.index then throw .malformed
  return (String.ofList cs, d)

/-- A handle: an exclamation mark, or a name between two of them. -/
def readHandle (c : Cursor) : Except Fault (String × Cursor) :=
  if c.here ≠ some '!' then .error .malformed
  else if c.peek 1 = some ' ' then .ok ("!", c.step)
  else
    let (cs, d) := c.step.take isNameChar
    if d.here = some '!' then .ok ("!" ++ String.ofList cs ++ "!", d.step) else .error .malformed

/-- Whether a handle of two marks stands here: another mark comes before the word ends. -/
def hasHandle (c : Cursor) : Bool :=
  (c.rest.drop 1).takeWhile (fun x => !isSpaceOrEnd (some x)) |>.contains '!'

/-- A tag from its mark on. -/
def read (c : Cursor) : Except Fault (Tag × Cursor) := do
  let (tag, c) ←
    if c.peek 1 = some '<' then do
      let (s, c) ← uri (c.skip 2)
      if c.here ≠ some '>' then throw .malformed
      pure (Tag.mk none s, c.step)
    else if isGap (c.peek 1) then pure (Tag.mk none "!", c.step)
    else do
      let (h, c) ← if hasHandle c then readHandle c else pure ("!", c.step)
      let (s, c) ← uri c
      pure (Tag.mk (some h) s, c)
  if isSpaceOrEnd c.here then return (tag, c) else throw .malformed

/-- What a tag stands for under the meanings of handles. A lone mark stays what it is. -/
def resolve (t : Tag) (handles : List (String × String)) : Except Fault String :=
  match t.handle with
  | none => .ok t.suffix
  | some h =>
    match handles.lookup h with
    | some s => .ok (s ++ t.suffix)
    | none => .error .malformed

end Tag

/-- The name of an anchor or an alias, behind its sign. -/
def anchorName (c : Cursor) : Except Fault (String × Cursor) :=
  let (cs, c) := c.step.take isNameChar
  if cs.isEmpty then .error .malformed
  else if isGap c.here ∨ c.holds fun x => "?:,]\x7d%@\x60".toList.contains x then
    .ok (String.ofList cs, c)
  else .error .malformed

namespace Directive

def number (c : Cursor) : Except Fault (Int × Cursor) :=
  let (cs, c) := c.take Char.isDigit
  if cs.isEmpty then .error .malformed
  else (Text.readWhole 10 cs).mapError .number |>.map fun n => (n, c)

/-- A directive from its sign to the end of its line. -/
def read (c : Cursor) : Except Fault (Directive × Cursor) := do
  let (name, c) := c.step.take isNameChar
  if name.isEmpty ∨ ¬ isSpaceOrEnd c.here then throw .malformed
  let (d, c) ←
    if name = ['Y', 'A', 'M', 'L'] then do
      let (major, c) ← number c.dropSpaces
      if c.here ≠ some '.' then throw .malformed
      let (minor, c) ← number c.step
      if ¬ isSpaceOrEnd c.here then throw .malformed
      pure (version major minor, c)
    else if name = ['T', 'A', 'G'] then do
      let (h, c) ← Tag.readHandle c.dropSpaces
      if c.here ≠ some ' ' then throw .malformed
      let (s, c) ← Tag.uri c.dropSpaces
      if ¬ isSpaceOrEnd c.here then throw .malformed
      pure (tag h s, c)
    else pure (other, c.drop fun x => !isBreak x)
  return (d, ← c.finishLine)

end Directive
end Yaml
end Choreo
