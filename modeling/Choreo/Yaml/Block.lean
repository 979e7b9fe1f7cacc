import Choreo.Yaml.Cursor

/-!
Texts in indented lines.

Their lines are kept, or folded into one: a line end between two lines that do not start with a
blank becomes a blank. How far the lines are indented is said or seen from the first of them, and
what becomes of the line ends behind the last one is said by a sign.
-/

namespace Choreo
namespace Yaml
namespace Block

/-- What becomes of the line ends at the end. -/
inductive Ending where
  /-- None is kept. -/
  | strip
  /-- One is kept. -/
  | clip
  /-- All are kept. -/
  | keep
  deriving DecidableEq, Repr

def ending? : Option Char → Option Ending
  | some '-' => some .strip
  | some '+' => some .keep
  | _ => none

/-- A digit from one on. -/
def depth? : Option Char → Option Nat
  | some c => if '1' ≤ c ∧ c ≤ '9' then some (c.toNat - 48) else none
  | none => none

/-- The signs behind the opening one: an ending and a depth, in any order. -/
def signs (c : Cursor) : Except Fault (Ending × Option Nat × Cursor) :=
  let (e, d, c) : Option Ending × Option Nat × Cursor :=
    match ending? c.here, depth? c.here with
    | some e, _ =>
      match depth? (c.peek 1) with
      | some d => (some e, some d, c.skip 2)
      | none => (some e, none, c.step)
    | none, some d =>
      match ending? (c.peek 1) with
      | some e => (some e, some d, c.skip 2)
      | none => (none, some d, c.step)
    | none, none => (none, none, c)
  if isSpaceOrEnd c.here then .ok (e.getD .clip, d, c) else .error .malformed

/-- Empty lines before the first line, and the deepest column seen on them and in front of it. -/
def leadingLines : (fuel : Nat) → (deepest : Nat) → Cursor → List Char × Nat × Cursor
  | 0, deepest, c => ([], deepest, c)
  | fuel + 1, deepest, c =>
    if c.here = some ' ' then
      let c := c.step
      leadingLines fuel (max deepest c.column) c
    else
      match c.lineEnd? with
      | none => ([], deepest, c)
      | some (b, c) =>
        let (bs, deepest, c) := leadingLines fuel deepest c
        (b :: bs, deepest, c)

/-- Up to a column, as far as blanks reach. -/
def indentTo (indent : Nat) (c : Cursor) : Cursor :=
  c.skip ((c.rest.take (indent - c.column)).takeWhile (· == ' ')).length

/-- The line ends of empty lines, and the place where the next line is or is not indented. -/
def emptyLines (indent : Nat) : (fuel : Nat) → Cursor → List Char × Cursor
  | 0, c => ([], c)
  | fuel + 1, c =>
    let c := indentTo indent c
    match c.lineEnd? with
    | none => ([], c)
    | some (b, c) =>
      let (bs, c) := emptyLines indent fuel c
      (b :: bs, c)

def startsBlank (c : Cursor) : Bool := c.holds fun x => x == ' ' || x == '\t'

/-- Whether a line of the text stands here. -/
def isLine (indent : Nat) (c : Cursor) : Bool := c.column == indent && !c.rest.isEmpty

/-- The lines of a text. Gives them joined, the last line end, and those of the empty lines behind
it. `before` are the line ends in front. -/
def lines (isFolded : Bool) (indent : Nat) : (fuel : Nat) → (before : List Char) → Cursor →
    List Char × List Char × List Char × Cursor
  | 0, before, c => ([], [], before, c)
  | fuel + 1, before, c =>
    let blank := startsBlank c
    let (cs, c) := c.take fun x => !isBreak x
    let (stop, c) : List Char × Cursor := match c.lineEnd? with
      | some (b, c) => ([b], c)
      | none => ([], c)
    let (after, c) := emptyLines indent (c.rest.length + 1) c
    if isLine indent c then
      let joint := if isFolded ∧ stop = ['\n'] ∧ ¬ blank ∧ ¬ startsBlank c then
          (if after.isEmpty then [' '] else [])
        else stop
      let (more, stop, after, c) := lines isFolded indent fuel after c
      (before ++ cs ++ joint ++ more, stop, after, c)
    else (before ++ cs, stop, after, c)

/-- A text from its opening sign on, in a block indented this far. -/
def text (isFolded : Bool) (indent : Int) (c : Cursor) : Except Fault (String × Cursor) := do
  let (ending, depth, c) ← signs c.step
  let c ← c.finishLine
  let least := max (indent + 1).toNat 1
  let (before, indent, c) := match depth with
    | none =>
      let (before, deepest, c) := leadingLines (c.rest.length + 1) 0 c
      (before, max least deepest, c)
    | some d =>
      let indent := least + d - 1
      let (before, c) := emptyLines indent (c.rest.length + 1) c
      (before, indent, c)
  let (cs, stop, after, c) := if isLine indent c then
      lines isFolded indent (c.rest.length + 1) before c
    else ([], [], before, c)
  let tail := match ending with
    | .strip => []
    | .clip => stop
    | .keep => stop ++ after
  return (String.ofList (cs ++ tail), c)

end Block
end Yaml
end Choreo
