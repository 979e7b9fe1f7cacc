import Choreo.Yaml.Cursor

/-!
Plain texts: runs of characters without quotes.

A colon ends one if a gap follows it, a hash if a gap stands before it. Inside brackets the signs
that divide them end it too. A line end inside it becomes a blank, several become one less.
-/

namespace Choreo
namespace Yaml
namespace Plain

/-- Divides or closes brackets. -/
def isFlowSign (c : Char) : Bool :=
  c == ',' || c == '[' || c == ']' || c == '\x7b' || c == '\x7d'

/-- How many characters stand before the next gap or sign that ends the text. -/
def runLength (inFlow : Bool) : List Char → Nat
  | [] => 0
  | c :: rest =>
    if isGap (some c) then 0
    else if c = ':' ∧ (isGap rest.head? ∨ inFlow ∧ rest.head?.any isFlowSign) then 0
    else if inFlow ∧ (c = '?' ∨ isFlowSign c) then 0
    else runLength inFlow rest + 1

/-- The line ends of empty lines, or nothing where a document ends behind one. -/
def emptyLines : (fuel : Nat) → Cursor → Option (List Char) × Cursor
  | 0, c => (some [], c)
  | fuel + 1, c =>
    if c.here = some ' ' then emptyLines fuel c.step
    else
      match c.lineEnd? with
      | none => (some [], c)
      | some (b, c) =>
        if isAnyMarker c.rest then (none, c)
        else
          let (bs, c) := emptyLines fuel c
          (bs.map (b :: ·), c)

/-- What a line end and the empty lines behind it stand for. -/
def folded (b : Char) (bs : List Char) : List Char :=
  (if b ≠ '\n' then [b] else if bs.isEmpty then [' '] else []) ++ bs

/-- What a gap stands for, the place behind it, and whether it holds a line end. -/
def gap (c : Cursor) : List Char × Cursor × Bool :=
  let (blanks, c) := c.take (· == ' ')
  match c.lineEnd? with
  | none => (blanks, c, false)
  | some (b, c) =>
    if isAnyMarker c.rest then ([], c, true)
    else
      match emptyLines c.rest.length c with
      | (none, c) => ([], c, true)
      | (some bs, c) => (folded b bs, c, true)

/-- A plain text from here on, which has to be indented this far outside of brackets. Gives the
place behind it and whether its last gap holds a line end. -/
def read (inFlow : Bool) (indent : Int) : (fuel : Nat) → (lead : List Char) → Bool → Cursor →
    List Char × Cursor × Bool
  | 0, _, crossed, c => ([], c, crossed)
  | fuel + 1, lead, crossed, c =>
    let n := if c.here = some '#' then 0 else runLength inFlow c.rest
    if n = 0 then ([], c, crossed)
    else
      let run := lead ++ c.rest.take n
      let (g, c, crossed) := gap (c.skip n)
      if g.isEmpty ∨ c.here = some '#' ∨ ¬ inFlow ∧ (c.column : Int) < indent then (run, c, crossed)
      else
        let (more, c, crossed) := read inFlow indent fuel g crossed c
        (run ++ more, c, crossed)

def text (inFlow : Bool) (indent : Int) (c : Cursor) : String × Cursor × Bool :=
  let (cs, c, crossed) := read inFlow indent c.rest.length [] false c
  (String.ofList cs, c, crossed)

end Plain
end Yaml
end Choreo
