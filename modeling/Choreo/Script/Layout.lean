import Choreo.Script.Lexeme
import Choreo.Text.Half
import Choreo.Text.Line

/-!
The layout of a script: logical lines and their indentation.

Blank lines and comments mean nothing. Inside brackets, and behind a backslash, a line goes on. The
indentation of a line is counted twice, with wide tabs and with narrow ones; both counts have to
agree about which line is deeper.
-/

namespace Choreo
namespace Script

/-- How far a line is indented, with tabs up to the next multiple of eight and with tabs of one. -/
structure Column where
  wide : Nat
  narrow : Nat
  deriving DecidableEq, Repr

namespace Layout

/-- Deepest nesting of blocks. -/
def blockLimit : Nat := 99

/-- Deepest nesting of brackets. -/
def bracketLimit : Nat := 200

/-- The lines of a text. The last line has an end; one that ends in a carriage return and a line
feed is followed by an empty one. -/
def lines (cs : List Char) : List Char :=
  let ls := Text.withLineFeeds cs
  if ls.getLast? = some '\n' ∧ ¬ ['\n', '\r'].isPrefixOf cs.reverse then ls else ls ++ ['\n']

def isGap (c : Char) : Bool := c == ' ' || c == '\t' || c == '\x0c'

/-- A backslash joins a line to the next one. It has to end its line, and a line has to follow. -/
def joined? : List Char → Option (List Char)
  | '\n' :: c :: rest => some (c :: rest)
  | _ => none

/-- The indentation in front of a line, and the rest of the line. A form feed starts over. What
stands in front of the first backslash counts, if it is anything. -/
def indentation (column : Column) (fixed : Option Column) : List Char →
    Option (Column × List Char)
  | ' ' :: rest => indentation ⟨column.wide + 1, column.narrow + 1⟩ fixed rest
  | '\t' :: rest => indentation ⟨(column.wide / 8 + 1) * 8, column.narrow + 1⟩ fixed rest
  | '\x0c' :: rest => indentation ⟨0, 0⟩ fixed rest
  | '\\' :: '\n' :: rest =>
    if rest.isEmpty then none
    else
      let fixed := match fixed with
        | some c => some c
        | none => if column.wide = 0 then none else some ⟨column.wide, column.wide⟩
      indentation column fixed rest
  | '\\' :: _ => none
  | cs => some (fixed.getD column, cs)

/-- The blocks a line closes: those that are deeper. -/
def closeBlocks (wide : Nat) : List Column → Nat × List Column
  | [] => (0, [])
  | b :: blocks =>
    if wide < b.wide then
      let (n, blocks) := closeBlocks wide blocks
      (n + 1, blocks)
    else (0, b :: blocks)

/-- What the indentation of a line means in the open blocks, innermost first. -/
def enter (column : Column) (blocks : List Column) : Option (List Lexeme × List Column) :=
  let top := blocks.head?.getD ⟨0, 0⟩
  if column.wide = top.wide then
    if column.narrow = top.narrow then some ([], blocks) else none
  else if top.wide < column.wide then
    if blocks.length < blockLimit ∧ top.narrow < column.narrow then
      some ([.indent], column :: blocks)
    else none
  else
    let (n, blocks) := closeBlocks column.wide blocks
    if (blocks.head?.getD ⟨0, 0⟩) = column then some (List.replicate n .dedent, blocks) else none

/-- The bracket that closes one. -/
def closing? : String → Option String
  | "(" => some ")"
  | "[" => some "]"
  | "\x7b" => some "\x7d"
  | _ => none

/-- The closing brackets a text waits for, innermost first, behind an operator. -/
def bracket (s : String) (waiting : List String) : Option (List String) :=
  match closing? s with
  | some c => if waiting.length < bracketLimit then some (c :: waiting) else none
  | none =>
    if [")", "]", "\x7d"].contains s then
      match waiting with
      | c :: rest => if c = s then some rest else none
      | [] => none
    else some waiting

/-- Where in a script the reading is. -/
structure State where
  /-- Whether a line starts here. -/
  atStart : Bool
  blocks : List Column
  waiting : List String
  rest : List Char

/-- Reads on by one word, one gap or one line start. Gives the words it found, or nothing once the
script is read. -/
def step (s : State) : Option (List Lexeme × Option State) :=
  if s.atStart then
    match indentation ⟨0, 0⟩ none s.rest with
    | none => none
    | some (column, rest) =>
      let s := { s with atStart := false, rest := rest }
      match rest with
      | [] =>
        if s.waiting.isEmpty then some (List.replicate s.blocks.length .dedent, none) else none
      | '\n' :: rest => some ([], some { s with atStart := true, rest := rest })
      | '#' :: rest =>
        let rest := (rest.dropWhile (· ≠ '\n')).drop 1
        some ([], some { s with atStart := true, rest := rest })
      | _ =>
        if s.waiting.isEmpty then
          (enter column s.blocks).map fun (ls, blocks) => (ls, some { s with blocks := blocks })
        else some ([], some s)
  else
    match s.rest.dropWhile isGap with
    | [] => none
    | '#' :: rest => some ([], some { s with rest := rest.dropWhile (· ≠ '\n') })
    | '\n' :: rest =>
      let s := { s with atStart := true, rest := rest }
      some (if s.waiting.isEmpty then [.newline] else [], some s)
    | '\\' :: rest => (joined? rest).map fun rest => ([], some { s with rest := rest })
    | cs =>
      match Lexeme.read cs with
      | none => none
      | some (l, rest) =>
        match l with
        | .op o =>
          (bracket o s.waiting).map fun waiting =>
            ([l], some { s with waiting := waiting, rest := rest })
        | _ => some ([l], some { s with rest := rest })

/-- Reads on to the end, given more steps than there are characters. The words so far are kept
newest first. -/
def readFrom : (limit : Nat) → State → List Lexeme → Option (List Lexeme)
  | 0, _, _ => none
  | limit + 1, s, found =>
    match step s with
    | none => none
    | some (ls, none) => some (ls.reverse ++ found).reverse
    | some (ls, some s') => readFrom limit s' (ls.reverse ++ found)

end Layout

/-- The words of a script, if it can be read. No script holds the null character or half of a
pair. -/
def lexemes (source : String) : Option (List Lexeme) :=
  let cs := source.toList
  if cs.any fun c => c == '\x00' || (Text.half? c).isSome then none
  else
    let cs := Layout.lines cs
    Layout.readFrom (2 * cs.length + 2) ⟨true, [], [], cs⟩ []

end Script
end Choreo
