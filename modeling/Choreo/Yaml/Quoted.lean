import Choreo.Text.Half
import Choreo.Yaml.Plain

/-!
Texts in quotes.

In single quotes only the quote has to be told apart, by writing it twice. In double quotes a
backslash gives characters names and codes, and joins lines. Line ends fold as in plain texts.
-/

namespace Choreo
namespace Yaml
namespace Quoted

/-- The character a letter names behind a backslash. -/
def named? : Char → Option Char
  | '0' => some '\x00'
  | 'a' => some '\x07'
  | 'b' => some '\x08'
  | 't' => some '\t'
  | '\t' => some '\t'
  | 'n' => some '\n'
  | 'v' => some '\x0b'
  | 'f' => some '\x0c'
  | 'r' => some '\r'
  | 'e' => some '\x1b'
  | ' ' => some ' '
  | '"' => some '"'
  | '\\' => some '\\'
  | '/' => some '/'
  | 'N' => some '\x85'
  | '_' => some '\xa0'
  | 'L' => some '\u2028'
  | 'P' => some '\u2029'
  | _ => none

/-- How many digits a code has, by the letter in front of it. -/
def codeLength? : Char → Option Nat
  | 'x' => some 2
  | 'u' => some 4
  | 'U' => some 8
  | _ => none

/-- The number that exactly so many digits here spell. -/
def code? (width : Nat) (c : Cursor) : Option (Nat × Cursor) := do
  let ds ← (c.rest.take width).mapM hexDigit?
  if ds.length = width then some (ds.foldl (fun n d => n * 16 + d) 0, c.skip width) else none

/-- The character of a code, or the one that keeps half of a pair. -/
def character (n : Nat) : Except Fault Char :=
  if n < 0x110000 then .ok (if Text.isHalfCode n then Text.ofHalf n else Char.ofNat n)
  else if n < 0x80000000 then .error .noCharacter
  else .error (.number .overflow)

def isBlank (c : Char) : Bool := c == ' ' || c == '\t'

/-- The line ends of empty lines. No document ends inside quotes. -/
def emptyLines : (fuel : Nat) → Cursor → Except Fault (List Char × Cursor)
  | 0, c => .ok ([], c)
  | fuel + 1, c =>
    if isAnyMarker c.rest then .error .malformed
    else
      let c := c.drop isBlank
      match c.lineEnd? with
      | none => .ok ([], c)
      | some (b, c) => do
        let (bs, c) ← emptyLines fuel c
        return (b :: bs, c)

/-- What an escape stands for, from behind the backslash on. -/
def escape (c : Cursor) : Except Fault (List Char × Cursor) :=
  match c.here with
  | none => .error .malformed
  | some x =>
    match named? x, codeLength? x with
    | some y, _ => .ok ([y], c.step)
    | none, some width =>
      match code? width c.step with
      | some (n, c) => (character n).map fun y => ([y], c)
      | none => .error .malformed
    | none, none =>
      match c.lineEnd? with
      | some (_, c) => emptyLines (c.rest.length + 1) c
      | none => .error .malformed

/-- The characters up to the next gap or the closing quote. -/
def word (quote : Char) : (fuel : Nat) → Cursor → Except Fault (List Char × Cursor)
  | 0, c => .ok ([], c)
  | fuel + 1, c =>
    let double := quote == '"'
    let more := fun (cs : List Char) (c : Cursor) => do
      let (rest, c) ← word quote fuel c
      return (cs ++ rest, c)
    match c.here with
    | none => .ok ([], c)
    | some x =>
      if isGap (some x) then .ok ([], c)
      else if x = quote then
        if double then .ok ([], c)
        else if c.peek 1 = some quote then more [quote] (c.skip 2)
        else .ok ([], c)
      else if double ∧ x = '\\' then do
        let (cs, c) ← escape c.step
        more cs c
      else more [x] c.step

/-- What a gap inside quotes stands for. -/
def gap (c : Cursor) : Except Fault (List Char × Cursor) :=
  let (blanks, c) := c.take isBlank
  if c.rest.isEmpty then .error .malformed
  else
    match c.lineEnd? with
    | none => .ok (blanks, c)
    | some (b, c) => do
      let (bs, c) ← emptyLines (c.rest.length + 1) c
      return (Plain.folded b bs, c)

/-- Words and gaps up to the closing quote. -/
def read (quote : Char) : (fuel : Nat) → Cursor → Except Fault (List Char × Cursor)
  | 0, _ => .error .malformed
  | fuel + 1, c => do
    let (cs, c) ← word quote (c.rest.length + 1) c
    if c.here = some quote then return (cs, c.step)
    else
      let (g, c) ← gap c
      let (more, c) ← read quote fuel c
      return (cs ++ g ++ more, c)

/-- A text from its opening quote on. -/
def text (quote : Char) (c : Cursor) : Except Fault (String × Cursor) := do
  let (cs, c) ← read quote (c.rest.length + 1) c.step
  return (String.ofList cs, c)

end Quoted
end Yaml
end Choreo
