import Choreo.Number.Quantity
import Choreo.Text.Quoted

/-!
JSON text. Only plain characters stand for themselves; all others are written by their codes, those
behind the first plane by two codes each.
-/

namespace Choreo
namespace Json

def code (n : Nat) : List Char := '\\' :: 'u' :: Text.hexDigits 4 n

/-- A character inside quotes. -/
def escaped (c : Char) : List Char :=
  if c = '"' ∨ c = '\\' then ['\\', c]
  else if c = '\n' then ['\\', 'n']
  else if c = '\r' then ['\\', 'r']
  else if c = '\t' then ['\\', 't']
  else if c = '\x08' then ['\\', 'b']
  else if c = '\x0c' then ['\\', 'f']
  else if ' ' ≤ c ∧ c ≤ '~' then [c]
  else if c.toNat < 0x10000 then code c.toNat
  else
    let n := c.toNat - 0x10000
    code (0xd800 + n / 0x400) ++ code (0xdc00 + n % 0x400)

def text (s : String) : String := String.ofList ('"' :: s.toList.flatMap escaped ++ ['"'])

/-- A number. The special values have words of their own. -/
def real {α : Type} [Scalar α] (x : α) : String :=
  match Scalar.exact x with
  | .nan => "NaN"
  | .infinite negative => if negative then "-Infinity" else "Infinity"
  | .finite _ _ => Scalar.text x

def quantity {α : Type} [Scalar α] : Quantity α → String
  | .whole n => toString n
  | .real x => real x

def orNull {β : Type} (f : β → String) : Option β → String
  | some b => f b
  | none => "null"

def array (items : List String) : String := "[" ++ ", ".intercalate items ++ "]"

def object (fields : List (String × String)) : String :=
  "\x7b" ++ ", ".intercalate (fields.map fun (k, v) => text k ++ ": " ++ v) ++ "\x7d"

end Json
end Choreo
