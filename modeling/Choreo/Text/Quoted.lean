import Choreo.Text.Half
import Choreo.Text.Printable

/-!
Quoted texts, as they are shown inside messages.

Single quotes stand around a text unless it holds one and no double quote. The quote, the backslash
and three controls have escapes of their own; any other character that cannot be shown is written
by its code in two, four or eight digits, and so is half of a pair.
-/

namespace Choreo
namespace Text

def hexDigits (width n : Nat) : List Char :=
  let cs := Nat.toDigits 16 n
  List.replicate (width - cs.length) '0' ++ cs

/-- A character inside the given quotes. -/
def escaped (quote : Char) (c : Char) : List Char :=
  if c = quote ∨ c = '\\' then ['\\', c]
  else if c = '\n' then ['\\', 'n']
  else if c = '\r' then ['\\', 'r']
  else if c = '\t' then ['\\', 't']
  else if isPrintable c then [c]
  else if let some n := half? c then '\\' :: 'u' :: hexDigits 4 n
  else if c.toNat ≤ 0xff then '\\' :: 'x' :: hexDigits 2 c.toNat
  else if c.toNat ≤ 0xffff then '\\' :: 'u' :: hexDigits 4 c.toNat
  else '\\' :: 'U' :: hexDigits 8 c.toNat

/-- The quotes that spare the text an escape, where one of the two does. -/
def quoteFor (cs : List Char) : Char :=
  if cs.contains '\x27' && !cs.contains '"' then '"' else '\x27'

def quotedChars (cs : List Char) : List Char :=
  let q := quoteFor cs
  q :: cs.flatMap (escaped q) ++ [q]

def quoted (s : String) : String := String.ofList (quotedChars s.toList)

end Text
end Choreo
