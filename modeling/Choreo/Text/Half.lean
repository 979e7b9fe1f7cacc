/-!
Halves of pairs.

The codes from `d800` on are no characters: two of them make one up in texts of sixteen-bit units.
A text may still name one by its code. It is then kept as a private character of the last plane,
at the same distance from its beginning.
-/

namespace Choreo
namespace Text

def firstHalf : Nat := 0xd800

def lastHalf : Nat := 0xdfff

/-- The beginning of the plane the halves are kept in. -/
def halfPlane : Nat := 0x100000

def isHalfCode (n : Nat) : Bool := firstHalf ≤ n && n ≤ lastHalf

/-- The character that keeps a half. -/
def ofHalf (code : Nat) : Char := Char.ofNat (halfPlane + code)

/-- The code of the half a character keeps. -/
def half? (c : Char) : Option Nat :=
  let code := c.toNat - halfPlane
  if halfPlane ≤ c.toNat ∧ isHalfCode code then some code else none

/-- The code a character stands for. -/
def code (c : Char) : Nat := (half? c).getD c.toNat

/-- Whether a text comes before another, or is the same, by the codes of their characters. -/
def isAtMost : List Char → List Char → Bool
  | [], _ => true
  | _ :: _, [] => false
  | c :: cs, d :: ds => code c < code d || (code c == code d && isAtMost cs ds)

end Text
end Choreo
