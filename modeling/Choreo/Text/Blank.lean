import Choreo.Text.Range

/-!
Blank characters, and cutting a text at them.

Two classes of blank are in use. Running text counts the four information separators as blank;
around a numeral they are not, although the blanks of other scripts are.
-/

namespace Choreo
namespace Text

def blankRanges : List (Nat × Nat) :=
  [(0x09, 0x0d), (0x1c, 0x20), (0x85, 0x85), (0xa0, 0xa0), (0x1680, 0x1680), (0x2000, 0x200a),
   (0x2028, 0x2029), (0x202f, 0x202f), (0x205f, 0x205f), (0x3000, 0x3000)]

/-- Blank in running text. -/
def isBlank (c : Char) : Bool := inRanges blankRanges c.toNat

/-- Blank around a numeral. -/
def isMargin (c : Char) : Bool := isBlank c && !(0x1c ≤ c.toNat && c.toNat ≤ 0x1f)

/-- The text without the characters of a class at its two ends. -/
def stripWhere (p : Char → Bool) (cs : List Char) : List Char :=
  ((cs.dropWhile p).reverse.dropWhile p).reverse

def strip (cs : List Char) : List Char := stripWhere isBlank cs

/-- The longest pieces of a text without a separator, in order. Empty pieces are left out. -/
def pieces (p : Char → Bool) (cs : List Char) : List (List Char) :=
  let rec go : List Char → List Char → List (List Char)
    | [], word => if word.isEmpty then [] else [word.reverse]
    | c :: rest, word =>
      if p c then
        if word.isEmpty then go rest [] else word.reverse :: go rest []
      else go rest (c :: word)
  go cs []

/-- The words of a text: its pieces between blanks. -/
def words (cs : List Char) : List (List Char) := pieces isBlank cs

end Text
end Choreo
