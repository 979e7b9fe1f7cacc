import Choreo.Text.CombiningClass
import Choreo.Text.Decomposition

/-!
The normal form of identifiers: compatibility characters stand for plain ones, marks have a fixed
order, and a letter is one with its marks where there is a character for both.

Two identifiers are one name if their normal forms are equal.
-/

namespace Choreo
namespace Text
namespace Normal

/-! ## Syllables of Hangul -/

def firstSyllable : Nat := 0xac00
def firstLead : Nat := 0x1100
def firstVowel : Nat := 0x1161
/-- The code before the first tail: a syllable may have no tail. -/
def noTail : Nat := 0x11a7
def leads : Nat := 19
def vowels : Nat := 21
/-- How many tails there are, with having none. -/
def tails : Nat := 28

/-- The letters of a syllable, if a code is one. -/
def letters? (n : Nat) : Option (List Nat) :=
  if firstSyllable ≤ n ∧ n < firstSyllable + leads * vowels * tails then
    let s := n - firstSyllable
    let open' := [firstLead + s / (vowels * tails), firstVowel + s % (vowels * tails) / tails]
    some (if s % tails = 0 then open' else open' ++ [noTail + s % tails])
  else none

/-- The syllable that two letters make, or a syllable without a tail and a tail. -/
def syllable? (a b : Nat) : Option Nat :=
  if firstLead ≤ a ∧ a < firstLead + leads ∧ firstVowel ≤ b ∧ b < firstVowel + vowels then
    some (firstSyllable + ((a - firstLead) * vowels + (b - firstVowel)) * tails)
  else if firstSyllable ≤ a ∧ a < firstSyllable + leads * vowels * tails ∧
      (a - firstSyllable) % tails = 0 ∧ noTail < b ∧ b < noTail + tails then
    some (a + (b - noTail))
  else none

/-! ## Parts -/

/-- The parts of a character. -/
def parts (n : Nat) : List Nat :=
  match letters? n with
  | some ns => ns
  | none => (Mapping.find? decompositions n).getD [n]

/-! ## Order -/

/-- Puts a mark behind those of its class and of lower ones. -/
def insertMark (n : Nat) : List Nat → List Nat
  | [] => [n]
  | m :: ms =>
    if combiningClass m ≤ combiningClass n then m :: insertMark n ms else n :: m :: ms

/-- Codes with the marks between two letters in the order of their classes. The marks since the
last letter wait, in order. -/
def ordered (waiting : List Nat) : List Nat → List Nat
  | [] => waiting
  | n :: ns =>
    if combiningClass n = 0 then waiting ++ n :: ordered [] ns
    else ordered (insertMark n waiting) ns

/-! ## Composition -/

/-- The character that two make when they meet. -/
def pair? (a b : Nat) : Option Nat :=
  match syllable? a b with
  | some n => some n
  | none => (compositions.find? fun m => m.images == [a, b]).map (·.first)

/-- Codes with what can be one put together. A mark reaches the letter before it over marks of
lower classes only; those that stay behind the letter wait, newest first. -/
def composed (letter : Nat) (waiting : List Nat) : List Nat → List Nat
  | [] => letter :: waiting.reverse
  | n :: ns =>
    let k := combiningClass n
    let reaches := match waiting with
      | [] => true
      | m :: _ => combiningClass m < k
    match if reaches then pair? letter n else none with
    | some c => composed c waiting ns
    | none =>
      if k = 0 then (letter :: waiting.reverse) ++ composed n [] ns
      else composed letter (n :: waiting) ns

end Normal

/-- The normal form of the characters of an identifier. An identifier starts with a letter. -/
def normalForm (cs : List Char) : List Char :=
  if cs.all fun c => c.toNat < 128 then cs
  else
    match Normal.ordered [] (cs.flatMap fun c => Normal.parts c.toNat) with
    | [] => []
    | n :: ns => (Normal.composed n [] ns).map Char.ofNat

end Text
end Choreo
