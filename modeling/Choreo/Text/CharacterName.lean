import Choreo.Text.Digit
import Choreo.Text.NameTable
import Choreo.Text.Range

/-!
Which texts are names of characters. Unicode 14.

Most names are listed, and their letters may be small or capital. Two kinds follow a rule and are
spelled in capitals: an ideograph is named by its code, and a syllable of Hangul by its letters.
-/

namespace Choreo
namespace Text
namespace CharacterName

/-! ## Names that follow a rule -/

/-- The ideographs that are named by their codes. -/
def ideographRanges : List (Nat × Nat) :=
  [(0x3400, 0x4dbf), (0x4e00, 0x9fff), (0x20000, 0x2a6df), (0x2a700, 0x2b738), (0x2b740, 0x2b81d),
   (0x2b820, 0x2cea1), (0x2ceb0, 0x2ebe0), (0x30000, 0x3134a)]

/-- Whether a text is the code of an ideograph in four or five capital digits. -/
def isIdeographCode (cs : List Char) : Bool :=
  (cs.length == 4 || cs.length == 5) &&
    cs.all (fun c => ('0' ≤ c && c ≤ '9') || ('A' ≤ c && c ≤ 'F')) &&
    inRanges ideographRanges (numeral 16 (cs.filterMap hexDigit?))

/-- Names of the letters that lead a syllable. One is silent. -/
def leadNames : List String :=
  ["G", "GG", "N", "D", "DD", "R", "M", "B", "BB", "S", "SS", "", "J", "JJ", "C", "K", "T", "P",
   "H"]

def vowelNames : List String :=
  ["A", "AE", "YA", "YAE", "EO", "E", "YEO", "YE", "O", "WA", "WAE", "OE", "YO", "U", "WEO", "WE",
   "WI", "YU", "EU", "YI", "I"]

/-- Names of the letters that end a syllable. There may be none. -/
def tailNames : List String :=
  ["", "G", "GG", "GS", "N", "NJ", "NH", "D", "L", "LG", "LM", "LB", "LS", "LT", "LP", "LH", "M",
   "B", "BS", "S", "SS", "NG", "J", "C", "K", "T", "P", "H"]

/-- A text without the longest of some names in front. It has to open with one of them. -/
def dropLongest? (names : List String) (cs : List Char) : Option (List Char) :=
  let fitting := names.filter fun s => s.toList.isPrefixOf cs
  (fitting.map String.length).max?.map cs.drop

/-- Whether a text spells a syllable by the names of its letters. -/
def isSyllable (cs : List Char) : Bool :=
  (((dropLongest? leadNames cs).bind (dropLongest? vowelNames)).bind (dropLongest? tailNames))
    == some []

/-! ## Listed names -/

/-- Where a search among the listed names is. -/
structure Search where
  /-- How many characters the name that is read shares with the one before. -/
  shared : Nat
  /-- How many characters of the name in question the name that is read begins with. -/
  agreed : Nat
  /-- What of the name in question is left behind those, as long as the name that is read goes on
  with it. -/
  ahead : Option (List Char)
  /-- Whether the last character was a count. -/
  isCounting : Bool
  found : Bool

/-- The end of a listed name: it is the name in question if nothing of that is left. -/
def Search.close (s : Search) : Search :=
  { s with found := s.found || (!s.isCounting && s.ahead == some []), shared := 0 }

/-- Reads one character of the list. -/
def Search.step (name : List Char) (s : Search) (c : Char) : Search :=
  if c = '\n' then s
  else if 'a' ≤ c ∧ c ≤ 'z' then
    let s := if s.isCounting then s else s.close
    { s with shared := s.shared + (c.toNat - 'a'.toNat), isCounting := true }
  else
    let s :=
      if !s.isCounting then s
      else if s.agreed < s.shared then { s with ahead := none }
      else { s with agreed := s.shared, ahead := some (name.drop s.shared) }
    let s := { s with isCounting := false }
    match s.ahead with
    | some (d :: rest) =>
      if c = d then { s with agreed := s.agreed + 1, ahead := some rest }
      else { s with ahead := none }
    | _ => { s with ahead := none }

/-- Whether a text in capitals is listed. -/
def isListed (name : List Char) : Bool :=
  (nameTable.foldl (Search.step name) ⟨0, 0, none, true, false⟩).close.found

end CharacterName

/-- Whether a text is the name of a character. -/
def isCharacterName (cs : List Char) : Bool :=
  let behind (opening : String) : Option (List Char) :=
    if opening.toList.isPrefixOf cs then some (cs.drop opening.length) else none
  match behind "HANGUL SYLLABLE ", behind "CJK UNIFIED IDEOGRAPH-" with
  | some rest, _ => CharacterName.isSyllable rest
  | none, some rest => CharacterName.isIdeographCode rest
  | none, none =>
    !cs.isEmpty && cs.all (fun c => c.toNat < 128) && CharacterName.isListed (cs.map Char.toUpper)

end Text
end Choreo
