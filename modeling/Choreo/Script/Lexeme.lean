import Choreo.Number.Fault
import Choreo.Text.Identifier
import Choreo.Text.Normal
import Choreo.Text.Numeral

/-!
The words of a scene script: names, keywords, numerals, string literals and operators.

Scripts are Python 3.11 source. Only the plain digits make up numerals. Each reader takes what it
reads off the front of a text and gives the rest; it has no answer for a text that cannot be read.
-/

namespace Choreo
namespace Script

/-- A string literal: what its marks say, and the characters between its quotes. -/
structure Literal where
  isBytes : Bool
  isRaw : Bool
  isFormatted : Bool
  body : List Char
  deriving DecidableEq, Repr

inductive Lexeme where
  | name (s : String)
  /-- A name that is a keyword in some places. -/
  | softKeyword (s : String)
  | keyword (s : String)
  | whole (n : Nat)
  /-- A numeral with a point or an exponent. -/
  | real (r : Text.Reading)
  | imaginary
  | text (l : Literal)
  | op (s : String)
  /-- The end of a logical line. -/
  | newline
  | indent
  | dedent
  deriving DecidableEq, Repr

namespace Lexeme

/-! ## Names -/

def keywords : List String :=
  ["False", "None", "True", "and", "as", "assert", "async", "await", "break", "class", "continue",
   "def", "del", "elif", "else", "except", "finally", "for", "from", "global", "if", "import", "in",
   "is", "lambda", "nonlocal", "not", "or", "pass", "raise", "return", "try", "while", "with",
   "yield"]

/-- Names with a meaning of their own in a choice. -/
def softKeywords : List String := ["match", "case", "_"]

def isPlainDigit (c : Char) : Bool := '0' ≤ c && c ≤ '9'

def isPlainLetter (c : Char) : Bool := ('a' ≤ c && c ≤ 'z') || ('A' ≤ c && c ≤ 'Z')

/-- Whether a character can only be the start of a name. -/
def opensName (c : Char) : Bool := isPlainLetter c || c == '_' || 128 ≤ c.toNat

/-- Whether a character behind a name can only belong to it. -/
def continuesName (c : Char) : Bool := opensName c || isPlainDigit c

/-- Whether characters form an identifier. -/
def isIdentifier : List Char → Bool
  | [] => false
  | c :: rest => Text.isIdentifierStart c && rest.all Text.isIdentifierRest

/-- The name in front of a text that opens one. Names with one normal form are one name, but a
keyword of either kind is spelled plainly. -/
def readName (cs : List Char) : Option (Lexeme × List Char) :=
  let word := cs.takeWhile continuesName
  let rest := cs.dropWhile continuesName
  let s := String.ofList word
  if keywords.contains s then some (.keyword s, rest)
  else if softKeywords.contains s then some (.softKeyword s, rest)
  else if isIdentifier word then some (.name (String.ofList (Text.normalForm word)), rest)
  else none

/-! ## Numerals -/

/-- Digits of a class with single underscores between them, and the rest. There is at least one
digit. -/
def digitGroups (isDigit : Char → Bool) : (afterDigit : Bool) → List Char →
    Option (List Char × List Char)
  | afterDigit, [] => if afterDigit then some ([], []) else none
  | afterDigit, c :: rest =>
    if isDigit c then (digitGroups isDigit true rest).map fun (ds, r) => (c :: ds, r)
    else if afterDigit then
      if c = '_' then digitGroups isDigit false rest else some ([], c :: rest)
    else none

/-- Whether a text starts with a word. -/
def startsWith (word : String) (cs : List Char) : Bool := word.toList.isPrefixOf cs

/-- Keywords that may follow a numeral at once. -/
def adjacentWords : List String := ["and", "else", "for", "if", "in", "is", "or", "not"]

/-- Whether a numeral may end before a text. -/
def mayEnd (cs : List Char) : Bool :=
  match cs with
  | [] => true
  | c :: _ => !continuesName c || adjacentWords.any fun w => startsWith w cs

/-- A numeral that is complete, if it may end here. -/
def ended (l : Lexeme) (rest : List Char) : Option (Lexeme × List Char) :=
  if mayEnd rest then some (l, rest) else none

/-- Digits as a number of a base. -/
def digitsValue (base : Nat) (ds : List Char) : Nat :=
  Text.numeral base (ds.filterMap Text.hexDigit?)

/-- A whole number in a base with a mark, given the text behind the mark. -/
def readMarked (base : Nat) (isDigit : Char → Bool) (cs : List Char) :
    Option (Lexeme × List Char) :=
  let cs := if cs.head? = some '_' then cs.drop 1 else cs
  match digitGroups isDigit false cs with
  | none => none
  | some (ds, rest) =>
    if rest.head?.any isPlainDigit then none else ended (.whole (digitsValue base ds)) rest

def isHexDigit (c : Char) : Bool :=
  isPlainDigit c || ('a' ≤ c && c ≤ 'f') || ('A' ≤ c && c ≤ 'F')

/-- What follows the digits and the exponent of a decimal: perhaps the mark of an imaginary
number. -/
def endReal (ds : List Char) (exponent : Int) (isWhole : Bool) (cs : List Char) :
    Option (Lexeme × List Char) :=
  match cs with
  | c :: rest =>
    if c = 'j' ∨ c = 'J' then ended .imaginary rest
    else if isWhole then endWhole ds cs
    else ended (.real (.finite false (digitsValue 10 ds) exponent)) cs
  | [] =>
    if isWhole then endWhole ds []
    else some (.real (.finite false (digitsValue 10 ds) exponent), [])
where
  /-- A whole decimal has a nought in front only if it has nothing else, and then it may have any
  length. -/
  endWhole (ds : List Char) (cs : List Char) : Option (Lexeme × List Char) :=
    if ds.head? = some '0' then
      if ds.all (· = '0') then ended (.whole 0) cs else none
    else if ds.length > NumberFault.digitLimit then none
    else ended (.whole (digitsValue 10 ds)) cs

/-- The exponent a text opens with, if it does, and what follows. Letters that belong to a keyword
are no exponent. -/
def readExponent (ds : List Char) (places : Nat) (isWhole : Bool) (cs : List Char) :
    Option (Lexeme × List Char) :=
  let plainly := endReal ds (-(places : Int)) isWhole cs
  match cs with
  | e :: rest =>
    if e = 'e' ∨ e = 'E' then
      match rest with
      | s :: r =>
        if s = '+' ∨ s = '-' then
          match digitGroups isPlainDigit false r with
          | none => none
          | some (xs, r) =>
            let x : Int := digitsValue 10 xs
            endReal ds ((if s = '-' then -x else x) - places) false r
        else if isPlainDigit s then
          match digitGroups isPlainDigit false rest with
          | none => none
          | some (xs, r) => endReal ds ((digitsValue 10 xs : Int) - places) false r
        else plainly
      | [] => plainly
    else plainly
  | [] => plainly

/-- The places behind a point. -/
def readPlaces (ds : List Char) (cs : List Char) : Option (Lexeme × List Char) :=
  if cs.head?.any isPlainDigit then
    match digitGroups isPlainDigit false cs with
    | none => none
    | some (places, rest) => readExponent (ds ++ places) places.length false rest
  else readExponent ds 0 false cs

/-- The decimal in front of a text that opens with a digit. -/
def readDecimal (cs : List Char) : Option (Lexeme × List Char) :=
  match digitGroups isPlainDigit false cs with
  | none => none
  | some (ds, '.' :: rest) => readPlaces ds rest
  | some (ds, rest) => readExponent ds 0 true rest

/-- The numeral in front of a text that opens with a digit. -/
def readNumeral (cs : List Char) : Option (Lexeme × List Char) :=
  match cs with
  | '0' :: mark :: rest =>
    if mark = 'x' ∨ mark = 'X' then readMarked 16 isHexDigit rest
    else if mark = 'o' ∨ mark = 'O' then readMarked 8 (fun c => '0' ≤ c && c ≤ '7') rest
    else if mark = 'b' ∨ mark = 'B' then readMarked 2 (fun c => c == '0' || c == '1') rest
    else readDecimal cs
  | _ => readDecimal cs

/-! ## String literals -/

/-- The letters in front of a quote that say what kind of literal follows. -/
def marks? (letters : List Char) : Option (Bool × Bool × Bool) :=
  let s := String.ofList (letters.map Char.toLower)
  if s = "" ∨ s = "u" then some (false, false, false)
  else if s = "b" then some (true, false, false)
  else if s = "r" then some (false, true, false)
  else if s = "f" then some (false, false, true)
  else if s = "br" ∨ s = "rb" then some (true, true, false)
  else if s = "fr" ∨ s = "rf" then some (false, true, true)
  else none

def isQuote (c : Char) : Bool := c == '"' || c == '\x27'

/-- The characters up to the closing quote, and the rest. A backslash takes the character behind it
along. -/
def readBody (quote : Char) : List Char → Option (List Char × List Char)
  | [] => none
  | '\\' :: c :: rest => (readBody quote rest).map fun (b, r) => ('\\' :: c :: b, r)
  | c :: rest =>
    if c = quote then some ([], rest)
    else if c = '\n' then none
    else (readBody quote rest).map fun (b, r) => (c :: b, r)

/-- The characters up to three closing quotes, and the rest. -/
def readLongBody (quote : Char) : List Char → Option (List Char × List Char)
  | [] => none
  | '\\' :: c :: rest => (readLongBody quote rest).map fun (b, r) => ('\\' :: c :: b, r)
  | c :: rest =>
    if c = quote ∧ [quote, quote].isPrefixOf rest then some ([], rest.drop 2)
    else (readLongBody quote rest).map fun (b, r) => (c :: b, r)

/-- The literal in front of a text, if it opens with marks and a quote. -/
def literal? (cs : List Char) : Option (Option (Lexeme × List Char)) :=
  let letters := cs.takeWhile isPlainLetter
  match marks? letters, cs.drop letters.length with
  | some (isBytes, isRaw, isFormatted), quote :: rest =>
    if isQuote quote then
      let body :=
        if [quote, quote].isPrefixOf rest then readLongBody quote (rest.drop 2)
        else readBody quote rest
      some (body.map fun (b, r) => (.text ⟨isBytes, isRaw, isFormatted, b⟩, r))
    else none
  | _, _ => none

/-! ## Operators -/

/-- The operators, longer ones before those they start with. -/
def operators : List String :=
  ["**=", "//=", ">>=", "<<=", "...", "!=", "%=", "&=", "**", "*=", "+=", "-=", "->", "//", "/=",
   ":=", "<<", "<=", "==", ">=", ">>", "@=", "^=", "|=", "%", "&", "(", ")", "*", "+", ",", "-",
   ".", "/", ":", ";", "<", "=", ">", "@", "[", "]", "^", "\x7b", "|", "\x7d", "~"]

def readOperator (cs : List Char) : Option (Lexeme × List Char) :=
  (operators.find? fun s => startsWith s cs).map fun s => (.op s, cs.drop s.length)

/-- The word in front of a text that is neither blank nor a comment. -/
def read (cs : List Char) : Option (Lexeme × List Char) :=
  match literal? cs with
  | some r => r
  | none =>
    match cs with
    | [] => none
    | '.' :: d :: _ => if isPlainDigit d then readPlaces [] (cs.drop 1) else readOperator cs
    | c :: _ =>
      if opensName c then readName cs
      else if isPlainDigit c then readNumeral cs
      else readOperator cs

end Lexeme
end Script
end Choreo
