import Choreo.Yaml.Timestamp

/-!
What a piece of a document is: told by its tag, or by the spelling of a text without one.

A text that stands plain is a flag, a number, a date or nothing if it is spelled like one, and a
text otherwise. One line end behind it does not matter.
-/

namespace Choreo
namespace Yaml

/-- The kinds of things a document holds. -/
inductive Kind where
  | null | flag | whole | real | moment | bytes | text
  | list | mapping | set | pairs
  /-- The key under which other mappings are taken in. -/
  | merge
  /-- The key that holds what a mapping is worth as a text. -/
  | default
  /-- A tag that means nothing here. -/
  | other
  deriving DecidableEq, Repr

namespace Kind

/-- What the standard tags begin with. -/
def standard : String := "tag:yaml.org,2002:"

/-- The kind the name of a standard tag stands for. -/
def ofName : String → Kind
  | "null" => null
  | "bool" => flag
  | "int" => whole
  | "float" => real
  | "timestamp" => moment
  | "binary" => bytes
  | "str" => text
  | "seq" => list
  | "map" => mapping
  | "set" => set
  | "omap" => pairs
  | "pairs" => pairs
  | "merge" => merge
  | "value" => default
  | _ => other

def ofTag (tag : String) : Kind :=
  let start := standard.toList
  if start.isPrefixOf tag.toList then ofName (String.ofList (tag.toList.drop start.length))
  else other

/-! ## Spellings -/

/-- A word in small letters, with a capital, or in capitals. -/
def isCased (words : List String) (cs : List Char) : Bool :=
  words.any fun w =>
    let small := w.toList
    let large := small.map Char.toUpper
    cs == small || cs == large || cs == large.take 1 ++ small.drop 1

def isFlag (cs : List Char) : Bool := isCased ["yes", "no", "true", "false", "on", "off"] cs

def isNull (cs : List Char) : Bool := cs == ['~'] || cs.isEmpty || isCased ["null"] cs

def unsigned : List Char → Bool × List Char
  | '-' :: rest => (true, rest)
  | '+' :: rest => (true, rest)
  | cs => (false, cs)

/-- A digit, or an underscore that groups digits. -/
def isGrouped (c : Char) : Bool := c.isDigit || c == '_'

/-- An exponent has a sign and at least one digit. -/
def isExponent : List Char → Bool
  | [] => true
  | e :: s :: ds =>
    (e == 'e' || e == 'E') && (s == '-' || s == '+') && !ds.isEmpty && ds.all Char.isDigit
  | _ => false

/-- What follows parts of sixty, each behind a colon. There is at least one. -/
def afterSixties? : List Char → Option (List Char)
  | ':' :: a :: b :: rest =>
    if a.isDigit && b.isDigit then
      if a ≤ '5' then some ((afterSixties? rest).getD rest) else none
    else if a.isDigit then some ((afterSixties? (b :: rest)).getD (b :: rest))
    else none
  | [':', a] => if a.isDigit then some [] else none
  | _ => none

def isReal (cs : List Char) : Bool :=
  let (signed, body) := unsigned cs
  match body with
  | '.' :: rest =>
    match rest with
    | c :: more =>
      [['i', 'n', 'f'], ['I', 'n', 'f'], ['I', 'N', 'F']].contains rest ||
        (!signed && ([['n', 'a', 'n'], ['N', 'a', 'N'], ['N', 'A', 'N']].contains rest ||
          (c.isDigit && isExponent (more.dropWhile isGrouped))))
    | [] => false
  | c :: _ =>
    c.isDigit &&
      let rest := body.dropWhile isGrouped
      match rest with
      | '.' :: places => isExponent (places.dropWhile isGrouped)
      | _ =>
        match afterSixties? rest with
        | some ('.' :: places) => places.all isGrouped
        | _ => false
  | [] => false

/-- A run of at least one character of a class, and nothing else. -/
def isRun (p : Char → Bool) (cs : List Char) : Bool := !cs.isEmpty && cs.all p

def isHex (c : Char) : Bool := c.isDigit || ('a' ≤ c && c ≤ 'f') || ('A' ≤ c && c ≤ 'F')

def isWhole (cs : List Char) : Bool :=
  match (unsigned cs).2 with
  | ['0'] => true
  | '0' :: 'b' :: ds => isRun (fun c => c == '0' || c == '1' || c == '_') ds
  | '0' :: 'x' :: ds => isRun (fun c => isHex c || c == '_') ds
  | '0' :: ds => isRun (fun c => ('0' ≤ c && c ≤ '7') || c == '_') ds
  | c :: ds =>
    c.isDigit &&
      match ds.dropWhile isGrouped with
      | [] => true
      | rest => afterSixties? rest == some []
  | [] => false

def isMoment (cs : List Char) : Bool := (Timestamp.read? cs).any Timestamp.isPlain

/-- The kind of a text by its spelling. -/
def ofSpelling (s : String) : Kind :=
  let cs := s.toList
  let cs := if cs.getLast? = some '\n' then cs.dropLast else cs
  if cs.isEmpty ∧ s ≠ "" then text
  else if isFlag cs then flag
  else if isReal cs then real
  else if isWhole cs then whole
  else if isNull cs then null
  else if isMoment cs then moment
  else if cs = ['<', '<'] then merge
  else if cs = ['='] then default
  else if [['!'], ['&'], ['*']].contains cs then other
  else text

end Kind
end Yaml
end Choreo
