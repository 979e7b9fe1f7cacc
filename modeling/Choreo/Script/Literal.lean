import Choreo.Script.Lexeme
import Choreo.Text.CharacterName

/-!
The insides of string literals: escapes, and the fields of formatted ones.

A field is an expression between braces, perhaps with a conversion and with a format that may itself
have fields. Doubled braces stand for themselves. Here fields are only found; whether their texts
are expressions is up to who reads expressions.
-/

namespace Choreo
namespace Script
namespace Literal

/-! ## Escapes -/

/-- The rest behind a number of hexadecimal digits, with their value. -/
def hexRun? (count : Nat) (cs : List Char) : Option (Nat × List Char) :=
  let ds := cs.take count
  if ds.length = count ∧ ds.all Lexeme.isHexDigit then
    some (Lexeme.digitsValue 16 ds, cs.drop count)
  else none

/-- Whether what follows a backslash and a letter completes the escape. -/
def completes (letter : Char) (cs : List Char) : Bool :=
  if letter = 'x' then (hexRun? 2 cs).isSome
  else if letter = 'u' then (hexRun? 4 cs).isSome
  else if letter = 'U' then (hexRun? 8 cs).any fun (n, _) => n ≤ 0x10ffff
  else if letter = 'N' then
    match cs with
    | '\x7b' :: rest =>
      let name := rest.takeWhile (· ≠ '\x7d')
      name.length < rest.length && Text.isCharacterName name
    | _ => false
  else true

/-- Whether every escape is complete. -/
def escapesComplete : List Char → Bool
  | '\\' :: letter :: rest => completes letter rest && escapesComplete rest
  | _ :: rest => escapesComplete rest
  | [] => true

/-- Whether every escape of a byte literal is complete: only codes in hexadecimal can fail. -/
def byteEscapesComplete : List Char → Bool
  | '\\' :: letter :: rest =>
    (letter != 'x' || (hexRun? 2 rest).isSome) && byteEscapesComplete rest
  | _ :: rest => byteEscapesComplete rest
  | [] => true

/-! ## Fields -/

/-- Where in a field the reading is: outside of quotes, or between one or three of a quote. -/
inductive Within where
  | code
  | quoted (quote : Char)
  | longQuoted (quote : Char)

/-- Whether a bracket closes the one that was opened last. -/
def closes (opened closed : Char) : Bool :=
  (opened == '(' && closed == ')') || (opened == '[' && closed == ']') ||
    (opened == '\x7b' && closed == '\x7d')

/-- The text of a field's expression, and the rest from its end on: a conversion, a format, a
closing brace, or the sign that asks for the text itself. -/
def fieldText? : Within → (opened : List Char) → List Char → Option (List Char × List Char)
  | _, _, [] => none
  | _, _, '\\' :: _ => none
  | .quoted q, opened, c :: rest =>
    (fieldText? (if c = q then .code else .quoted q) opened rest).map fun (t, r) => (c :: t, r)
  | .longQuoted q, opened, c :: c' :: c'' :: rest =>
    if c = q ∧ c' = q ∧ c'' = q then
      (fieldText? .code opened rest).map fun (t, r) => (c :: c' :: c'' :: t, r)
    else (fieldText? (.longQuoted q) opened (c' :: c'' :: rest)).map fun (t, r) => (c :: t, r)
  | .longQuoted _, _, _ => none
  | .code, opened, c :: rest =>
    if Lexeme.isQuote c then
      match rest with
      | c' :: c'' :: rest' =>
        if c' = c ∧ c'' = c then
          (fieldText? (.longQuoted c) opened rest').map fun (t, r) => (c :: c :: c :: t, r)
        else (fieldText? (.quoted c) opened (c' :: c'' :: rest')).map fun (t, r) => (c :: t, r)
      | rest => (fieldText? (.quoted c) opened rest).map fun (t, r) => (c :: t, r)
    else if c = '(' ∨ c = '[' ∨ c = '\x7b' then
      (fieldText? .code (c :: opened) rest).map fun (t, r) => (c :: t, r)
    else if c = '#' then none
    else
      match opened with
      | [] =>
        if c = ')' ∨ c = ']' then none
        else if c = '\x7d' ∨ c = ':' then some ([], c :: rest)
        else if c = '!' ∨ c = '=' ∨ c = '<' ∨ c = '>' then
          match rest with
          | '=' :: rest' =>
            (fieldText? .code [] rest').map fun (t, r) => (c :: '=' :: t, r)
          | rest =>
            if c = '!' ∨ c = '=' then some ([], c :: rest)
            else (fieldText? .code [] rest).map fun (t, r) => (c :: t, r)
        else (fieldText? .code [] rest).map fun (t, r) => (c :: t, r)
      | o :: outer =>
        if c = ')' ∨ c = ']' ∨ c = '\x7d' then
          if closes o c then (fieldText? .code outer rest).map fun (t, r) => (c :: t, r) else none
        else (fieldText? .code opened rest).map fun (t, r) => (c :: t, r)

/-- Whether a text says something. -/
def saysSomething (cs : List Char) : Bool :=
  cs.any fun c => !(c == ' ' || c == '\t' || c == '\n' || c == '\x0c')

/-- A conversion, if there is one, and the rest. -/
def conversion? : List Char → Option (List Char)
  | '!' :: c :: rest => if c = 's' ∨ c = 'r' ∨ c = 'a' then some rest else none
  | '!' :: [] => none
  | cs => some cs

/-- The sign that asks for the text of an expression is dropped with the blanks behind it. -/
def dropSign : List Char → List Char
  | '=' :: rest => rest.dropWhile fun c => c == ' ' || (9 ≤ c.toNat && c.toNat ≤ 13)
  | cs => cs

/-- Plain text up to a brace that means something, with the rest from there on. At the top, doubled
braces are plain. Unless the literal is raw, an escape may name a character in braces, which are
plain too; `inName` says that such a name is open. -/
def plainText? (isRaw isTop : Bool) : (inName : Bool) → List Char → Option (List Char × List Char)
  | _, [] => some ([], [])
  | true, c :: rest =>
    (plainText? isRaw isTop (c != '\x7d') rest).map fun (t, r) => (c :: t, r)
  | false, '\\' :: '\\' :: rest =>
    (plainText? isRaw isTop false rest).map fun (t, r) => ('\\' :: '\\' :: t, r)
  | false, '\\' :: rest@('N' :: '\x7b' :: named) =>
    if isRaw then (plainText? isRaw isTop false rest).map fun (t, r) => ('\\' :: t, r)
    else
      (plainText? isRaw isTop true named).map fun (t, r) => ('\\' :: 'N' :: '\x7b' :: t, r)
  | false, c :: rest =>
    if c = '\x7b' ∨ c = '\x7d' then
      if isTop then
        match rest with
        | c' :: rest' =>
          if c' = c then (plainText? isRaw isTop false rest').map fun (t, r) => (c :: t, r)
          else if c = '\x7d' then none else some ([], c :: rest)
        | [] => if c = '\x7d' then none else some ([], [c])
      else some ([], c :: rest)
    else (plainText? isRaw isTop false rest).map fun (t, r) => (c :: t, r)

/-- Deepest nesting of fields. -/
def fieldLimit : Nat := 2

mutual

/-- The texts of the fields of a literal or of a format, each with how many fields are around it,
and the rest behind it, which is empty for a literal and starts with the closing brace
for a format. -/
def fieldsFrom (isRaw : Bool) : (limit : Nat) → (level : Nat) → List Char →
    Option (List (Nat × List Char) × List Char)
  | 0, _, _ => none
  | limit + 1, level, cs =>
    match plainText? isRaw (level = 0) false cs with
    | none => none
    | some (plain, rest) =>
      if !isRaw && !escapesComplete plain then none
      else
        match rest with
        | '\x7b' :: rest =>
          if fieldLimit ≤ level then none
          else
            match field isRaw limit level rest with
            | none => none
            | some (inner, rest) =>
              (fieldsFrom isRaw limit level rest).map fun (fs, r) => (inner ++ fs, r)
        | rest => some ([], rest)

/-- The texts of a field and of those in its format, given the text behind the opening brace. -/
def field (isRaw : Bool) : (limit : Nat) → (level : Nat) → List Char →
    Option (List (Nat × List Char) × List Char)
  | 0, _, _ => none
  | limit + 1, level, cs =>
    match fieldText? .code [] cs with
    | none => none
    | some (text, rest) =>
      if !saysSomething text then none
      else
        match conversion? (dropSign rest) with
        | some ('\x7d' :: rest) => some ([(level, text)], rest)
        | some (':' :: rest) =>
          match fieldsFrom isRaw limit (level + 1) rest with
          | some (inner, '\x7d' :: rest) => some ((level, text) :: inner, rest)
          | _ => none
        | _ => none

end

/-- The texts of a literal's fields, each with how many fields are around it. A malformed literal
has no answer. -/
def fields? (l : Literal) : Option (List (Nat × List Char)) :=
  if l.isFormatted then
    match fieldsFrom l.isRaw (2 * l.body.length + 2) 0 l.body with
    | some (fs, []) => some fs
    | _ => none
  else if l.isBytes then
    if l.body.all (fun c => c.toNat < 128) && (l.isRaw || byteEscapesComplete l.body) then some []
    else none
  else if l.isRaw || escapesComplete l.body then some []
  else none

end Literal
end Script
end Choreo
