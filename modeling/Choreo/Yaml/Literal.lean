import Choreo.Text.LowerCase
import Choreo.Text.Numeral
import Choreo.Yaml.Datum
import Choreo.Yaml.Fault
import Choreo.Yaml.Kind

/-!
The value a text stands for, once its kind is known.

Whole numbers are written in four bases or in parts of sixty; decimals in the usual way or in parts
of sixty. Underscores group digits and mean nothing.
-/

namespace Choreo
namespace Yaml
namespace Literal
variable {α : Type} [Scalar α]

/-- The parts of a text between colons. -/
def parts (part : List Char) : List Char → List (List Char)
  | [] => [part.reverse]
  | ':' :: rest => part.reverse :: parts [] rest
  | c :: rest => parts (c :: part) rest

/-- The sign in front of a numeral without its underscores, and the rest. -/
def signed (cs : List Char) : Except Fault (Bool × List Char) :=
  match cs.filter (· ≠ '_') with
  | [] => .error .emptyNumeral
  | cs => .ok (Text.splitSign cs)

def readWhole (base : Nat) (cs : List Char) : Except Fault Int :=
  (Text.readWhole base cs).mapError .number

def wholeMagnitude : List Char → Except Fault Int
  | [] => .error .emptyNumeral
  | '0' :: 'b' :: ds => readWhole 2 ds
  | '0' :: 'x' :: ds => readWhole 16 ds
  | '0' :: ds => if ds.isEmpty then .ok 0 else readWhole 8 ('0' :: ds)
  | cs =>
    if cs.contains ':' then do
      let ns ← (parts [] cs).mapM (readWhole 10)
      return ns.foldl (fun n d => n * 60 + d) 0
    else readWhole 10 cs

def whole (cs : List Char) : Except Fault Int := do
  let (negative, body) ← signed cs
  let n ← wholeMagnitude body
  return if negative then -n else n

def readReal (cs : List Char) : Except Fault α :=
  (Text.readDecimal cs).mapError .number |>.map Scalar.ofReading

/-- The sum of parts of sixty, the last of them first. -/
def sixties (base : Nat) (total : α) : List α → Except Fault α
  | [] => .ok total
  | d :: ds => do
    let b : α ← (Quantity.ofWhole base).mapError .number
    sixties (base * 60) (total + d * b) ds

def realMagnitude (cs : List Char) : Except Fault α :=
  if cs = ['.', 'i', 'n', 'f'] then .ok (Scalar.ofReading (.infinite false))
  else if cs.contains ':' then do
    let ds ← (parts [] cs).mapM readReal
    sixties 1 Scalar.zero ds.reverse
  else readReal cs

def real (cs : List Char) : Except Fault (Atom α) := do
  let (negative, body) ← signed (Text.lowerCase (cs.filter (· ≠ '_')))
  if body = ['.', 'n', 'a', 'n'] then return .nan none
  let x ← realMagnitude body
  return .number (.real (if negative then -x else x))

def flag (cs : List Char) : Except Fault Bool :=
  let word := String.ofList (cs.map Text.lowered)
  if ["yes", "true", "on"].contains word then .ok true
  else if ["no", "false", "off"].contains word then .ok false
  else .error .unknownFlag

def moment (cs : List Char) : Except Fault (Atom α) :=
  match Timestamp.read? cs with
  | none => .error .noTimestamp
  | some t => do
    t.check.mapError .calendar
    return match t.clock with
    | none => .day t.day
    | some c => .moment t.day c

/-- The six bits a character stands for. -/
def sextet? (c : Char) : Option Nat :=
  if 'A' ≤ c ∧ c ≤ 'Z' then some (c.toNat - 65)
  else if 'a' ≤ c ∧ c ≤ 'z' then some (c.toNat - 71)
  else if '0' ≤ c ∧ c ≤ '9' then some (c.toNat + 4)
  else if c = '+' then some 62
  else if c = '/' then some 63
  else none

/-- Octets in six bits a character, from a place in a group of four on. Padding ends the text once
its group is complete; characters that stand for nothing are skipped. `bits` holds what the group
has spelled so far. -/
def octets (place pads bits : Nat) : List Char → Except Fault (List Nat)
  | [] => if place = 0 then .ok [] else .error .malformed
  | c :: rest =>
    if c = '=' then
      if 2 ≤ place then
        if 4 ≤ place + pads + 1 then .ok [] else octets place (pads + 1) bits rest
      else octets place pads bits rest
    else
      match sextet? c with
      | none => octets place pads bits rest
      | some v =>
        let bits := bits * 64 + v
        match place with
        | 0 => octets 1 0 bits rest
        | 1 => do return bits / 16 :: (← octets 2 0 (bits % 16) rest)
        | 2 => do return bits / 4 :: (← octets 3 0 (bits % 4) rest)
        | _ => do return bits :: (← octets 0 0 0 rest)

def bytes (cs : List Char) : Except Fault (List Nat) :=
  if cs.all fun c => c.toNat < 128 then octets 0 0 0 cs else .error .malformed

/-- The value a text of a kind stands for. -/
def read (kind : Kind) (s : String) : Except Fault (Atom α) :=
  let cs := s.toList
  match kind with
  | .null => .ok .null
  | .flag => (flag cs).map .flag
  | .whole => (whole cs).map fun n => .number (.whole n)
  | .real => real cs
  | .moment => moment cs
  | .bytes => (bytes cs).map .bytes
  | .text => .ok (.text s)
  | _ => .error .malformed

end Literal
end Yaml
end Choreo
