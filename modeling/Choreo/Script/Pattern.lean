import Choreo.Script.Expression

/-!
Reading the patterns of a choice.

A pattern is kept as an expression that has its parts. Patterns nest in brackets only, so that they
are never too deep for the rules that read them.
-/

namespace Choreo
namespace Script

open Read

namespace Pattern

/-- An expression, and further names behind dots. -/
def dotted : (limit : Nat) → Expr → Read Expr
  | 0, _ => refuse
  | n + 1, e => do
    if ← acceptOp "." then dotted n (.dotted e (← name)) else return e

/-- Takes a numeral and reports whether it is imaginary. -/
def numeral : Read Bool := do
  match ← get with
  | .whole _ :: rest => set rest; return false
  | .real _ :: rest => set rest; return false
  | .imaginary :: rest => set rest; return true
  | _ => refuse

/-- A numeral, perhaps with a sign, and perhaps a real and an imaginary one as a sum. -/
def number : Read Expr := do
  let isNegative ← acceptOp "-"
  let isImaginary ← numeral
  let e : Expr := if isNegative then .other [.other []] else .other []
  match ← peek with
  | some (.op o) =>
    if o = "+" ∨ o = "-" then
      expectOp o
      if !(← numeral) || isImaginary then refuse
      return .other [e, .other []]
    else return e
  | _ => return e

/-- Whether the next lexeme opens a numeral. -/
def atNumber : Read Bool := do
  match ← peek with
  | some (.whole _) | some (.real _) | some .imaginary | some (.op "-") => return true
  | _ => return false

/-- A literal that is no numeral, if one is next. -/
def constant? (limit : Nat) : Read (Option Expr) := do
  match ← get with
  | .text _ :: _ => return some (← texts limit none)
  | .keyword w :: rest =>
    if ["None", "True", "False"].contains w then set rest; return some (.other [])
    else return none
  | _ => return none

/-- The name that stands for anything and binds nothing. -/
def anything : Lexeme := .softKeyword "_"

/-- A name that is bound. -/
def capture : Read Unit := do
  if (← peek) = some anything then refuse
  let _ ← name

mutual

/-- A pattern, or several divided by commas. -/
def top : (limit : Nat) → Read Expr
  | 0 => refuse
  | n + 1 => do
    let (e, isStarred) ← item n
    if ← acceptOp "," then
      match ← peek with
      | some (.op ":") | some (.op ")") | some (.keyword "if") => return .other [e]
      | _ => return .other (e :: (← more n))
    else if isStarred then refuse
    else return e

/-- Patterns divided by commas. -/
def more : (limit : Nat) → Read (List Expr)
  | 0 => refuse
  | n + 1 => do
    let (e, _) ← item n
    if ← acceptOp "," then
      match ← peek with
      | some (.op ":") | some (.op ")") | some (.op "]") | some (.keyword "if") => return [e]
      | _ => return e :: (← more n)
    else return [e]

/-- A pattern, or a name for the members that are left. Reports whether it was one. -/
def item : (limit : Nat) → Read (Expr × Bool)
  | 0 => refuse
  | n + 1 => do
    if ← acceptOp "*" then
      let _ ← name
      return (.other [], true)
    else return (← single n, false)

/-- A pattern, perhaps with a name for what it matches. -/
def single : (limit : Nat) → Read Expr
  | 0 => refuse
  | n + 1 => do
    let e ← do
      match ← alternatives n with
      | [e] => pure e
      | es => pure (.other es)
    if ← acceptWord "as" then
      capture
      return .other [e]
    else return e

def alternatives : (limit : Nat) → Read (List Expr)
  | 0 => refuse
  | n + 1 => do
    let e ← closed n
    if ← acceptOp "|" then return e :: (← alternatives n) else return [e]

/-- A pattern that stands for itself. -/
def closed : (limit : Nat) → Read Expr
  | 0 => refuse
  | n + 1 => do
    if ← atNumber then return .other [← number]
    else if let some e ← constant? n then return .other [e]
    else if ← accept anything then return .other []
    else if ← acceptOp "(" then
      if ← acceptOp ")" then return .other []
      else
        let e ← top n
        expectOp ")"
        return e
    else if ← acceptOp "[" then
      if ← acceptOp "]" then return .other []
      else
        let es ← more n
        expectOp "]"
        return .other es
    else if ← acceptOp "\x7b" then return .other (← entries n)
    else
      let e ← dotted n (.name (← name))
      if ← acceptOp "(" then return .other (e :: (← parts n false true))
      else
        match e with
        | .name _ => return .other []
        | e => return .other [e]

/-- The entries of a mapping, up to its closing bracket: keys and patterns in turn. -/
def entries : (limit : Nat) → Read (List Expr)
  | 0 => refuse
  | n + 1 => do
    if ← acceptOp "\x7d" then return []
    else if ← acceptOp "**" then
      capture
      let _ ← acceptOp ","
      expectOp "\x7d"
      return []
    else
      let key ←
        if ← atNumber then number
        else if let some e ← constant? n then pure e
        else
          let first ← name
          if (← peek) = some (.op ".") then dotted n (.name first) else refuse
      expectOp ":"
      let e ← single n
      if ← acceptOp "," then return key :: e :: (← entries n)
      else
        expectOp "\x7d"
        return [key, e]

/-- The patterns for the parts of an object, up to the closing bracket: those by position, and then
those by name. The name of one behind another cannot be the one that stands for anything. -/
def parts : (limit : Nat) → (keyword first : Bool) → Read (List Expr)
  | 0, _, _ => refuse
  | n + 1, keyword, first => do
    if ← acceptOp ")" then return []
    else
      let isKeyword ← nameBefore "="
      if isKeyword then
        if !keyword && !first && (← peek) = some anything then refuse
        let _ ← name
        expectOp "="
      else if keyword then refuse
      let e ← single n
      if ← acceptOp "," then return e :: (← parts n isKeyword false)
      else
        expectOp ")"
        return [e]

end

end Pattern
end Script
end Choreo
