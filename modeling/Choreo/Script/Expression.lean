import Choreo.Script.Layout
import Choreo.Script.Literal
import Choreo.Script.Reader
import Choreo.Script.Tree

/-!
Reading expressions.

Readers look one or two lexemes ahead and never go back, so each lexeme is read once. How long they
go on is bounded by a limit that is larger than any list needs.
-/

namespace Choreo
namespace Script

open Read

namespace Expr

/-- Whether something can be assigned to an expression. -/
def isTarget : Expr → Bool
  | name _ => true
  | dotted _ _ => true
  | subscript _ _ => true
  | tuple es => areTargets es
  | list es => areTargets es
  | starred e => isSingle e || isSequence e
  | _ => false
where
  areTargets : List Expr → Bool
    | [] => true
    | e :: es => isTarget e && areTargets es
  isSingle : Expr → Bool
    | name _ | dotted _ _ | subscript _ _ => true
    | _ => false
  isSequence : Expr → Bool
    | tuple es => areTargets es
    | list es => areTargets es
    | _ => false

/-- Whether an expression is a name, an attribute or a subscript. -/
def isPlace : Expr → Bool
  | name _ | dotted _ _ | subscript _ _ => true
  | _ => false

/-- Whether an expression can be deleted. -/
def isDeletable : Expr → Bool
  | name _ => true
  | dotted _ _ => true
  | subscript _ _ => true
  | tuple es => areDeletable es
  | list es => areDeletable es
  | _ => false
where
  areDeletable : List Expr → Bool
    | [] => true
    | e :: es => isDeletable e && areDeletable es

end Expr

/-- Whether a lexeme can be the first of an expression. -/
def opensExpr : Lexeme → Bool
  | .name _ | .softKeyword _ | .whole _ | .real _ | .imaginary | .text _ => true
  | .op s => ["(", "[", "\x7b", "+", "-", "~", "..."].contains s
  | .keyword s => ["not", "lambda", "await", "None", "True", "False"].contains s
  | _ => false

/-- Whether the next lexeme can be the first of an expression or of one put in the place of its
members. -/
def atExpr : Read Bool := do
  match ← peek with
  | some l => return opensExpr l || l = .op "*"
  | none => return false

/-- Whether the next lexeme opens a loop of a comprehension. -/
def atClause : Read Bool := do
  match ← peek with
  | some (.keyword "for") | some (.keyword "async") => return true
  | _ => return false

/-! ## Levels of operators -/

/-- The operators between operands, from those that bind least. Comparisons are spelled with up to
two words, and the third level from below is negation. -/
def levels : List (List String) :=
  [[], [], [], [], ["|"], ["^"], ["&"], ["<<", ">>"], ["+", "-"], ["*", "/", "//", "%", "@"]]

/-- Whether the operands of a level stand side by side. Those of the others pair up from the
left. -/
def isFlat (level : Nat) : Bool := level ≤ 3

/-- Level of what is put in the place of its members. -/
def starLevel : Nat := 4

/-- Level of signs. -/
def signLevel : Nat := 10

/-- How many rules open for a level. Those whose operands pair up have two. -/
def levelRules (level : Nat) : Nat := if isFlat level then 1 else 2

/-- How many more rules open for an operand of a level behind the first. -/
def operandRules (level : Nat) : Nat :=
  if level = 3 then 3 else if isFlat level then 2 else 0

/-- Takes a comparison. -/
def acceptComparison : Read Bool := do
  match ← get with
  | .op o :: rest =>
    if ["==", "!=", "<=", "<", ">=", ">"].contains o then set rest; return true else return false
  | .keyword "not" :: .keyword "in" :: rest => set rest; return true
  | .keyword "is" :: .keyword "not" :: rest => set rest; return true
  | .keyword "in" :: rest => set rest; return true
  | .keyword "is" :: rest => set rest; return true
  | _ => return false

/-- Takes an operator of a level. -/
def acceptOperator (level : Nat) : Read Bool := do
  if level = 0 then acceptWord "or"
  else if level = 1 then acceptWord "and"
  else if level = 3 then acceptComparison
  else
    match ← get with
    | .op o :: rest =>
      if (levels.getD level []).contains o then set rest; return true else return false
    | _ => return false

/-! ## Lists -/

/-- The marks of a list of parameters so far. -/
structure ParameterMarks where
  any : Bool
  default : Bool
  slash : Bool
  star : Bool

/-- How many rules lead to the default of a parameter. Behind a slash there is one less, but not
behind a star. -/
def ParameterMarks.rules (m : ParameterMarks) : Nat := if m.slash && !m.star then 5 else 6

/-- The kinds of arguments so far, of a class or of a call. -/
structure ArgumentMarks where
  ofClass : Bool
  positional : Bool
  keyword : Bool
  double : Bool

namespace ArgumentMarks

/-- How many rules lead to an argument by position. The first of a call may also be the member of a
generator, which is tried first. -/
def positionalRules (m : ArgumentMarks) : Nat :=
  if m.positional then 6 else if m.ofClass then 5 else 2

/-- How many rules lead to the first argument by name, or to the first behind two stars. -/
def namedRules (m : ArgumentMarks) : Nat := if m.positional then 6 else 5

/-- How many rules lead to a further argument by name. -/
def keywordRules (m : ArgumentMarks) : Nat :=
  if m.keyword || m.double then m.namedRules + 1 else m.namedRules

/-- How many rules lead to a further argument behind two stars. -/
def doubleRules (m : ArgumentMarks) : Nat := if m.double then m.namedRules + 1 else m.namedRules

/-- How many rules lead to an argument behind a star. -/
def starRules (m : ArgumentMarks) : Nat :=
  if m.keyword then m.keywordRules + 1 else if m.positional then 6 else 5

end ArgumentMarks

/-- Room for the names that the expressions of a list open with, where they may be the targets of
an assignment. -/
structure Lead where
  first : List Nat
  others : Nat

/-- How many more rules lead to a target behind a comma, and to one behind a star. -/
def furtherRules : Nat := 2

mutual

/-- An expression. -/
def expression : (limit : Nat) → Read Expr
  | 0 => refuse
  | n + 1 => along 1 do
    if ← acceptWord "lambda" then
      inside 1 do
        let ps ← parameters n false (.op ":") ⟨false, false, false, false⟩
        return .other [.other ps, ← expression n]
    else
      let e ← binary n 0
      if ← acceptWord "if" then
        inside 0 do
          let condition ← binary n 0
          expectWord "else"
          return .other [e, condition, ← expression n]
      else return e

/-- Operands of a level and of those that bind tighter. -/
def binary : (limit : Nat) → (level : Nat) → Read Expr
  | 0, _ => refuse
  | n + 1, level => do
    if level = signLevel then signed n
    else along (levelRules level) do
      if level = 2 then
        if ← acceptWord "not" then return .other [← inside 0 (binary n 2)] else binary n 3
      else
        let e ← binary n (level + 1)
        match ← operands n level with
        | [] => return e
        | es =>
          if isFlat level then return .other (e :: es)
          else return es.foldl (fun e e' => .other [e, e']) e

/-- Further operands of a level. -/
def operands : (limit : Nat) → (level : Nat) → Read (List Expr)
  | 0, _ => refuse
  | n + 1, level => do
    if ← acceptOperator level then
      let e ← inside (operandRules level) (binary n (level + 1))
      return e :: (← operands n level)
    else return []

/-- Signs in front of a power. -/
def signed : (limit : Nat) → Read Expr
  | 0 => refuse
  | n + 1 => along 1 do
    if ← acceptOp "-" then return .negative (← inside 0 (signed n))
    else if ← acceptOp "+" then return .positive (← inside 0 (signed n))
    else if ← acceptOp "~" then return .other [← inside 0 (signed n)]
    else along 1 do
      let e ← along 1 do
        if ← acceptWord "await" then return .other [← inside 0 (primary n)] else primary n
      if ← acceptOp "**" then return .other [e, ← inside 0 (signed n)] else return e

/-- A name, a literal or something in brackets, with what is behind it. -/
def primary : (limit : Nat) → Read Expr
  | 0 => refuse
  | n + 1 => fun room =>
    match room.fronts with
    | [] => along 2 (do trailers n (← atom n)) room
    | here :: fronts =>
      (do
        let isBracketed := (← peek) == some (Lexeme.op "(")
        let e ← atom n
        let behind := if isBracketed && e.isPlace then fronts[1]?.getD here else here
        fun _ => trailers n e ⟨behind, []⟩) ⟨here, fronts.take 1⟩

/-- Attributes, calls and subscripts behind an expression. -/
def trailers : (limit : Nat) → Expr → Read Expr
  | 0, _ => refuse
  | n + 1, e => do
    if ← acceptOp "." then trailers n (.dotted e (← name))
    else if ← acceptOp "(" then
      let (args, named) ← arguments n ⟨false, false, false, false⟩
      trailers n (.call e args named)
    else if ← acceptOp "[" then
      let index ← inside 1 (slices n)
      trailers n (.subscript e index)
    else return e

/-- The arguments of a call, up to its closing bracket: those by position and those by name. -/
def arguments : (limit : Nat) → ArgumentMarks → Read (List Expr × List Expr)
  | 0, _ => refuse
  | n + 1, marks => do
    if ← acceptOp ")" then return ([], [])
    else if ← acceptOp "**" then
      let e ← inside marks.doubleRules (expression n)
      nextArgument n [] [.other [e]] { marks with double := true }
    else if ← acceptOp "*" then
      if marks.double then refuse
      let e ← inside marks.starRules (expression n)
      nextArgument n [.starred e] []
        (if marks.keyword then marks else { marks with positional := true })
    else if ← nameBefore "=" then
      let _ ← name
      expectOp "="
      let e ← inside marks.keywordRules (expression n)
      nextArgument n [] [.other [e]] { marks with keyword := true }
    else
      if marks.keyword || marks.double then refuse
      let e ← inside marks.positionalRules (assignable n)
      if !marks.ofClass && !marks.positional && (← atClause) then
        let cs ← inside 1 (clauses n)
        expectOp ")"
        return ([.other (e :: cs)], [])
      else nextArgument n [e] [] { marks with positional := true }

/-- What follows an argument: further ones or the closing bracket. -/
def nextArgument : (limit : Nat) → (found named : List Expr) → ArgumentMarks →
    Read (List Expr × List Expr)
  | 0, _, _, _ => refuse
  | n + 1, found, named, marks => do
    if ← acceptOp "," then
      let (args, more) ← arguments n marks
      return (found ++ args, named ++ more)
    else
      expectOp ")"
      return (found, named)

/-- An expression, or a name with a value for it. -/
def assignable : (limit : Nat) → Read Expr
  | 0 => refuse
  | n + 1 => do
    if ← nameBefore ":=" then
      let target ← name
      expectOp ":="
      return .other [.name target, ← inside 1 (expression n)]
    else expression n

/-- An expression, perhaps with a name for its value. -/
def named : (limit : Nat) → Read Expr
  | 0 => refuse
  | n + 1 => along 1 (assignable n)

/-- A member of a sequence: an expression, perhaps named, or one put in the place of its members. -/
def member : (limit : Nat) → Read Expr
  | 0 => refuse
  | n + 1 => along 1 do
    if ← acceptOp "*" then return .starred (← inside 0 (binary n starLevel)) else named n

/-- Members up to a closing bracket, which may be the first of all. -/
def members : (limit : Nat) → (first : Bool) → (closing : String) → Read (List Expr)
  | 0, _, _ => refuse
  | n + 1, first, closing => do
    if ← acceptOp closing then return []
    else
      let e ← inside (if first then 2 else 3) (member n)
      if ← acceptOp "," then return e :: (← members n false closing)
      else
        expectOp closing
        return [e]

/-- Expressions divided by commas, which make a tuple. They may be targets if there is a lead. -/
def expressions : (limit : Nat) → Option Lead → Read Expr
  | 0, _ => refuse
  | n + 1, lead => inside 1 do
    let e ← starOr n (lead.map fun l => (l.first, l.others - furtherRules))
    if ← acceptOp "," then
      let others := (lead.filter fun _ => e.isTarget).map (·.others - furtherRules)
      return .tuple (e :: (← inside 2 (moreExpressions n others)))
    else return e

/-- An expression, or one put in the place of its members. There may be fronts for both. -/
def starOr : (limit : Nat) → Option (List Nat × Nat) → Read Expr
  | 0, _ => refuse
  | n + 1, fronts => inside 1 do
    if ← acceptOp "*" then
      return .starred (← fun room =>
        binary n starLevel { room with fronts := (fronts.map fun f => [f.2]).getD [] })
    else fun room => expression n { room with fronts := (fronts.map (·.1)).getD [] }

/-- Further expressions behind a comma. There may be a front for targets. -/
def moreExpressions : (limit : Nat) → (others : Option Nat) → Read (List Expr)
  | 0, _ => refuse
  | n + 1, others => do
    if ← atExpr then
      let e ← starOr n (others.map fun f => ([f], f - furtherRules))
      if ← acceptOp "," then
        return e :: (← moreExpressions n (others.filter fun _ => e.isTarget))
      else return [e]
    else return []

/-- What is yielded, behind the keyword. -/
def yielded : (limit : Nat) → Read Expr
  | 0 => refuse
  | n + 1 => inside 1 do
    if ← acceptWord "from" then return .yieldFrom (← expression n)
    else if ← atExpr then return .other [← expressions n none]
    else return .other []

/-- A value: expressions, or what is yielded. -/
def valueOrYield : (limit : Nat) → Option Lead → Read Expr
  | 0, _ => refuse
  | n + 1, lead => do
    if ← acceptWord "yield" then yielded n else expressions n lead

/-- Targets of a loop, up to the word that names its source. -/
def targets : (limit : Nat) → Read Expr
  | 0 => refuse
  | n + 1 => do
    let e ← target n 5
    if ← acceptOp "," then return .tuple (e :: (← moreTargets n)) else return e

/-- Further targets behind a comma. -/
def moreTargets : (limit : Nat) → Read (List Expr)
  | 0 => refuse
  | n + 1 => do
    if (← peek) = some (.keyword "in") then return []
    else
      let e ← target n (5 + furtherRules)
      if ← acceptOp "," then return e :: (← moreTargets n) else return [e]

/-- A target that some rules lead to. -/
def target : (limit : Nat) → (rules : Nat) → Read Expr
  | 0, _ => refuse
  | n + 1, rules => do
    let isStarred ← acceptOp "*"
    let e ← fronted [if isStarred then rules + furtherRules else rules] (primary n)
    let e := if isStarred then .starred e else e
    if e.isTarget then return e else refuse

/-- The loops of a comprehension with their conditions. There is at least one loop. -/
def clauses : (limit : Nat) → Read (List Expr)
  | 0 => refuse
  | n + 1 => do
    let c ← inside 3 do
      let _ ← acceptWord "async"
      expectWord "for"
      let t ← targets n
      expectWord "in"
      let source ← binary n 0
      return .other (t :: source :: (← inside 2 (conditions n)))
    if ← atClause then return c :: (← clauses n) else return [c]

/-- The conditions behind a loop of a comprehension. -/
def conditions : (limit : Nat) → Read (List Expr)
  | 0 => refuse
  | n + 1 => do
    if ← acceptWord "if" then
      let e ← binary n 0
      return e :: (← conditions n)
    else return []

/-- The inside of a subscript, up to its closing bracket. -/
def slices : (limit : Nat) → Read Expr
  | 0 => refuse
  | n + 1 => do
    let isStarred ← acceptOp "*"
    let e ← if isStarred then inside 3 (expression n) else inside 1 (slice n)
    let e := if isStarred then .starred e else e
    if ← acceptOp "," then return .tuple (e :: (← moreSlices n))
    else
      expectOp "]"
      return if isStarred then .tuple [e] else e

/-- Further members of a subscript, up to its closing bracket. -/
def moreSlices : (limit : Nat) → Read (List Expr)
  | 0 => refuse
  | n + 1 => do
    if ← acceptOp "]" then return []
    else
      let isStarred ← acceptOp "*"
      let e ← inside 4 (if isStarred then expression n else slice n)
      let e := if isStarred then .starred e else e
      if ← acceptOp "," then return e :: (← moreSlices n)
      else
        expectOp "]"
        return [e]

/-- One index or one range. -/
def slice : (limit : Nat) → Read Expr
  | 0 => refuse
  | n + 1 => do
    if ← nameBefore ":=" then named n
    else
      let first ← bound n
      if ← acceptOp ":" then
        let last ← bound n
        if ← acceptOp ":" then return .other (first ++ last ++ (← inside 1 (bound n)))
        else return .other (first ++ last)
      else
        match first with
        | [e] => return e
        | _ => refuse

/-- A bound of a range, if there is one. -/
def bound : (limit : Nat) → Read (List Expr)
  | 0 => refuse
  | n + 1 => do
    if (← peek).any opensExpr then return [← expression n] else return []

/-- The parameters of a function, up to a closing lexeme, which is taken. -/
def parameters : (limit : Nat) → (annotated : Bool) → (closing : Lexeme) →
    ParameterMarks → Read (List Expr)
  | 0, _, _, _ => refuse
  | n + 1, annotated, closing, marks => do
    if ← accept closing then return []
    else if ← acceptOp "/" then
      if !marks.any || marks.slash || marks.star then refuse
      nextParameter n [] annotated closing { marks with slash := true }
    else if ← acceptOp "**" then
      let _ ← name
      let a ← annotation n annotated false 7
      let _ ← acceptOp ","
      expect closing
      return [.other a]
    else if ← acceptOp "*" then
      if marks.star then refuse
      let marks := { marks with star := true }
      if ← acceptOp "," then
        match ← peek with
        | some (.name _) | some (.softKeyword _) => parameters n annotated closing marks
        | _ => refuse
      else
        let _ ← name
        let a ← annotation n annotated true 6
        nextParameter n [.other a] annotated closing marks
    else
      let _ ← name
      let a ← annotation n annotated false (marks.rules + 1)
      if ← acceptOp "=" then
        let e ← inside marks.rules (expression n)
        nextParameter n [.other a, e] annotated closing { marks with any := true, default := true }
      else
        if marks.default && !marks.star then refuse
        nextParameter n [.other a] annotated closing { marks with any := true }

/-- What follows a parameter: further ones or the closing lexeme. -/
def nextParameter : (limit : Nat) → (found : List Expr) → (annotated : Bool) →
    (closing : Lexeme) → ParameterMarks → Read (List Expr)
  | 0, _, _, _, _ => refuse
  | n + 1, found, annotated, closing, marks => do
    if ← acceptOp "," then return found ++ (← parameters n annotated closing marks)
    else
      expect closing
      return found

/-- The annotation of a parameter that some rules lead to, where there may be one. -/
def annotation : (limit : Nat) → (annotated starred : Bool) → (rules : Nat) → Read (List Expr)
  | 0, _, _, _ => refuse
  | n + 1, annotated, starred, rules => do
    if annotated then
      if ← acceptOp ":" then
        if starred && (← peek) = some (.op "*") then
          expectOp "*"
          return [.starred (← inside (rules + 1) (binary n starLevel))]
        else return [← inside rules (expression n)]
    return []

/-- A name, a literal, or something in brackets. -/
def atom : (limit : Nat) → Read Expr
  | 0 => refuse
  | n + 1 => along 1 do
    match ← get with
    | [] => refuse
    | l :: rest =>
      match l with
      | .text _ => inside 0 (texts n none)
      | .name s => set rest; return .name s
      | .softKeyword s => set rest; return .name s
      | .whole k => set rest; return .whole k
      | .real r => set rest; return .real r
      | .imaginary => set rest; return .other []
      | .keyword w =>
        if ["None", "True", "False"].contains w then set rest; return .other [] else refuse
      | .op o =>
        set rest
        if o = "(" then inParentheses n
        else if o = "[" then inside 0 (inBrackets n)
        else if o = "\x7b" then inside 0 (inBraces n)
        else if o = "..." then return .other []
        else refuse
      | _ => refuse

/-- String literals side by side, which are one, with what was found in those so far. Bytes do not
mix with others. A formatted one holds expressions between brackets. -/
def texts : (limit : Nat) → (sofar : Option (Bool × Option (List Expr))) → Read Expr
  | 0, _ => refuse
  | n + 1, sofar => do
    match ← get with
    | .text l :: rest =>
      if sofar.any fun k => k.1 != l.isBytes then refuse
      match l.fields? with
      | none => refuse
      | some sources =>
        let es ← fields n sources
        set rest
        let found := sofar.bind (·.2)
        texts n (some (l.isBytes, if l.isFormatted then some (found.getD [] ++ es) else found))
    | _ =>
      match sofar with
      | some (false, none) => return .text
      | some (_, some es) => return .other es
      | _ => return .other []

/-- The expressions in the fields of a literal. Each is read by itself, and is wrapped once for its
field and twice for every field around it. -/
def fields : (limit : Nat) → List (Nat × List Char) → Read (List Expr)
  | 0, _ => refuse
  | _ + 1, [] => return []
  | n + 1, (level, source) :: sources => do
    match lexemes (String.ofList ('(' :: source ++ [')'])) with
    | none => refuse
    | some ls =>
      set ls
      let e ← fun _ => inside 1 (expressions n none) ⟨depthLimit, []⟩
      if (← get) ≠ [.newline] then refuse
      let e := (List.range (2 * level + 1)).foldl (fun e _ => .other [e]) e
      return e :: (← fields n sources)

/-- A tuple, something in brackets, or a generator. -/
def inParentheses : (limit : Nat) → Read Expr
  | 0 => refuse
  | n + 1 => do
    if ← acceptOp ")" then return .tuple []
    else if ← acceptWord "yield" then
      let e ← inside 3 (yielded n)
      expectOp ")"
      return e
    else
      let e ← along 3 (member n)
      if ← acceptOp "," then return .tuple (e :: (← inside 3 (members n true ")")))
      else
        match e with
        | .starred _ => refuse
        | e =>
          if ← acceptOp ")" then return e
          else
            let cs ← inside 2 (clauses n)
            expectOp ")"
            return .other (e :: cs)

/-- A list. -/
def inBrackets : (limit : Nat) → Read Expr
  | 0 => refuse
  | n + 1 => do
    if ← acceptOp "]" then return .list []
    else
      let e ← inside 4 (member n)
      if ← acceptOp "," then return .list (e :: (← inside 2 (members n false "]")))
      else if ← acceptOp "]" then return .list [e]
      else
        match e with
        | .starred _ => refuse
        | _ =>
          let cs ← inside 2 (clauses n)
          expectOp "]"
          return .other (e :: cs)

/-- A set or a dictionary. What opens one is tried as a key first. -/
def inBraces : (limit : Nat) → Read Expr
  | 0 => refuse
  | n + 1 => do
    if ← acceptOp "\x7d" then return .other []
    else if (← peek) = some (.op "**") then return .other (← inside 2 (pairs n true))
    else if (← peek) = some (.op "*") || (← nameBefore ":=") then
      restOfSet n (← inside 4 (member n))
    else
      let e ← inside 6 (expression n)
      if ← acceptOp ":" then
        let value ← inside 6 (expression n)
        if ← acceptOp "," then return .other (e :: value :: (← inside 2 (pairs n false)))
        else if ← acceptOp "\x7d" then return .other [e, value]
        else
          let cs ← inside 2 (clauses n)
          expectOp "\x7d"
          return .other (e :: value :: cs)
      else restOfSet n e

/-- What follows the first member of a set. -/
def restOfSet : (limit : Nat) → Expr → Read Expr
  | 0, _ => refuse
  | n + 1, e => do
    if ← acceptOp "," then return .other (e :: (← inside 2 (members n false "\x7d")))
    else if ← acceptOp "\x7d" then return .other [e]
    else
      match e with
      | .starred _ => refuse
      | _ =>
        let cs ← inside 2 (clauses n)
        expectOp "\x7d"
        return .other (e :: cs)

/-- Pairs of a dictionary, up to its closing bracket: keys and values in turn. -/
def pairs : (limit : Nat) → (first : Bool) → Read (List Expr)
  | 0, _ => refuse
  | n + 1, first => do
    if ← acceptOp "\x7d" then return []
    else
      let found ← inside (if first then 3 else 4) do
        if ← acceptOp "**" then return [← binary n starLevel]
        else inside 1 do
          let key ← expression n
          expectOp ":"
          return [key, ← expression n]
      if ← acceptOp "," then return found ++ (← pairs n false)
      else
        expectOp "\x7d"
        return found

end

end Script
end Choreo
