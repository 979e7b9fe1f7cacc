import Choreo.Script.Pattern

/-!
Reading statements.
-/

namespace Choreo
namespace Script

open Read

/-- Operators that assign in place. -/
def augmented : List String :=
  ["+=", "-=", "*=", "/=", "//=", "%=", "@=", "&=", "|=", "^=", "<<=", ">>=", "**="]

/-- Takes an operator that assigns in place. -/
def acceptAugmented : Read Bool := do
  match ← get with
  | .op o :: rest => if augmented.contains o then set rest; return true else return false
  | _ => return false

/-- Names divided by commas. -/
def names : (limit : Nat) → Read Unit
  | 0 => refuse
  | n + 1 => do
    let _ ← name
    if ← acceptOp "," then names n

/-- A name, perhaps behind another with a dot. -/
def dottedName : (limit : Nat) → Read Unit
  | 0 => refuse
  | n + 1 => do
    let _ ← name
    if ← acceptOp "." then dottedName n

/-- Another name for something, if there is one. -/
def otherName : Read Unit := do
  if ← acceptWord "as" then
    let _ ← name

/-- Modules divided by commas. -/
def modules : (limit : Nat) → Read Unit
  | 0 => refuse
  | n + 1 => do
    dottedName n
    otherName
    if ← acceptOp "," then modules n

/-- Imported names divided by commas. In brackets there may be a comma at the end. -/
def imported : (limit : Nat) → (bracketed : Bool) → Read Unit
  | 0, _ => refuse
  | n + 1, bracketed => do
    let _ ← name
    otherName
    if ← acceptOp "," then
      if bracketed && (← peek) = some (.op ")") then expectOp ")" else imported n bracketed
    else if bracketed then expectOp ")"

/-- Leading dots of a module. Reports whether there are any. -/
def dots : (limit : Nat) → Read Bool
  | 0 => refuse
  | n + 1 => do
    match ← peek with
    | some (.op o) =>
      if o = "." ∨ o = "..." then
        expectOp o
        let _ ← dots n
        return true
      else return false
    | _ => return false

/-- What is imported from a module, behind the first keyword. -/
def importFrom (limit : Nat) : Read Unit := do
  let relative ← dots limit
  if !(relative && (← peek) = some (.keyword "import")) then dottedName limit
  expectWord "import"
  if ← acceptOp "*" then return ()
  else if ← acceptOp "(" then imported limit true
  else imported limit false

/-! ## Assignments -/

/-- How many rules lead from a statement to a target before a sign. -/
def targetRules : Nat := 8

/-- How many rules lead from a statement to a target at its start, to one in brackets there, and to
what is behind such brackets: a target with an annotation is tried first. -/
def annotatedRules : List Nat := [5, 6, targetRules]

/-- The lead for targets that some rules lead to, where the room of the statement is given. -/
def Lead.ofRoom (room : Nat) (rules : List Nat) : Lead :=
  ⟨rules.map (room - ·), room - targetRules⟩

/-- What follows the first sign of a chain of assignments: further targets and the value at the
end. -/
def assigned : (limit : Nat) → Lead → Read (List Expr × Expr)
  | 0, _ => refuse
  | n + 1, lead => do
    let e ← inside 2 (valueOrYield n (some lead))
    if ← acceptOp "=" then
      if !e.isTarget then refuse
      let (targets, value) ← assigned n lead
      return (e :: targets, value)
    else return ([], e)

/-- An assignment or an expression. -/
def expressionStatement (limit : Nat) : Read Stmt := do
  let room := (← read).here
  let e ← expressions limit (some (.ofRoom room annotatedRules))
  if ← acceptOp ":" then
    if !e.isPlace then refuse
    let annotation ← inside 1 (expression limit)
    if ← acceptOp "=" then
      return .assign [e, annotation] (some (← inside 3 (valueOrYield limit none)))
    else return .assign [e, annotation] none
  else if ← acceptOp "=" then
    if !e.isTarget then refuse
    let (targets, value) ← assigned limit (.ofRoom room [targetRules])
    return .assign (e :: targets) (some value)
  else if ← acceptAugmented then
    if !e.isPlace then refuse
    return .assign [e] (some (← inside 2 (valueOrYield limit none)))
  else return .expression e

/-- Expressions that are deleted, divided by commas. There may be a comma at the end. -/
def deleted : (limit : Nat) → (first : Bool) → Read (List Expr)
  | 0, _ => refuse
  | n + 1, first => do
    if !first && !(← atExpr) then return []
    else
      let e ← fronted [if first then 5 else 6] (primary n)
      if !e.isDeletable then refuse
      if ← acceptOp "," then return e :: (← deleted n false) else return [e]

/-! ## Statements without blocks -/

/-- An expression behind a word, if the word is next. -/
def expressionBehind (limit : Nat) (word : Lexeme) : Read (List Expr) := do
  if ← accept word then return [← inside 1 (expression limit)] else return []

/-- A statement without a block. -/
def simpleStatement (limit : Nat) : Read Stmt := inside 1 do
  match ← get with
  | .keyword w :: rest =>
    if ["pass", "break", "continue"].contains w then
      set rest
      return .simple []
    else if w = "return" then
      set rest
      if ← atExpr then return .simple [← inside 1 (expressions limit none)] else return .simple []
    else if w = "raise" then
      set rest
      if (← peek).any opensExpr then
        inside 1 do
          let e ← expression limit
          return .simple (e :: (← expressionBehind limit (.keyword "from")))
      else return .simple []
    else if w = "global" ∨ w = "nonlocal" then
      set rest
      names limit
      return .simple []
    else if w = "del" then
      set rest
      return .simple (← inside 1 (deleted limit true))
    else if w = "assert" then
      set rest
      inside 1 do
        let e ← expression limit
        return .simple (e :: (← expressionBehind limit (.op ",")))
    else if w = "import" then
      set rest
      modules limit
      return .simple [.other []]
    else if w = "from" then
      set rest
      importFrom limit
      return .simple [.other []]
    else if w = "yield" then
      set rest
      return .expression (← inside 1 (yielded limit))
    else expressionStatement limit
  | _ => expressionStatement limit

/-- Statements without blocks on one line. -/
def simpleStatements : (limit : Nat) → (first : Bool) → Read (List Stmt)
  | 0, _ => refuse
  | n + 1, first => do
    let s ← inside (if first then 0 else 2) (simpleStatement n)
    if ← acceptOp ";" then
      if ← accept .newline then return [s] else return s :: (← simpleStatements n false)
    else
      expect .newline
      return [s]

/-! ## Heads of blocks -/

/-- What a context is, perhaps with a target for it. -/
def contextItem (limit : Nat) : Read Expr := do
  let e ← expression limit
  if ← acceptWord "as" then return .other [e, ← target limit 4] else return .other [e]

/-- Contexts divided by commas, up to a closing lexeme. In brackets there may be a comma at the
end. -/
def contextItems : (limit : Nat) → (bracketed first : Bool) → Read (List Expr)
  | 0, _, _ => refuse
  | n + 1, bracketed, first => do
    let e ← inside (if first then 2 else 3) (contextItem n)
    if ← acceptOp "," then
      if bracketed && (← peek) = some (.op ")") then
        expectOp ")"
        return [e]
      else return e :: (← contextItems n bracketed false)
    else
      if bracketed then expectOp ")"
      return [e]

/-- The contexts of a block, up to the colon. Brackets around all of them are tried first. -/
def contexts (limit : Nat) : Read (List Expr) :=
  orElse
    (do
      expectOp "("
      let es ← contextItems limit true true
      expectOp ":"
      return es)
    (do
      let es ← contextItems limit false true
      expectOp ":"
      return es)

/-- What is chosen by, up to the colon. -/
def subject (limit : Nat) : Read Expr := inside 1 do
  let e ← member limit
  if ← acceptOp "," then return .tuple (e :: (← members limit true ":"))
  else
    match e with
    | .starred _ => refuse
    | _ =>
      expectOp ":"
      return e

/-- Decorators, each on its line. -/
def decorators : (limit : Nat) → Read (List Expr)
  | 0 => refuse
  | n + 1 => do
    if ← acceptOp "@" then
      let e ← inside 4 (named n)
      expect .newline
      return e :: (← decorators n)
    else return []

/-! ## Statements -/

mutual

/-- A statement with blocks, or a line of statements without. -/
def statement : (limit : Nat) → Read (List Stmt)
  | 0 => refuse
  | n + 1 => inside 1 do
    match ← get with
    | .keyword w :: rest =>
      if w = "if" then
        set rest
        return [← inside 2 (branch n)]
      else if w = "while" then
        set rest
        inside 2 do
          let e ← named n
          expectOp ":"
          let body ← block n
          return [.whileLoop e body (← otherwise n)]
      else if w = "for" then
        set rest
        let (target, source, body, orElse) ← inside 2 (loop n)
        return [.loop target source body orElse]
      else if w = "with" then
        set rest
        inside 2 do
          let es ← contexts n
          return [.context es (← block n)]
      else if w = "try" then
        set rest
        return [← inside 2 (attempt n)]
      else if ["def", "class", "async"].contains w then return [← inside 1 (definition n [])]
      else inside 1 (simpleStatements n true)
    | .op "@" :: _ =>
      inside 1 do
        let es ← decorators n
        match ← get with
        | .keyword "async" :: .keyword "def" :: _ => return [← definition n es]
        | .keyword "def" :: _ => return [← definition n es]
        | .keyword "class" :: _ => return [← definition n es]
        | _ => refuse
    | .softKeyword "match" :: rest =>
      orElse (do set rest; return [← inside 2 (choice n)]) (inside 1 (simpleStatements n true))
    | _ => inside 1 (simpleStatements n true)

/-- A function, a class, or a block that runs beside others. -/
def definition : (limit : Nat) → (decorators : List Expr) → Read Stmt
  | 0, _ => refuse
  | n + 1, decorators => do
    if ← acceptWord "def" then
      let (f, head, body) ← inside 2 (function n)
      return .function f (head ++ decorators) body
    else if ← acceptWord "class" then
      let _ ← name
      inside 2 do
        let args ← if ← acceptOp "(" then
          let (args, named) ← inside 1 (arguments n ⟨true, false, false, false⟩)
          pure (args ++ named)
        else pure []
        expectOp ":"
        return .other (args ++ decorators) (← block n)
    else
      expectWord "async"
      if ← acceptWord "def" then
        let (_, head, body) ← inside 2 (function n)
        return .other (head ++ decorators) body
      else if ← acceptWord "for" then
        let (target, source, body, orElse) ← inside 1 (loop n)
        return .other [target, source] (body ++ orElse)
      else
        expectWord "with"
        inside 1 do
          let es ← contexts n
          return .other es (← block n)

/-- The name, the head and the body of a function, behind the keyword. -/
def function : (limit : Nat) → Read (String × List Expr × List Stmt)
  | 0 => refuse
  | n + 1 => do
    let f ← name
    expectOp "("
    let ps ← parameters n true (.op ")") ⟨false, false, false, false⟩
    let result ← expressionBehind n (.op "->")
    expectOp ":"
    return (f, .other ps :: result, ← block n)

/-- The target, the source and the blocks of a loop, behind the keyword. -/
def loop : (limit : Nat) → Read (Expr × Expr × List Stmt × List Stmt)
  | 0 => refuse
  | n + 1 => do
    let target ← targets n
    expectWord "in"
    let source ← expressions n none
    expectOp ":"
    let body ← block n
    return (target, source, body, ← otherwise n)

/-- The condition and the blocks of a branch, behind the keyword. -/
def branch : (limit : Nat) → Read Stmt
  | 0 => refuse
  | n + 1 => do
    let e ← named n
    expectOp ":"
    let body ← block n
    if ← acceptWord "elif" then return .branch e body [← inside 1 (branch n)]
    else return .branch e body (← otherwise n)

/-- The block for all other cases, if there is one. -/
def otherwise : (limit : Nat) → Read (List Stmt)
  | 0 => refuse
  | n + 1 => do
    if ← acceptWord "else" then
      expectOp ":"
      inside 1 (block n)
    else return []

/-- The block that is run at last, if there is one. -/
def last : (limit : Nat) → Read (List Stmt)
  | 0 => refuse
  | n + 1 => do
    if ← acceptWord "finally" then
      expectOp ":"
      inside 1 (block n)
    else return []

/-- The blocks of an attempt, behind the keyword. -/
def attempt : (limit : Nat) → Read Stmt
  | 0 => refuse
  | n + 1 => do
    expectOp ":"
    let body ← block n
    if (← peek) = some (.keyword "finally") then return .attempt body [] [] (← last n)
    else
      expectWord "except"
      let isGroup ← acceptOp "*"
      let handlers ← inside 2 (handlers n isGroup)
      let orElse ← otherwise n
      let final ← last n
      if isGroup then return .other [] (body ++ handlers ++ orElse ++ final)
      else return .attempt body handlers orElse final

/-- Handlers of an attempt, behind the keyword of the first and the star of a group. All handlers
are for groups or none. -/
def handlers : (limit : Nat) → (isGroup : Bool) → Read (List Stmt)
  | 0, _ => refuse
  | n + 1, isGroup => do
    let head ←
      if !isGroup && (← peek) = some (.op ":") then pure []
      else
        let e ← expression n
        otherName
        pure [e]
    expectOp ":"
    let body ← block n
    if ← acceptWord "except" then
      if (← acceptOp "*") = isGroup then
        return .clause head body :: (← handlers n isGroup)
      else refuse
    else return [.clause head body]

/-- A choice between cases, behind its keyword. -/
def choice : (limit : Nat) → Read Stmt
  | 0 => refuse
  | n + 1 => do
    let e ← subject n
    expect .newline
    expect .indent
    return .other [e] (← inside 2 (cases n))

/-- The cases of a choice. There is at least one. -/
def cases : (limit : Nat) → Read (List Stmt)
  | 0 => refuse
  | n + 1 => do
    expect (.softKeyword "case")
    let pattern ← Pattern.top n
    let guard ← if ← acceptWord "if" then pure [← inside 1 (named n)] else pure []
    expectOp ":"
    let body ← block n
    let c := .clause (pattern :: guard) body
    if ← accept .dedent then return [c] else return c :: (← cases n)

/-- A block: an indented one, or the rest of the line. -/
def block : (limit : Nat) → Read (List Stmt)
  | 0 => refuse
  | n + 1 => do
    if ← accept .newline then
      expect .indent
      inside 3 (statements n)
    else inside 2 (simpleStatements n true)

/-- The statements of an indented block, up to its end. There is at least one. -/
def statements : (limit : Nat) → Read (List Stmt)
  | 0 => refuse
  | n + 1 => do
    let s ← statement n
    if ← accept .dedent then return s else return s ++ (← statements n)

end

/-- The statements of a script. -/
def script : (limit : Nat) → Read (List Stmt)
  | 0 => refuse
  | n + 1 => do
    if (← peek).isNone then return []
    else
      let s ← inside 3 (statement n)
      return s ++ (← script n)

/-- More than any text nests. -/
def nestingLimit (source : String) : Nat := 64 * (source.length + 16)

/-- How deep the statements of a script may nest with their expressions. -/
def heightLimit : Nat := 2975

/-- The statements of a source, if it can be read and does not nest too deep. -/
def ofSource? (source : String) : Option (List Stmt) :=
  match lexemes source with
  | none => none
  | some ls =>
    match (script (nestingLimit source)).all? ls with
    | some (body, _) => if Stmt.height.heights body ≤ heightLimit then some body else none
    | none => none

end Script
end Choreo
