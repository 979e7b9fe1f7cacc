import Choreo.Number.Quantity
import Choreo.Script.Statement
import Choreo.Timeline

/-!
How long a flow takes, read off its script without running it.

Only what is run to its end with `yield from` takes time. Parallel calls take as long as the
longest, sequences as long as all together, and a delay comes on top of what it delays. For any
other call the last number among its arguments is its duration: that is the convention of
animations, not something the script could tell. A loop over a range with literal bounds multiplies
its body, and a branch takes the longer side. Numbers that are out of range leave no estimate.
-/

namespace Choreo
namespace Script

/-! ## Calls -/

/-- Names of calls that run their arguments in parallel. -/
def parallelNames : List String := ["all_of", "all"]

/-- Names of calls that run their arguments one after another. -/
def sequenceNames : List String := ["chain"]

/-- Names of calls that wait. -/
def waitNames : List String := ["wait_for", "waitFor"]

/-- Names of calls that run an argument later. -/
def delayNames : List String := ["delay"]

/-- Names of calls on a target that show a content. -/
def contentNames : List String := ["text"]

/-- The longest count of a loop. -/
def countLimit : Nat := 9223372036854775807

namespace Expr
variable {α : Type} [Scalar α]

/-- The value of a number, perhaps behind signs. -/
def literal? : Expr → Except NumberFault (Option α)
  | negative e => do return (← literal? e).map fun x => -x
  | positive e => literal? e
  | whole n => do return some (← Quantity.ofWhole n)
  | real r => .ok (some (Scalar.ofReading r))
  | _ => .ok none

/-- The duration a number stands for. What is not a number takes no time. -/
def literalDuration (e : Expr) : Except NumberFault α := do
  match ← literal? e with
  | some x => return Scalar.larger x Scalar.zero
  | none => return Scalar.zero

def isStarred : Expr → Bool
  | starred _ => true
  | _ => false

/-- The name a call goes by. -/
def calledName? : Expr → Option String
  | name id => some id
  | dotted _ n => some n
  | _ => none

def isDotted : Expr → Bool
  | dotted _ _ => true
  | _ => false

/-- The duration that the first number among expressions stands for. -/
def firstDuration : List Expr → Except NumberFault α
  | [] => .ok Scalar.zero
  | e :: es => do
    match ← literal? e with
    | some x => return Scalar.larger x Scalar.zero
    | none => firstDuration es

/-- The duration of an argument at a place, where there is one. -/
def durationAt (args : List Expr) (place : Nat) : Except NumberFault α :=
  match args[place]? with
  | some e => literalDuration e
  | none => .ok Scalar.zero

/-- The largest of a list, from the left. -/
def longest : List α → α
  | [] => Scalar.zero
  | x :: xs => xs.foldl Scalar.larger x

mutual

/-- How long a task takes that an expression makes. -/
def taskDuration : Expr → Except NumberFault α
  | call f args _ =>
    let plain := args.filter fun a => !a.isStarred
    match f.calledName? with
    | none => firstDuration plain.reverse
    | some n =>
      if parallelNames.contains n then (taskDurations args).map longest
      else if sequenceNames.contains n then (taskDurations args).map Scalar.sum
      else if waitNames.contains n then durationAt plain 0
      else if delayNames.contains n then do
        if plain.isEmpty then return Scalar.zero
        let inner ← secondTask false args
        return (← durationAt plain 0) + inner
      else if contentNames.contains n && f.isDotted then durationAt plain 1
      else firstDuration plain.reverse
  | _ => .ok Scalar.zero

/-- How long each of several tasks takes. -/
def taskDurations : List Expr → Except NumberFault (List α)
  | [] => .ok []
  | e :: es => do
    if e.isStarred then taskDurations es
    else
      let d ← taskDuration e
      return d :: (← taskDurations es)

/-- How long the second of several tasks takes, of which the first may have been met. -/
def secondTask (met : Bool) : List Expr → Except NumberFault α
  | [] => .ok Scalar.zero
  | e :: es =>
    if e.isStarred then secondTask met es
    else if met then taskDuration e
    else secondTask true es

end

/-! ## Loops -/

/-- The numbers as whole ones, if they all are. -/
def wholes : List (Option α) → Except NumberFault (Option (List Int))
  | [] => .ok (some [])
  | none :: _ => .ok none
  | some x :: xs => do
    let n ← Scalar.truncate x
    if Scalar.ofInt n == x then return (← wholes xs).map (n :: ·) else return none

/-- How many numbers lie from a start before a stop in steps. There are no steps of nought. -/
def rangeLength (start stop step : Int) : Nat :=
  if 0 < step then ((stop - start + step - 1) / step).toNat
  else ((start - stop - step - 1) / -step).toNat

/-- The bounds of a range from one to three numbers. -/
def rangeBounds? : List Int → Option (Int × Int × Int)
  | [stop] => some (0, stop, 1)
  | [start, stop] => some (start, stop, 1)
  | [start, stop, step] => some (start, stop, step)
  | _ => none

/-- How often a loop over an expression runs. It counts once where that cannot be told. -/
def iterations (α : Type) [Scalar α] : Expr → Except NumberFault Nat
  | list es => .ok es.length
  | tuple es => .ok es.length
  | call (name "range") args [] => do
    if args.isEmpty || 3 < args.length then return 1
    let values : List (Option α) ← args.mapM literal?
    match (← wholes values).bind rangeBounds? with
    | none => return 1
    | some (start, stop, step) =>
      if step = 0 then return 1
      let n := rangeLength start stop step
      if countLimit < n then .error .overflow else return n
  | _ => .ok 1

/-- How long an expression takes as a statement. -/
def duration : Expr → Except NumberFault α
  | yieldFrom e => taskDuration e
  | _ => .ok Scalar.zero

end Expr

/-! ## Statements -/

namespace Stmt
variable {α : Type} [Scalar α]

mutual

/-- How long a statement takes at most. -/
def duration : Stmt → Except NumberFault α
  | expression e => e.duration
  | assign _ (some e) => e.duration
  | loop _ source body otherwise => do
    let n ← source.iterations α
    let d ← durations body
    return Scalar.ofNat n * d + (← durations otherwise)
  | whileLoop _ body otherwise => do
    let d ← durations body
    return d + (← durations otherwise)
  | branch _ body otherwise => do
    let d ← durations body
    return Scalar.larger d (← durations otherwise)
  | context _ body => durations body
  | attempt body _ otherwise last => do
    let d ← durations body
    let d' ← durations otherwise
    return d + d' + (← durations last)
  | assign _ none => .ok Scalar.zero
  | function _ _ _ => .ok Scalar.zero
  | clause _ _ => .ok Scalar.zero
  | other _ _ => .ok Scalar.zero
  | simple _ => .ok Scalar.zero

/-- How long a block takes at most. -/
def durations (body : List Stmt) : Except NumberFault α := durationsFrom Scalar.zero body

/-- How long a block takes at most on top of what came before. -/
def durationsFrom (sofar : α) : List Stmt → Except NumberFault α
  | [] => .ok sofar
  | s :: rest => do
    let d ← duration s
    durationsFrom (sofar + d) rest

end

/-- A block without the text that describes it. -/
def withoutDescription : List Stmt → List Stmt
  | expression .text :: rest => rest
  | body => body

/-- The transition a block opens with. -/
def transition? (body : List Stmt) : Except NumberFault (Option (Transition α)) :=
  match withoutDescription body with
  | expression (.yieldFrom (.call (.name id) args named)) :: _ =>
    match TransitionKind.ofName? id with
    | none => .ok none
    | some kind => do
      return some ⟨kind, ← Expr.taskDuration (.call (.name id) args named)⟩
  | _ => .ok none

/-- The estimate for a block. -/
def estimate (body : List Stmt) : Except NumberFault (Estimate α) := do
  let d ← durations body
  return ⟨d, ← transition? body⟩

end Stmt

/-! ## Reach -/

namespace Expr

/-- How far a look at a number goes: sign by sign. -/
def literalReach : Expr → Nat
  | negative e => literalReach e + 1
  | positive e => literalReach e + 1
  | _ => 1

/-- Whether an expression is a number, perhaps behind signs. -/
def isLiteral : Expr → Bool
  | negative e => isLiteral e
  | positive e => isLiteral e
  | whole _ => true
  | real _ => true
  | _ => false

/-- How far the search for the first number among expressions goes. -/
def firstReach : List Expr → Nat
  | [] => 0
  | e :: es => if e.isLiteral then e.literalReach else max e.literalReach (firstReach es)

/-- How far the look at an argument at a place goes, where there is one. -/
def reachAt (args : List Expr) (place : Nat) : Nat :=
  ((args[place]?).map fun e => e.literalReach + 1).getD 0

mutual

/-- How far the duration of a task leads from call to call. -/
def taskReach : Expr → Nat
  | call f args _ =>
    let plain := args.filter fun a => !a.isStarred
    match f.calledName? with
    | none => firstReach plain.reverse + 1
    | some n =>
      if parallelNames.contains n then taskReaches args + 3
      else if sequenceNames.contains n then taskReaches args + 2
      else if waitNames.contains n then reachAt plain 0 + 1
      else if delayNames.contains n then max (reachAt plain 0) (secondReach false args) + 1
      else if contentNames.contains n && f.isDotted then reachAt plain 1 + 1
      else firstReach plain.reverse + 1
  | _ => 1

def taskReaches : List Expr → Nat
  | [] => 0
  | e :: es => if e.isStarred then taskReaches es else max (taskReach e) (taskReaches es)

/-- How far the second of several tasks leads, of which the first may have been met. -/
def secondReach (met : Bool) : List Expr → Nat
  | [] => 0
  | e :: es =>
    if e.isStarred then secondReach met es
    else if met then taskReach e
    else secondReach true es

end

/-- How far the count of a loop over an expression goes. -/
def sourceReach : Expr → Nat
  | call (name "range") args [] =>
    if args.isEmpty || 3 < args.length then 1 else (args.map literalReach).foldl max 0 + 2
  | _ => 1

/-- How far the duration of an expression as a statement leads. -/
def reach : Expr → Nat
  | yieldFrom e => taskReach e + 1
  | _ => 1

end Expr

namespace Stmt

mutual

/-- How far the duration of a statement leads, from block to block and on into calls. -/
def reach : Stmt → Nat
  | expression e => e.reach + 1
  | assign _ (some e) => e.reach + 1
  | loop _ source body otherwise =>
    max source.sourceReach (max (reaches body) (reaches otherwise)) + 1
  | whileLoop _ body otherwise => max (reaches body) (reaches otherwise) + 1
  | branch _ body otherwise => max (reaches body) (reaches otherwise) + 1
  | context _ body => reaches body + 1
  | attempt body _ otherwise last =>
    max (max (reaches body) (reaches otherwise)) (reaches last) + 1
  | assign _ none => 1
  | function _ _ _ => 1
  | clause _ _ => 1
  | other _ _ => 1
  | simple _ => 1

/-- How far the duration of a block leads. -/
def reaches (body : List Stmt) : Nat := reachFrom body + 2

def reachFrom : List Stmt → Nat
  | [] => 0
  | s :: rest => max (reach s) (reachFrom rest)

end

/-- How far the duration of a block may lead. -/
def reachLimit : Nat := 985

end Stmt

/-! ## Sources -/

/-- How long a scene takes that nothing is known of. -/
def usualFallback {α : Type} [Scalar α] : α := Scalar.ofInt 10

/-- The estimate for the function of a name in a source. A source that cannot be read, has no such
function or leaves no estimate takes as long as the fallback says. -/
def estimate {α : Type} [Scalar α] (source name : String) (fallback : α) : Estimate α :=
  let body? := (ofSource? source).bind (find? name (nestingLimit source))
  match body? with
  | none => ⟨fallback, none⟩
  | some body =>
    if Stmt.reachLimit < Stmt.reaches body then ⟨fallback, none⟩
    else
      match Stmt.estimate body with
      | .ok e => e
      | .error _ => ⟨fallback, none⟩

end Script
end Choreo
