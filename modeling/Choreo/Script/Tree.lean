import Choreo.Text.Numeral

/-!
The parts of a script that matter to how long its flows take.

An expression tells apart calls and their arguments, numbers and their signs, and sequences; of
anything else it only says what its parts are. A statement keeps its blocks.
-/

namespace Choreo
namespace Script

inductive Expr where
  | name (id : String)
  /-- A member of something by its name. -/
  | dotted (of : Expr) (name : String)
  | subscript (of index : Expr)
  /-- A call. Each named argument is an expression around its value. -/
  | call (callee : Expr) (arguments named : List Expr)
  | whole (n : Nat)
  | real (r : Text.Reading)
  /-- A text without fields to fill in. -/
  | text
  | negative (e : Expr)
  | positive (e : Expr)
  /-- A sequence put in the place of its members. -/
  | starred (e : Expr)
  | tuple (members : List Expr)
  | list (members : List Expr)
  /-- Runs another routine to its end. -/
  | yieldFrom (e : Expr)
  /-- Anything else that has parts, such as a comparison, a parameter or a pattern. -/
  | other (parts : List Expr)

instance Expr.inhabited : Inhabited Expr := ⟨.other []⟩

namespace Expr

/-- How deep an expression nests. -/
def height : Expr → Nat
  | dotted e _ => height e + 1
  | subscript e i => max (height e) (height i) + 1
  | call f args named => max (height f) (max (heights args) (heights named)) + 1
  | negative e => height e + 1
  | positive e => height e + 1
  | starred e => height e + 1
  | tuple es => heights es + 1
  | list es => heights es + 1
  | yieldFrom e => height e + 1
  | other es => heights es + 1
  | name _ => 1
  | whole _ => 1
  | real _ => 1
  | text => 1
where
  heights : List Expr → Nat
    | [] => 0
    | e :: es => max (height e) (heights es)

end Expr

/-- A statement. The head of one is what it says outside of its blocks, as far as no more is to be
known of it. -/
inductive Stmt where
  | expression (e : Expr)
  /-- An assignment, perhaps of no value. -/
  | assign (head : List Expr) (value : Option Expr)
  /-- A loop over a source. -/
  | loop (target source : Expr) (body otherwise : List Stmt)
  /-- A loop under a condition. -/
  | whileLoop (condition : Expr) (body otherwise : List Stmt)
  | branch (condition : Expr) (body otherwise : List Stmt)
  /-- A block in contexts. -/
  | context (head : List Expr) (body : List Stmt)
  | attempt (body handlers otherwise last : List Stmt)
  | function (name : String) (head : List Expr) (body : List Stmt)
  /-- A handler of an attempt or a case of a choice. -/
  | clause (head : List Expr) (body : List Stmt)
  /-- Any other statement that holds statements. -/
  | other (head : List Expr) (parts : List Stmt)
  | simple (head : List Expr)

instance Stmt.inhabited : Inhabited Stmt := ⟨.simple []⟩

namespace Stmt

/-- The statements that are parts of a statement, in order. -/
def parts : Stmt → List Stmt
  | loop _ _ body otherwise => body ++ otherwise
  | whileLoop _ body otherwise => body ++ otherwise
  | branch _ body otherwise => body ++ otherwise
  | context _ body => body
  | attempt body handlers otherwise last => body ++ handlers ++ otherwise ++ last
  | function _ _ body => body
  | clause _ body => body
  | other _ parts => parts
  | expression _ => []
  | assign _ _ => []
  | simple _ => []

/-- How deep a statement and its expressions nest. -/
def height : Stmt → Nat
  | expression e => e.height + 1
  | assign head value => max (Expr.height.heights head) ((value.map Expr.height).getD 0) + 1
  | loop target source body otherwise =>
    max (max target.height source.height) (max (heights body) (heights otherwise)) + 1
  | whileLoop c body otherwise => max c.height (max (heights body) (heights otherwise)) + 1
  | branch c body otherwise => max c.height (max (heights body) (heights otherwise)) + 1
  | context head body => max (Expr.height.heights head) (heights body) + 1
  | attempt body handlers otherwise last =>
    max (max (heights body) (heights handlers)) (max (heights otherwise) (heights last)) + 1
  | function _ head body => max (Expr.height.heights head) (heights body) + 1
  | clause head body => max (Expr.height.heights head) (heights body) + 1
  | other head parts => max (Expr.height.heights head) (heights parts) + 1
  | simple head => Expr.height.heights head + 1
where
  heights : List Stmt → Nat
    | [] => 0
    | s :: rest => max (height s) (heights rest)

end Stmt

/-- The body of the first function of a name among statements, those that lie less deep first, to a
depth. -/
def find? (name : String) : (depth : Nat) → List Stmt → Option (List Stmt)
  | 0, _ => none
  | depth + 1, level =>
    let here := level.findSome? fun
      | .function n _ body => if n = name then some body else none
      | _ => none
    match here with
    | some body => some body
    | none => if level.isEmpty then none else find? name depth (level.flatMap Stmt.parts)

end Script
end Choreo
