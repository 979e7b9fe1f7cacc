import Choreo.Script.Lexeme

/-!
Readers of lexemes.

A reader takes lexemes off the front of a list, and refuses a list where the grammar has no answer.
It also refuses what nests too deep. Depth is counted in rules of the grammar that are open inside
each other, so a reader says how many rules lead from it to what it reads.
-/

namespace Choreo
namespace Script

/-- Why a script is not read. -/
inductive Refusal where
  | malformed
  | tooDeep
  deriving DecidableEq, Repr

/-- How many more rules may open inside each other. -/
structure Room where
  here : Nat
  /-- Room inside the rule for a name with what is behind it, where a name comes next that may be
  the target of an assignment: it is read as one before it is read as an expression. The second is
  for such a name behind an opening bracket, and the third for what is behind a target in
  brackets. -/
  fronts : List Nat

/-- Reads something off the front of a list of lexemes. -/
abbrev Read (β : Type) := ReaderT Room (StateT (List Lexeme) (Except Refusal)) β

namespace Read
variable {β : Type}

/-- How many rules may be open inside each other. -/
def depthLimit : Nat := 6000

/-- What a reader makes of a whole list of lexemes. -/
def all? (x : Read β) (ls : List Lexeme) : Option (β × List Lexeme) :=
  match (x.run ⟨depthLimit, []⟩).run ls with
  | .ok r => some r
  | .error _ => none

/-- There is no such text. -/
def refuse : Read β := throw .malformed

/-- Tries a reader, and another one from the same place if the first finds a text malformed. -/
def orElse (x y : Read β) : Read β := fun room ls =>
  match x room ls with
  | .error .malformed => y room ls
  | r => r

/-- Reads behind some more rules. What a text opens with is still to come. -/
def along (rules : Nat) (x : Read β) : Read β := fun room =>
  if room.here < rules then throw .tooDeep else x { room with here := room.here - rules }

/-- Reads behind some more rules, where nothing is a target. -/
def inside (rules : Nat) (x : Read β) : Read β := fun room =>
  if room.here < rules then throw .tooDeep else x ⟨room.here - rules, []⟩

/-- Reads where the names that come next may be targets, which that many rules lead to. -/
def fronted (rules : List Nat) (x : Read β) : Read β := fun room =>
  x { room with fronts := rules.map (room.here - ·) }

/-! ## Single lexemes -/

/-- The next lexeme. -/
def peek : Read (Option Lexeme) := do return (← get).head?

/-- Takes the next lexeme if it is the given one. -/
def accept (l : Lexeme) : Read Bool := do
  match ← get with
  | x :: rest => if x = l then set rest; return true else return false
  | [] => return false

def expect (l : Lexeme) : Read Unit := do
  if ← accept l then return () else refuse

def acceptOp (s : String) : Read Bool := accept (.op s)

def acceptWord (s : String) : Read Bool := accept (.keyword s)

def expectOp (s : String) : Read Unit := expect (.op s)

def expectWord (s : String) : Read Unit := expect (.keyword s)

/-- Takes a name. -/
def name : Read String := do
  match ← get with
  | .name s :: rest => set rest; return s
  | .softKeyword s :: rest => set rest; return s
  | _ => refuse

/-- Whether the next lexemes are a name and an operator. -/
def nameBefore (op : String) : Read Bool := do
  match ← get with
  | .name _ :: .op o :: _ => return o == op
  | .softKeyword _ :: .op o :: _ => return o == op
  | _ => return false

end Read
end Script
end Choreo
