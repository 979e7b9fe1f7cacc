import Choreo.Event
import Choreo.Text.Quoted
import Choreo.Token.Color

/-!
The stage: the targets a flow can animate.

A target has its class tokens and the values last applied to it. Targets are told apart by a handle:
an id that is registered again names a new target from then on, while an animation that began on the
old one keeps working on that. The host may supply an environment to read current values from;
without one, values are read off the class tokens. A stage without a sink shows nothing.
-/

namespace Choreo

/-- One animatable element. -/
structure Target (α : Type) where
  id : String
  classes : List String
  /-- The classes it was registered with. -/
  declared : List String
  /-- The values last applied, by key, in the order the keys first came. -/
  applied : List (String × Value α)

namespace Target
variable {α : Type}

def ofClasses (id classes : String) : Target α :=
  { id := id, classes := Token.split classes, declared := Token.split classes, applied := [] }

/-- The first class with the given beginning. -/
def findClass? (t : Target α) (start : String) : Option String :=
  t.classes.find? fun c => (Token.after? start c.toList).isSome

def classText (t : Target α) : String := " ".intercalate t.classes

/-- How a target is shown in messages. -/
def describe (t : Target α) : String :=
  "Target(" ++ Text.quoted t.id ++ ", classes=" ++ Text.quoted t.classText ++ ")"

end Target

/-- A table that keeps the order in which keys first came, with a key's new value in its place. -/
def assign {β : Type} (key : String) (b : β) : List (String × β) → List (String × β)
  | [] => [(key, b)]
  | (k, a) :: rest => if k = key then (key, b) :: rest else (k, a) :: assign key b rest

/-- Which target of a stage is meant: its number in the order of registration. -/
abbrev Handle := Nat

structure Stage (α : Type) where
  /-- Every target ever registered, in order. -/
  targets : List (Target α)
  /-- The handle each id names now, in the order the ids first came. -/
  names : List (String × Handle)
  /-- Current values as the host reports them. -/
  environment : Option (String → String → Value α)
  hasSink : Bool

namespace Stage
variable {α : Type}

def empty (environment : Option (String → String → Value α)) (hasSink : Bool) : Stage α :=
  { targets := [], names := [], environment := environment, hasSink := hasSink }

def ids (s : Stage α) : List String := s.names.map (·.1)

def handle? (s : Stage α) (id : String) : Option Handle := s.names.lookup id

def target? (s : Stage α) (id : String) : Option (Target α) :=
  (s.handle? id).bind fun h => s.targets[h]?

def modify (s : Stage α) (h : Handle) (f : Target α → Target α) : Stage α :=
  { s with targets := s.targets.modify h f }

/-! ## Ids -/

/-- Names that reach the stage's own parts and not a target. -/
def ownNames : List String :=
  ["from_view", "register", "get", "reset", "target_ids", "apply", "emit", "read_current"]

/-- Names every object of the host answers to. -/
def hostNames : List String :=
  ["__class__", "__contains__", "__delattr__", "__dict__", "__dir__", "__doc__", "__eq__",
   "__format__", "__ge__", "__getattr__", "__getattribute__", "__getitem__", "__getstate__",
   "__gt__", "__hash__", "__init__", "__init_subclass__", "__le__", "__lt__", "__module__",
   "__ne__", "__new__", "__reduce__", "__reduce_ex__", "__repr__", "__setattr__", "__sizeof__",
   "__str__", "__subclasshook__", "__weakref__"]

/-- Names the host's kind of stages answers to, though no single stage does. -/
def kindNames : List String :=
  ["mro", "__annotations__", "__base__", "__bases__", "__basicsize__",
   "__call__", "__dictoffset__", "__flags__", "__instancecheck__", "__itemsize__", "__mro__",
   "__name__", "__or__", "__prepare__", "__qualname__", "__ror__", "__subclasscheck__",
   "__subclasses__", "__text_signature__", "__weakrefoffset__"]

/-- The private parts of a stage. -/
def privateNames : List String := ["_apply", "_read_current", "_targets"]

/-- Whether a target may not have this id. -/
def isReserved (id : String) : Bool :=
  ownNames.contains id || hostNames.contains id || kindNames.contains id

/-- What a name on the stage reaches. -/
inductive Reached where
  | target (id : String)
  | member
  /-- No part of a stage has this private name. -/
  | nothing (name : String)
  deriving DecidableEq, Repr

/-- What a name on the stage reaches: its own parts first, then any target by that id, except that
private names never reach a target. -/
def reach (name : String) : Reached :=
  if ownNames.contains name || hostNames.contains name || privateNames.contains name then .member
  else if (Token.after? "_" name.toList).isSome then .nothing name
  else .target name

/-- What is said of an id that names a part of the stage. -/
def reservedMessage (id : String) : String :=
  "Target id \"" ++ id ++ "\" clashes with Stage." ++ id ++ ", so stage." ++ id ++
    " would not reach it. Please rename the target."

/-- Registers a target under an id, or refuses the id. -/
def register (s : Stage α) (id classes : String) : Except String (Stage α) :=
  if isReserved id then .error id
  else .ok { s with
    targets := s.targets ++ [Target.ofClasses id classes]
    names := assign id s.targets.length s.names }

/-- A stage with one target for each entry of a view, in order. An id that comes twice names one
target, with the classes of its last entry. -/
def ofView (view : List (String × String)) (environment : Option (String → String → Value α))
    (hasSink : Bool) : Except String (Stage α) :=
  (view.foldl (fun entries (id, classes) => assign id classes entries) []).foldlM
    (fun s (id, classes) => s.register id classes) (empty environment hasSink)

/-! ## Reading -/

/-- Beginning of the class that sets a gradient stop. -/
def stopStart? (property : String) : Option String :=
  [("--tw-gradient-from", "from-"), ("--tw-gradient-via", "via-"),
   ("--tw-gradient-to", "to-")].lookup property

section
variable [Scalar α]

/-- The value a class token gives a key, if it gives it one. -/
def valueFromClass (key token : String) : Except NumberFault (Option (Value α)) := do
  let described : Option (Token.Descriptor α) ← Token.describe? token.toList
  match described with
  | none => return none
  | some d =>
    if (stopStart? d.property.name).isSome then return none
    else if Token.key d.property.name token.toList ≠ key then return none
    else if d.property.measure = .color then
      return (← Token.color? token.toList).map Value.ofColor
    else return some (.real (← d.inMeasure))

/-- The value a list of class tokens gives a key. Later tokens win. -/
def valueFromClasses (classes : List String) (key : String) : Except NumberFault (Value α) :=
  go classes.reverse
where
  go : List String → Except NumberFault (Value α)
    | [] => .ok .none
    | token :: rest => do
      match ← valueFromClass key token with
      | some v => return v
      | none => go rest

/-- The current value of a key of the target an id names. -/
def read (s : Stage α) (id key : String) : Except NumberFault (Value α) :=
  match s.environment with
  | some env => .ok (env id key)
  | none =>
    match s.target? id with
    | none => .ok .none
    | some t => valueFromClasses t.classes key

end
end Stage
end Choreo
