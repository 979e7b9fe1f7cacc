import Choreo.Stage.Basic

/-!
What a flow acts on: a stage, the events so far, and whether updates are suppressed.

The log is kept newest first. Everything a flow does goes through the operations below, so what is
in the log and on the stage can be followed one operation at a time.
-/

namespace Choreo

/-- A stage in play. `C` is what the flow in play keeps beside the stage. -/
structure World (α C : Type) where
  stage : Stage α
  /-- While set, tweens keep time but change nothing. -/
  suppressed : Bool
  /-- What happened, newest first. -/
  log : List (Event α)
  crew : C

namespace World
variable {α C : Type}

def ofStage (s : Stage α) (crew : C) : World α C :=
  { stage := s, suppressed := false, log := [], crew := crew }

/-- What happened, in order. -/
def events (w : World α C) : List (Event α) := w.log.reverse

def report (w : World α C) (e : Event α) : World α C := { w with log := e :: w.log }

/-- Hands a text to the sink, if there is one. -/
def emit (w : World α C) (target property text : String) : World α C :=
  if w.stage.hasSink then w.report (.apply target property text) else w

/-- Keeps a value under a key of a target. -/
def retain (w : World α C) (h : Handle) (key : String) (value : Value α) : World α C :=
  { w with stage := w.stage.modify h fun t => { t with applied := assign key value t.applied } }

/-- Keeps a value under a key of a target and hands its text to the sink. -/
def apply (w : World α C) (h : Handle) (key : String) (value : Value α)
    (property text : String) : World α C :=
  match w.stage.targets[h]? with
  | none => w
  | some t => (w.retain h key value).emit t.id property text

/-- Adds a class to a target that does not have it. -/
def addClass (w : World α C) (h : Handle) (token : String) : World α C :=
  match w.stage.targets[h]? with
  | none => w
  | some t =>
    if t.classes.contains token then w
    else
      let t' := { t with classes := t.classes ++ [token] }
      { w with stage := w.stage.modify h fun _ => t' }.emit t.id "class" t'.classText

/-- Forgets what was applied to a target and restores its declared classes. -/
def resetTarget (w : World α C) (h : Handle) : World α C :=
  match w.stage.targets[h]? with
  | none => w
  | some t =>
    let t' := { t with applied := [], classes := t.declared }
    let w' := { w with stage := w.stage.modify h fun _ => t' }
    if t.classes = t.declared then w' else w'.emit t.id "class" t'.classText

/-- Resets every target that an id names, in the order of the ids. -/
def resetStage (w : World α C) : World α C :=
  w.stage.names.foldl (fun w (_, h) => w.resetTarget h) w

end World
end Choreo
