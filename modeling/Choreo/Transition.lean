import Choreo.Number.Scalar

/-!
Transitions: how a scene comes in over the last frame of the one before.

In a flow a transition only takes time. Its kind and how far along it is tell a renderer what the
incoming scene looks like.
-/

namespace Choreo

inductive TransitionKind where
  | fade | slide | zoom
  deriving DecidableEq, Repr

namespace TransitionKind

def name : TransitionKind → String
  | fade => "fade"
  | slide => "slide"
  | zoom => "zoom"

def ofName? : String → Option TransitionKind
  | "fade" => some fade
  | "slide" => some slide
  | "zoom" => some zoom
  | _ => none

end TransitionKind

/-- A transition that takes a while. -/
structure Transition (α : Type) where
  kind : TransitionKind
  duration : α
  deriving DecidableEq, Repr

/-- How an incoming scene looks. The shift is in percent of the width. -/
structure Look (α : Type) where
  opacity : α
  scale : α
  shift : α
  deriving DecidableEq, Repr

namespace Look
variable {α : Type} [Scalar α]

/-- A scene that is all there. -/
def settled : Look α := ⟨Scalar.one, Scalar.one, Scalar.zero⟩

/-- The look of an incoming scene. Without a known kind it is all there from the start. -/
def during (kind : Option TransitionKind) (progress : α) : Look α :=
  match kind with
  | some .fade => { settled with opacity := progress }
  | some .slide => { settled with shift := (Scalar.one - progress) * Scalar.ofInt 100 }
  | some .zoom =>
    { settled with
      opacity := progress
      scale := Scalar.ofRat 0.5 + Scalar.ofRat 0.5 * progress }
  | none => settled

end Look
end Choreo
