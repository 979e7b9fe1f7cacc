import Choreo.Flow.Basic
import Choreo.Flow.Fault
import Choreo.Routine.Basic
import Choreo.Stage.Job

/-!
Tweens: an effect driven with eased progress.

While time remains, each step has the effect at the eased share of the duration that has passed. The
step that reaches the duration has it at one, whatever the curve says there. A tween without a
duration has that last effect at once. While updates are suppressed a tween keeps time only.
-/

namespace Choreo

/-- What a tween does with its progress. -/
inductive Effect (α : Type) where
  | report (tag : String)
  | animate (target : Handle) (jobs : List (Job α))
  /-- Shows an opening of the content. `shown` is the count last shown, and minus one before. -/
  | type (target : Handle) (content : List Char) (shown : Int)

/-- A tween on its way. -/
structure Tween (α : Type) where
  duration : α
  curve : Curve α
  effect : Effect α
  elapsed : α

namespace Effect
variable {α C : Type} [Scalar α] [Analytic α]

/-- The opening of a text that a count stands for. A negative count leaves that many characters
away at the end. -/
def opening (content : List Char) (count : Int) : List Char :=
  if count < 0 then content.take (content.length - count.natAbs) else content.take count.toNat

/-- Has the effect at a progress. Typing changes nothing while the count stays. -/
def perform (e : Effect α) (progress : α) (w : World α C) :
    Except NumberFault (Effect α) × World α C :=
  match e with
  | .report tag => (.ok e, w.report (.update tag progress))
  | .animate h jobs =>
    let (r, w') := Job.applyAll h progress jobs w
    (r.map fun _ => e, w')
  | .type h content shown =>
    match Scalar.truncate (Scalar.ofNat content.length * progress) with
    | .error f => (.error f, w)
    | .ok count =>
      if count = shown then (.ok e, w)
      else
        let text := String.ofList (opening content count)
        (.ok (.type h content count),
          w.apply h "textContent" (.text text) "textContent" text)

end Effect

namespace Tween
variable {α C : Type} [Scalar α] [Analytic α]

/-- Has the effect of a tween at a progress, unless updates are suppressed. -/
def update (t : Tween α) (progress : α) (w : World α C) :
    Except FlowFault (Tween α) × World α C :=
  if w.suppressed then (.ok t, w)
  else
    match t.effect.perform progress w with
    | (.ok effect, w') => (.ok { t with effect := effect }, w')
    | (.error f, w') => (.error (.number f), w')

/-- The last update. -/
def finish (t : Tween α) (w : World α C) : Signal (Tween α) FlowFault × World α C :=
  match t.update Scalar.one w with
  | (.ok _, w') => (.finished, w')
  | (.error f, w') => (.failed f, w')

/-- Starts a tween: it pauses if it has a duration. -/
def start (t : Tween α) (w : World α C) : Signal (Tween α) FlowFault × World α C :=
  if t.elapsed < t.duration then (.paused t, w) else t.finish w

/-- The share of the duration that has passed, one at most. -/
def share (t : Tween α) : α := Scalar.smaller (t.elapsed / t.duration) Scalar.one

/-- One step. No step size counts as none. -/
def resume (t : Tween α) (dt : Option α) (w : World α C) : Signal (Tween α) FlowFault × World α C :=
  let t := { t with elapsed := t.elapsed + dt.getD Scalar.zero }
  if t.elapsed < t.duration then
    if w.suppressed then (.paused t, w)
    else
      match t.curve t.share with
      | .error f => (.failed (.number f), w)
      | .ok progress =>
        match t.update progress w with
        | (.ok t', w') => (.paused t', w')
        | (.error f, w') => (.failed f, w')
  else t.finish w

end Tween
end Choreo
