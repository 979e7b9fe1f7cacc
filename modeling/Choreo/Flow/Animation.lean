import Choreo.Flow.Tween

/-!
Animations: tweens that bring a target from what it shows to what tokens say.

The jobs of an animation are built when it starts, so one that follows another starts from the state
the first left behind. A missing target, or a wrong number of arguments, makes an animation do
nothing; the author is told.
-/

namespace Choreo
namespace Animation
variable {α C : Type} [Scalar α]

/-- The tokens of an argument. Nothing and nought name none; another number is a fault. -/
def tokens : Argument α → Except FlowFault (List String)
  | .text s => .ok (Token.split s)
  | .nothing => .ok []
  | .number x =>
    match Scalar.exact x with
    | .finite _ q => if q = 0 then .ok [] else .error .notTokens
    | _ => .error .notTokens

/-- The duration an argument gives. -/
def duration : Argument α → Except FlowFault α
  | .number x => .ok x
  | _ => .error .notDuration

/-- Arguments told apart by their number: an explicit start or none, the end, and a duration. -/
def form? : List (Argument α) → Option (Argument α × Argument α × Argument α)
  | [stop, time] => some (.nothing, stop, time)
  | [start, stop, time] => some (start, stop, time)
  | _ => none

/-- Class that shows a gradient. -/
def gradientClass : String := "bg-gradient-to-r"

/-- Beginning of the classes that show a gradient. -/
def gradientStart : String := "bg-gradient-"

/-- A gradient stop shows only on a gradient: a target that is to get a stop and shows no gradient
is given one. -/
def showGradient (h : Handle) (t : Target α) (goals : List String) (w : World α C) : World α C :=
  if goals.any (fun token => Token.isGradientStop token.toList) &&
      (t.findClass? gradientStart).isNone && !w.suppressed
  then w.addClass h gradientClass else w

/-- What is said of a target that is missing. -/
def missingMessage (id action : String) : String :=
  "No target '" ++ id ++ "' on stage, skipping " ++ action

/-- What is said of a wrong number of arguments. -/
def argumentMessage (id : String) (count : Nat) : String :=
  "animate('" ++ id ++ "') needs (to, duration) or (from, to, duration), got " ++ toString count ++
    " args"

section
variable [Analytic α]

/-- Starts a tween with a curve that was asked for by name. -/
def startTween (effect : Effect α) (time : Argument α) (easing : Easing α) (w : World α C) :
    Signal (Tween α) FlowFault × World α C :=
  match easing.resolve, duration time with
  | .error name, _ => (.failed (.unknownEasing name), w)
  | .ok _, .error f => (.failed f, w)
  | .ok curve, .ok d => Tween.start ⟨d, curve, effect, Scalar.zero⟩ w

/-- Starts an animation of a target on its registered targets. -/
def start (id : String) (arguments : List (Argument α)) (easing : Easing α) (w : World α C) :
    Signal (Tween α) FlowFault × World α C :=
  match w.stage.handle? id with
  | none => (.finished, w.report (.remark .warning (missingMessage id "animation")))
  | some h =>
    match form? arguments with
    | none => (.finished, w.report (.remark .error (argumentMessage id arguments.length)))
    | some (origin, stop, time) =>
      match tokens stop, tokens origin with
      | .error f, _ => (.failed f, w)
      | .ok _, .error f => (.failed f, w)
      | .ok stops, .ok starts =>
        match w.stage.targets[h]? with
        | none => (.finished, w)
        | some t =>
          let w' := showGradient h t stops w
          match w'.stage.targets[h]? with
          | none => (.finished, w')
          | some t' =>
            match Job.build w'.stage t' stops starts with
            | .error f => (.failed (.number f), w')
            | .ok jobs => startTween (.animate h jobs) time easing w'

/-- Starts typing a text into a target. -/
def startTyping (id content : String) (d : α) (w : World α C) :
    Signal (Tween α) FlowFault × World α C :=
  match w.stage.handle? id with
  | none => (.finished, w.report (.remark .warning (missingMessage id "text")))
  | some h => startTween (.type h content.toList (-1)) (.number d) (.named "linear") w

end
end Animation
end Choreo
