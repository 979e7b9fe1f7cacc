import Choreo.Flow.Leaf
import Choreo.Proofs.Number.Rational

/-!
The leaves of plain flows in play.

A wait or a tween pauses as long as less than its duration has passed. These leaves use no named
task, so the machine that runs them has no part in how they go on.
-/

namespace Choreo

/-- The size of a step. A missing one counts as nought. -/
def Leaf.stepSize (dt : Option Rat) : Rat := dt.getD 0

namespace Leaf
variable [Analytic Rat]

theorem machine_start_todo (a : Action Rat) (w : Show Rat) :
    machine.start (.todo a) w = begin a w := by
  unfold machine
  simp only
  cases w.crew.depth <;> rfl

theorem machine_resume_waiting (elapsed d : Rat) (dt : Option Rat) (w : Show Rat) :
    machine.resume (.waiting elapsed d) dt w = wait (elapsed + stepSize dt) d w := by
  unfold machine
  simp only
  cases w.crew.depth <;> rfl

theorem machine_resume_tweening (t : Tween Rat) (dt : Option Rat) (w : Show Rat) :
    machine.resume (.tweening t) dt w = ofTween (t.resume dt w) := by
  unfold machine
  simp only
  cases w.crew.depth <;> rfl

end Leaf

/-! ## Passing time -/

namespace Leaf

/-- A leaf that waits or tweens, with what has passed of its duration. -/
inductive Passing : Leaf Rat → Rat → Rat → Prop where
  | waiting (elapsed d : Rat) : Passing (.waiting elapsed d) elapsed d
  | tweening (t : Tween Rat) : Passing (.tweening t) t.elapsed t.duration

/-- A leaf of a duration goes on as it should: it pauses while less than its duration has passed,
and it finishes when all has. -/
def OnTime (elapsed d : Rat) : Signal (Leaf Rat) FlowFault → Prop
  | .paused l => Passing l elapsed d ∧ elapsed < d
  | .finished => d ≤ elapsed
  | .failed _ => True

theorem wait_onTime (elapsed d : Rat) (w : Show Rat) : OnTime elapsed d (wait elapsed d w).1 := by
  unfold wait
  by_cases h : elapsed < d
  · rw [if_pos h]
    exact ⟨.waiting elapsed d, h⟩
  · rw [if_neg h]
    exact not_lt.mp h

end Leaf

section
variable [Analytic Rat]

theorem Tween.update_eq {t t' : Tween Rat} {progress : Rat} {w w' : Show Rat}
    (h : t.update progress w = (.ok t', w')) :
    t'.duration = t.duration ∧ t'.elapsed = t.elapsed := by
  unfold update at h
  split at h
  · cases h
    exact ⟨rfl, rfl⟩
  · split at h
    · cases h
      exact ⟨rfl, rfl⟩
    · cases h

theorem Tween.finish_onTime {t : Tween Rat} {elapsed d : Rat} (h : d ≤ elapsed) (w : Show Rat) :
    Leaf.OnTime elapsed d (Leaf.ofTween (t.finish w)).1 := by
  unfold finish
  split
  · exact h
  · trivial

theorem Tween.start_onTime (t : Tween Rat) (w : Show Rat) :
    Leaf.OnTime t.elapsed t.duration (Leaf.ofTween (t.start w)).1 := by
  unfold start
  by_cases h : t.elapsed < t.duration
  · rw [if_pos h]
    exact ⟨.tweening t, h⟩
  · rw [if_neg h]
    exact finish_onTime (not_lt.mp h) w

theorem Animation.startTween_onTime (effect : Effect Rat) (d : Rat) (easing : Easing Rat)
    (w : Show Rat) :
    Leaf.OnTime 0 d (Leaf.ofTween (startTween effect (.number d) easing w)).1 := by
  unfold startTween
  cases easing.resolve with
  | error name => trivial
  | ok curve => exact Tween.start_onTime ⟨d, curve, effect, 0⟩ w

theorem Tween.resume_onTime (t : Tween Rat) (dt : Option Rat) (w : Show Rat) :
    Leaf.OnTime (t.elapsed + Leaf.stepSize dt) t.duration (Leaf.ofTween (t.resume dt w)).1 := by
  have helapsed : t.elapsed + dt.getD Scalar.zero = t.elapsed + Leaf.stepSize dt := rfl
  unfold resume
  simp only [helapsed]
  by_cases h : t.elapsed + Leaf.stepSize dt < t.duration
  · rw [if_pos h]
    split
    · exact ⟨.tweening _, h⟩
    · split
      · trivial
      · split
        · next t' w' heq =>
          obtain ⟨hd, he⟩ := update_eq heq
          have ht' := Leaf.Passing.tweening t'
          rw [hd, he] at ht'
          exact ⟨ht', h⟩
        · trivial
  · rw [if_neg h]
    exact finish_onTime (not_lt.mp h) w

namespace Leaf

/-- The actions of plain flows, with their durations. -/
inductive Lasting : Action Rat → Rat → Prop where
  | wait (d : Rat) : Lasting (.wait d) d
  | transition (t : Transition Rat) : Lasting (.transition t) t.duration
  | tween (tag : String) (d : Rat) (easing : Easing Rat) : Lasting (.tween tag d easing) d

theorem start_onTime {a : Action Rat} {d : Rat} (h : Lasting a d) (w : Show Rat) :
    OnTime 0 d (machine.start (.todo a) w).1 := by
  rw [machine_start_todo]
  cases h with
  | wait => exact wait_onTime 0 d w
  | transition t => exact wait_onTime 0 t.duration w
  | tween tag d easing => exact Animation.startTween_onTime (.report tag) d easing w

theorem resume_onTime {l : Leaf Rat} {elapsed d : Rat} (h : Passing l elapsed d)
    (dt : Option Rat) (w : Show Rat) :
    OnTime (elapsed + stepSize dt) d (machine.resume l dt w).1 := by
  cases h with
  | waiting =>
    rw [machine_resume_waiting]
    exact wait_onTime (elapsed + stepSize dt) d w
  | tweening t =>
    rw [machine_resume_tweening]
    exact t.resume_onTime dt w

end Leaf
end
end Choreo
