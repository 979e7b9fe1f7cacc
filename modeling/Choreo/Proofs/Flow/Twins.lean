import Choreo.Proofs.Flow.Scope
import Choreo.Proofs.Stage.Twins

/-!
Flows in twin worlds.

Effects read of their world only the stage, and animations besides whether updates are suppressed;
named tasks are found in the crew. Twins share all of that, and whatever is done to both leaves them
twins. So twins are related by a scope with nothing outside, and a leaf answers the same in both. By
`Leaf.machine_related` every task of a flow does.
-/

namespace Choreo
variable {α C : Type} {s : Stage α} {past : List (Event α)}

open World (Twins)

variable [Scalar α] [Analytic α]

/-! ## Effects -/

section
variable {w w' : World α C}

theorem Job.applyAll_twins (i : Handle) (progress : α) (jobs : List (Job α))
    (h : Twins s past w w') :
    Alike (Twins s past) (Job.applyAll i progress jobs w) (Job.applyAll i progress jobs w') := by
  induction jobs generalizing w w' with
  | nil => exact ⟨rfl, h⟩
  | cons j rest ih =>
    unfold Job.applyAll
    rw [h.stage_eq]
    split
    · exact ⟨rfl, h⟩
    · split
      · exact ⟨rfl, h⟩
      · exact ih (h.apply _ _ _ _ _)

theorem Effect.perform_twins (e : Effect α) (progress : α) (h : Twins s past w w') :
    Alike (Twins s past) (e.perform progress w) (e.perform progress w') := by
  cases e with
  | report tag => exact ⟨rfl, h.report _⟩
  | animate i jobs =>
    obtain ⟨r, u, u', hu, hu', hR⟩ := (Job.applyAll_twins i progress jobs h).exists_eq
    simp only [Effect.perform, hu, hu']
    exact ⟨rfl, hR⟩
  | type i content shown =>
    simp only [Effect.perform]
    split
    · exact ⟨rfl, h⟩
    · split
      · exact ⟨rfl, h⟩
      · exact ⟨rfl, h.apply _ _ _ _ _⟩

end

/-! ## Leaves -/

omit [Scalar α] [Analytic α] in
theorem Leaf.within_of_forall {E : Effect α → Prop} {A : String → Prop} {named : Prop}
    (hE : ∀ e, E e) (hA : ∀ id, A id) (hn : named) (l : Leaf α) : l.Within E A named := by
  cases l with
  | todo a => exact Flow.within_of_act fun id _ => hA id
  | tweening t => exact hE t.effect
  | waiting | ticking | handle => trivial
  | enlist | visit | drain => exact hn

/-- Nothing that is done tells twins apart, whichever effects, ids and named tasks are used. -/
theorem Show.twins_scope :
    Show.Scope (Twins s past) (fun _ : Effect α => True) (fun _ => True) True where
  suppressed h := h.suppressed_eq
  report _ h := h.report _
  line _ := trivial
  perform progress _ _ h := by
    obtain ⟨hsame, hR⟩ := Effect.perform_twins _ progress h
    exact ⟨hsame, fun _ _ => trivial, hR⟩
  handle? _ h := congrArg (Stage.handle? · _) h.stage_eq
  target _ h _ := congrArg (·.targets[_]?) h.stage_eq
  showGradient _ h _ _ := h.addClass _ _
  build goals start _ h _ _ := congrArg (Job.build · _ goals start) h.stage_eq
  animate _ _ _ _ _ := trivial
  type _ _ _ _ := trivial
  crew h := h.crew_eq
  crew_within _ _ m _ := Task.every_of_forall
    (fun _ => Leaf.within_of_forall (fun _ => trivial) (fun _ => trivial) trivial) m.task
  withCrew _ _ h := h.withCrew _
  all _ _ := trivial

/-- The machine of flows cannot tell twins apart. -/
theorem Leaf.machine_related : (machine : Player α).Related machine (Twins s past) :=
  (Leaf.machine_confined Show.twins_scope).related
    (Leaf.within_of_forall (fun _ => trivial) (fun _ => trivial) trivial)

end Choreo
