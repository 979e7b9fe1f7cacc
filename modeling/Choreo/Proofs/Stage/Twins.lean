import Choreo.Flow.Leaf
import Choreo.Proofs.Routine.Related

/-!
What a flow sees of its world, and what it never changes.

A flow acts on its world through a few operations. None of them looks at what happened before, and
none changes which targets there are, their ids, the classes they were declared with, the host's
environment or the sink. Both facts are one relation: twins are two worlds that differ only in that
one has a past the other lacks, on a stage that was declared in a given way. Every operation takes
twins to twins.

With an empty past twins are equal, and the relation is the invariant about what was declared.
-/

namespace Choreo
variable {α C β : Type}

/-! ## What was declared -/

/-- The target as it was registered. -/
def Target.asDeclared (t : Target α) : Target α := { t with classes := t.declared, applied := [] }

/-- The stage with every target as it was registered. -/
def Stage.asDeclared (s : Stage α) : Stage α :=
  { s with targets := s.targets.map Target.asDeclared }

/-- A change of targets that keeps what they were declared with keeps the declared stage. -/
theorem Stage.asDeclared_modify (s : Stage α) (h : Handle) {f : Target α → Target α}
    (hf : ∀ t, s.targets[h]? = some t → (f t).asDeclared = t.asDeclared) :
    (s.modify h f).asDeclared = s.asDeclared := by
  have ht : (s.targets.modify h f).map Target.asDeclared = s.targets.map Target.asDeclared := by
    refine List.ext_getElem? fun i => ?_
    rw [List.getElem?_map, List.getElem?_map, List.getElem?_modify]
    by_cases hi : h = i
    · subst hi
      cases hs : s.targets[h]? with
      | none => simp
      | some t => simp [hf t hs]
    · simp [hi]
  simp only [Stage.asDeclared, Stage.modify, ht]

namespace World

/-! ## Twins -/

/-- The world with a past beneath its own log. -/
def upon (w : World α C) (past : List (Event α)) : World α C := { w with log := w.log ++ past }

/-- Two worlds that differ only in that the second has a past that the first lacks. Both play aloud
on a stage that was declared as `s`. -/
structure Twins (s : Stage α) (past : List (Event α)) (w w' : World α C) : Prop where
  upon : w' = w.upon past
  declared : w.stage.asDeclared = s
  aloud : w.suppressed = false

section
variable {s : Stage α} {past : List (Event α)} {w w' : World α C}

theorem Twins.stage_eq (h : Twins s past w w') : w'.stage = w.stage := by rw [h.upon]; rfl

theorem Twins.suppressed_eq (h : Twins s past w w') : w'.suppressed = w.suppressed := by
  rw [h.upon]; rfl

theorem Twins.crew_eq (h : Twins s past w w') : w'.crew = w.crew := by rw [h.upon]; rfl

theorem Twins.log_eq (h : Twins s past w w') : w'.log = w.log ++ past := by rw [h.upon]; rfl

theorem Twins.report (h : Twins s past w w') (e : Event α) :
    Twins s past (w.report e) (w'.report e) := by
  obtain ⟨rfl, hd, ha⟩ := h
  exact ⟨rfl, hd, ha⟩

theorem Twins.withCrew (h : Twins s past w w') (c : C) :
    Twins s past { w with crew := c } { w' with crew := c } := by
  obtain ⟨rfl, hd, ha⟩ := h
  exact ⟨rfl, hd, ha⟩

theorem Twins.emit (h : Twins s past w w') (target property text : String) :
    Twins s past (w.emit target property text) (w'.emit target property text) := by
  unfold World.emit
  rw [h.stage_eq]
  split
  · exact h.report _
  · exact h

theorem Twins.modify (h : Twins s past w w') (i : Handle) {f : Target α → Target α}
    (hf : ∀ t, w.stage.targets[i]? = some t → (f t).asDeclared = t.asDeclared) :
    Twins s past { w with stage := w.stage.modify i f }
      { w' with stage := w'.stage.modify i f } := by
  obtain ⟨rfl, hd, ha⟩ := h
  exact ⟨rfl, (w.stage.asDeclared_modify i hf).trans hd, ha⟩

theorem Twins.retain (h : Twins s past w w') (i : Handle) (key : String) (value : Value α) :
    Twins s past (w.retain i key value) (w'.retain i key value) :=
  h.modify i (f := fun t => { t with applied := assign key value t.applied }) fun _ _ => rfl

theorem Twins.apply (h : Twins s past w w') (i : Handle) (key : String) (value : Value α)
    (property text : String) :
    Twins s past (w.apply i key value property text) (w'.apply i key value property text) := by
  unfold World.apply
  rw [h.stage_eq]
  split
  · exact h
  · exact (h.retain i key value).emit _ _ _

theorem Twins.addClass (h : Twins s past w w') (i : Handle) (token : String) :
    Twins s past (w.addClass i token) (w'.addClass i token) := by
  unfold World.addClass
  rw [h.stage_eq]
  split
  · exact h
  · next t ht =>
    split
    · exact h
    · refine Twins.emit ?_ _ _ _
      have hm := h.modify i (f := fun _ => { t with classes := t.classes ++ [token] })
        fun u hu => by rw [ht] at hu; cases hu; rfl
      rwa [h.stage_eq] at hm

theorem Twins.resetTarget (h : Twins s past w w') (i : Handle) :
    Twins s past (w.resetTarget i) (w'.resetTarget i) := by
  unfold World.resetTarget
  rw [h.stage_eq]
  split
  · exact h
  · next t ht =>
    have hm := h.modify i (f := fun _ => { t with applied := [], classes := t.declared })
      fun u hu => by rw [ht] at hu; cases hu; rfl
    rw [h.stage_eq] at hm
    simp only
    split
    · exact hm
    · exact hm.emit _ _ _

theorem Twins.resetStage (h : Twins s past w w') :
    Twins s past w.resetStage w'.resetStage := by
  unfold World.resetStage
  rw [h.stage_eq]
  generalize w.stage.names = names
  induction names generalizing w w' with
  | nil => exact h
  | cons n names ih => exact ih (h.resetTarget n.2)

end
end World
end Choreo
