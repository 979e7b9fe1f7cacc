import Choreo.Flow.Playback
import Choreo.Scheduler.Show
import Choreo.Proofs.Flow.Scope
import Choreo.Proofs.Flow.Suppressed

/-!
What flows keep of a show.

Some properties of a show are kept because everything under way has a property of its own: an
animation gets its effect when it starts and carries it along. A pair of such properties that each
deed keeps is kept by every call on a playback (`Show.Kept.start`, `Show.Kept.next`), so it does not
matter how many flows there are, when each is stepped and whether it is closed midway.
-/

namespace Choreo
variable {α : Type}

section
variable {E : Effect α → Prop}

/-- A playback whose effects, and those of its named tasks, are in `E`. -/
structure Playback.Within (E : Effect α → Prop) (p : Playback α) : Prop where
  task : p.task.Of (Leaf.Within E (fun _ => True) True)
  crew : p.crew.Within E (fun _ => True) True

theorem Crew.within_ofFlow (f : Flow α) : (Crew.ofFlow f).Within E (fun _ => True) True :=
  Flow.enlist_within trivial (fun _ => trivial) f fun _ hm => absurd hm List.not_mem_nil

/-- A flow that has not begun has no effects yet. -/
theorem Playback.within_ofFlow (f : Flow α) : (Playback.ofFlow f).Within E :=
  ⟨f.toTask_within (fun _ _ => trivial) (.inl trivial) fun _ _ => trivial, Crew.within_ofFlow f⟩

theorem Show.within_build (s : Source α) (w : Show α) :
    Playback.Within E ⟨(build s w).1, (build s w).2.crew⟩ :=
  ⟨s.flow.toRoutine_within (fun _ _ => trivial) (.inl trivial), Crew.within_ofFlow s.flow⟩

theorem Playback.Within.close {p : Playback α} (hp : p.Within E) : p.close.Within E :=
  ⟨trivial, hp.crew⟩

end

variable [Scalar α] [Analytic α] {K : Show α → Prop} {E : Effect α → Prop}

/-- Each deed keeps `K` of the show, as long as the effects are in `E`; and every effect that comes
about is. -/
structure Show.Kept (K : Show α → Prop) (E : Effect α → Prop) : Prop where
  withCrew : ∀ {w} (c : Crew α), K w → K { w with crew := c }
  report : ∀ {w} {e : Event α}, e.isSilent = true → K w → K (w.report e)
  showGradient : ∀ {w} (h : Handle), K w → K (w.addClass h Animation.gradientClass)
  apply : ∀ {w h jobs j t progress value text}, E (.animate h jobs) → j ∈ jobs →
    w.stage.targets[h]? = some t → j.valueAt w.stage t progress = .ok (value, text) → K w →
      K (w.apply h j.key value j.property.name text)
  write : ∀ {w} (h : Handle) text, K w → K (w.apply h "textContent" (.text text) "textContent" text)
  line : ∀ tag, E (.report tag)
  animate : ∀ {s t goals start jobs} (h : Handle), Job.build s t goals start = .ok jobs →
    E (.animate h jobs)
  type : ∀ (h : Handle) content shown, E (.type h content shown)

namespace Show.Kept

theorem perform (h : Show.Kept K E) {e : Effect α} (he : E e) (progress : α) {w : Show α}
    (hw : K w) :
    (∀ e', (e.perform progress w).1 = .ok e' → E e') ∧ K (e.perform progress w).2 := by
  cases e with
  | report tag =>
    refine ⟨?_, h.report rfl hw⟩
    intro e' he'
    cases he'
    exact he
  | animate i jobs =>
    have happlied : K (Job.applyAll i progress jobs w).2 :=
      Job.applyAll_of_apply (fun _ hj _ _ _ _ ht hvalue hu => h.apply he hj ht hvalue hu) hw
    refine ⟨?_, happlied⟩
    intro e' he'
    simp only [Effect.perform] at he'
    cases hr : (Job.applyAll i progress jobs w).1 with
    | error f =>
      rw [hr] at he'
      cases he'
    | ok _ =>
      rw [hr] at he'
      cases he'
      exact he
  | type i content shown =>
    simp only [Effect.perform]
    split
    · refine ⟨?_, hw⟩
      intro e' he'
      cases he'
    · split
      · refine ⟨?_, hw⟩
        intro e' he'
        cases he'
        exact he
      · refine ⟨?_, h.write i _ hw⟩
        intro e' he'
        cases he'
        exact h.type i content _

theorem scope (h : Show.Kept K E) :
    Show.Scope (fun w w' => w = w' ∧ K w ∧ w.crew.Within E (fun _ => True) True) E (fun _ => True)
      True where
  suppressed h := congrArg World.suppressed h.1.symm
  report he hw := by
    obtain ⟨rfl, hkept, hcrew⟩ := hw
    exact ⟨rfl, h.report he hkept, hcrew⟩
  line := h.line
  perform {w w' e} progress he haloud hw := by
    obtain ⟨rfl, hkept, hcrew⟩ := hw
    obtain ⟨heffect, hshow⟩ := h.perform he progress hkept
    have hstands := e.perform_keeps (World.standing_animated _ _ w.crew) progress haloud
      ⟨rfl, rfl, rfl⟩
    exact ⟨rfl, heffect, rfl, hshow, hstands.crew ▸ hcrew⟩
  handle? _ hw := by rw [hw.1]
  target _ hw _ := by rw [hw.1]
  showGradient {w w' id i} _ hw _ haloud := by
    obtain ⟨rfl, hkept, hcrew⟩ := hw
    have hstands := (World.standing_animated _ _ w.crew).addClass i Animation.gradientClass haloud
      ⟨rfl, rfl, rfl⟩
    exact ⟨rfl, h.showGradient i hkept, hstands.crew ▸ hcrew⟩
  build goals start _ hw _ _ := by rw [hw.1]
  animate _ _ _ _ hjobs := h.animate _ hjobs
  type content _ _ _ := h.type _ content (-1)
  crew hw := congrArg World.crew hw.1.symm
  crew_within _ hw := hw.2.2
  withCrew _ hc hw := by
    obtain ⟨rfl, hkept, -⟩ := hw
    exact ⟨rfl, h.withCrew _ hkept, hc⟩
  all _ _ := trivial

/-- A call on a playback brings along its own crew, so of the show it finds only `K` matters. -/
theorem call (h : Show.Kept K E) {p : Playback α} (hp : p.Within E) {w : Show α} (hw : K w)
    {f : Task (Leaf α) → Show α → (Except FlowFault Bool × Task (Leaf α)) × Show α}
    (hf : ∀ w : Show α, K w → w.crew.Within E (fun _ => True) True →
      (f p.task w).1.2.Of (Leaf.Within E (fun _ => True) True) ∧ K (f p.task w).2 ∧
        (f p.task w).2.crew.Within E (fun _ => True) True) :
    (p.call f w).1.2.Within E ∧ K (p.call f w).2 := by
  obtain ⟨htask, hshow, hcrew⟩ := hf { w with crew := p.crew } (h.withCrew _ hw) hp.crew
  exact ⟨⟨htask, hcrew⟩, hshow⟩

theorem start (h : Show.Kept K E) {p : Playback α} (hp : p.Within E) {w : Show α} (hw : K w) :
    (p.start w).1.2.Within E ∧ K (p.start w).2 := by
  refine h.call hp hw fun u hu hc => ?_
  have hcall := Task.start_confined (Leaf.machine_confined h.scope) hp.task ⟨rfl, hu, hc⟩
  exact ⟨hcall.answer, hcall.related.2⟩

theorem next (h : Show.Kept K E) {p : Playback α} (hp : p.Within E) (dt : Option α) {w : Show α}
    (hw : K w) : (p.next dt w).1.2.Within E ∧ K (p.next dt w).2 := by
  refine h.call hp hw fun u hu hc => ?_
  have hcall := Task.next_confined (Leaf.machine_confined h.scope) dt hp.task ⟨rfl, hu, hc⟩
  exact ⟨hcall.answer, hcall.related.2⟩

end Show.Kept
end Choreo
