import Choreo.Proofs.Flow.Leaves
import Choreo.Proofs.Routine.Combined
import Choreo.Proofs.Flow.Reached

/-!
Where animations start and end.

An animation without an explicit start sets out from what its target retains, so it takes over where
the one before it was left, be that finished, closed midway or still running
(`Animation.setsOut_of_retained`). An animation that ends aloud leaves its target with what its
tokens say, wherever it set out from and whatever went on meanwhile (`Animation.retained_of_ends`).
In a chain both meet: what follows begins in the world that the animation before it left.

One thing is not taken over. A gradient stop that was left transparent counts as one that nobody
set, so an animation of the stop starts from the class that declares it or from the background.
-/

namespace Choreo
variable {α C : Type} [Scalar α]

namespace Animation

/-! ## Beginning -/

section
omit [Scalar α]

/-- A class that shows a gradient leaves a target what it retains. -/
theorem exists_showGradient {h : Handle} {w : World α C} {t : Target α}
    (ht : w.stage.targets[h]? = some t) (goals : List String) :
    ∃ t', (showGradient h t goals w).stage.targets[h]? = some t' ∧ t'.applied = t.applied := by
  unfold showGradient
  split
  · unfold World.addClass
    simp only [ht]
    split
    · exact ⟨t, ht, rfl⟩
    · refine ⟨{ t with classes := t.classes ++ [gradientClass] }, ?_, rfl⟩
      rw [World.emit_stage, Stage.modify, List.getElem?_modify_eq, ht]
      rfl
  · exact ⟨t, ht, rfl⟩

end

variable [Analytic α] {id : String} {arguments : List (Argument α)}
  {origin stop time : Argument α} {stops starts : List String} {h : Handle} {w : World α C}
  {t : Target α}

/-- An animation that begins builds its jobs on a target that retains what it did, and starts a
tween with them. -/
theorem exists_start_eq (hid : w.stage.handle? id = some h)
    (hform : form? arguments = some (origin, stop, time)) (hstop : tokens stop = .ok stops)
    (horigin : tokens origin = .ok starts) (ht : w.stage.targets[h]? = some t) :
    ∃ (s : Stage α) (t' : Target α) (w' : World α C),
      t'.applied = t.applied ∧ w'.suppressed = w.suppressed ∧ ∀ easing : Easing α,
        Animation.start id arguments easing w =
          match Job.build s t' stops starts with
          | .error f => (.failed (.number f), w')
          | .ok jobs => startTween (.animate h jobs) time easing w' := by
  obtain ⟨t', ht', happlied⟩ := exists_showGradient ht stops
  have hstanding :=
    showGradient_keeps (World.standing_animated _ _ w.crew) h t stops ⟨rfl, rfl, rfl⟩
  refine ⟨(showGradient h t stops w).stage, t', showGradient h t stops w, happlied,
    hstanding.suppressed, fun easing => ?_⟩
  rcases hbuild : Job.build (showGradient h t stops w).stage t' stops starts with f | jobs
  · simp only [Animation.start, hid, hform, hstop, horigin, ht, ht', hbuild]
  · simp only [Animation.start, hid, hform, hstop, horigin, ht, ht', hbuild]

/-! ## Setting out -/

/-- In this world every animation of the target that begins without an explicit start brings the key
from the value. With a single token that can be read the animation does begin, and that
is its job. -/
structure SetsOut (h : Handle) (key : String) (v : Value α) (w : World α C) : Prop where
  single : ∀ {id arguments stop time token goal} (easing : Easing α),
    w.stage.handle? id = some h → form? arguments = some (.nothing, stop, time) →
    tokens stop = .ok [token] → Token.goal? key token = some goal →
    ∃ j w', Animation.start id arguments easing w = startTween (.animate h [j]) time easing w' ∧
      j.key = key ∧ j.span.start = v ∧ j.span.stop = goal
  among : ∀ {id arguments stop time stops} (easing : Easing α),
    w.stage.handle? id = some h → form? arguments = some (.nothing, stop, time) →
    tokens stop = .ok stops →
    (∃ f w', Animation.start id arguments easing w = (.failed f, w')) ∨
      ∃ js w', Animation.start id arguments easing w = startTween (.animate h js) time easing w' ∧
        (∀ j ∈ js, j.key = key → j.span.start = v) ∧
        ∀ token ∈ stops, ∀ goal, Token.goal? key token = some goal →
          ∃ j ∈ js, j.token = token.toList ∧ j.key = key ∧ j.span.start = v ∧ j.span.stop = goal

theorem setsOut_of_retained (ht : w.stage.targets[h]? = some t) {key : String} {v : Value α}
    (hv : t.applied.lookup key = some v) (hfits : v.Fits key) (hstays : v.Stays key) :
    SetsOut h key v w where
  single {id arguments stop time token goal} easing hid hform hstop hgoal := by
    have horigin : tokens (.nothing : Argument α) = .ok [] := rfl
    obtain ⟨s, t', w', happlied, -, hstart⟩ := exists_start_eq hid hform hstop horigin ht
    obtain ⟨d, hd, hkey, hdgoal⟩ := Token.exists_of_goal? hgoal
    have hp := (Token.property_of_describe? hd).1
    subst hkey
    obtain ⟨j, hj, hfrom⟩ :=
      Job.start_of_retained (s := s) hp (happlied ▸ hv) hfits hstays hdgoal
    have hserves := Job.serves_of_ofDescriptor hj
    have hstop := Except.ok.inj (hserves.goal.symm.trans hdgoal)
    refine ⟨j, w', ?_, hserves.key, hfrom, hstop⟩
    rw [hstart easing, Job.build_singleton hd hj]
  among {id arguments stop time stops} easing hid hform hstop := by
    have horigin : tokens (.nothing : Argument α) = .ok [] := rfl
    obtain ⟨s, t', w', happlied, -, hstart⟩ := exists_start_eq hid hform hstop horigin ht
    rw [hstart easing]
    rcases hbuild : Job.build s t' stops [] with f | js
    · exact .inl ⟨_, _, rfl⟩
    · have hfrom : ∀ j ∈ js, j.key = key → j.span.start = v := by
        rintro j hj rfl
        exact Job.start_of_mem_build hbuild hj (happlied ▸ hv) hfits hstays
      refine .inr ⟨js, w', rfl, hfrom, fun token htoken goal hgoal => ?_⟩
      obtain ⟨j, hj, hmakes, hkey, hstop⟩ := Job.exists_mem_build hbuild htoken hgoal
      exact ⟨j, hj, hmakes, hkey, hfrom j hj hkey, hstop⟩

end Animation

/-! ## Ending -/

/-- An effect that brings a target to what tokens say. -/
def Effect.Brings (h : Handle) (stops : List String) (e : Effect α) : Prop :=
  ∃ jobs s t starts, e = .animate h jobs ∧ Job.build s t stops starts = .ok jobs

variable [Analytic α]

namespace Tween
variable {h : Handle} {stops : List String} {t : Tween α} {w v : World α C}

theorem update_brings (ht : t.effect.Brings h stops) {progress : α} {t' : Tween α}
    (hu : t.update progress w = (.ok t', v)) : t'.effect.Brings h stops := by
  unfold update at hu
  split at hu
  · cases hu
    exact ht
  · obtain ⟨jobs, s, target, starts, heffect, hbuild⟩ := ht
    rw [heffect] at hu
    rcases hp : Job.applyAll h progress jobs w with ⟨r, u⟩
    cases r with
    | error f =>
      simp only [Effect.perform, hp, Except.map] at hu
      cases hu
    | ok _ =>
      simp only [Effect.perform, hp, Except.map] at hu
      cases hu
      exact ⟨jobs, s, target, starts, rfl, hbuild⟩

/-- What a step of a tween does: it pauses without or after an update, it fails, or it
is the last. -/
theorem resume_cases {dt : Option α} {s : Signal (Tween α) FlowFault}
    (hr : t.resume dt w = (s, v)) :
    let later : Tween α := { t with elapsed := t.elapsed + dt.getD Scalar.zero }
    (s = .paused later ∧ v = w) ∨
      (∃ progress t', later.update progress w = (.ok t', v) ∧ s = .paused t') ∨
      (∃ f, s = .failed f) ∨ later.finish w = (s, v) := by
  intro later
  unfold resume at hr
  dsimp only at hr
  split at hr
  · split at hr
    · cases hr
      exact .inl ⟨rfl, rfl⟩
    · split at hr
      · cases hr
        exact .inr (.inr (.inl ⟨_, rfl⟩))
      · next progress _ =>
        rcases hu : later.update progress w with ⟨f | t', u⟩
        · rw [hu] at hr
          cases hr
          exact .inr (.inr (.inl ⟨f, rfl⟩))
        · rw [hu] at hr
          cases hr
          exact .inr (.inl ⟨progress, t', hu, rfl⟩)
  · exact .inr (.inr (.inr hr))

theorem finish_ne_paused (t t' : Tween α) : t.finish w ≠ (.paused t', v) := by
  unfold finish
  intro h
  split at h <;> cases h

theorem start_brings (ht : t.effect.Brings h stops) {t' : Tween α}
    (hs : t.start w = (.paused t', v)) : t'.effect.Brings h stops := by
  unfold start at hs
  split at hs
  · cases hs
    exact ht
  · exact absurd hs (finish_ne_paused _ _)

theorem resume_brings (ht : t.effect.Brings h stops) {dt : Option α} {t' : Tween α}
    (hr : t.resume dt w = (.paused t', v)) : t'.effect.Brings h stops := by
  rcases resume_cases hr with ⟨hpaused, -⟩ | ⟨progress, u, hu, hpaused⟩ | ⟨f, hf⟩ | hf
  · cases hpaused
    exact ht
  · cases hpaused
    exact update_brings (t := { t with elapsed := t.elapsed + dt.getD Scalar.zero }) ht hu
  · cases hf
  · exact absurd hf (finish_ne_paused _ _)

theorem finish_of_start (hs : t.start w = (.finished, v)) : t.finish w = (.finished, v) := by
  unfold start at hs
  split at hs
  · cases hs
  · exact hs

theorem finish_of_resume {dt : Option α} (hr : t.resume dt w = (.finished, v)) :
    finish { t with elapsed := t.elapsed + dt.getD Scalar.zero } w = (.finished, v) := by
  rcases resume_cases hr with ⟨hpaused, -⟩ | ⟨progress, u, -, hpaused⟩ | ⟨f, hf⟩ | hf
  · cases hpaused
  · cases hpaused
  · cases hf
  · exact hf

theorem applyAll_of_finish {jobs : List (Job α)} (ht : t.effect = .animate h jobs)
    (haloud : w.suppressed = false) (hf : t.finish w = (.finished, v)) :
    Job.applyAll h Scalar.one jobs w = (.ok (), v) := by
  rcases hp : Job.applyAll h Scalar.one jobs w with ⟨r, u⟩
  cases r with
  | error f =>
    simp only [finish, update, haloud, ht, Effect.perform, hp, Except.map, Bool.false_eq_true,
      if_false] at hf
    cases hf
  | ok _ =>
    simp only [finish, update, haloud, ht, Effect.perform, hp, Except.map, Bool.false_eq_true,
      if_false] at hf
    cases hf
    rfl

end Tween

section
variable {h : Handle} {stops : List String} {w v : World α C}

/-- What a beginning animation does: it fails, it has no target, or it starts a tween that brings
the target to what the tokens say. -/
theorem Animation.exists_of_start {id : String} {arguments : List (Argument α)} {easing : Easing α}
    {origin stop time : Argument α} (hid : w.stage.handle? id = some h)
    (hform : form? arguments = some (origin, stop, time)) (hstop : tokens stop = .ok stops)
    {s : Signal (Tween α) FlowFault} (hs : Animation.start id arguments easing w = (s, v)) :
    (∃ f, s = .failed f) ∨ (s = .finished ∧ v = w ∧ w.stage.targets[h]? = none) ∨
      ∃ (t : Tween α) (u : World α C), t.effect.Brings h stops ∧ u.suppressed = w.suppressed ∧
        t.start u = (s, v) := by
  rcases ht : w.stage.targets[h]? with _ | t
  · rcases horigin : tokens origin with f | starts
    · simp only [Animation.start, hid, hform, hstop, horigin] at hs
      cases hs
      exact .inl ⟨f, rfl⟩
    · simp only [Animation.start, hid, hform, hstop, horigin, ht] at hs
      cases hs
      exact .inr (.inl ⟨rfl, rfl, rfl⟩)
  · rcases horigin : tokens origin with f | starts
    · simp only [Animation.start, hid, hform, hstop, horigin] at hs
      cases hs
      exact .inl ⟨f, rfl⟩
    · obtain ⟨stage, target, u, -, hu, hstart⟩ := exists_start_eq hid hform hstop horigin ht
      rw [hstart easing] at hs
      rcases hbuild : Job.build stage target stops starts with f | jobs
      · simp only [hbuild] at hs
        cases hs
        exact .inl ⟨_, rfl⟩
      · simp only [hbuild, startTween] at hs
        split at hs
        · cases hs
          exact .inl ⟨_, rfl⟩
        · cases hs
          exact .inl ⟨_, rfl⟩
        · exact .inr (.inr ⟨_, u, ⟨jobs, stage, target, starts, rfl, hbuild⟩, hu, hs⟩)

end

section
omit [Scalar α] [Analytic α]

theorem Leaf.ofTween_eq_paused {a : Signal (Tween α) FlowFault × Show α} {l : Leaf α} {v : Show α}
    (h : ofTween a = (.paused l, v)) : ∃ t, l = .tweening t ∧ a = (.paused t, v) := by
  obtain ⟨s, u⟩ := a
  cases s <;> cases h
  exact ⟨_, rfl, rfl⟩

theorem Leaf.ofTween_eq_finished {a : Signal (Tween α) FlowFault × Show α} {v : Show α}
    (h : ofTween a = (.finished, v)) : a = (.finished, v) := by
  obtain ⟨s, u⟩ := a
  cases s <;> cases h
  rfl

end

/-- The leaves an action comes to: it begins in a world and is resumed in whatever
worlds come next. -/
inductive Action.Underway (a : Action α) (w : Show α) : Leaf α → Prop
  | begun {l v} : Leaf.machine.start (.todo a) w = (.paused l, v) → Underway a w l
  | resumed {l dt u l' v} : Underway a w l → Leaf.machine.resume l dt u = (.paused l', v) →
    Underway a w l'

/-- An action that begins in a world comes to its end aloud, and leaves another. -/
inductive Action.Ends (a : Action α) (w v : Show α) : Prop
  | atOnce : w.suppressed = false → Leaf.machine.start (.todo a) w = (.finished, v) → Ends a w v
  | later {l dt u} : a.Underway w l → u.suppressed = false →
    Leaf.machine.resume l dt u = (.finished, v) → Ends a w v

section
variable [Analytic Rat] {h : Handle} {stops : List String} {id : String}
  {arguments : List (Argument Rat)} {easing : Easing Rat} {origin stop time : Argument Rat}
  {w v : Show Rat}

/-- An animation under way has the jobs it began with. -/
theorem Action.Underway.brings {l : Leaf Rat}
    (hl : (Action.animate id arguments easing).Underway w l) (hid : w.stage.handle? id = some h)
    (hform : Animation.form? arguments = some (origin, stop, time))
    (hstop : Animation.tokens stop = .ok stops) :
    ∃ t, l = .tweening t ∧ t.effect.Brings h stops := by
  -- How the leaf came about; what went on in the worlds in between plays no part.
  induction hl with
  | begun hs =>
    rw [Leaf.machine_start_todo] at hs
    obtain ⟨t, rfl, hstart⟩ := Leaf.ofTween_eq_paused hs
    rcases Animation.exists_of_start hid hform hstop hstart with
      ⟨f, hf⟩ | ⟨hf, -⟩ | ⟨t₀, u, ht₀, -, htween⟩
    · cases hf
    · cases hf
    · exact ⟨t, rfl, Tween.start_brings ht₀ htween⟩
  | resumed _ hr ih =>
    obtain ⟨t, rfl, ht⟩ := ih
    rw [Leaf.machine_resume_tweening] at hr
    obtain ⟨t', rfl, hresume⟩ := Leaf.ofTween_eq_paused hr
    exact ⟨t', rfl, Tween.resume_brings ht hresume⟩

/-- The last update of a tween leaves its target with what the tokens say. -/
theorem Tween.retained_of_finish {t : Tween Rat} {u : World Rat C} {v : World Rat C}
    (ht : t.effect.Brings h stops) (haloud : u.suppressed = false)
    (hf : t.finish u = (.finished, v)) {t' : Target Rat} (ht' : v.stage.targets[h]? = some t') {key : String} {goal : Value Rat}
    (hgoal : Token.lastGoal? key stops = some goal) : t'.applied.lookup key = some goal := by
  obtain ⟨jobs, s, target, starts, heffect, hbuild⟩ := ht
  have happly := applyAll_of_finish heffect haloud hf
  have hreal : ∀ j ∈ jobs, j.EndsReal := by
    intro j hj
    obtain ⟨d, start?, -, hd, -⟩ := Job.exists_of_mem_build hbuild hj
    exact (Job.serves_of_ofDescriptor hd).endsReal
  obtain ⟨t₀, -, hlookup⟩ := Job.applyAll_one hreal happly ht'
  rw [hlookup, ← Job.lastGoal?_eq key hbuild, hgoal]
  rfl

/-- An animation that ends aloud leaves its target with what its tokens say. -/
theorem Animation.retained_of_ends (hends : (Action.animate id arguments easing).Ends w v)
    (hid : w.stage.handle? id = some h) (hform : form? arguments = some (origin, stop, time))
    (hstop : tokens stop = .ok stops) {t' : Target Rat} (ht' : v.stage.targets[h]? = some t')
    {key : String} {goal : Value Rat} (hgoal : Token.lastGoal? key stops = some goal) :
    t'.applied.lookup key = some goal := by
  cases hends with
  | atOnce haloud hs =>
    rw [Leaf.machine_start_todo] at hs
    rcases exists_of_start hid hform hstop (Leaf.ofTween_eq_finished hs) with
      ⟨f, hf⟩ | ⟨-, rfl, hnone⟩ | ⟨t₀, u, ht₀, hu, htween⟩
    · cases hf
    · rw [hnone] at ht'
      cases ht'
    · exact Tween.retained_of_finish ht₀ (hu.trans haloud) (Tween.finish_of_start htween) ht' hgoal
  | @later l dt u hl haloud hr =>
    obtain ⟨t, rfl, ht⟩ := hl.brings hid hform hstop
    rw [Leaf.machine_resume_tweening] at hr
    have hfinish := Tween.finish_of_resume (Leaf.ofTween_eq_finished hr)
    exact Tween.retained_of_finish (t := { t with elapsed := t.elapsed + dt.getD Scalar.zero }) ht
      haloud hfinish ht' hgoal

end

/-! ## Taking over -/

section
variable {L δ W ε : Type} (m : Machine L δ W ε)

/-- A chain whose first leaf finishes as it starts goes on with the others from there. -/
theorem Task.start_chain_of_finished {l : L} {w v : W} (h : m.start l w = (.finished, v))
    (ts : List (Task L)) :
    (Task.fresh (.chain (.fresh (.leaf l) :: ts))).start m w =
      (Task.fresh (.chain ts)).start m v := by
  rw [start_chain_cons, start_leaf, h]
  rfl

/-- A chain whose leaf finishes as it is resumed goes on with the others from there. -/
theorem Task.next_chain_of_finished {l : L} {dt : δ} {w v : W}
    (h : m.resume l dt w = (.finished, v)) (ts : List (Task L)) :
    (Task.paused (.chain (.paused (.leaf l) :: ts))).next m dt w =
      (Task.fresh (.chain ts)).start m v := by
  rw [next_chain_cons (uses_paused (Routine.uses_leaf m l)), next_leaf, h]
  rfl

end

namespace Animation

/-- An animation never makes a jump. On any stage that flows come to, one that begins without an
explicit start sets out from what its target retains. One that ends aloud leaves its target with
what its tokens say, and what begins then sets out from there, unless that is a gradient stop which
cannot be seen. In a chain what follows begins then. -/
theorem never_jumps [Analytic Rat] :
    (∀ {α : Type} [Scalar α] [Analytic α] {ps : List (Playback α)} {w : Show α},
      Show.Reached ps w → ∀ {h : Handle} {t : Target α} {key : String} {v : Value α},
        w.stage.targets[h]? = some t → t.applied.lookup key = some v →
        Stage.stopStart? key = none → SetsOut h key v w) ∧
    (∀ {id : String} {arguments : List (Argument Rat)} {easing : Easing Rat} {w v : Show Rat},
      (Action.animate id arguments easing).Ends w v →
      ∀ {h : Handle} {origin stop time : Argument Rat} {stops : List String},
        w.stage.handle? id = some h → form? arguments = some (origin, stop, time) →
        tokens stop = .ok stops →
        ∀ {t : Target Rat} {key : String} {goal : Value Rat},
          v.stage.targets[h]? = some t → Token.lastGoal? key stops = some goal →
          t.applied.lookup key = some goal ∧ (goal.Stays key → SetsOut h key goal v)) ∧
    (∀ {l : Leaf Rat} {w v : Show Rat} (ts : List (Task (Leaf Rat))),
      (Leaf.machine.start l w = (.finished, v) →
        (Task.fresh (.chain (.fresh (.leaf l) :: ts))).start Leaf.machine w =
          (Task.fresh (.chain ts)).start Leaf.machine v) ∧
      ∀ {dt : Option Rat}, Leaf.machine.resume l dt w = (.finished, v) →
        (Task.paused (.chain (.paused (.leaf l) :: ts))).next Leaf.machine dt w =
          (Task.fresh (.chain ts)).start Leaf.machine v) := by
  refine ⟨?_, ?_, fun ts => ⟨fun hs => ?_, fun hr => ?_⟩⟩
  · intro α _ _ ps w hreached h t key v ht hv hkey
    have hfits : v.Fits key := hreached.tidy.1 t (List.mem_of_getElem? ht) key v hv
    exact setsOut_of_retained ht hv hfits (.inl hkey)
  · intro id arguments easing w v hends h origin stop time stops hid hform hstop t key goal ht hgoal
    have hv : t.applied.lookup key = some goal := retained_of_ends hends hid hform hstop ht hgoal
    exact ⟨hv, setsOut_of_retained ht hv (Token.fits_of_lastGoal? hgoal)⟩
  · exact Task.start_chain_of_finished Leaf.machine hs ts
  · exact Task.next_chain_of_finished Leaf.machine hr ts

/-- A fade sets out from where another was left halfway, and from the end of one that ended. -/
theorem never_jumps_fade :
    let w : Show Rat := World.ofStage
      { targets := [.ofClasses "card" "opacity-50"], names := [("card", 0)], environment := none,
        hasSink := true } .empty
    let fade : Action Rat := .animate "card" [.text "opacity-100", .number 2] (.named "linear")
    (∃ (ps : List (Playback Rat)) (u : Show Rat), Show.Reached ps u ∧
      SetsOut 0 "opacity" (.real (3 / 4)) u) ∧
    ∃ l u v, fade.Underway w l ∧ SetsOut 0 "opacity" (.real 1) v ∧
      ∀ ts, (Task.paused (.chain (.paused (.leaf l) :: ts))).next Leaf.machine (some 2) u =
        (Task.fresh (.chain ts)).start Leaf.machine v := by
  intro w fade
  obtain ⟨hretained, hends, hchain⟩ := never_jumps
  constructor
  · have hbare : ∀ t ∈ w.stage.targets, t.applied = [] := List.forall_mem_singleton.mpr rfl
    have hbegun := ((Show.Reached.bare hbare).ofFlow (.act fade)).start List.mem_cons_self
    have hreached := hbegun.next (some 1) List.mem_cons_self
    have hhalf : ((((Playback.ofFlow (.act fade)).start w).1.2.next (some 1)
        ((Playback.ofFlow (.act fade)).start w).2).2.stage.targets[0]?.bind fun t =>
          t.applied.lookup "opacity") = some (.real (3 / 4)) := by decide +kernel
    generalize (((Playback.ofFlow (.act fade)).start w).1.2.next (some 1)
      ((Playback.ofFlow (.act fade)).start w).2).2 = u at hreached hhalf
    obtain ⟨t, ht, hv⟩ := Option.bind_eq_some_iff.mp hhalf
    exact ⟨_, u, hreached, hretained hreached ht hv (by decide)⟩
  · have hstops : tokens (.text "opacity-100" : Argument Rat) = .ok ["opacity-100"] := by
      decide +kernel
    have hgoal : Token.lastGoal? "opacity" ["opacity-100"] = some (.real (1 : Rat)) := by
      decide +kernel
    let task : Task (Leaf Rat) := .fresh (.leaf (.todo fade))
    let begun := task.start Leaf.machine w
    have hpaused : begun.1.1 = .ok false ∧ begun.2.suppressed = false := by decide +kernel
    have hdone : (begun.1.2.next Leaf.machine (some 2) begun.2).1.1 = .ok true ∧
        (begun.1.2.next Leaf.machine (some 2) begun.2).2.stage.targets[0]?.isSome = true := by
      decide +kernel
    simp only [begun, task, Task.start_leaf] at hpaused hdone
    rcases hs : Leaf.machine.start (.todo fade) w with ⟨l | _ | f, u⟩
    · rw [hs] at hpaused hdone
      simp only [Task.ofLeaf, Task.next_leaf] at hpaused hdone
      rcases hr : Leaf.machine.resume l (some 2) u with ⟨_ | _ | f, v⟩
      · rw [hr] at hdone
        cases hdone.1
      · rw [hr] at hdone
        obtain ⟨t, ht⟩ := Option.isSome_iff_exists.mp hdone.2
        have hunder : fade.Underway w l := .begun hs
        have hended := hends (.later hunder hpaused.2 hr) (h := 0) (by decide) rfl hstops ht hgoal
        exact ⟨l, u, v, hunder, hended.2 (.inl (by decide)), fun ts => (hchain ts).2 hr⟩
      · rw [hr] at hdone
        cases hdone.1
    · rw [hs] at hpaused
      cases hpaused.1
    · rw [hs] at hpaused
      cases hpaused.1

/-- A gradient stop that was left transparent is not taken over: a job that is built then starts
from the class that declares the stop. -/
theorem transparentStop_jumps :
    let w : Show Rat := World.ofStage
      { targets := [.ofClasses "card" "from-red-500"], names := [("card", 0)], environment := none,
        hasSink := true } .empty
    let clear : Action Rat := .animate "card" [.text "from-transparent", .number 0] .usual
    let red : Color Rat := ⟨.whole 239, .whole 68, .whole 68, .whole 1⟩
    Token.lastGoal? "--tw-gradient-from" ["from-transparent"] =
        some (Value.ofColor (Color.transparent : Color Rat)) ∧
      ∃ v t, clear.Ends w v ∧ v.stage.targets[0]? = some t ∧
        t.applied.lookup "--tw-gradient-from" = some (.ofColor Color.transparent) ∧
        (Job.build v.stage t ["from-blue-500"] []).map
            (List.map fun j => (j.key, j.span.start)) =
          .ok [("--tw-gradient-from", .ofColor red)] := by
  intro w clear red
  refine ⟨by decide +kernel, ?_⟩
  let task : Task (Leaf Rat) := .fresh (.leaf (.todo clear))
  have hdone : (task.start Leaf.machine w).1.1 = .ok true := by decide +kernel
  have hleft : (task.start Leaf.machine w).2.stage.targets[0]?.map (fun t =>
      (t.applied.lookup "--tw-gradient-from",
        (Job.build (task.start Leaf.machine w).2.stage t ["from-blue-500"] []).map
          (List.map fun j => (j.key, j.span.start)))) =
      some (some (.ofColor Color.transparent), .ok [("--tw-gradient-from", .ofColor red)]) := by
    decide +kernel
  simp only [task, Task.start_leaf] at hdone hleft
  rcases hs : Leaf.machine.start (.todo clear) w with ⟨l | _ | f, v⟩
  · rw [hs] at hdone
    cases hdone
  · rw [hs] at hleft
    obtain ⟨t, ht, hpair⟩ := Option.map_eq_some_iff.mp hleft
    obtain ⟨hretained, hjobs⟩ := Prod.mk.inj hpair
    exact ⟨v, t, .atOnce rfl hs, ht, hretained, hjobs⟩
  · rw [hs] at hdone
    cases hdone

end Animation
end Choreo
