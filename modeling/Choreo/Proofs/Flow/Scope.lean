import Choreo.Proofs.Flow.Deeds
import Choreo.Proofs.Routine.Confined
import Choreo.Proofs.Stage.Reset

/-!
Flows within a scope.

What a flow can get hold of is decided when it starts something: an animation gets its target by an
id and carries its jobs along. A scope says which ids may be used and which effects may be under
way, and relates worlds that nothing done in the scope tells apart. If each deed keeps the relation,
each call on a flow in the scope does: `Leaf.machine_confined`.

Named tasks are shared, so a scope says of them all or of none that they may be used.
-/

namespace Choreo
variable {α C : Type}

theorem World.addClass_names (w : World α C) (h : Handle) (token : String) :
    (w.addClass h token).stage.names = w.stage.names := by
  unfold addClass
  split
  · rfl
  · split
    · rfl
    · simp only [emit_stage]
      rfl

theorem Animation.showGradient_names (h : Handle) (t : Target α) (goals : List String)
    (w : World α C) : (showGradient h t goals w).stage.names = w.stage.names := by
  unfold showGradient
  split
  · exact w.addClass_names h gradientClass
  · rfl

/-- Whether the renderer was handed a text. -/
def Event.isSilent : Event α → Bool
  | .apply .. => false
  | _ => true

variable [Scalar α] [Analytic α]

/-- Worlds that are not told apart by effects in `E` and by animations of the targets in `A`.
Effects stay in `E`, and the animations have such effects. -/
structure World.Scope (R : World α C → World α C → Prop) (E : Effect α → Prop) (A : String → Prop) :
    Prop where
  suppressed : ∀ {w w'}, R w w' → w'.suppressed = w.suppressed
  report : ∀ {w w'} {e : Event α}, e.isSilent = true → R w w' → R (w.report e) (w'.report e)
  line : ∀ tag, E (.report tag)
  perform : ∀ {w w' e} progress, E e → w.suppressed = false → R w w' →
    AlikeOn (fun r => ∀ e', r = .ok e' → E e') R (e.perform progress w) (e.perform progress w')
  handle? : ∀ {w w' id}, A id → R w w' → w'.stage.handle? id = w.stage.handle? id
  target : ∀ {w w' id h}, A id → R w w' → w.stage.handle? id = some h →
    w'.stage.targets[h]? = w.stage.targets[h]?
  showGradient : ∀ {w w' id h}, A id → R w w' → w.stage.handle? id = some h →
    w.suppressed = false →
      R (w.addClass h Animation.gradientClass) (w'.addClass h Animation.gradientClass)
  build : ∀ {w w' id h t} goals start, A id → R w w' → w.stage.handle? id = some h →
    w.stage.targets[h]? = some t →
      Job.build w'.stage t goals start = Job.build w.stage t goals start
  animate : ∀ {w w' id h t goals start jobs}, A id → R w w' → w.stage.handle? id = some h →
    w.stage.targets[h]? = some t → Job.build w.stage t goals start = .ok jobs → E (.animate h jobs)
  type : ∀ {w w' id h} content, A id → R w w' → w.stage.handle? id = some h →
    E (.type h content (-1))

section
variable {R : World α C → World α C → Prop} {E : Effect α → Prop} {A : String → Prop}
  {w w' : World α C}

/-! ## Tweens -/

namespace Tween

/-- What a call leaves of a tween has an effect in scope. -/
abbrev Leaves (E : Effect α → Prop) : Signal (Tween α) FlowFault → Prop :=
  Signal.Leaves fun t => E t.effect

theorem update_confined (hR : World.Scope R E A) {t : Tween α} (ht : E t.effect) (progress : α)
    (h : R w w') :
    AlikeOn (fun r => ∀ t', r = .ok t' → E t'.effect) R (t.update progress w)
      (t.update progress w') := by
  unfold update
  rw [hR.suppressed h]
  by_cases hs : w.suppressed = true
  · rw [if_pos hs, if_pos hs]
    exact ⟨rfl, fun t' ht' => Except.ok.inj ht' ▸ ht, h⟩
  · obtain ⟨r, u, u', hu, hu', he, hu''⟩ :=
      (hR.perform progress ht (Bool.eq_false_iff.mpr hs) h).exists_eq
    rw [if_neg hs, if_neg hs, hu, hu']
    cases r with
    | error f => exact ⟨rfl, nofun, hu''⟩
    | ok e =>
      refine ⟨rfl, fun t' ht' => ?_, hu''⟩
      obtain rfl := Except.ok.inj ht'
      exact he e rfl

theorem finish_confined (hR : World.Scope R E A) {t : Tween α} (ht : E t.effect) (h : R w w') :
    AlikeOn (Leaves E) R (t.finish w) (t.finish w') := by
  obtain ⟨r, u, u', hu, hu', -, hu''⟩ := (update_confined hR ht Scalar.one h).exists_eq
  simp only [finish, hu, hu']
  cases r <;> exact ⟨rfl, trivial, hu''⟩

theorem start_confined (hR : World.Scope R E A) {t : Tween α} (ht : E t.effect) (h : R w w') :
    AlikeOn (Leaves E) R (t.start w) (t.start w') := by
  unfold start
  split
  · exact ⟨rfl, ht, h⟩
  · exact finish_confined hR ht h

theorem resume_confined (hR : World.Scope R E A) {t : Tween α} (ht : E t.effect) (dt : Option α)
    (h : R w w') : AlikeOn (Leaves E) R (t.resume dt w) (t.resume dt w') := by
  simp only [resume, hR.suppressed h]
  split
  · split
    · exact ⟨rfl, ht, h⟩
    · split
      · exact ⟨rfl, trivial, h⟩
      · next progress _ =>
        obtain ⟨r, u, u', hu, hu', he, hu''⟩ :=
          (update_confined hR (t := { t with elapsed := t.elapsed + dt.getD Scalar.zero }) ht
            progress h).exists_eq
        rw [hu, hu']
        cases r with
        | error f => exact ⟨rfl, trivial, hu''⟩
        | ok t' => exact ⟨rfl, he t' rfl, hu''⟩
  · exact finish_confined hR (t := { t with elapsed := t.elapsed + dt.getD Scalar.zero }) ht h

end Tween

/-! ## Animations -/

namespace Animation

theorem startTween_confined (hR : World.Scope R E A) {effect : Effect α} (he : E effect)
    (time : Argument α) (easing : Easing α) (h : R w w') :
    AlikeOn (Tween.Leaves E) R (startTween effect time easing w)
      (startTween effect time easing w') := by
  unfold startTween
  split
  · exact ⟨rfl, trivial, h⟩
  · exact ⟨rfl, trivial, h⟩
  · next curve d _ _ => exact Tween.start_confined hR (t := ⟨d, curve, effect, Scalar.zero⟩) he h

theorem showGradient_confined (hR : World.Scope R E A) {id : String} (hid : A id) {i : Handle}
    (hi : w.stage.handle? id = some i) (t : Target α) (goals : List String) (h : R w w') :
    R (showGradient i t goals w) (showGradient i t goals w') := by
  unfold showGradient
  rw [hR.suppressed h]
  split
  · next hshow =>
    rw [Bool.and_eq_true, Bool.not_eq_true'] at hshow
    exact hR.showGradient hid h hi hshow.2
  · exact h

theorem start_confined (hR : World.Scope R E A) {id : String} (hid : A id)
    (arguments : List (Argument α)) (easing : Easing α) (h : R w w') :
    AlikeOn (Tween.Leaves E) R (Animation.start id arguments easing w)
      (Animation.start id arguments easing w') := by
  unfold Animation.start
  rw [hR.handle? hid h]
  split
  · exact ⟨rfl, trivial, hR.report rfl h⟩
  · next i hi =>
    split
    · exact ⟨rfl, trivial, hR.report rfl h⟩
    · split
      · exact ⟨rfl, trivial, h⟩
      · exact ⟨rfl, trivial, h⟩
      · next stops starts _ _ =>
        rw [hR.target hid h hi]
        split
        · exact ⟨rfl, trivial, h⟩
        · next t _ =>
          have hg := showGradient_confined hR hid hi t stops h
          have hi' : (showGradient i t stops w).stage.handle? id = some i := by
            rw [Stage.handle?, showGradient_names]
            exact hi
          simp only [hR.target hid hg hi']
          split
          · exact ⟨rfl, trivial, hg⟩
          · next t' ht' =>
            rw [hR.build stops starts hid hg hi' ht']
            split
            · exact ⟨rfl, trivial, hg⟩
            · next jobs hjobs =>
              exact startTween_confined hR (hR.animate hid hg hi' ht' hjobs) _ _ hg

theorem startTyping_confined (hR : World.Scope R E A) {id : String} (hid : A id) (content : String)
    (d : α) (h : R w w') :
    AlikeOn (Tween.Leaves E) R (startTyping id content d w) (startTyping id content d w') := by
  unfold startTyping
  rw [hR.handle? hid h]
  split
  · exact ⟨rfl, trivial, hR.report rfl h⟩
  · next i hi => exact startTween_confined hR (hR.type _ hid h hi) _ _ h

end Animation
end

/-! ## Leaves -/

section
omit [Scalar α] [Analytic α]

/-- An action that uses no id but those in `A`. -/
def Action.Within (A : String → Prop) : Action α → Prop
  | .animate target _ _ => A target
  | .type target _ _ => A target
  | _ => True

/-- A leaf in a scope. `named` says whether named tasks may be used. -/
def Leaf.Within (E : Effect α → Prop) (A : String → Prop) (named : Prop) : Leaf α → Prop
  | .todo a => a.Within A
  | .tweening t => E t.effect
  | .waiting _ _ | .ticking _ _ | .handle => True
  | .enlist _ | .visit _ | .drain _ => named

/-- A crew whose tasks are in a scope. -/
def Crew.Within (E : Effect α → Prop) (A : String → Prop) (named : Prop) (c : Crew α) : Prop :=
  ∀ m ∈ c.members, m.task.Of (Leaf.Within E A named)

end

/-- A scope of worlds with a crew. If named tasks may be used, the tasks of the crew are in the
scope, and no id is outside. -/
structure Show.Scope (R : Show α → Show α → Prop) (E : Effect α → Prop) (A : String → Prop)
    (named : Prop) : Prop extends World.Scope R E A where
  crew : ∀ {w w'}, R w w' → w'.crew = w.crew
  crew_within : ∀ {w w'}, named → R w w' → w.crew.Within E A named
  withCrew : ∀ {w w'} {c : Crew α}, named → c.Within E A named → R w w' →
    R { w with crew := c } { w' with crew := c }
  all : named → ∀ id, A id

/-! ## Flows -/

namespace Flow
omit [Scalar α] [Analytic α]

mutual

/-- The ids of the targets a flow names. -/
def targets : Flow α → List String
  | .act (.animate target _ _) => [target]
  | .act (.type target _ _) => [target]
  | .act _ => []
  | .all fs => targetsOf fs
  | .chain fs => targetsOf fs
  | .delay _ f => targets f
  | .steps fs => targetsOf fs
  | .task f => targets f
  | .named _ f => targets f

def targetsOf : List (Flow α) → List String
  | [] => []
  | f :: fs => targets f ++ targetsOf fs

end

variable {E : Effect α → Prop} {A : String → Prop} {named : Prop}

theorem within_of_act {a : Action α} (h : ∀ id ∈ (Flow.act a).targets, A id) : a.Within A := by
  cases a with
  | animate target | type target => exact h target List.mem_cons_self
  | wait | transition | tween | mark | ticks | fail => trivial

mutual

theorem toRoutine_within (f : Flow α) (hid : ∀ id ∈ f.targets, A id)
    (hname : named ∨ f.nameCount = 0) : f.toRoutine.Of (Leaf.Within E A named) true := by
  cases f with
  | act a => exact within_of_act hid
  | all fs => exact toTasks_within fs hid hname fun _ => id
  | chain fs => exact toTasks_within fs hid hname fun _ => id
  | delay seconds f => exact ⟨trivial, toTask_within f hid hname fun _ => id⟩
  | steps fs => exact toRoutines_within fs hid hname
  | task f => trivial
  | named name f => trivial

theorem toTask_within (f : Flow α) (hid : ∀ id ∈ f.targets, A id)
    (hname : named ∨ f.nameCount = 0) {use : String → Leaf α}
    (huse : ∀ name, named → (use name).Within E A named) :
    (f.toTask use).Of (Leaf.Within E A named) := by
  cases f with
  | act a => exact within_of_act hid
  | all fs => exact toTasks_within fs hid hname fun _ => id
  | chain fs => exact toTasks_within fs hid hname fun _ => id
  | delay seconds f => exact ⟨trivial, toTask_within f hid hname fun _ => id⟩
  | steps fs => exact toRoutines_within fs hid hname
  | task f => exact toRoutine_within f hid hname
  | named name f => exact huse name (hname.resolve_right (Nat.succ_ne_zero _))

theorem toTasks_within (fs : List (Flow α)) (hid : ∀ id ∈ targetsOf fs, A id)
    (hname : named ∨ nameCounts fs = 0) {use : String → Leaf α}
    (huse : ∀ name, named → (use name).Within E A named) :
    Task.AllOf (Leaf.Within E A named) (toTasks use fs) := by
  cases fs with
  | nil => trivial
  | cons f fs =>
    refine ⟨toTask_within f ?_ ?_ huse, toTasks_within fs ?_ ?_ huse⟩
    · exact fun id h => hid id (List.mem_append_left _ h)
    · exact hname.imp_right fun h => (Nat.add_eq_zero_iff.mp h).1
    · exact fun id h => hid id (List.mem_append_right _ h)
    · exact hname.imp_right fun h => (Nat.add_eq_zero_iff.mp h).2

theorem toRoutines_within (fs : List (Flow α)) (hid : ∀ id ∈ targetsOf fs, A id)
    (hname : named ∨ nameCounts fs = 0) :
    Routine.EverySeq (fun _ => Leaf.Within E A named) true (toRoutines fs) := by
  cases fs with
  | nil => trivial
  | cons f fs =>
    have hf : f.toRoutine.Of (Leaf.Within E A named) true := by
      refine toRoutine_within f (fun id h => hid id (List.mem_append_left _ h)) ?_
      exact hname.imp_right fun h => (Nat.add_eq_zero_iff.mp h).1
    have hfs : Routine.EverySeq (fun _ => Leaf.Within E A named) true (toRoutines fs) := by
      refine toRoutines_within fs (fun id h => hid id (List.mem_append_right _ h)) ?_
      exact hname.imp_right fun h => (Nat.add_eq_zero_iff.mp h).2
    rw [toRoutines]
    split
    · exact ⟨hf, hfs⟩
    · next hcount =>
      refine ⟨hname.resolve_right fun h => ?_, hf, hfs⟩
      exact hcount (Nat.add_eq_zero_iff.mp h).1

end

mutual

theorem enlist_within (hn : named) (hA : ∀ id, A id) (f : Flow α) {c : Crew α}
    (hc : c.Within E A named) : (f.enlist c).Within E A named := by
  cases f with
  | act a => exact hc
  | all fs => exact enlistAll_within hn hA fs hc
  | chain fs => exact enlistAll_within hn hA fs hc
  | delay seconds f => exact enlist_within hn hA f hc
  | steps fs => exact hc
  | task f => exact enlist_within hn hA f hc
  | named name f =>
    rw [enlist]
    split
    · exact hc
    · refine enlist_within hn hA f fun m hm => ?_
      rcases List.mem_append.mp hm with hm | hm
      · exact hc m hm
      · obtain rfl := List.mem_singleton.mp hm
        exact toRoutine_within f (fun id _ => hA id) (.inl hn)

theorem enlistAll_within (hn : named) (hA : ∀ id, A id) (fs : List (Flow α)) {c : Crew α}
    (hc : c.Within E A named) : (enlistAll fs c).Within E A named := by
  cases fs with
  | nil => exact hc
  | cons f fs => exact enlistAll_within hn hA fs (enlist_within hn hA f hc)

end
end Flow

/-! ## Calls -/

namespace Leaf
variable {R : Show α → Show α → Prop} {E : Effect α → Prop} {A : String → Prop} {named : Prop}
  {w w' : Show α} {player : Player α}

omit [Scalar α] [Analytic α] in
theorem ofTween_confined {a b : Signal (Tween α) FlowFault × Show α}
    (h : AlikeOn (Tween.Leaves E) R a b) :
    AlikeOn (Signal.Leaves (Leaf.Within E A named)) R (ofTween a) (ofTween b) := by
  obtain ⟨s, u, u', rfl, rfl, hs, hR⟩ := h.exists_eq
  cases s with
  | paused t => exact ⟨rfl, hs, hR⟩
  | finished => exact ⟨rfl, trivial, hR⟩
  | failed f => exact ⟨rfl, trivial, hR⟩

omit [Scalar α] [Analytic α] in
theorem follow_confined {l : Leaf α} (hl : l.Within E A named)
    {a b : Except FlowFault Bool × Show α} (h : Alike R a b) :
    AlikeOn (Signal.Leaves (Leaf.Within E A named)) R (follow l a) (follow l b) := by
  obtain ⟨r, u, u', rfl, rfl, hR⟩ := h.exists_eq
  rcases r with f | _ | _
  · exact ⟨rfl, trivial, hR⟩
  · exact ⟨rfl, hl, hR⟩
  · exact ⟨rfl, trivial, hR⟩

omit [Scalar α] [Analytic α] in
theorem put_within {c : Crew α} (hc : c.Within E A named) {m : Member α}
    (hm : m.task.Of (Leaf.Within E A named)) : (c.put m).Within E A named := by
  intro x hx
  obtain ⟨y, hy, rfl⟩ := List.mem_map.mp hx
  split
  · exact hm
  · exact hc y hy

/-- A named task is stepped in the crew, and what the step leaves of it is put back. -/
theorem call_confined (hR : Show.Scope R E A named) (hn : named)
    (hp : player.Confined player (Leaf.Within E A named) R) (name : String)
    (dt : Option (Option α)) (h : R w w') :
    Alike R (call player name dt w) (call player name dt w') := by
  unfold call
  rw [hR.crew h]
  split
  · exact ⟨rfl, h⟩
  · next m hm =>
    have hcrew := hR.crew_within hn h
    have hmember : m.task.Of (Leaf.Within E A named) := hcrew m (List.mem_of_find?_eq_some hm)
    split
    · cases dt <;> exact ⟨rfl, h⟩
    · have hc := hR.withCrew hn (put_within hcrew (m := { m with busy := true }) hmember) h
      have hback (u u' : Show α) (t : Task (Leaf α)) (ht : t.Of (Leaf.Within E A named))
          (hu : R u u') : R { u with crew := u.crew.put { m with task := t, busy := false } }
            { u' with crew := u'.crew.put { m with task := t, busy := false } } := by
        rw [hR.crew hu]
        exact hR.withCrew hn (put_within (hR.crew_within hn hu) ht) hu
      cases dt with
      | none =>
        obtain ⟨⟨r, t⟩, u, u', hu, hu', ht, hR'⟩ := (Task.start_confined hp hmember hc).exists_eq
        simp only [hu, hu']
        exact ⟨rfl, hback u u' t ht hR'⟩
      | some dt =>
        obtain ⟨⟨r, t⟩, u, u', hu, hu', ht, hR'⟩ := (Task.next_confined hp dt hmember hc).exists_eq
        simp only [hu, hu']
        exact ⟨rfl, hback u u' t ht hR'⟩

omit [Analytic α] in
theorem wait_confined (elapsed d : α) (h : R w w') :
    AlikeOn (Signal.Leaves (Leaf.Within E A named)) R (wait elapsed d w) (wait elapsed d w') := by
  unfold wait
  split <;> exact ⟨rfl, trivial, h⟩

theorem begin_confined (hR : Show.Scope R E A named) {a : Action α} (ha : a.Within A) (h : R w w') :
    AlikeOn (Signal.Leaves (Leaf.Within E A named)) R (begin a w) (begin a w') := by
  cases a with
  | wait d => exact wait_confined _ _ h
  | transition t => exact wait_confined _ _ h
  | tween tag d easing =>
    exact ofTween_confined (Animation.startTween_confined hR.toScope (hR.line tag) _ _ h)
  | animate target arguments easing =>
    exact ofTween_confined (Animation.start_confined hR.toScope ha _ _ h)
  | type target content d =>
    exact ofTween_confined (Animation.startTyping_confined hR.toScope ha _ _ h)
  | mark tag => exact ⟨rfl, trivial, hR.report rfl h⟩
  | ticks tag count => cases count <;> exact ⟨rfl, trivial, h⟩
  | fail message => exact ⟨rfl, trivial, h⟩

theorem start_confined (hR : Show.Scope R E A named)
    (hp : player.Confined player (Leaf.Within E A named) R) {l : Leaf α} (hl : l.Within E A named)
    (h : R w w') :
    AlikeOn (Signal.Leaves (Leaf.Within E A named)) R (start player l w) (start player l w') := by
  cases l with
  | todo a => exact begin_confined hR hl h
  | waiting elapsed d => exact wait_confined _ _ h
  | tweening t => exact ofTween_confined (Tween.start_confined hR.toScope hl h)
  | ticking tag left => exact begin_confined hR (a := .ticks tag left) trivial h
  | enlist part =>
    refine ⟨rfl, trivial, ?_⟩
    show R { w with crew := part.enlist w.crew } { w' with crew := part.enlist w'.crew }
    rw [hR.crew h]
    exact hR.withCrew hl (Flow.enlist_within hl (hR.all hl) part (hR.crew_within hl h)) h
  | visit name => exact ⟨rfl, hl, h⟩
  | drain name => exact follow_confined hl (call_confined hR hl hp name none h)
  | handle => exact ⟨rfl, trivial, h⟩

theorem resume_confined (hR : Show.Scope R E A named)
    (hp : player.Confined player (Leaf.Within E A named) R) {l : Leaf α} (hl : l.Within E A named)
    (dt : Option α) (h : R w w') :
    AlikeOn (Signal.Leaves (Leaf.Within E A named)) R (resume player l dt w)
      (resume player l dt w') := by
  cases l with
  | todo a => exact ⟨rfl, trivial, h⟩
  | waiting elapsed d => exact wait_confined _ _ h
  | tweening t => exact ofTween_confined (Tween.resume_confined hR.toScope hl dt h)
  | ticking tag left =>
    cases left with
    | zero => exact ⟨rfl, trivial, h⟩
    | succ n => exact begin_confined hR (a := .ticks tag n) trivial (hR.report rfl h)
  | enlist part => exact ⟨rfl, trivial, h⟩
  | visit name => exact follow_confined hl (call_confined hR hl hp name (some dt) h)
  | drain name => exact follow_confined hl (call_confined hR hl hp name (some dt) h)
  | handle => exact ⟨rfl, trivial, h⟩

theorem bounded_confined (hR : Show.Scope R E A named) (depth : Nat) :
    (bounded depth : Player α).Confined (bounded depth) (Leaf.Within E A named) R := by
  have haround {player : Player α} (hp : player.Confined player (Leaf.Within E A named) R) :
      (around player).Confined (around player) (Leaf.Within E A named) R :=
    ⟨fun _ _ _ hl h => start_confined hR hp hl h,
      fun _ dt _ _ hl h => resume_confined hR hp hl dt h, rfl⟩
  induction depth with
  | zero =>
    exact haround ⟨fun _ _ _ hl h => ⟨rfl, hl, h⟩, fun _ _ _ _ _ h => ⟨rfl, trivial, h⟩, rfl⟩
  | succ depth ih => exact haround ih

/-- The machine of flows cannot tell apart what a scope relates, and its calls stay in the scope. -/
theorem machine_confined (hR : Show.Scope R E A named) :
    (machine : Player α).Confined machine (Leaf.Within E A named) R where
  start l w w' hl h := by
    show AlikeOn _ _ ((bounded w.crew.depth).start l w) ((bounded w'.crew.depth).start l w')
    rw [hR.crew h]
    exact (bounded_confined hR w.crew.depth).start l w w' hl h
  resume l dt w w' hl h := by
    show AlikeOn _ _ ((bounded w.crew.depth).resume l dt w) ((bounded w'.crew.depth).resume l dt w')
    rw [hR.crew h]
    exact (bounded_confined hR w.crew.depth).resume l dt w w' hl h
  stepped := rfl

end Leaf
end Choreo
