import Mathlib.Data.List.Forall2
import Choreo.Proofs.Flow.Deeds
import Choreo.Proofs.Flow.Twins
import Choreo.Proofs.Number.Rational
import Choreo.Proofs.Routine.InTime

/-!
Flows while updates are suppressed.

A suppressed run shows nothing and changes nothing on the stage: of what a flow can do, only its
remarks, marks and ticks are left. It keeps time all the same. When a tween pauses and is done
depends on its duration and on what has passed of it, and how long an animation takes on what its
stage was declared with; none of that is changed by what a run aloud does. So a suppressed run and
one aloud are done with the same step unless one of them fails (`Flow.suppressed_run`).
-/

namespace Choreo
variable {α C : Type}

/-! ## Silence -/

/-- Whether an event tells of something shown: a text for the renderer, or the progress of a
tween. -/
def Event.isShown : Event α → Bool
  | .apply .. => true
  | .update .. => true
  | _ => false

/-- A suppressed world on a stage, with nothing shown since a past. -/
structure World.Silent (s : Stage α) (past : List (Event α)) (w : World α C) : Prop where
  suppressed : w.suppressed = true
  stage : w.stage = s
  log : ∃ news, w.log = news ++ past ∧ ∀ e ∈ news, e.isShown = false

namespace World.Silent
variable {s : Stage α} {past : List (Event α)} {w : World α C}

theorem report (h : w.Silent s past) {e : Event α} (he : e.isShown = false) :
    (w.report e).Silent s past := by
  obtain ⟨news, hlog, hnews⟩ := h.log
  refine ⟨h.suppressed, h.stage, e :: news, congrArg (e :: ·) hlog, fun x hx => ?_⟩
  rcases List.mem_cons.mp hx with rfl | hx
  · exact he
  · exact hnews x hx

theorem not_aloud (h : w.Silent s past) (haloud : w.suppressed = false) : False := by
  have hs := h.suppressed
  rw [haloud] at hs
  cases hs

end World.Silent

theorem Show.silent_lived (s : Stage α) (past : List (Event α)) :
    Show.Lived (World.Silent s past) where
  remark _ _ _ h := h.report rfl
  update _ _ haloud h := (h.not_aloud haloud).elim
  apply _ _ _ _ _ haloud h := (h.not_aloud haloud).elim
  addClass _ _ haloud h := (h.not_aloud haloud).elim
  mark _ h := h.report rfl
  tick _ _ h := h.report rfl
  withCrew _ h := ⟨h.suppressed, h.stage, h.log⟩

/-! ## What no animation changes -/

namespace World

/-- What animations leave as it is. -/
structure Standing (suppressed : Bool) (declared : Stage α) (crew : C) (w : World α C) : Prop where
  suppressed : w.suppressed = suppressed
  declared : w.stage.asDeclared = declared
  crew : w.crew = crew

variable {b : Bool} {s : Stage α} {c : C} {w : World α C}

theorem Standing.report (h : w.Standing b s c) (e : Event α) : (w.report e).Standing b s c :=
  ⟨h.suppressed, h.declared, h.crew⟩

theorem Standing.emit (h : w.Standing b s c) (target property text : String) :
    (w.emit target property text).Standing b s c := by
  unfold World.emit
  split
  · exact h.report _
  · exact h

theorem Standing.modify (h : w.Standing b s c) (i : Handle) {f : Target α → Target α}
    (hf : ∀ t, w.stage.targets[i]? = some t → (f t).asDeclared = t.asDeclared) :
    World.Standing b s c { w with stage := w.stage.modify i f } :=
  ⟨h.suppressed, (w.stage.asDeclared_modify i hf).trans h.declared, h.crew⟩

theorem standing_animated (b : Bool) (s : Stage α) (c : C) : Animated (Standing b s c) where
  remark _ _ _ h := h.report _
  update _ _ _ h := h.report _
  apply := by
    intro w i key value property text _ h
    unfold World.apply
    split
    · exact h
    · exact (h.modify i (f := fun t => { t with applied := assign key value t.applied })
        fun _ _ => rfl).emit _ _ _
  addClass := by
    intro w i token _ h
    unfold World.addClass
    split
    · exact h
    · next t ht =>
      split
      · exact h
      · exact (h.modify i (f := fun _ => { t with classes := t.classes ++ [token] })
          fun u hu => by rw [ht] at hu; cases hu; rfl).emit _ _ _

end World

/-! ## How long animations take -/

section
variable [Scalar α] [Analytic α]

namespace Tween

/-- A tween of a duration goes on by what has passed of it, unless it fails. -/
def Timed (elapsed d : α) : Signal (Tween α) FlowFault → Prop
  | .paused t => t.elapsed = elapsed ∧ t.duration = d ∧ elapsed < d
  | .finished => ¬elapsed < d
  | .failed _ => True

omit [Analytic α] in
theorem Timed.agree {elapsed d : α} {a b : Signal (Tween α) FlowFault} (ha : Timed elapsed d a)
    (hb : Timed elapsed d b) :
    Signal.Agree (fun t t' => t.elapsed = t'.elapsed ∧ t.duration = t'.duration) a b := by
  cases a with
  | failed => trivial
  | paused t =>
    cases b with
    | failed => trivial
    | paused t' => exact ⟨ha.1.trans hb.1.symm, ha.2.1.trans hb.2.1.symm⟩
    | finished => exact hb ha.2.2
  | finished =>
    cases b with
    | failed => trivial
    | paused t' => exact ha hb.2.2
    | finished => trivial

theorem update_fst {t t' : Tween α} {progress : α} {w : World α C}
    (h : (t.update progress w).1 = .ok t') :
    t'.elapsed = t.elapsed ∧ t'.duration = t.duration := by
  unfold update at h
  split at h
  · cases h
    exact ⟨rfl, rfl⟩
  · split at h
    · cases h
      exact ⟨rfl, rfl⟩
    · cases h

theorem finish_timed {t : Tween α} (h : ¬t.elapsed < t.duration) (w : World α C) :
    Timed t.elapsed t.duration (t.finish w).1 := by
  unfold finish
  split
  · exact h
  · trivial

theorem start_timed (t : Tween α) (w : World α C) :
    Timed t.elapsed t.duration (t.start w).1 := by
  unfold start
  by_cases h : t.elapsed < t.duration
  · rw [if_pos h]
    exact ⟨rfl, rfl, h⟩
  · rw [if_neg h]
    exact finish_timed h w

theorem resume_timed (t : Tween α) (dt : Option α) (w : World α C) :
    Timed (t.elapsed + dt.getD Scalar.zero) t.duration (t.resume dt w).1 := by
  unfold resume
  simp only
  by_cases h : t.elapsed + dt.getD Scalar.zero < t.duration
  · rw [if_pos h]
    split
    · exact ⟨rfl, rfl, h⟩
    · split
      · trivial
      · split
        · next heq =>
          obtain ⟨he, hd⟩ := update_fst (congrArg Prod.fst heq)
          exact ⟨he, hd, h⟩
        · trivial
  · rw [if_neg h]
    exact finish_timed h w

end Tween

namespace Animation

/-- How long an animation of a target takes, if it does anything. -/
def length? (s : Stage α) (id : String) (arguments : List (Argument α)) : Option α :=
  match s.handle? id, form? arguments with
  | some h, some (_, _, time) =>
    if h < s.targets.length then (duration time).toOption else none
  | _, _ => none

/-- An animation of a length goes on as a tween that begins. One without any does not pause. -/
def Timed : Option α → Signal (Tween α) FlowFault → Prop
  | some d, a => Tween.Timed Scalar.zero d a
  | none, a => ∀ t, a ≠ .paused t

omit [Analytic α] in
theorem Timed.agree {d? : Option α} {a b : Signal (Tween α) FlowFault} (ha : Timed d? a)
    (hb : Timed d? b) :
    Signal.Agree (fun t t' => t.elapsed = t'.elapsed ∧ t.duration = t'.duration) a b := by
  cases d? with
  | some d => exact Tween.Timed.agree ha hb
  | none =>
    cases a with
    | paused t => exact (ha t rfl).elim
    | failed => trivial
    | finished =>
      cases b with
      | paused t => exact (hb t rfl).elim
      | failed => trivial
      | finished => trivial

omit [Analytic α] in
theorem timed_failed (d? : Option α) (f : FlowFault) : Timed d? (.failed f) := by
  cases d? with
  | some d => trivial
  | none => exact nofun

theorem startTween_timed (effect : Effect α) (time : Argument α) (easing : Easing α)
    (w : World α C) : Timed (duration time).toOption (startTween effect time easing w).1 := by
  unfold startTween
  split
  · exact timed_failed _ _
  · exact timed_failed _ _
  · next curve d _ hd =>
    rw [hd]
    exact Tween.start_timed ⟨d, curve, effect, Scalar.zero⟩ w

omit [Scalar α] [Analytic α] in
theorem length_targets_congr {s s' : Stage α} (h : s.asDeclared = s'.asDeclared) :
    s.targets.length = s'.targets.length := by
  have hl := congrArg (fun u : Stage α => u.targets.length) h
  simpa [Stage.asDeclared] using hl

omit [Scalar α] [Analytic α] in
theorem handle?_congr {s s' : Stage α} (h : s.asDeclared = s'.asDeclared) (id : String) :
    s.handle? id = s'.handle? id := by
  have hnames : s.asDeclared.names = s'.asDeclared.names := congrArg Stage.names h
  exact congrArg (List.lookup id) hnames

omit [Scalar α] [Analytic α] in
theorem length?_congr {s s' : Stage α} (h : s.asDeclared = s'.asDeclared) (id : String)
    (arguments : List (Argument α)) : length? s id arguments = length? s' id arguments := by
  simp only [length?, handle?_congr h, length_targets_congr h]

/-- How an animation of a target goes on is decided by what its stage was declared with. -/
theorem start_timed (id : String) (arguments : List (Argument α)) (easing : Easing α)
    (w : World α C) :
    Timed (length? w.stage id arguments) (Animation.start id arguments easing w).1 := by
  unfold Animation.start length?
  cases w.stage.handle? id with
  | none => exact nofun
  | some h =>
    cases form? arguments with
    | none => exact nofun
    | some form =>
      obtain ⟨origin, stop, time⟩ := form
      simp only
      cases tokens stop with
      | error f => exact timed_failed _ f
      | ok stops =>
        cases tokens origin with
        | error f => exact timed_failed _ f
        | ok starts =>
          cases ht : w.stage.targets[h]? with
          | none =>
            rw [if_neg (Nat.not_lt.mpr (List.getElem?_eq_none_iff.mp ht))]
            exact nofun
          | some t =>
            obtain ⟨hlt, -⟩ := List.getElem?_eq_some_iff.mp ht
            have hstands : World.Standing w.suppressed w.stage.asDeclared w.crew
                (showGradient h t stops w) :=
              showGradient_keeps (World.standing_animated _ _ _) h t stops ⟨rfl, rfl, rfl⟩
            -- A gradient may add a class before the jobs are built, but no target goes.
            have hcount := length_targets_congr hstands.declared
            simp only
            rw [if_pos hlt]
            cases ht' : (showGradient h t stops w).stage.targets[h]? with
            | none =>
              have hle := List.getElem?_eq_none_iff.mp ht'
              omega
            | some t' =>
              simp only
              cases Job.build (showGradient h t stops w).stage t' stops starts with
              | error f => exact timed_failed _ _
              | ok jobs => exact startTween_timed _ _ _ _

theorem startTyping_timed (id content : String) (d : α) (w : World α C) :
    Timed ((w.stage.handle? id).map fun _ => d) (startTyping id content d w).1 := by
  unfold startTyping
  cases w.stage.handle? id with
  | none => exact nofun
  | some h => exact startTween_timed _ (.number d) _ w

end Animation
end

/-! ## Leaves -/

/-- Leaves of one kind that are as far. -/
inductive Leaf.InTime : Leaf α → Leaf α → Prop
  | refl (l : Leaf α) : InTime l l
  | tweening {t t' : Tween α} : t.elapsed = t'.elapsed ∧ t.duration = t'.duration →
    InTime (.tweening t) (.tweening t')

structure Member.InTime (a b : Member α) : Prop where
  name : a.name = b.name
  busy : a.busy = b.busy
  task : Task.Like Leaf.InTime a.task b.task

structure Crew.InTime (c c' : Crew α) : Prop where
  depth : c.depth = c'.depth
  members : List.Forall₂ Member.InTime c.members c'.members

/-- A suppressed world and one aloud, on stages that were declared alike, with crews that are as
far. -/
structure World.Muted (w w' : Show α) : Prop where
  suppressed : w.suppressed = true
  aloud : w'.suppressed = false
  declared : w.stage.asDeclared = w'.stage.asDeclared
  crew : Crew.InTime w.crew w'.crew

open World (Muted)

namespace Crew.InTime
variable {c c' : Crew α}

theorem refl (c : Crew α) : Crew.InTime c c :=
  ⟨rfl, List.forall₂_same.mpr fun m _ => ⟨rfl, rfl, Task.Like.refl .refl m.task⟩⟩

theorem member? (h : Crew.InTime c c') (name : String) :
    (c.member? name = none ∧ c'.member? name = none) ∨
      ∃ m m', c.member? name = some m ∧ c'.member? name = some m' ∧ Member.InTime m m' := by
  have hmembers := h.members
  unfold Crew.member?
  generalize c.members = ms at hmembers ⊢
  generalize c'.members = ms' at hmembers ⊢
  induction hmembers with
  | nil => exact .inl ⟨rfl, rfl⟩
  | @cons m m' ms ms' hm _ ih =>
    by_cases hn : m.name = name
    · have hn' : m'.name = name := hm.name.symm.trans hn
      rw [List.find?_cons_of_pos (by simpa using hn), List.find?_cons_of_pos (by simpa using hn')]
      exact .inr ⟨m, m', rfl, rfl, hm⟩
    · have hn' : ¬m'.name = name := fun h => hn (hm.name.trans h)
      rw [List.find?_cons_of_neg (by simpa using hn), List.find?_cons_of_neg (by simpa using hn')]
      exact ih

theorem put (h : Crew.InTime c c') {m m' : Member α} (hm : Member.InTime m m') :
    Crew.InTime (c.put m) (c'.put m') := by
  refine ⟨h.depth, ?_⟩
  refine List.rel_map (fun x x' hx => ?_) h.members
  simp only [← hx.name, ← hm.name]
  split
  · exact hm
  · exact hx

theorem add (h : Crew.InTime c c') (name : String) (t : Task (Leaf α)) :
    Crew.InTime (c.add name t) (c'.add name t) :=
  ⟨h.depth, List.rel_append h.members (.cons ⟨rfl, rfl, Task.Like.refl .refl t⟩ .nil)⟩

end Crew.InTime

mutual

theorem Flow.enlist_inTime : ∀ (f : Flow α) {c c' : Crew α}, Crew.InTime c c' →
    Crew.InTime (f.enlist c) (f.enlist c')
  | .act _, _, _, h => h
  | .all fs, _, _, h => Flow.enlistAll_inTime fs h
  | .chain fs, _, _, h => Flow.enlistAll_inTime fs h
  | .delay _ f, _, _, h => Flow.enlist_inTime f h
  | .steps _, _, _, h => h
  | .task f, _, _, h => Flow.enlist_inTime f h
  | .named name f, c, c', h => by
    simp only [Flow.enlist]
    rcases h.member? name with ⟨hm, hm'⟩ | ⟨m, m', hm, hm', -⟩
    · rw [hm, hm']
      exact Flow.enlist_inTime f (h.add name _)
    · rw [hm, hm']
      exact h

theorem Flow.enlistAll_inTime : ∀ (fs : List (Flow α)) {c c' : Crew α}, Crew.InTime c c' →
    Crew.InTime (Flow.enlistAll fs c) (Flow.enlistAll fs c')
  | [], _, _, h => h
  | f :: fs, _, _, h => Flow.enlistAll_inTime fs (Flow.enlist_inTime f h)

end

namespace World.Muted
variable {w w' : Show α}

theorem report (h : Muted w w') (e e' : Event α) : Muted (w.report e) (w'.report e') :=
  ⟨h.suppressed, h.aloud, h.declared, h.crew⟩

theorem withCrew (h : Muted w w') {c c' : Crew α} (hc : Crew.InTime c c') :
    Muted { w with crew := c } { w' with crew := c' } :=
  ⟨h.suppressed, h.aloud, h.declared, hc⟩

/-- What keeps all that animations leave as it is keeps the worlds as far. -/
theorem of_standing (h : Muted w w') {u u' : Show α}
    (hu : u.Standing w.suppressed w.stage.asDeclared w.crew)
    (hu' : u'.Standing w'.suppressed w'.stage.asDeclared w'.crew) : Muted u u' := by
  refine ⟨hu.suppressed.trans h.suppressed, hu'.suppressed.trans h.aloud, ?_, ?_⟩
  · rw [hu.declared, hu'.declared, h.declared]
  · rw [hu.crew, hu'.crew]
    exact h.crew

end World.Muted

theorem World.standing_self (w : World α C) : w.Standing w.suppressed w.stage.asDeclared w.crew :=
  ⟨rfl, rfl, rfl⟩

namespace Leaf
variable {w w' : Show α} {player : Player α}

theorem ofTween_inTime {a b : Signal (Tween α) FlowFault × Show α}
    (hs : Signal.Agree (fun t t' => t.elapsed = t'.elapsed ∧ t.duration = t'.duration) a.1 b.1)
    (hw : Muted a.2 b.2) : Signal.InTime Leaf.InTime Muted (ofTween a) (ofTween b) := by
  obtain ⟨s, u⟩ := a
  obtain ⟨s', u'⟩ := b
  cases s with
  | failed f => exact .failedLeft f u _
  | paused t =>
    cases s' with
    | failed f => exact .failedRight _ f u'
    | paused t' => exact .paused (.tweening hs) hw
    | finished => exact hs.elim
  | finished =>
    cases s' with
    | failed f => exact .failedRight _ f u'
    | paused t' => exact hs.elim
    | finished => exact .finished hw

/-- Two calls on a named task that report the same, unless one of them failed. -/
inductive Called : Except FlowFault Bool × Show α → Except FlowFault Bool × Show α → Prop
  | ok {u u'} (done : Bool) : Muted u u' → Called (.ok done, u) (.ok done, u')
  | failedLeft (f : FlowFault) (u : Show α) (b) : Called (.error f, u) b
  | failedRight (a) (f : FlowFault) (u : Show α) : Called a (.error f, u)

theorem follow_inTime (l : Leaf α) {a b : Except FlowFault Bool × Show α} (h : Called a b) :
    Signal.InTime Leaf.InTime Muted (follow l a) (follow l b) := by
  cases h with
  | ok done hu =>
    cases done with
    | true => exact .finished hu
    | false => exact .paused (.refl l) hu
  | failedLeft f u b => exact .failedLeft f u _
  | failedRight a f u => exact .failedRight _ f u

theorem put_inTime {m m' : Member α} (hm : Member.InTime m m')
    {a b : (Except FlowFault Bool × Task (Leaf α)) × Show α}
    (h : Task.InTime Leaf.InTime Muted a b) :
    Called
      (a.1.1, { a.2 with crew := a.2.crew.put { m with task := a.1.2, busy := false } })
      (b.1.1, { b.2 with crew := b.2.crew.put { m' with task := b.1.2, busy := false } }) := by
  cases h with
  | ok done ht hu => exact .ok done (hu.withCrew (hu.crew.put ⟨hm.name, rfl, ht⟩))
  | failedLeft f t u b => exact .failedLeft f _ _
  | failedRight a f t u => exact .failedRight _ f _

theorem call_inTime (hp : player.InTime Leaf.InTime Muted) (name : String)
    (dt : Option (Option α)) (h : Muted w w') :
    Called (call player name dt w) (call player name dt w') := by
  unfold call
  rcases h.crew.member? name with ⟨hm, hm'⟩ | ⟨m, m', hm, hm', hmm⟩
  · rw [hm, hm']
    exact .failedLeft _ w _
  · rw [hm, hm']
    simp only [← hmm.busy]
    by_cases hbusy : m.busy = true
    · rw [if_pos hbusy, if_pos hbusy]
      cases dt with
      | none => exact .ok false h
      | some dt => exact .failedLeft _ w _
    · rw [if_neg hbusy, if_neg hbusy]
      have hbusied : Member.InTime { m with busy := true } { m' with busy := true } :=
        ⟨hmm.name, rfl, hmm.task⟩
      have hc := h.withCrew (h.crew.put hbusied)
      cases dt with
      | none => exact put_inTime hmm (Task.start_inTime hp hmm.task hc)
      | some dt => exact put_inTime hmm (Task.next_inTime hp dt hmm.task hc)

variable [Scalar α]

theorem wait_inTime (elapsed d : α) (h : Muted w w') :
    Signal.InTime Leaf.InTime Muted (wait elapsed d w) (wait elapsed d w') := by
  unfold wait
  by_cases hd : elapsed < d
  · rw [if_pos hd, if_pos hd]
    exact .paused (.refl _) h
  · rw [if_neg hd, if_neg hd]
    exact .finished h

variable [Analytic α]

theorem begin_inTime (a : Action α) (h : Muted w w') :
    Signal.InTime Leaf.InTime Muted (begin a w) (begin a w') := by
  have hK (v : Show α) := World.standing_animated v.suppressed v.stage.asDeclared v.crew
  cases a with
  | wait d => exact wait_inTime _ d h
  | transition t => exact wait_inTime _ t.duration h
  | tween tag d easing =>
    refine ofTween_inTime ?_ (h.of_standing ?_ ?_)
    · exact (Animation.startTween_timed _ (.number d) easing w).agree
        (Animation.startTween_timed _ (.number d) easing w')
    · exact Animation.startTween_keeps (hK w) _ _ _ w.standing_self
    · exact Animation.startTween_keeps (hK w') _ _ _ w'.standing_self
  | animate target arguments easing =>
    refine ofTween_inTime ?_ (h.of_standing ?_ ?_)
    · have ht := Animation.start_timed target arguments easing w
      rw [Animation.length?_congr h.declared] at ht
      exact ht.agree (Animation.start_timed target arguments easing w')
    · exact Animation.start_keeps (hK w) _ _ _ w.standing_self
    · exact Animation.start_keeps (hK w') _ _ _ w'.standing_self
  | type target content d =>
    refine ofTween_inTime ?_ (h.of_standing ?_ ?_)
    · have ht := Animation.startTyping_timed target content d w
      rw [Animation.handle?_congr h.declared] at ht
      exact ht.agree (Animation.startTyping_timed target content d w')
    · exact Animation.startTyping_keeps (hK w) _ _ _ w.standing_self
    · exact Animation.startTyping_keeps (hK w') _ _ _ w'.standing_self
  | mark tag => exact .finished (h.report _ _)
  | ticks tag count =>
    cases count with
    | zero => exact .finished h
    | succ n => exact .paused (.refl _) h
  | fail message => exact .failedLeft _ w _

theorem start_inTime (hp : player.InTime Leaf.InTime Muted) {l l' : Leaf α}
    (hl : Leaf.InTime l l') (h : Muted w w') :
    Signal.InTime Leaf.InTime Muted (start player l w) (start player l' w') := by
  have hK (v : Show α) := World.standing_animated v.suppressed v.stage.asDeclared v.crew
  have htween {t t' : Tween α} (ht : t.elapsed = t'.elapsed ∧ t.duration = t'.duration) :
      Signal.InTime Leaf.InTime Muted (start player (.tweening t) w)
        (start player (.tweening t') w') := by
    refine ofTween_inTime ?_ (h.of_standing ?_ ?_)
    · have hs := t.start_timed w
      rw [ht.1, ht.2] at hs
      exact hs.agree (t'.start_timed w')
    · exact t.start_keeps (hK w) w.standing_self
    · exact t'.start_keeps (hK w') w'.standing_self
  cases hl with
  | tweening ht => exact htween ht
  | refl =>
    cases l with
    | todo a => exact begin_inTime a h
    | waiting elapsed d => exact wait_inTime elapsed d h
    | tweening t => exact htween ⟨rfl, rfl⟩
    | ticking tag left => exact begin_inTime (.ticks tag left) h
    | enlist part => exact .finished (h.withCrew (Flow.enlist_inTime part h.crew))
    | visit name => exact .paused (.refl _) h
    | drain name => exact follow_inTime _ (call_inTime hp name none h)
    | handle => exact .failedLeft _ w _

theorem resume_inTime (hp : player.InTime Leaf.InTime Muted) {l l' : Leaf α} (dt : Option α)
    (hl : Leaf.InTime l l') (h : Muted w w') :
    Signal.InTime Leaf.InTime Muted (resume player l dt w) (resume player l' dt w') := by
  have hK (v : Show α) := World.standing_animated v.suppressed v.stage.asDeclared v.crew
  have htween {t t' : Tween α} (ht : t.elapsed = t'.elapsed ∧ t.duration = t'.duration) :
      Signal.InTime Leaf.InTime Muted (resume player (.tweening t) dt w)
        (resume player (.tweening t') dt w') := by
    refine ofTween_inTime ?_ (h.of_standing ?_ ?_)
    · have hs := t.resume_timed dt w
      rw [ht.1, ht.2] at hs
      exact hs.agree (t'.resume_timed dt w')
    · exact t.resume_keeps (hK w) dt w.standing_self
    · exact t'.resume_keeps (hK w') dt w'.standing_self
  cases hl with
  | tweening ht => exact htween ht
  | refl =>
    cases l with
    | todo a => exact .finished h
    | waiting elapsed d => exact wait_inTime _ d h
    | tweening t => exact htween ⟨rfl, rfl⟩
    | ticking tag left =>
      cases left with
      | zero => exact .finished h
      | succ n => exact begin_inTime (.ticks tag n) (h.report _ _)
    | enlist part => exact .finished h
    | visit name => exact follow_inTime _ (call_inTime hp name (some dt) h)
    | drain name => exact follow_inTime _ (call_inTime hp name (some dt) h)
    | handle => exact .finished h

theorem around_inTime (hp : player.InTime Leaf.InTime Muted) :
    (around player).InTime Leaf.InTime Muted where
  start hl h := start_inTime hp hl h
  resume dt hl h := resume_inTime hp dt hl h

omit [Scalar α] [Analytic α] in
theorem idle_inTime : (idle : Player α).InTime Leaf.InTime Muted where
  start hl h := .paused hl h
  resume _ _ _ := .failedLeft _ _ _

theorem bounded_inTime (depth : Nat) :
    (bounded depth : Player α).InTime Leaf.InTime Muted := by
  induction depth with
  | zero => exact around_inTime idle_inTime
  | succ depth ih => exact around_inTime ih

/-- The machine of flows keeps the same time whether updates are suppressed or not. -/
theorem machine_inTime : (machine : Player α).InTime Leaf.InTime Muted where
  start := by
    intro l l' w w' hl h
    show Signal.InTime _ _ ((bounded w.crew.depth).start l w) ((bounded w'.crew.depth).start l' w')
    rw [h.crew.depth]
    exact (bounded_inTime w'.crew.depth).start hl h
  resume := by
    intro l l' w w' dt hl h
    show Signal.InTime _ _ ((bounded w.crew.depth).resume l dt w)
      ((bounded w'.crew.depth).resume l' dt w')
    rw [h.crew.depth]
    exact (bounded_inTime w'.crew.depth).resume dt hl h

end Leaf

/-! ## The law -/

/-- A run of a flow while updates are suppressed shows nothing and leaves the stage as it is; and it
is done with the same step as the run aloud from the same stage, if neither fails. -/
theorem Flow.suppressed_run [Scalar α] [Analytic α] (f : Flow α) (w : Show α)
    (dts : List (Option α)) :
    let run (suppressed : Bool) := (f.toTask .drain).through Leaf.machine dts
      { w with suppressed := suppressed, crew := .ofFlow f }
    (run true).2.stage = w.stage ∧
      (∃ news, (run true).2.log = news ++ w.log ∧ ∀ e ∈ news, e.isShown = false) ∧
      ∀ quiet aloud, (run true).1 = .ok quiet → (run false).1 = .ok aloud →
        quiet.steps? = aloud.steps? := by
  intro run
  have hstart : World.Silent w.stage w.log { w with suppressed := true, crew := Crew.ofFlow f } :=
    ⟨rfl, rfl, [], rfl, nofun⟩
  have hsilent : (run true).2.Silent w.stage w.log :=
    (Task.through_related (Leaf.machine_keeps (Show.silent_lived w.stage w.log)) dts
      (f.toTask .drain) ⟨rfl, hstart⟩).2.2
  refine ⟨hsilent.stage, hsilent.log, fun quiet aloud hquiet haloud => ?_⟩
  have hmuted : World.Muted { w with suppressed := true, crew := Crew.ofFlow f }
      { w with suppressed := false, crew := Crew.ofFlow f } := ⟨rfl, rfl, rfl, .refl _⟩
  exact Task.through_inTime Leaf.machine_inTime dts (Task.Like.refl .refl (f.toTask .drain)) hmuted
    hquiet haloud

/-- A title that comes up after a second. -/
def Flow.risingTitle : Flow Rat :=
  .chain [.act (.wait 1),
    .all [.act (.tween "rise" 1 (.named "linear")), .act (.type "title" "Hi" 1)]]

theorem Flow.suppressed_run_risingTitle :
    let w : Show Rat := World.ofStage
      { targets := [.ofClasses "title" ""], names := [("title", 0)], environment := none,
        hasSink := true } .empty
    let run (suppressed : Bool) := (risingTitle.toTask .drain).through Leaf.machine
      (List.replicate 5 (some (1 / 2)))
      { w with suppressed := suppressed, crew := .ofFlow risingTitle }
    (run true).1.map Fate.steps? = .ok (some 4) ∧ (run false).1.map Fate.steps? = .ok (some 4) ∧
      (run true).2.stage = w.stage ∧ (run false).2.log.length = 4 := by
  intro w run
  have hcount : (run true).1.map Fate.steps? = .ok (some 4) := by decide +kernel
  have hok : (run false).1.isOk = true := by decide +kernel
  obtain ⟨hstage, -, hsteps⟩ := suppressed_run risingTitle w (List.replicate 5 (some (1 / 2)))
  refine ⟨hcount, ?_, hstage, by decide +kernel⟩
  cases hquiet : (run true).1 with
  | error f => rw [hquiet] at hcount; cases hcount
  | ok quiet =>
    cases haloud : (run false).1 with
    | error f => rw [haloud] at hok; cases hok
    | ok aloud =>
      rw [hquiet] at hcount
      rw [← hcount]
      exact congrArg Except.ok (hsteps quiet aloud hquiet haloud).symm

end Choreo
