import Choreo.Flow.Leaf
import Choreo.Proofs.Routine.Related

/-!
What a flow can do to its world, said once.

Everything a flow does comes down to a few deeds. An animation leaves a remark for the author; aloud
it also reports a progress, applies a value to a target, or gives a target a class. The other leaves
report marks and ticks, and named tasks change the crew. A property of worlds that these deeds keep
holds throughout a run of any flow, whatever named tasks the flow uses: `Leaf.machine_keeps`.
-/

namespace Choreo
variable {α C : Type}

/-- What an animation says in a remark. -/
inductive Animation.Says : String → Prop
  | missing (id action : String) : Says (missingMessage id action)
  | arguments (id : String) (count : Nat) : Says (argumentMessage id count)

namespace World

/-- A property of worlds that animations keep. What they do aloud, they do only aloud. -/
structure Animated (K : World α C → Prop) : Prop where
  remark : ∀ {w} (level : Level) (text : String), Animation.Says text → K w →
    K (w.report (.remark level text))
  update : ∀ {w} (tag : String) (progress : α), w.suppressed = false → K w →
    K (w.report (.update tag progress))
  apply : ∀ {w} (h : Handle) (key : String) (value : Value α) (property text : String),
    w.suppressed = false → K w → K (w.apply h key value property text)
  addClass : ∀ {w} (h : Handle) (token : String), w.suppressed = false → K w →
    K (w.addClass h token)

theorem emit_suppressed (w : World α C) (target property text : String) :
    (w.emit target property text).suppressed = w.suppressed := by
  unfold emit
  split <;> rfl

theorem apply_suppressed (w : World α C) (h : Handle) (key : String) (value : Value α)
    (property text : String) : (w.apply h key value property text).suppressed = w.suppressed := by
  unfold apply
  split
  · rfl
  · exact emit_suppressed _ _ _ _

end World

open World (Animated)

section
variable [Scalar α] [Analytic α] {K : World α C → Prop} {w : World α C}

/-! ## Tweens and animations -/

/-- What each job of an animation keeps of the world as its value is applied, they keep together. -/
theorem Job.applyAll_of_apply {h : Handle} {progress : α}
    {jobs : List (Job α)}
    (hK : ∀ j ∈ jobs, ∀ (w : World α C) t value text, w.stage.targets[h]? = some t →
      j.valueAt w.stage t progress = .ok (value, text) → K w →
        K (w.apply h j.key value j.property.name text))
    (hw : K w) : K (applyAll h progress jobs w).2 := by
  induction jobs generalizing w with
  | nil => exact hw
  | cons j rest ih =>
    obtain ⟨hj, hrest⟩ := List.forall_mem_cons.mp hK
    unfold applyAll
    split
    · exact hw
    · next t ht =>
      split
      · exact hw
      · next value text hvalue => exact ih hrest (hj w t value text ht hvalue hw)

theorem Job.applyAll_keeps (hK : Animated K) (h : Handle) (progress : α) (jobs : List (Job α))
    (haloud : w.suppressed = false) (hw : K w) : K (Job.applyAll h progress jobs w).2 := by
  suffices hboth : (applyAll h progress jobs w).2.suppressed = false ∧
      K (applyAll h progress jobs w).2 from hboth.2
  refine applyAll_of_apply (K := fun w => w.suppressed = false ∧ K w) ?_ ⟨haloud, hw⟩
  rintro j - u t value text - - ⟨haloud, hu⟩
  exact ⟨(u.apply_suppressed _ _ _ _ _).trans haloud, hK.apply _ _ _ _ _ haloud hu⟩

theorem Effect.perform_keeps (hK : Animated K) (e : Effect α) (progress : α)
    (haloud : w.suppressed = false) (hw : K w) : K (e.perform progress w).2 := by
  cases e with
  | report tag => exact hK.update tag progress haloud hw
  | animate h jobs => exact Job.applyAll_keeps hK h progress jobs haloud hw
  | type h content shown =>
    unfold Effect.perform
    simp only
    split
    · exact hw
    · split
      · exact hw
      · exact hK.apply _ _ _ _ _ haloud hw

theorem Tween.update_keeps (hK : Animated K) (t : Tween α) (progress : α) (hw : K w) :
    K (t.update progress w).2 := by
  unfold Tween.update
  by_cases hs : w.suppressed = true
  · rw [if_pos hs]
    exact hw
  · have hp := Effect.perform_keeps hK t.effect progress (Bool.eq_false_iff.mpr hs) hw
    rw [if_neg hs]
    split
    · next heq => rwa [heq] at hp
    · next heq => rwa [heq] at hp

theorem Tween.finish_keeps (hK : Animated K) (t : Tween α) (hw : K w) : K (t.finish w).2 := by
  have hu := t.update_keeps hK Scalar.one hw
  unfold Tween.finish
  split
  · next heq => rwa [heq] at hu
  · next heq => rwa [heq] at hu

theorem Tween.start_keeps (hK : Animated K) (t : Tween α) (hw : K w) : K (t.start w).2 := by
  unfold Tween.start
  split
  · exact hw
  · exact t.finish_keeps hK hw

theorem Tween.resume_keeps (hK : Animated K) (t : Tween α) (dt : Option α) (hw : K w) :
    K (t.resume dt w).2 := by
  unfold Tween.resume
  simp only
  split
  · split
    · exact hw
    · split
      · exact hw
      · next progress _ =>
        have hu := Tween.update_keeps hK { t with elapsed := t.elapsed + dt.getD Scalar.zero }
          progress hw
        split
        · next heq => rwa [heq] at hu
        · next heq => rwa [heq] at hu
  · exact Tween.finish_keeps hK _ hw

omit [Scalar α] [Analytic α] in
theorem Animation.showGradient_keeps (hK : Animated K) (h : Handle) (t : Target α)
    (goals : List String) (hw : K w) : K (showGradient h t goals w) := by
  unfold Animation.showGradient
  split
  · next hshow =>
    have haloud : w.suppressed = false := by
      rw [Bool.and_eq_true, Bool.not_eq_true'] at hshow
      exact hshow.2
    exact hK.addClass h gradientClass haloud hw
  · exact hw

theorem Animation.startTween_keeps (hK : Animated K) (effect : Effect α) (time : Argument α)
    (easing : Easing α) (hw : K w) : K (startTween effect time easing w).2 := by
  unfold Animation.startTween
  split
  · exact hw
  · exact hw
  · exact Tween.start_keeps hK _ hw

theorem Animation.start_keeps (hK : Animated K) (id : String) (arguments : List (Argument α))
    (easing : Easing α) (hw : K w) : K (Animation.start id arguments easing w).2 := by
  unfold Animation.start
  split
  · exact hK.remark _ _ (.missing _ _) hw
  · next h _ =>
    split
    · exact hK.remark _ _ (.arguments _ _) hw
    · split
      · exact hw
      · exact hw
      · next stops starts _ _ =>
        split
        · exact hw
        · next t _ =>
          have hg := Animation.showGradient_keeps hK h t stops hw
          simp only
          split
          · exact hg
          · split
            · exact hg
            · exact Animation.startTween_keeps hK _ _ _ hg

theorem Animation.startTyping_keeps (hK : Animated K) (id content : String) (d : α) (hw : K w) :
    K (startTyping id content d w).2 := by
  unfold Animation.startTyping
  split
  · exact hK.remark _ _ (.missing _ _) hw
  · exact Animation.startTween_keeps hK _ _ _ hw

end

/-! ## Leaves -/

/-- A property of worlds that flows keep. -/
structure Show.Lived (K : Show α → Prop) : Prop extends Animated K where
  mark : ∀ {w} (tag : String), K w → K (w.report (.mark tag))
  tick : ∀ {w} (tag : String) (dt : Option α), K w → K (w.report (.tick tag dt))
  withCrew : ∀ {w} (c : Crew α), K w → K { w with crew := c }

/-- What holds of every event that a flow can report holds of all that it reports. -/
theorem Show.lived_of_forall {P : Event α → Prop}
    (hremark : ∀ level text, Animation.Says text → P (.remark level text))
    (hupdate : ∀ tag progress, P (.update tag progress))
    (happly : ∀ target property text, P (.apply target property text))
    (hmark : ∀ tag, P (.mark tag)) (htick : ∀ tag dt, P (.tick tag dt)) :
    Show.Lived fun w : Show α => ∀ e ∈ w.log, P e := by
  have hreport {w : Show α} {x : Event α} (hx : P x) (h : ∀ e ∈ w.log, P e) :
      ∀ e ∈ (w.report x).log, P e := List.forall_mem_cons.mpr ⟨hx, h⟩
  have hemit {w : Show α} (target property text : String) (h : ∀ e ∈ w.log, P e) :
      ∀ e ∈ (w.emit target property text).log, P e := by
    unfold World.emit
    split
    · exact hreport (happly target property text) h
    · exact h
  refine ⟨⟨?_, ?_, ?_, ?_⟩, ?_, ?_, ?_⟩
  · exact fun level text hsays h => hreport (hremark level text hsays) h
  · exact fun tag progress _ h => hreport (hupdate tag progress) h
  · intro w i key value property text _ h
    unfold World.apply
    split
    · exact h
    · exact hemit _ _ _ h
  · intro w i token _ h
    unfold World.addClass
    split
    · exact h
    · split
      · exact h
      · exact hemit _ _ _ h
  · exact fun tag h => hreport (hmark tag) h
  · exact fun tag dt h => hreport (htick tag dt) h
  · exact fun _ h => h

namespace Leaf
variable {K : Show α → Prop} {w : Show α} {player : Player α}

/-- A machine that keeps a property of worlds. -/
def Player.Keeps (player : Player α) (K : Show α → Prop) : Prop :=
  player.Related player fun w w' => w' = w ∧ K w

theorem ofTween_snd (a : Signal (Tween α) FlowFault × Show α) : (ofTween a).2 = a.2 := by
  obtain ⟨s, w⟩ := a
  cases s <;> rfl

theorem follow_snd (l : Leaf α) (a : Except FlowFault Bool × Show α) : (follow l a).2 = a.2 := by
  obtain ⟨r, w⟩ := a
  rcases r with f | _ | _ <;> rfl

theorem call_keeps (hK : Show.Lived K) (hp : player.Keeps K) (name : String)
    (dt : Option (Option α)) (hw : K w) : K (call player name dt w).2 := by
  unfold call
  split
  · exact hw
  · next m _ =>
    split
    · cases dt <;> exact hw
    · have hc := hK.withCrew (w.crew.put { m with busy := true }) hw
      cases dt with
      | none => exact hK.withCrew _ (Task.start_related hp m.task ⟨rfl, hc⟩).2.2
      | some dt => exact hK.withCrew _ (Task.next_related hp dt m.task ⟨rfl, hc⟩).2.2

variable [Scalar α]

theorem wait_snd (elapsed d : α) (w : Show α) : (wait elapsed d w).2 = w := by
  unfold wait
  split <;> rfl

variable [Analytic α]

theorem begin_keeps (hK : Show.Lived K) (a : Action α) (hw : K w) : K (begin a w).2 := by
  cases a with
  | wait d => exact (wait_snd _ d w).symm ▸ hw
  | transition t => exact (wait_snd _ t.duration w).symm ▸ hw
  | tween tag d easing =>
    rw [begin, ofTween_snd]
    exact Animation.startTween_keeps hK.toAnimated _ _ _ hw
  | animate target arguments easing =>
    rw [begin, ofTween_snd]
    exact Animation.start_keeps hK.toAnimated _ _ _ hw
  | type target content d =>
    rw [begin, ofTween_snd]
    exact Animation.startTyping_keeps hK.toAnimated _ _ _ hw
  | mark tag => exact hK.mark tag hw
  | ticks tag count => cases count <;> exact hw
  | fail message => exact hw

theorem start_keeps (hK : Show.Lived K) (hp : player.Keeps K) (l : Leaf α) (hw : K w) :
    K (start player l w).2 := by
  cases l with
  | todo a => exact begin_keeps hK a hw
  | waiting elapsed d => exact (wait_snd elapsed d w).symm ▸ hw
  | tweening t =>
    rw [start, ofTween_snd]
    exact t.start_keeps hK.toAnimated hw
  | ticking tag left => exact begin_keeps hK _ hw
  | enlist part => exact hK.withCrew _ hw
  | visit name => exact hw
  | drain name =>
    rw [start, follow_snd]
    exact call_keeps hK hp name none hw
  | handle => exact hw

theorem resume_keeps (hK : Show.Lived K) (hp : player.Keeps K) (l : Leaf α) (dt : Option α)
    (hw : K w) : K (resume player l dt w).2 := by
  cases l with
  | todo a => exact hw
  | waiting elapsed d => exact (wait_snd _ d w).symm ▸ hw
  | tweening t =>
    rw [resume, ofTween_snd]
    exact t.resume_keeps hK.toAnimated dt hw
  | ticking tag left =>
    cases left with
    | zero => exact hw
    | succ n => exact begin_keeps hK _ (hK.tick tag dt hw)
  | enlist part => exact hw
  | visit name =>
    rw [resume, follow_snd]
    exact call_keeps hK hp name (some dt) hw
  | drain name =>
    rw [resume, follow_snd]
    exact call_keeps hK hp name (some dt) hw
  | handle => exact hw

theorem around_keeps (hK : Show.Lived K) (hp : player.Keeps K) : (around player).Keeps K where
  start l w w' := by
    rintro ⟨rfl, hw⟩
    exact ⟨rfl, rfl, start_keeps hK hp l hw⟩
  resume l dt w w' := by
    rintro ⟨rfl, hw⟩
    exact ⟨rfl, rfl, resume_keeps hK hp l dt hw⟩
  stepped := rfl

theorem bounded_keeps (hK : Show.Lived K) (depth : Nat) : (bounded depth : Player α).Keeps K := by
  induction depth with
  | zero =>
    refine around_keeps hK ⟨?_, ?_, rfl⟩
    · exact fun l w w' h => ⟨rfl, h⟩
    · exact fun l dt w w' h => ⟨rfl, h⟩
  | succ depth ih => exact around_keeps hK ih

/-- The machine of flows keeps what every deed keeps. -/
theorem machine_keeps (hK : Show.Lived K) : (machine : Player α).Keeps K where
  start l w w' := by
    rintro ⟨rfl, hw⟩
    exact (bounded_keeps hK w'.crew.depth).start l w' w' ⟨rfl, hw⟩
  resume l dt w w' := by
    rintro ⟨rfl, hw⟩
    exact (bounded_keeps hK w'.crew.depth).resume l dt w' w' ⟨rfl, hw⟩
  stepped := rfl

end Leaf
end Choreo
