import Choreo.Proofs.Flow.Kept
import Choreo.Proofs.Stage.Retained

/-!
What flows come to.

Nothing but flows, resets and registrations touches a stage in play, and each of these keeps it
tidy: every target retains under each key a value of the kind of the key. Flows do, because every
job suits its key (`Show.kept_tidy`); so it does not matter how many flows there are, when each is
stepped and whether it is closed midway (`Show.Reached.tidy`).
-/

namespace Choreo
variable {α C : Type}

/-! ## Tidy stages -/

def Target.Tidy (t : Target α) : Prop := ∀ key v, t.applied.lookup key = some v → v.Fits key

def Stage.Tidy (s : Stage α) : Prop := ∀ t ∈ s.targets, t.Tidy

theorem Target.tidy_of_applied_eq_nil {t : Target α} (h : t.applied = []) : t.Tidy := by
  intro key v hv
  rw [h] at hv
  cases hv

theorem Target.Tidy.assign {t : Target α} (ht : t.Tidy) {key : String} {value : Value α}
    (hvalue : value.Fits key) :
    Target.Tidy { t with applied := Choreo.assign key value t.applied } := by
  intro other v hv
  rw [lookup_assign] at hv
  split at hv
  · next heq =>
    obtain rfl := Option.some.inj hv
    exact heq ▸ hvalue
  · exact ht other v hv

namespace Stage.Tidy
variable {s : Stage α}

theorem modify (hs : s.Tidy) (h : Handle) {f : Target α → Target α}
    (hf : ∀ t, s.targets[h]? = some t → (f t).Tidy) : (s.modify h f).Tidy := by
  intro t ht
  obtain ⟨i, hi⟩ := List.mem_iff_getElem?.mp ht
  rw [Stage.modify, List.getElem?_modify] at hi
  obtain ⟨u, hu, heq⟩ := Option.map_eq_some_iff.mp hi
  split at heq
  · next hih =>
    obtain rfl := heq
    exact hf u (hih ▸ hu)
  · obtain rfl := heq
    exact hs u (List.mem_of_getElem? hu)

theorem register (hs : s.Tidy) {id classes : String} {s' : Stage α}
    (h : s.register id classes = .ok s') : s'.Tidy := by
  unfold Stage.register at h
  split at h
  · cases h
  · cases h
    intro t ht
    rcases List.mem_append.mp ht with ht | ht
    · exact hs t ht
    · obtain rfl := List.mem_singleton.mp ht
      exact Target.tidy_of_applied_eq_nil rfl

end Stage.Tidy

namespace World
variable {w : World α C}

theorem tidy_apply (hw : w.stage.Tidy) (h : Handle) {key : String} {value : Value α}
    (hvalue : value.Fits key) (property text : String) :
    (w.apply h key value property text).stage.Tidy := by
  rw [apply_stage]
  exact hw.modify h fun t ht => (hw t (List.mem_of_getElem? ht)).assign hvalue

theorem tidy_addClass (hw : w.stage.Tidy) (h : Handle) (token : String) :
    (w.addClass h token).stage.Tidy := by
  unfold addClass
  split
  · exact hw
  · next t ht =>
    split
    · exact hw
    · rw [emit_stage]
      exact hw.modify h fun _ _ => hw t (List.mem_of_getElem? ht)

theorem tidy_resetTarget (hw : w.stage.Tidy) (h : Handle) : (w.resetTarget h).stage.Tidy := by
  rw [resetTarget_stage]
  exact hw.modify h fun _ _ => Target.tidy_of_applied_eq_nil rfl

theorem tidy_resetStage (hw : w.stage.Tidy) : w.resetStage.stage.Tidy := by
  unfold resetStage
  generalize w.stage.names = names
  induction names generalizing w with
  | nil => exact hw
  | cons name names ih => exact ih (tidy_resetTarget hw name.2)

end World

/-! ## Jobs that suit their keys -/

/-- A job is about a color just if its key is one of colors. -/
def Job.Suits (j : Job α) : Prop := j.span.isColors = true ↔ j.key ∈ Token.colorKeys

def Effect.Suits : Effect α → Prop
  | .animate _ jobs => ∀ j ∈ jobs, j.Suits
  | _ => True

variable [Scalar α]

theorem Job.suits_of_mem_build {s : Stage α} {t : Target α} {goals start : List String}
    {jobs : List (Job α)} (h : build s t goals start = .ok jobs) {j : Job α} (hj : j ∈ jobs) :
    j.Suits := by
  obtain ⟨d, start?, hp, hd, -⟩ := exists_of_mem_build h hj
  have hserves := serves_of_ofDescriptor hd
  rw [Suits, hserves.measure, hserves.key, Token.key_mem_colorKeys_iff hp]

variable [Analytic α]

theorem Job.Suits.fits {j : Job α} (hj : j.Suits) {s : Stage α} {t : Target α} {progress : α}
    {x : Value α} {text : String} (h : j.valueAt s t progress = .ok (x, text)) : x.Fits j.key := by
  rcases Job.valueAt_cases h with ⟨a, b, a', b', hspan, -, -, rfl⟩ | ⟨a, b, c, hspan, -, rfl⟩
  · have hkey : j.key ∉ Token.colorKeys := by
      rw [← show _ ↔ _ from hj, hspan]
      exact Bool.false_ne_true
    rw [Value.Fits, if_neg hkey]
    exact fun _ => ⟨_, rfl⟩
  · have hkey : j.key ∈ Token.colorKeys := by
      rw [← show _ ↔ _ from hj, hspan]
      rfl
    rw [Value.Fits, if_pos hkey]
    exact ⟨c, rfl⟩

omit [Scalar α] [Analytic α] in
theorem Value.fits_text (text : String) : (Value.text text : Value α).Fits "textContent" := by
  rw [Fits, if_neg (by decide)]
  exact fun h => absurd rfl h

/-! ## Runs -/

section
omit [Scalar α] [Analytic α]

/-- A crew whose tweens have jobs that suit their keys. -/
abbrev Crew.Tidy (c : Crew α) : Prop := c.Within Effect.Suits (fun _ => True) True

abbrev Task.Tidy (t : Task (Leaf α)) : Prop :=
  t.Of (Leaf.Within Effect.Suits (fun _ => True) True)

structure Playback.Tidy (p : Playback α) : Prop where
  task : p.task.Tidy
  crew : p.crew.Tidy

theorem Playback.tidy_iff {p : Playback α} : p.Tidy ↔ p.Within Effect.Suits :=
  ⟨fun h => ⟨h.task, h.crew⟩, fun h => ⟨h.task, h.crew⟩⟩

end

theorem Show.kept_tidy : Show.Kept (fun w : Show α => w.stage.Tidy) Effect.Suits where
  withCrew _ hw := hw
  report _ hw := hw
  showGradient h hw := World.tidy_addClass hw h _
  apply he hj _ hvalue hw := World.tidy_apply hw _ ((he _ hj).fits hvalue) _ _
  write h text hw := World.tidy_apply hw h (Value.fits_text text) _ _
  line _ := trivial
  animate _ hjobs := fun _ hj => Job.suits_of_mem_build hjobs hj
  type _ _ _ := trivial

/-- What flows come to on a stage that retains nothing: the playbacks that were come by, and the
show as they left it. Any of them may be started, stepped and closed at any time, with updates
suppressed or not. Meanwhile the host may reset the stage and register targets on it. -/
inductive Show.Reached : List (Playback α) → Show α → Prop
  | bare {w : Show α} : (∀ t ∈ w.stage.targets, t.applied = []) → Reached [] w
  | ofFlow {ps w} (f : Flow α) : Reached ps w → Reached (.ofFlow f :: ps) w
  | ofSource {ps w} (s : Source α) : Reached ps w →
    Reached (⟨(build s w).1, (build s w).2.crew⟩ :: ps) (build s w).2
  | start {ps w p} : Reached ps w → p ∈ ps → Reached ((p.start w).1.2 :: ps) (p.start w).2
  | next {ps w p} (dt : Option α) : Reached ps w → p ∈ ps →
    Reached ((p.next dt w).1.2 :: ps) (p.next dt w).2
  | close {ps w p} : Reached ps w → p ∈ ps → Reached (p.close :: ps) w
  | suppress {ps w} (b : Bool) : Reached ps w → Reached ps { w with suppressed := b }
  | reset {ps w} : Reached ps w → Reached ps w.resetStage
  | register {ps w id classes s} : Reached ps w → w.stage.register id classes = .ok s →
    Reached ps { w with stage := s }

/-- What flows come to is tidy: a step of a flow keeps it so, and so do the acts of the host. -/
theorem Show.Reached.tidy {ps : List (Playback α)} {w : Show α} (h : Reached ps w) :
    w.stage.Tidy ∧ ∀ p ∈ ps, p.Tidy := by
  simp only [Playback.tidy_iff]
  induction h with
  | bare hbare => exact ⟨fun t ht => Target.tidy_of_applied_eq_nil (hbare t ht), nofun⟩
  | ofFlow f _ ih =>
    exact ⟨ih.1, List.forall_mem_cons.mpr ⟨Playback.within_ofFlow f, ih.2⟩⟩
  | @ofSource ps w s _ ih =>
    refine ⟨?_, List.forall_mem_cons.mpr ⟨within_build s w, ih.2⟩⟩
    show (if s.isBound then w.resetStage else w).stage.Tidy
    split
    · exact World.tidy_resetStage ih.1
    · exact ih.1
  | start _ hp ih =>
    obtain ⟨hplayback, hstage⟩ := kept_tidy.start (ih.2 _ hp) ih.1
    exact ⟨hstage, List.forall_mem_cons.mpr ⟨hplayback, ih.2⟩⟩
  | next dt _ hp ih =>
    obtain ⟨hplayback, hstage⟩ := kept_tidy.next (ih.2 _ hp) dt ih.1
    exact ⟨hstage, List.forall_mem_cons.mpr ⟨hplayback, ih.2⟩⟩
  | close _ hp ih => exact ⟨ih.1, List.forall_mem_cons.mpr ⟨(ih.2 _ hp).close, ih.2⟩⟩
  | suppress b _ ih => exact ih
  | reset _ ih => exact ⟨World.tidy_resetStage ih.1, ih.2⟩
  | register _ hs ih => exact ⟨ih.1.register hs, ih.2⟩

end Choreo
