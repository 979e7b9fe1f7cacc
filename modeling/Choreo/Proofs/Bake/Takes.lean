import Choreo.Bake
import Choreo.Proofs.Flow.Deeds
import Choreo.Proofs.Flow.Twins
import Choreo.Proofs.Routine.Course
import Choreo.Proofs.Stage.Reset

/-!
A bake and the course of the flow it records.

A bake lets the task see nothing of what happened before, and lays what the task does over the last
picture. Neither makes a difference: the picture is that of the view after all that happened, and
the task takes the course it would take by itself (`Take.record_ends`). There is a frame for its
start and one for each step. A task that is not done within the limit is closed with a warning.
-/

namespace Choreo
variable {α : Type}

open World (Twins)

/-! ## Tasks that are done -/

namespace Task
variable {L δ W ε : Type} {m : Machine L δ W ε} {dt : δ} {t t' : Task L} {w v : W}

theorem eq_done_of_report {o : Outcome (Task L) δ ε} (h : (report o).1 = .ok true) :
    (report o).2 = .done := by
  cases o with
  | finished => rfl
  | paused | failed => cases h

theorem eq_done_of_start (h : t.start m w = ((.ok true, t'), v)) : t' = .done :=
  (congrArg (·.1.2) h).symm.trans (eq_done_of_report (congrArg (·.1.1) h))

theorem eq_done_of_next (h : t.next m dt w = ((.ok true, t'), v)) : t' = .done := by
  have ht : t ≠ .done := by
    rintro rfl
    cases h
  rw [next_of_ne_done m dt ht] at h
  exact (congrArg (·.1.2) h).symm.trans (eq_done_of_report (congrArg (·.1.1) h))

end Task

/-! ## Courses of flows -/

theorem World.Twins.forget {C : Type} {w : World α C} (h : Twins s [] w w) :
    Twins s w.log { w with log := [] } w :=
  ⟨rfl, h.declared, h.aloud⟩

theorem Picture.after_append (p : Picture) (es es' : List (Event α)) :
    p.after (es ++ es') = (p.after es).after es' := List.foldl_append

namespace Show

theorem build_fresh {s : Stage α} (hd : s.asDeclared = s) (flow : Flow α) (crew : Crew α) :
    build ⟨flow, true⟩ (World.ofStage s crew) =
      (.fresh flow.toRoutine, World.ofStage s (.ofFlow flow)) := by
  have hreset : (World.ofStage s crew).resetStage = World.ofStage s crew :=
    World.resetStage_of_asDeclared hd
  simp only [build, if_true, hreset]
  rfl

/-- What flows keep of all events holds of a course of one. -/
theorem forall_course [Scalar α] [Analytic α] {P : Event α → Prop}
    (hP : Lived fun w : Show α => ∀ e ∈ w.log, P e) (t : Task (Leaf α)) (dts : List (Option α))
    {w : Show α} (hw : w.log = []) : ∀ e ∈ (t.course Leaf.machine dts w).2.log, P e := by
  have hstart : ∀ e ∈ w.log, P e := by
    rw [hw]
    exact fun e he => absurd he List.not_mem_nil
  exact (Task.course_related (Leaf.machine_keeps hP) dts t ⟨rfl, hstart⟩).2.2

end Show

/-! ## Takes -/

namespace Take
variable [Scalar α] [Analytic α] {s : Stage α} {t : Take α} {p : Picture} {dt seconds : α}

/-- The picture is that of a view after all that happened. -/
def Follows (p : Picture) (t : Take α) : Prop := t.picture = p.after t.world.events

omit [Scalar α] [Analytic α] in
/-- A call sees nothing of what happened before, and the picture follows what it does. -/
theorem Follows.call {f : Task (Leaf α) → Show α → (Except FlowFault Bool × Task (Leaf α)) × Show α}
    (hp : t.Follows p)
    (hf : ∀ past {w w' : Show α}, Twins s past w w' →
      Alike (Twins s past) (f t.task w) (f t.task w'))
    (hw : Twins s [] t.world t.world) :
    t.call f = ((f t.task t.world).1.1,
      { t with
        task := (f t.task t.world).1.2
        picture := p.after (f t.task t.world).2.events
        world := (f t.task t.world).2 }) := by
  obtain ⟨⟨r, t'⟩, u, u', hu, hu', hR⟩ := (hf t.world.log hw.forget).exists_eq
  have hevents : u'.events = t.world.events ++ u.events := by
    rw [hR.upon]
    exact List.reverse_append
  have hpicture : t.picture.after u.events = p.after u'.events := by
    rw [hp, hevents, Picture.after_append]
  simp only [Take.call, hu, hu', hpicture]
  rw [hR.upon]
  rfl

/-- The frame that shows a world after some steps. -/
def still (p : Picture) (dt : α) (index : Int) (k : Nat) (w : Show α) : Frame α :=
  ⟨if k = 0 then Scalar.zero else Scalar.ofNat k * dt, index, p.after w.events⟩

/-- The task at the end of a take: one that is not done is closed. -/
def closed : Fate (Leaf α) → Task (Leaf α)
  | .done _ => .done
  | .left u => u.close

/-- What is logged at the end of a take. -/
def farewell (s : Scene α) (seconds : α) : Fate (Leaf α) → List (Event α)
  | .done _ => []
  | .left _ => [.remark .warning (limitMessage s seconds)]

/-- How a take ends that goes on from another: with frames for some steps and a fate of its task. -/
structure Ends (p : Picture) (dt seconds : α) (t : Take α) (fate : Fate (Leaf α)) (v : Show α)
    (frames : List (Frame α)) (t' : Take α) : Prop where
  frames : t'.frames.reverse = t.frames.reverse ++ frames
  task : t'.task = closed fate
  events : t'.world.events = v.events ++ farewell t.scene seconds fate

/-- The stills of a task that is stepped on. -/
def stills (p : Picture) (dt : α) (t : Take α) (n : Nat) : List (Frame α) :=
  (List.range n).map fun k => still p dt t.scene.index (t.steps + k + 1)
    (t.task.through Leaf.machine (List.replicate (k + 1) (some dt)) t.world).2

/-- The take after a step, with its still. -/
def stepOn (p : Picture) (dt : α) (task : Task (Leaf α)) (w : Show α) (t : Take α) : Take α :=
  ({ t with task := task, picture := p.after w.events, world := w, steps := t.steps + 1 } : Take α)
    |>.shoot dt

omit [Analytic α] in
theorem frames_stepOn (task : Task (Leaf α)) (w : Show α) :
    (t.stepOn p dt task w).frames.reverse =
      t.frames.reverse ++ [still p dt t.scene.index (t.steps + 1) w] := List.reverse_cons

theorem stills_of_paused {task : Task (Leaf α)} {w : Show α}
    (hn : t.task.next Leaf.machine (some dt) t.world = ((.ok false, task), w)) (n : Nat) :
    stills p dt t (n + 1) =
      still p dt t.scene.index (t.steps + 1) w :: stills p dt (t.stepOn p dt task w) n := by
  rw [stills, List.range_succ_eq_map, List.map_cons, List.map_map]
  congr 1
  · rw [List.replicate_one, Task.through_of_paused hn]
    rfl
  · refine List.map_congr_left fun k _ => ?_
    rw [Function.comp_apply, List.replicate_succ, Task.through_of_paused hn,
      show t.steps + (k + 1) + 1 = t.steps + 1 + k + 1 by omega]
    rfl

theorem stills_of_done {task : Task (Leaf α)} {w : Show α}
    (hn : t.task.next Leaf.machine (some dt) t.world = ((.ok true, task), w)) :
    stills p dt t 1 = [still p dt t.scene.index (t.steps + 1) w] := by
  rw [stills, List.range_one, List.map_singleton, List.replicate_one, Task.through_of_done hn]

omit [Analytic α] in
/-- A take that goes on after a step. -/
theorem Ends.step {task : Task (Leaf α)} {w v : Show α} {fate : Fate (Leaf α)}
    {frames : List (Frame α)} {t' : Take α}
    (h : Ends p dt seconds (t.stepOn p dt task w) fate v frames t') :
    Ends p dt seconds t (fate.after 1) v
      (still p dt t.scene.index (t.steps + 1) w :: frames) t' where
  frames := by
    rw [h.frames, frames_stepOn, List.append_assoc, List.singleton_append]
  task := by
    rw [h.task]
    cases fate <;> rfl
  events := by
    rw [h.events]
    cases fate <;> rfl

/-- A roll takes a still after every step, until the task is done or the limit is reached. -/
theorem roll_ends (seconds : α) {limit : Nat} {fate : Fate (Leaf α)} {v : Show α}
    (hp : t.Follows p) (hw : Twins s [] t.world t.world)
    (hran : t.task.through Leaf.machine (List.replicate limit (some dt)) t.world = (.ok fate, v)) :
    ∃ t', t.roll dt seconds limit = (.ok (), t') ∧
      Ends p dt seconds t fate v (stills p dt t (fate.steps?.getD limit)) t' := by
  induction limit generalizing t fate with
  | zero =>
    cases hran
    exact ⟨_, rfl, (List.append_nil _).symm, rfl, List.reverse_cons⟩
  | succ limit ih =>
    have hcall := hp.call (f := Task.next Leaf.machine (some dt))
      (fun _ _ _ h => Task.next_related Leaf.machine_related (some dt) t.task h) hw
    have hkept := (Task.next_related Leaf.machine_related (some dt) t.task hw).2
    rw [List.replicate_succ] at hran
    unfold roll
    rw [hcall]
    rcases hn : t.task.next Leaf.machine (some dt) t.world with ⟨⟨r, task⟩, u⟩
    rw [hn] at hkept
    rcases r with f | _ | _
    · rw [Task.through_of_error hn] at hran
      cases hran
    · rw [Task.through_of_paused hn, Prod.mk.injEq] at hran
      obtain ⟨fate', hfate, rfl⟩ : ∃ fate',
          (task.through Leaf.machine (List.replicate limit (some dt)) u).1 = .ok fate' ∧
            fate = fate'.after 1 := by
        rcases hrest : (task.through Leaf.machine (List.replicate limit (some dt)) u).1
          with e | fate'
        · rw [hrest] at hran
          cases hran.1
        · rw [hrest] at hran
          exact ⟨fate', rfl, (Except.ok.inj hran.1).symm⟩
      have hrest : task.through Leaf.machine (List.replicate limit (some dt)) u = (.ok fate', v) :=
        Prod.ext hfate hran.2
      obtain ⟨t', hroll, hends⟩ := ih (t := t.stepOn p dt task u) rfl hkept hrest
      have hcount : (fate'.after 1).steps?.getD (limit + 1) = fate'.steps?.getD limit + 1 := by
        cases fate' with
        | done n => exact Nat.add_comm 1 n
        | left u => rfl
      rw [hcount, stills_of_paused hn]
      exact ⟨t', hroll, hends.step⟩
    · rw [Task.through_of_done hn] at hran
      cases hran
      have hcount : (Fate.done (L := Leaf α) 1).steps?.getD (limit + 1) = 1 := rfl
      rw [hcount, stills_of_done hn]
      exact ⟨_, rfl, frames_stepOn task v, Task.eq_done_of_next hn, (List.append_nil _).symm⟩

/-! ## Whole takes -/

/-- Records a scene on its stage from the start, with a limit of steps. -/
def record (fps seconds : α) (limit : Nat) (stage : Stage α) (scene : Scene α) :
    Except FlowFault Unit × Take α :=
  let (task, w) := Show.build ⟨scene.played, true⟩ (World.ofStage stage .empty)
  let t : Take α :=
    { scene := scene, task := task, world := w, picture := .ofView scene.view, steps := 0,
      frames := [] }
  match t.call (Task.start Leaf.machine) with
  | (.error f, t) => (.error f, t)
  | (.ok done, t) =>
    let t := t.shoot (Scalar.one / fps)
    if done then (.ok (), t) else t.roll (Scalar.one / fps) seconds limit

/-- A take of a whole scene has a still for its start and one for each step. -/
theorem record_ends (seconds : α) {scene : Scene α} {fps : α} {limit : Nat}
    {task : Task (Leaf α)} {w v : Show α} {fate : Fate (Leaf α)}
    (hbuilt : Show.build ⟨scene.played, true⟩ (World.ofStage s .empty) = (task, w))
    (hw : Twins s [] w w) (hlog : w.log = [])
    (hran : task.course Leaf.machine (List.replicate limit (some (Scalar.one / fps))) w =
      (.ok fate, v)) :
    ∃ t, record fps seconds limit s scene = (.ok (), t) ∧
      t.frames.reverse = (List.range (fate.steps?.getD limit + 1)).map (fun k =>
        still (.ofView scene.view) (Scalar.one / fps) scene.index k
          (task.course Leaf.machine (List.replicate k (some (Scalar.one / fps))) w).2) ∧
      t.task = closed fate ∧
      t.world.events = v.events ++ farewell scene seconds fate := by
  generalize hdt : Scalar.one / fps = dt at hran ⊢
  let t : Take α :=
    { scene := scene, task := task, world := w, picture := .ofView scene.view, steps := 0,
      frames := [] }
  have hfollows : t.Follows (.ofView scene.view) := by
    show Picture.ofView scene.view = (Picture.ofView scene.view).after w.log.reverse
    rw [hlog]
    rfl
  have hcall := hfollows.call (f := Task.start Leaf.machine)
    (fun _ _ _ h => Task.start_related Leaf.machine_related t.task h) hw
  have hkept := (Task.start_related Leaf.machine_related task hw).2
  unfold record
  rw [hbuilt, hdt]
  simp only
  rw [show Take.call
      { scene := scene, task := task, world := w, picture := .ofView scene.view, steps := 0,
        frames := [] } (Task.start Leaf.machine) = _ from hcall]
  simp only [t]
  rcases hstart : task.start Leaf.machine w with ⟨⟨r, task'⟩, u⟩
  rw [hstart] at hkept
  rcases r with f | _ | _
  · rw [Task.course_of_error hstart] at hran
    cases hran
  · rw [Task.course_of_paused hstart] at hran
    let t₁ : Take α := { t with
      task := task', picture := (Picture.ofView scene.view).after u.events, world := u }
    have hfirst : (t₁.shoot dt).frames.reverse = [still (.ofView scene.view) dt scene.index 0 u] :=
      rfl
    obtain ⟨t', hroll, hends⟩ := roll_ends seconds (t := t₁.shoot dt) (p := .ofView scene.view) rfl
      hkept hran
    refine ⟨t', hroll, ?_, hends.task, hends.events⟩
    rw [hends.frames, hfirst, List.range_succ_eq_map, List.map_cons, List.map_map,
      List.singleton_append]
    congr 1
    · rw [List.replicate_zero, Task.course_of_paused hstart]
      rfl
    · refine List.map_congr_left fun k _ => ?_
      rw [Function.comp_apply, Task.course_of_paused hstart]
      show still _ dt scene.index (0 + k + 1) _ = _
      rw [Nat.zero_add]
      rfl
  · rw [Task.course_of_done hstart] at hran
    cases hran
    refine ⟨_, rfl, ?_, Task.eq_done_of_start hstart, (List.append_nil _).symm⟩
    rw [show (Fate.done (L := Leaf α) 0).steps?.getD limit + 1 = 1 from rfl, List.range_one,
      List.map_singleton, List.replicate_zero, Task.course_of_done hstart]
    rfl

end Take

namespace Bake
variable [Scalar α] [Analytic α]

variable {s : Scene α} {stage : Stage α} {fps seconds : α} {limit : Nat}

/-- A bake is a take of the whole scene. -/
theorem scene_eq (hfps : ¬fps ≤ Scalar.zero) (hlimit : stepLimit fps seconds = .ok limit)
    (hstage : Stage.ofView s.view none true = .ok stage) :
    Bake.scene fps seconds s =
      let (r, t) := Take.record fps seconds limit stage s
      ⟨(r.mapError .flow).map fun _ => t.frames.reverse, t.world.events⟩ := by
  unfold Bake.scene Take.record
  rw [if_neg hfps, hlimit, hstage]
  simp only
  generalize Take.call _ (Task.start (Leaf.machine (α := α))) = turn
  obtain ⟨_ | _, _⟩ := turn <;> rfl

/-- A bake whose flow does not fail shows the course of the flow within the limit. -/
theorem scene_ends (hfps : ¬fps ≤ Scalar.zero) (hlimit : stepLimit fps seconds = .ok limit)
    (hstage : Stage.ofView s.view none true = .ok stage) {fate : Fate (Leaf α)} {v : Show α}
    (hran : (Task.fresh s.played.toRoutine).course Leaf.machine
      (List.replicate limit (some (Scalar.one / fps))) (World.ofStage stage (.ofFlow s.played)) =
        (.ok fate, v)) :
    ∃ t, Take.record fps seconds limit stage s = (.ok (), t) ∧
      Bake.scene fps seconds s = ⟨.ok t.frames.reverse, t.world.events⟩ ∧
      t.frames.reverse = (List.range (fate.steps?.getD limit + 1)).map (fun k =>
        Take.still (.ofView s.view) (Scalar.one / fps) s.index k
          ((Task.fresh s.played.toRoutine).course Leaf.machine
            (List.replicate k (some (Scalar.one / fps)))
            (World.ofStage stage (.ofFlow s.played))).2) ∧
      t.task = Take.closed fate ∧
      t.world.events = v.events ++ Take.farewell s seconds fate := by
  have hd := (Stage.ofView_spec hstage).1
  obtain ⟨t, hrecord, hends⟩ := Take.record_ends seconds (Show.build_fresh hd s.played .empty)
    (⟨rfl, hd, rfl⟩ : Twins stage [] _ _) rfl hran
  have hscene := scene_eq hfps hlimit hstage
  rw [hrecord] at hscene
  exact ⟨t, hrecord, hscene, hends⟩

/-- A bake of a flow that is done within the limit has the events of the flow's course, and one
frame more than the flow takes steps. -/
theorem scene_course (hfps : ¬fps ≤ Scalar.zero) (hlimit : stepLimit fps seconds = .ok limit)
    (hstage : Stage.ofView s.view none true = .ok stage) {n : Nat} {v : Show α}
    (hdone : (Task.fresh s.played.toRoutine).course Leaf.machine
      (List.replicate limit (some (Scalar.one / fps))) (World.ofStage stage (.ofFlow s.played)) =
        (.ok (.done n), v)) :
    ∃ frames, (Bake.scene fps seconds s).frames = .ok frames ∧ frames.length = n + 1 ∧
      (Bake.scene fps seconds s).events = v.events := by
  obtain ⟨t, -, hscene, hframes, -, hevents⟩ := scene_ends hfps hlimit hstage hdone
  refine ⟨t.frames.reverse, congrArg Outcome.frames hscene, ?_, ?_⟩
  · rw [hframes, List.length_map, List.length_range]
    rfl
  · rw [hscene, hevents]
    exact List.append_nil _

end Bake
end Choreo
