import Choreo.Proofs.Bake.Times
import Choreo.Proofs.Scheduler.Baked
import Mathlib.Tactic.Ring

/-!
How far a bake runs behind the master timeline.

The timeline lays scenes end to end by their estimates; a bake lays their frames end to end. Where
the estimates are exact, a scene has one frame more than it has steps, so each scene that is over
puts the bake one frame further behind the timeline (`Bake.project_drift`).
-/

namespace Choreo

/-- The flow of a scene, stepped by the length of a frame, is done within the limit of a bake after
as many steps as the estimate of the scene promises. -/
def Scene.Punctual [Analytic Rat] (fps seconds : Rat) (s : Scene Rat) : Prop :=
  ∃ stage limit, ∃ n : Nat, Stage.ofView s.view none true = .ok stage ∧
    Bake.stepLimit fps seconds = .ok limit ∧
    ((Task.fresh s.played.toRoutine).course Leaf.machine (List.replicate limit (some (1 / fps)))
      (World.ofStage stage (.ofFlow s.played))).1.map Fate.steps? = .ok (some n) ∧
    n = s.estimate.duration * fps

namespace Bake

/-- A take that is as long as an estimate and the frame before its first step. -/
structure Lasts (fps duration : Rat) (take : List (Frame Rat)) : Prop where
  paced : Paced fps take
  nonneg : 0 ≤ duration
  length : (take.length : Rat) / fps = duration + 1 / fps

section
variable {fps : Rat}

theorem lasts_of_punctual [Analytic Rat] {seconds : Rat} (hfps : 0 < fps) {s : Scene Rat}
    (h : s.Punctual fps seconds) :
    ∃ take, (scene fps seconds s).frames = .ok take ∧ Lasts fps s.estimate.duration take := by
  obtain ⟨stage, limit, n, hstage, hlimit, hdone, hn⟩ := h
  rcases hcourse : (Task.fresh s.played.toRoutine).course Leaf.machine
    (List.replicate limit (some (1 / fps))) (World.ofStage stage (.ofFlow s.played)) with ⟨r, v⟩
  rw [hcourse] at hdone
  obtain rfl : r = .ok (.done n) := Fate.eq_done_of_map hdone
  obtain ⟨take, htake, hlength, -⟩ := scene_course (not_le.mpr hfps) hlimit hstage hcourse
  have hduration : s.estimate.duration = n / fps := (eq_div_iff hfps.ne').mpr hn.symm
  refine ⟨take, htake, scene_paced htake, ?_, ?_⟩
  · rw [hduration]
    exact div_nonneg (Nat.cast_nonneg n) hfps.le
  · rw [hlength, hduration, Nat.cast_succ, add_div]

/-- Punctual scenes are all recorded, and their takes are as long as their estimates. -/
theorem takes_of_punctual [Analytic Rat] {seconds : Rat} (hfps : 0 < fps)
    {scenes : List (Scene Rat)} (h : ∀ s ∈ scenes, s.Punctual fps seconds) :
    ∃ takes, (scenes.mapM fun s => (scene fps seconds s).frames) = .ok takes ∧
      List.Forall₂ (Lasts fps) (scenes.map fun s => s.estimate.duration) takes := by
  induction scenes with
  | nil => exact ⟨[], rfl, .nil⟩
  | cons s scenes ih =>
    obtain ⟨hs, hscenes⟩ := List.forall_mem_cons.mp h
    obtain ⟨take, htake, hlasts⟩ := lasts_of_punctual hfps hs
    obtain ⟨takes, htakes, hrest⟩ := ih hscenes
    refine ⟨take :: takes, ?_, .cons hlasts hrest⟩
    rw [List.mapM_cons, htake, htakes]
    rfl

/-- The next take comes one frame later than the timeline has it, on top of how late this one is. -/
theorem Lasts.next {d : Rat} {take : List (Frame Rat)} (h : Lasts fps d take) {n i : Nat} {t : Rat}
    (hn : (n : Rat) / fps = t + i / fps) :
    ((n + take.length : Nat) : Rat) / fps =
      t + Scalar.larger d Scalar.zero + (i + 1 : Nat) / fps := by
  rw [Scalar.larger_rat, Scalar.zero_rat, max_eq_left h.nonneg, Nat.cast_add, Nat.cast_succ,
    add_div, add_div, hn, h.length]
  ring

/-- Behind `i` scenes, a take is `i` frames later than its start on the timeline. -/
theorem first_laid {ds : List Rat} {takes : List (List (Frame Rat))}
    (h : List.Forall₂ (Lasts fps) ds takes) {n i : Nat} {t : Rat}
    (hn : (n : Rat) / fps = t + i / fps) (j : Nat) (hj : j < ds.length) :
    ∃ start x, (Timeline.layOut t ds).1[j]? = some start ∧
      (laid fps n takes)[j]?.bind List.head? = some x ∧ x.time = start + (i + j : Nat) / fps := by
  induction h generalizing n i t j with
  | nil => exact absurd hj (Nat.not_lt_zero j)
  | @cons d take ds takes hd _ ih =>
    cases j with
    | zero =>
      obtain ⟨x, xs, rfl⟩ := List.exists_cons_of_ne_nil hd.paced.ne_nil
      have hx : x.time = 0 := by
        have := time_of_numbered hd.paced.times 0 (Nat.succ_pos _)
        rwa [Nat.cast_zero, zero_div] at this
      refine ⟨t, x.later (n / fps), rfl, rfl, ?_⟩
      show n / fps + x.time = t + i / fps
      rw [hx, hn, add_zero]
    | succ j =>
      obtain ⟨start, x, hstart, hx, htime⟩ := ih (hd.next hn) j (Nat.lt_of_succ_lt_succ hj)
      refine ⟨start, x, hstart, hx, ?_⟩
      rwa [Nat.add_right_comm, Nat.add_assoc] at htime

/-- Behind `i` scenes, the takes end as many frames after the end of the timeline as there are
scenes until then. -/
theorem stop_laid {ds : List Rat} {takes : List (List (Frame Rat))}
    (h : List.Forall₂ (Lasts fps) ds takes) {n i : Nat} {t : Rat}
    (hn : (n : Rat) / fps = t + i / fps) :
    ((n + (laid fps n takes).flatten.length : Nat) : Rat) / fps =
      (Timeline.layOut t ds).2 + (i + ds.length : Nat) / fps := by
  induction h generalizing n i t with
  | nil => exact hn
  | @cons d take ds takes hd _ ih =>
    have hrest := ih (hd.next hn)
    rw [laid, List.flatten_cons, List.length_append, List.length_map, ← Nat.add_assoc, hrest,
      List.length_cons, Nat.add_comm ds.length 1, ← Nat.add_assoc]
    rfl

theorem laid_ne_nil [Analytic Rat] {seconds : Rat} {scenes : List (Scene Rat)}
    {takes : List (List (Frame Rat))} (hscenes : scenes ≠ [])
    (h : List.Forall₂ (fun s take => (scene fps seconds s).frames = .ok take) scenes takes)
    (n : Nat) :
    (laid fps n takes).flatten ≠ [] := by
  cases h with
  | nil => exact absurd rfl hscenes
  | @cons _ take _ _ hs _ =>
    intro hnil
    have hfirst : take.map (Frame.later (n / fps)) = [] := (List.append_eq_nil_iff.mp hnil).1
    exact (scene_paced hs).ne_nil (List.map_eq_nil_iff.mp hfirst)

/-- In a bake of scenes that take as long as they promise, the first frame of a scene is one frame
later than its start on the timeline for every scene before it, and the last frame of all is that
much later than the end of the timeline for every scene but one. -/
theorem project_drift [Analytic Rat] {seconds : Rat} (hfps : 0 < fps) {scenes : List (Scene Rat)}
    (hscenes : scenes ≠ []) (hpunctual : ∀ s ∈ scenes, s.Punctual fps seconds) :
    ∃ takes, List.Forall₂ (fun s take => (scene fps seconds s).frames = .ok take) scenes takes ∧
      (project fps seconds scenes).frames = .ok (laid fps 0 takes).flatten ∧
      (∀ i < scenes.length, ∃ start x, (Scene.timeline scenes).starts[i]? = some start ∧
        (laid fps 0 takes)[i]?.bind List.head? = some x ∧ x.time = start + i / fps) ∧
      ∃ x, (laid fps 0 takes).flatten.getLast? = some x ∧
        x.time = (Scene.timeline scenes).total + ((scenes.length : Rat) - 1) / fps := by
  obtain ⟨takes, htakes, hlasts⟩ := takes_of_punctual hfps hpunctual
  have htaken := forall₂_of_mapM htakes
  have hzero : ((0 : Nat) : Rat) / fps = 0 + (0 : Nat) / fps := (zero_add _).symm
  refine ⟨takes, htaken, ?_, ?_, ?_⟩
  · rw [project_frames, htakes]
    rfl
  · intro i hi
    have hfirst := first_laid hlasts hzero i (by rwa [List.length_map])
    rwa [Nat.zero_add] at hfirst
  · have hstop := stop_laid hlasts hzero
    rw [List.length_map, Nat.zero_add scenes.length] at hstop
    obtain ⟨x, hx, hnext⟩ := last_of_numbered (laid_ne_nil hscenes htaken 0)
      (laid_times (paced_of_taken htaken) 0)
    refine ⟨x, hx, ?_⟩
    rw [eq_sub_of_add_eq (hnext.trans hstop), add_sub_assoc, ← sub_div]
    rfl

end

/-- Two scenes at four frames a second: a pause of half a second, and two beats for which half a
second is announced. -/
theorem project_drift_pause :
    let scenes : List (Scene Rat) :=
      [⟨1, "pause", [("title", "mt-4")], some (.act (.wait (1 / 2))), ⟨1 / 2, none⟩⟩,
        ⟨2, "beats", [], some (.act (.ticks "beat" 2)), ⟨1 / 2, none⟩⟩]
    ∃ takes, (project 4 600 scenes).frames = .ok (laid 4 0 takes).flatten ∧
      (∃ x, (laid 4 0 takes)[1]?.bind List.head? = some x ∧ x.time = 1 / 2 + 1 / 4) ∧
      ∃ x, (laid 4 0 takes).flatten.getLast? = some x ∧ x.time = 1 + 1 / 4 := by
  intro scenes
  have hpunctual : ∀ s ∈ scenes, s.Punctual 4 600 := by
    refine List.forall_mem_cons.mpr ⟨?_, List.forall_mem_singleton.mpr ?_⟩
    · exact ⟨_, 2400, 2, rfl, by decide +kernel, by decide +kernel, by decide +kernel⟩
    · exact ⟨_, 2400, 2, rfl, by decide +kernel, by decide +kernel, by decide +kernel⟩
  obtain ⟨takes, -, hframes, hfirst, x, hx, hlast⟩ :=
    project_drift (by decide +kernel) (List.cons_ne_nil _ _) hpunctual
  obtain ⟨start, y, hstart, hy, htime⟩ := hfirst 1 (by decide)
  have htotal : (Scene.timeline scenes).total = 1 := by decide +kernel
  have hstarts : (Scene.timeline scenes).starts[1]? = some (1 / 2) := by decide +kernel
  obtain rfl : 1 / 2 = start := Option.some.inj (hstarts.symm.trans hstart)
  refine ⟨takes, hframes, ⟨y, hy, htime.trans ?_⟩, x, hx, hlast.trans ?_⟩
  · decide +kernel
  · rw [htotal]
    decide +kernel

end Bake
end Choreo
