import Choreo.Bake
import Choreo.Proofs.Number.Rational
import Mathlib.Algebra.Field.Rat
import Mathlib.Algebra.Order.Field.Basic
import Mathlib.Data.List.Forall2

/-!
The times of a bake.

A scene shoots one frame before its first step and one after each step, so its frames are as far
apart as a step is long, whether it is done or cut off. The frames of a project run on: every scene
is shifted by the frames before it, which makes the time of a frame its number in the whole bake
(`Bake.project_times`).
-/

namespace Choreo

/-- The frame at a later time. -/
def Frame.later {α : Type} [Add α] (shift : α) (x : Frame α) : Frame α :=
  { x with time := shift + x.time }

/-! ## One scene -/

namespace Take
variable {dt seconds : Rat} {t t' : Take Rat}

/-- One frame has been shot for the start and one for every step, each at its time. -/
def Timed (dt : Rat) (t : Take Rat) : Prop :=
  t.frames.reverse.map Frame.time = (List.range (t.steps + 1)).map fun (k : Nat) => k * dt

theorem Timed.step (h : t.Timed dt) : ({ t with steps := t.steps + 1 }.shoot dt).Timed dt := by
  have hshot :
      (({ t with steps := t.steps + 1 } : Take Rat).shoot dt).frames.reverse.map Frame.time =
      t.frames.reverse.map Frame.time ++ [((t.steps + 1 : Nat) : Rat) * dt] := by
    simp only [shoot, if_neg (Nat.succ_ne_zero t.steps), List.reverse_cons, List.map_append]
    rfl
  show List.map Frame.time _ = (List.range (t.steps + 1 + 1)).map _
  rw [hshot, h, List.range_succ (n := t.steps + 1), List.map_append]
  rfl

theorem timed_first (hsteps : t.steps = 0) (hframes : t.frames = []) : (t.shoot dt).Timed dt := by
  simp only [Timed, shoot, hsteps, hframes, if_true]
  simp

variable [Analytic Rat]

theorem Timed.roll {limit : Nat} (h : t.Timed dt) (hroll : t.roll dt seconds limit = (.ok (), t')) :
    t'.Timed dt := by
  induction limit generalizing t with
  | zero =>
    cases hroll
    exact h
  | succ limit ih =>
    -- A call on the task changes neither the frames nor the number of steps.
    have hcall : (t.call (Task.next Leaf.machine (some dt))).2.Timed dt := h
    unfold Take.roll at hroll
    rcases hr : t.call (Task.next Leaf.machine (some dt)) with ⟨_ | _ | _, u⟩
    · rw [hr] at hroll
      cases hroll
    · rw [hr] at hroll hcall
      exact ih hcall.step hroll
    · rw [hr] at hroll hcall
      cases hroll
      exact hcall.step

end Take

namespace Bake

/-- There is a frame, and each is at the time of its number. -/
structure Paced (fps : Rat) (frames : List (Frame Rat)) : Prop where
  ne_nil : frames ≠ []
  times : frames.map Frame.time = (List.range frames.length).map fun (k : Nat) => k / fps

theorem paced_of_timed {fps : Rat} {t : Take Rat} (h : t.Timed (1 / fps)) :
    Paced fps t.frames.reverse := by
  have hlength : t.frames.reverse.length = t.steps + 1 := by
    have := congrArg List.length h
    simpa using this
  refine ⟨List.ne_nil_of_length_eq_add_one hlength, ?_⟩
  rw [hlength, h]
  exact List.map_congr_left fun k _ => mul_one_div (k : Rat) fps

section
variable [Analytic Rat] {fps seconds : Rat}

/-- However a scene ends, by itself or at the limit, it has a first frame, and its frames are as far
apart as the rate says. -/
theorem scene_paced {s : Scene Rat} {frames : List (Frame Rat)}
    (h : (scene fps seconds s).frames = .ok frames) : Paced fps frames := by
  unfold scene at h
  split at h
  · cases h
  · split at h
    · cases h
    · cases h
    · next limit stage _ _ =>
      simp only at h
      split at h
      · cases h
      · next done t hcall =>
        have hsteps : t.steps = 0 := (congrArg (fun call => call.2.steps) hcall).symm
        have hframes : t.frames = [] := (congrArg (fun call => call.2.frames) hcall).symm
        have hfirst : (t.shoot (1 / fps)).Timed (1 / fps) := Take.timed_first hsteps hframes
        cases done with
        | true =>
          cases h
          exact paced_of_timed hfirst
        | false =>
          simp only [Bool.false_eq_true, if_false] at h
          rcases hr : Take.roll (Scalar.one / fps) seconds limit (t.shoot (Scalar.one / fps))
            with ⟨_ | _, u⟩
          · rw [hr] at h
            cases h
          · rw [hr] at h
            cases h
            exact paced_of_timed (hfirst.roll hr)

/-! ## Several scenes -/

/-- Takes laid end to end: each is shifted by the frames before it. -/
def laid (fps : Rat) : (before : Nat) → List (List (Frame Rat)) → List (List (Frame Rat))
  | _, [] => []
  | n, take :: takes => take.map (Frame.later (n / fps)) :: laid fps (n + take.length) takes

omit [Analytic Rat] in
/-- The frames of a take that is shifted by some frames are at the times of the
numbers after them. -/
theorem Paced.map_later {frames : List (Frame Rat)} (h : Paced fps frames) (n : Nat) :
    (frames.map (Frame.later (n / fps))).map Frame.time =
      (List.range' n frames.length).map fun (k : Nat) => k / fps := by
  have htimes : (frames.map (Frame.later (n / fps))).map Frame.time =
      (frames.map Frame.time).map (n / fps + ·) := by
    rw [List.map_map, List.map_map]
    rfl
  rw [htimes, h.times, List.map_map, List.range'_eq_map_range, List.map_map]
  refine List.map_congr_left fun k _ => ?_
  simp only [Function.comp_apply, Nat.cast_add, add_div]

omit [Analytic Rat] in
theorem laid_times {takes : List (List (Frame Rat))} (h : ∀ take ∈ takes, Paced fps take)
    (n : Nat) :
    (laid fps n takes).flatten.map Frame.time =
      (List.range' n (laid fps n takes).flatten.length).map fun (k : Nat) => k / fps := by
  induction takes generalizing n with
  | nil => rfl
  | cons take takes ih =>
    have hrest := ih (fun t ht => h t (List.mem_cons_of_mem take ht)) (n + take.length)
    rw [laid, List.flatten_cons, List.map_append, (h take List.mem_cons_self).map_later, hrest,
      List.length_append, List.length_map, ← List.range'_append_1, List.map_append]

omit [Analytic Rat] in
/-- The last of some frames at the times of their numbers. -/
theorem last_of_numbered {frames : List (Frame Rat)} (hne : frames ≠ []) {n : Nat}
    (h : frames.map Frame.time = (List.range' n frames.length).map fun (k : Nat) => k / fps) :
    ∃ x, frames.getLast? = some x ∧ x.time + 1 / fps = ((n + frames.length : Nat) : Rat) / fps := by
  obtain ⟨k, hk⟩ : ∃ k, frames.length = k + 1 :=
    Nat.exists_eq_succ_of_ne_zero (mt List.length_eq_zero_iff.mp hne)
  have hlast : frames.getLast?.map Frame.time = some (((n + k : Nat) : Rat) / fps) := by
    rw [← List.getLast?_map, h, hk, List.range'_concat, List.map_append]
    simp
  obtain ⟨x, hx, htime⟩ := Option.map_eq_some_iff.mp hlast
  refine ⟨x, hx, ?_⟩
  rw [htime, ← add_div, hk, ← Nat.add_assoc, Nat.cast_succ]

/-- From a whole number of frames on, scenes are recorded as each is alone, laid end to end. The
first scene that fails makes the whole fail as it does. -/
theorem scenesFrom_frames (scenes : List (Scene Rat)) (n : Nat) :
    (scenesFrom fps seconds (n / fps) scenes).frames =
      (scenes.mapM fun s => (scene fps seconds s).frames).map fun takes =>
        (laid fps n takes).flatten := by
  induction scenes generalizing n with
  | nil => rfl
  | cons s scenes ih =>
    rw [List.mapM_cons]
    rcases hs : (scene fps seconds s).frames with fault | take
    · simp only [scenesFrom, hs]
      rfl
    · have hpaced := scene_paced hs
      have hshifted := hpaced.map_later n
      rw [← List.length_map (Frame.later (n / fps))] at hshifted
      obtain ⟨x, hx, hnext⟩ := last_of_numbered (mt List.map_eq_nil_iff.mp hpaced.ne_nil) hshifted
      have hrest := ih (n + take.length)
      rw [List.length_map] at hnext
      rw [← hnext] at hrest
      have hlast : (take.map fun x => { x with time := n / fps + x.time }).getLast? = some x := hx
      simp only [scenesFrom, hs, hlast, Option.map_some, Option.getD_some]
      refine (congrArg (Except.map _) hrest).trans ?_
      rcases scenes.mapM fun s => (scene fps seconds s).frames with fault | takes <;> rfl

/-- A project is recorded as its scenes are, laid end to end. -/
theorem project_frames (scenes : List (Scene Rat)) :
    (project fps seconds scenes).frames =
      (scenes.mapM fun s => (scene fps seconds s).frames).map fun takes =>
        (laid fps 0 takes).flatten := by
  have h := @scenesFrom_frames _ fps seconds scenes 0
  rwa [Nat.cast_zero, zero_div] at h

omit [Analytic Rat] in
/-- Frames at the times of their numbers, read one by one. -/
theorem time_of_numbered {frames : List (Frame Rat)}
    (h : frames.map Frame.time = (List.range frames.length).map fun (k : Nat) => k / fps) (j : Nat)
    (hj : j < frames.length) : frames[j].time = j / fps := by
  have hget := congrArg (fun times => times[j]?) h
  simpa [hj] using hget

/-- When every scene is recorded, the takes are those of the scenes, in order. -/
theorem forall₂_of_mapM {scenes : List (Scene Rat)} {takes : List (List (Frame Rat))}
    (h : (scenes.mapM fun s => (scene fps seconds s).frames) = .ok takes) :
    List.Forall₂ (fun s take => (scene fps seconds s).frames = .ok take) scenes takes := by
  induction scenes generalizing takes with
  | nil =>
    cases h
    exact .nil
  | cons s scenes ih =>
    rw [List.mapM_cons] at h
    rcases hs : (scene fps seconds s).frames with fault | take
    · rw [hs] at h
      cases h
    rw [hs] at h
    rcases hrest : scenes.mapM fun s => (scene fps seconds s).frames with fault | rest
    · rw [hrest] at h
      cases h
    rw [hrest] at h
    cases h
    exact .cons hs (ih hrest)

theorem paced_of_taken {scenes : List (Scene Rat)} {takes : List (List (Frame Rat))}
    (h : List.Forall₂ (fun s take => (scene fps seconds s).frames = .ok take) scenes takes) :
    ∀ take ∈ takes, Paced fps take := by
  induction h with
  | nil => exact fun _ htake => absurd htake List.not_mem_nil
  | cons hs _ ih => exact List.forall_mem_cons.mpr ⟨scene_paced hs, ih⟩

/-- A project is baked scene by scene, in order, each as it is baked alone, with only its times
shifted; the first scene that fails makes the bake fail as it does. In what is baked every scene has
a frame, a frame is at the time of its number in the whole, and so the times increase with no gap
and no repetition, wherever the scenes end and whichever of them are cut off. -/
theorem project_times (hfps : 0 < fps) (scenes : List (Scene Rat)) :
    ((project fps seconds scenes).frames =
      (scenes.mapM fun s => (scene fps seconds s).frames).map fun takes =>
        (laid fps 0 takes).flatten) ∧
    ∀ frames, (project fps seconds scenes).frames = .ok frames →
      ∃ takes, List.Forall₂ (fun s take => (scene fps seconds s).frames = .ok take) scenes takes ∧
        (∀ take ∈ takes, take ≠ []) ∧
        frames = (laid fps 0 takes).flatten ∧
        (∀ j (hj : j < frames.length), frames[j].time = j / fps) ∧
        frames.Pairwise fun x y => x.time < y.time := by
  refine ⟨project_frames scenes, fun frames hframes => ?_⟩
  rw [project_frames] at hframes
  rcases htakes : scenes.mapM fun s => (scene fps seconds s).frames with fault | takes
  · rw [htakes] at hframes
    cases hframes
  rw [htakes] at hframes
  obtain rfl : (laid fps 0 takes).flatten = frames := Except.ok.inj hframes
  have htaken := forall₂_of_mapM htakes
  have hpaced := paced_of_taken htaken
  have htimes := laid_times hpaced 0
  rw [← List.range_eq_range'] at htimes
  refine ⟨takes, htaken, fun take htake => (hpaced take htake).ne_nil, rfl,
    time_of_numbered htimes, ?_⟩
  rw [List.pairwise_iff_getElem]
  intro i j hi hj hij
  rw [time_of_numbered htimes i hi, time_of_numbered htimes j hj]
  exact div_lt_div_of_pos_right (Nat.cast_lt.mpr hij) hfps

end

/-- At two frames a second and with a second to each scene: a wait of a second, beats that are cut
off at the limit and a scene without a flow. -/
theorem project_times_beats :
    let scenes : List (Scene Rat) :=
      [⟨1, "pause", [("title", "mt-4")], some (.act (.wait 1)), ⟨1, none⟩⟩,
        ⟨2, "beats", [], some (.act (.ticks "beat" 9)), ⟨0, none⟩⟩,
        ⟨3, "still", [], none, ⟨0, none⟩⟩]
    ∃ frames, (project 2 1 scenes).frames = .ok frames ∧ frames.length = 7 ∧
      frames.map Frame.scene = [1, 1, 1, 2, 2, 2, 3] ∧
      ∀ j (hj : j < frames.length), frames[j].time = j / 2 := by
  intro scenes
  have hscenes : (project 2 1 scenes).frames.toOption.map (fun frames => frames.map Frame.scene) =
      some [1, 1, 1, 2, 2, 2, 3] := by
    decide +kernel
  rcases hframes : (project 2 1 scenes).frames with fault | frames
  · rw [hframes] at hscenes
    cases hscenes
  rw [hframes] at hscenes
  have hnumbers : frames.map Frame.scene = [1, 1, 1, 2, 2, 2, 3] := Option.some.inj hscenes
  have hlength : frames.length = 7 := by
    have := congrArg List.length hnumbers
    rwa [List.length_map] at this
  obtain ⟨-, -, -, -, htimes, -⟩ := (project_times (by decide +kernel) scenes).2 frames hframes
  exact ⟨frames, rfl, hlength, hnumbers, htimes⟩

end Bake
end Choreo
