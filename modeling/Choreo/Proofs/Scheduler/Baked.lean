import Choreo.Scheduler.Clock
import Choreo.Proofs.Bake.Takes
import Choreo.Proofs.Scheduler.Strides

/-!
A scene on the clock and a scene that is baked.

A bake starts the flow before its first frame and then steps it by the length of a frame. A clock at
the same rate starts it in its second frame, by the first step, and measures each step from its
timestamps; as long as its frames are no longer than the bound on a step, it steps the flow by the
same length. A task does not tell a start before its first step from one in it, so both take the
same course. What they hand the renderer is the same, and the number of frames of the one gives the
number of sleeps of the other (`Show.live_baked`).
-/

namespace Choreo

/-! ## The clock -/

namespace Stagehand
variable {F A L W ε : Type} {th : Theatre F A L Rat W ε} {h : Stagehand F A L Rat W} {t : Task L}

/-- Frames of one length drive a task through its course. The first of these frames is the second of
the clock, which has slept before it. What is left to do when the task is done is the callback. -/
theorem driveFrom_through (call : Caller F A L Rat W ε) {dt : Rat} (hdt : 0 ≤ dt)
    (hlongest : dt ≤ h.scheduler.longest) (ht : h.scheduler.task = some t)
    {flow : F} {tag : String}
    (hmounted : h.scheduler.mounted = some (flow, some (.mk tag [])))
    (hcall : ∀ u, call (.mk tag []) u =
      (.ok (), { u with world := th.announce tag u.scheduler.phase u.world }))
    {k n : Nat} {v : W}
    (hdone : t.through th.machine (List.replicate k (some dt)) h.world = (.ok (.done (n + 1)), v))
    (now : Rat) :
    ∃ h', h'.scheduler.phase = .done ∧ h'.world = th.announce tag .done v ∧
      ∀ limit sleeps, n < limit →
        driveFrom th call dt none limit sleeps (now + dt) (h.ticking now) =
          (.ok ⟨.returned, sleeps + n⟩, h') := by
  induction k generalizing h t n now with
  | zero => cases hdone
  | succ k ih =>
    rw [List.replicate_succ] at hdone
    have hframe := frame_ticking th call now hdt hlongest ht
    rcases hn : t.next th.machine (some dt) h.world with ⟨⟨r, t'⟩, w⟩
    rw [stepTask_of_next hn] at hframe
    rcases r with e | _ | _
    · rw [Task.through_of_error hn] at hdone
      cases hdone
    · rw [Task.through_of_paused hn] at hdone
      have hframe : frame th call (now + dt) (h.ticking now) =
          (.ok true, (h.stepped dt t' w).ticking (now + dt)) := hframe
      rcases hrest : t'.through th.machine (List.replicate k (some dt)) w with ⟨_ | j | _, v'⟩
      · rw [hrest] at hdone
        cases hdone
      · have hpos := Task.pos_of_through_done (congrArg Prod.fst hrest)
        obtain ⟨j, rfl⟩ := Nat.exists_eq_succ_of_ne_zero hpos.ne'
        rw [hrest] at hdone
        obtain rfl : n = j + 1 := by
          have hj := Fate.done.inj (Except.ok.inj (congrArg Prod.fst hdone))
          omega
        obtain rfl : v' = v := congrArg Prod.snd hdone
        obtain ⟨h', hphase, hlast, hdrive⟩ :=
          ih (h := h.stepped dt t' w) hlongest rfl hmounted hrest (now + dt)
        refine ⟨h', hphase, hlast, fun limit sleeps hlimit => ?_⟩
        obtain ⟨limit, rfl⟩ := Nat.exists_eq_succ_of_ne_zero (by omega : limit ≠ 0)
        have hrest := hdrive limit (sleeps + 1) (by omega)
        unfold driveFrom
        rw [hframe]
        simp only [reduceCtorEq, if_false]
        rw [hrest, show sleeps + 1 + j = sleeps + (j + 1) by omega]
      · rw [hrest] at hdone
        cases hdone
    · rw [Task.through_of_done hn] at hdone
      cases hdone
      have hframe : frame th call (now + dt) (h.ticking now) = (.ok false,
          { ((h.stepped dt t' v).ticking (now + dt)).ended with
            world := th.announce tag .done v }) := by
        rw [hframe]
        simp only [settleFrame, Except.mapError, finish_eq, ticking, stepped, hmounted, hcall]
        rfl
      refine ⟨{ ((h.stepped dt t' v).ticking (now + dt)).ended with
        world := th.announce tag .done v }, rfl, rfl, fun limit sleeps hlimit => ?_⟩
      obtain ⟨limit, rfl⟩ := Nat.exists_eq_succ_of_ne_zero (by omega : limit ≠ 0)
      unfold driveFrom
      rw [hframe]
      rfl

/-- A flow that is mounted at its start and driven by a clock takes its course. The clock sleeps
once before the flow is started, and then once before each further step. -/
theorem driveFrom_mount {dt : Rat} (hdt : 0 ≤ dt) (hlongest : dt ≤ h.scheduler.longest)
    {flow : F} (tag : String) {w v : W} (hbuilt : th.build flow h.world = (t, w)) (ht : t ≠ .done)
    {k n : Nat} (hcourse : t.course th.machine (List.replicate k (some dt)) w = (.ok (.done n), v))
    (now : Rat) :
    ∃ h', h'.scheduler.phase = .done ∧ h'.world = th.announce tag .done v ∧
      ∀ limit, max 1 n < limit →
        driveFrom th (callBack th depthLimit) dt none limit 0 now
          (run th (.mount flow true 0 (some (.mk tag []))) h).2 =
            (.ok ⟨.returned, max 1 n⟩, h') := by
  obtain ⟨m, hm⟩ : ∃ m, max 1 n = 1 + m := ⟨max 1 n - 1, by omega⟩
  have hthrough := Task.through_replicate_of_course ht hcourse
  have htask : (mounting th flow (some (.mk tag [])) h).scheduler.task = some t :=
    congrArg some (congrArg Prod.fst hbuilt)
  have hworld : (mounting th flow (some (.mk tag [])) h).world = w := congrArg Prod.snd hbuilt
  rw [hm, Nat.add_comm 1 m, ← hworld] at hthrough
  have hfirst : frame th (callBack th depthLimit) now
      (run th (.mount flow true 0 (some (.mk tag []))) h).2 =
        (.ok true, (mounting th flow (some (.mk tag [])) h).ticking now) := by
    rw [run_mount_start, frame_clock _ now rfl rfl]
    rfl
  obtain ⟨h', hphase, hlast, hdrive⟩ := driveFrom_through
    (h := mounting th flow (some (.mk tag [])) h) (callBack th depthLimit) hdt hlongest htask rfl
    (fun u => rfl) hthrough now
  refine ⟨h', hphase, hlast, fun limit hlimit => ?_⟩
  rw [hm] at hlimit ⊢
  obtain ⟨limit, rfl⟩ := Nat.exists_eq_succ_of_ne_zero (by omega : limit ≠ 0)
  unfold driveFrom
  rw [hfirst]
  simp only [reduceCtorEq, if_false]
  exact hdrive limit 1 (by omega)

/-- A drive that its limit does not cut off. -/
theorem drive_eq {rate now : Rat} (hrate : rate ≠ 0) {d : Drive} {h' : Stagehand F A L Rat W}
    (hd : driveFrom th (callBack th depthLimit) (1 / rate) none driveLimit 0 now h = (.ok d, h')) :
    drive th rate now none h = (.ok d, h') := by
  have hnonzero : (rate == Scalar.zero) = false := beq_false_of_ne hrate
  have hd : driveFrom th (callBack th depthLimit) (Scalar.one / rate) none driveLimit 0 now h =
      (.ok d, h') := hd
  unfold drive
  rw [hd]
  simp only [reduceCtorEq, if_false, hnonzero, Bool.false_eq_true]
  rfl

end Stagehand

/-! ## The law -/

/-- Whether an event tells that a run is over. -/
def Event.isFinished {α : Type} : Event α → Bool
  | .finished .. => true
  | _ => false

/-- Whether an event is a text for the renderer. -/
def Event.isApply {α : Type} : Event α → Bool
  | .apply .. => true
  | _ => false

namespace Show
open Stagehand

/-- No flow tells that a run is over. -/
theorem unfinished_lived {α : Type} :
    Lived fun w : Show α => ∀ e ∈ w.log, e.isFinished = false :=
  lived_of_forall (fun _ _ _ => rfl) (fun _ _ => rfl) (fun _ _ _ => rfl) (fun _ => rfl)
    (fun _ _ => rfl)

/-- In its course a flow hands on no end of a run. -/
theorem filter_isFinished_course [Analytic Rat] (t : Task (Leaf Rat)) (dts : List (Option Rat))
    {w : Show Rat} (hw : w.log = []) :
    (t.course Leaf.machine dts w).2.log.reverse.filter Event.isFinished = [] := by
  have hkept := forall_course unfinished_lived t dts hw
  rw [List.filter_eq_nil_iff]
  intro e he
  rw [hkept e (List.mem_reverse.mp he)]
  exact Bool.false_ne_true

/-- A scene on the clock plays as it is baked. Its flow may be any, also one that is done before it
pauses, as long as it is done within the steps of the bake. The scene is mounted on a fresh stage,
and the clock, which only the sleeps advance, starts at any time and lets the frames be no longer
than the bound on a step allows.

What the renderer is given is the same and in the same order. The drive returns by itself once the
flow is done and its callback has run, and it has slept once for every frame after the first of the
bake, and at least once. It needs no more frames than that: any limit above the number of sleeps
will do, and so the limit of `drive` if the scene is not too long for it. -/
theorem live_baked [Analytic Rat] {scene : Scene Rat} {stage : Stage Rat}
    {fps longest seconds : Rat} {limit n : Nat} (hlongest : 0 < longest) (hfps : 1 / longest ≤ fps)
    (hstage : Stage.ofView scene.view none true = .ok stage)
    (hlimit : Bake.stepLimit fps seconds = .ok limit)
    (hdone :
      let built := build ⟨scene.played, true⟩ (World.ofStage stage .empty)
      (built.1.course Leaf.machine (List.replicate limit (some (1 / fps))) built.2).1.map
        Fate.steps? = .ok (some n))
    (step now : Rat) (tag : String) :
    let baked := Bake.scene fps seconds scene
    let mounted := (run theatre (.mount ⟨scene.played, true⟩ true 0 (some (.mk tag [])))
      (opening step longest stage)).2
    ∃ frames h', baked.frames = .ok frames ∧ frames.length = n + 1 ∧
      (∀ limit, max 1 (frames.length - 1) < limit →
        driveFrom theatre (callBack theatre depthLimit) (1 / fps) none limit 0 now mounted =
          (.ok ⟨.returned, max 1 (frames.length - 1)⟩, h')) ∧
      (max 1 (frames.length - 1) < driveLimit →
        drive theatre fps now none mounted =
          (.ok ⟨.returned, max 1 (frames.length - 1)⟩, h')) ∧
      h'.scheduler.phase = .done ∧
      h'.world.events.filter Event.isApply = baked.events.filter Event.isApply ∧
      h'.world.events.filter Event.isFinished = [.finished tag .done] ∧
      h'.world.events = baked.events ++ [.finished tag .done] := by
  intro baked mounted
  have hd := (Stage.ofView_spec hstage).1
  have hbuilt := build_fresh hd scene.played .empty
  -- Both build the same task on the same stage, so they part only in how they start it.
  rw [hbuilt] at hdone
  rcases hcourse : (Task.fresh scene.played.toRoutine).course Leaf.machine
    (List.replicate limit (some (1 / fps))) (World.ofStage stage (.ofFlow scene.played)) with ⟨r, v⟩
  simp only [hcourse] at hdone
  obtain rfl : r = .ok (.done n) := Fate.eq_done_of_map hdone
  have hpos : 0 < fps := lt_of_lt_of_le (one_div_pos.mpr hlongest) hfps
  have hrate : ¬fps ≤ Scalar.zero := not_le.mpr hpos
  have hbound : 1 / fps ≤ longest := by
    rw [div_le_iff₀ hpos, mul_comm]
    exact (div_le_iff₀ hlongest).mp hfps
  obtain ⟨frames, hframes, hlength, hevents⟩ := Bake.scene_course hrate hlimit hstage hcourse
  have hmounted : theatre.build ⟨scene.played, true⟩ (opening step longest stage).world =
    (.fresh scene.played.toRoutine, World.ofStage stage (.ofFlow scene.played)) := hbuilt
  have hfresh : Task.fresh scene.played.toRoutine ≠ .done := by
    intro hdone
    cases hdone
  obtain ⟨h', hphase, hlast, hclock⟩ :=
    driveFrom_mount (one_div_pos.mpr hpos).le hbound tag hmounted hfresh hcourse now
  have hsleeps : max 1 n = max 1 (frames.length - 1) := by omega
  rw [hsleeps] at hclock
  have hall : h'.world.events = baked.events ++ [.finished tag .done] := by
    rw [hlast, hevents]
    show (Event.finished tag .done :: v.log).reverse = v.log.reverse ++ [.finished tag .done]
    exact List.reverse_cons
  have hsilent : baked.events.filter Event.isFinished = [] := by
    have hcalm := filter_isFinished_course (.fresh scene.played.toRoutine)
      (List.replicate limit (some (1 / fps)))
      (rfl : (World.ofStage stage (Crew.ofFlow scene.played)).log = [])
    rw [hcourse] at hcalm
    rwa [hevents]
  refine ⟨frames, h', hframes, hlength, hclock, fun hlimit => drive_eq hpos.ne' (hclock _ hlimit),
    hphase, ?_, ?_, hall⟩
  · rw [hall, List.filter_append]
    exact List.append_nil _
  · rw [hall, List.filter_append, hsilent]
    rfl

/-- At two frames a second the late title is baked in three frames, and played with two sleeps. -/
theorem live_baked_lateTitle :
    let scene : Scene Rat := ⟨1, "title", [("title", "")], some lateTitle.flow, ⟨1, none⟩⟩
    let mounted := (run theatre (.mount lateTitle true 0 (some (.mk "over" [])))
      (opening (1 / 60) (1 / 2) titleStage)).2
    (Bake.scene 2 5 scene).frames.map List.length = .ok 3 ∧
      ∃ h', drive theatre 2 7 none mounted = (.ok ⟨.returned, 2⟩, h') ∧
        h'.scheduler.phase = .done ∧
        h'.world.events.filter Event.isApply = [.apply "title" "textContent" "Hi"] := by
  intro scene mounted
  have hlongest : 0 < (1 / 2 : Rat) := by decide +kernel
  have hfps : 1 / (1 / 2) ≤ (2 : Rat) := by decide +kernel
  have hstage : Stage.ofView scene.view none true = .ok titleStage := ofView_title
  have hlimit : Bake.stepLimit (2 : Rat) 5 = .ok 10 := by decide +kernel
  have hdone : ((build lateTitle (World.ofStage titleStage .empty)).1.course Leaf.machine
      (List.replicate 10 (some (1 / 2)))
      (build lateTitle (World.ofStage titleStage .empty)).2).1.map Fate.steps? = .ok (some 2) := by
    decide +kernel
  obtain ⟨frames, h', hframes, hlength, -, hdrive, hphase, happly, -⟩ :=
    live_baked hlongest hfps hstage hlimit hdone (1 / 60) 7 "over"
  have hsleeps : max 1 (frames.length - 1) = 2 := by omega
  rw [hsleeps] at hdrive
  refine ⟨by rw [hframes]; exact congrArg Except.ok hlength, h', hdrive (by decide), hphase, ?_⟩
  rw [happly]
  decide +kernel

end Show
end Choreo
