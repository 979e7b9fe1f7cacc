import Mathlib.Tactic.Linarith
import Choreo.Proofs.Scheduler.Replay
import Choreo.Proofs.Scheduler.Stopped

/-!
Replays and frames.

A replay and the frames of a clock step a task by different rules: a replay clips its last step so
that it lands on the offset, a frame measures the time since the last one and clamps it. In exact
arithmetic they agree where they should. Frames at the times a replay would pass through step the
task by the strides of the replay, and leave the scheduler and the world as the replay leaves them,
also when the flow is done on the way; only the timestamp of the last frame tells the two apart
(`Stagehand.frames_replay`).
-/

namespace Choreo
variable {F A L α W ε : Type}

/-! ## Strides -/

namespace Stagehand

section
variable [Scalar α]

/-- The strides of a replay from a time on. -/
def stridesFrom (step offset : α) : (limit : Nat) → (time : α) → List α
  | 0, _ => []
  | limit + 1, time =>
    if time < offset - Scheduler.slack then
      let dt := Scalar.smaller step (offset - time)
      dt :: stridesFrom step offset limit (time + dt)
    else []

/-- The strides in which a replay comes from the start up to an offset, if the flow lasts. -/
def strides (step offset : α) : List α :=
  stridesFrom step offset (catchUpLimit step offset) Scalar.zero

/-- The strides a task takes until it is done, fails or has caught up. -/
def stridesTaken (th : Theatre F A L α W ε) (offset : α) :
    (limit : Nat) → Task L → Stagehand F A L α W → List α
  | 0, _, _ => []
  | limit + 1, t, h =>
    if h.scheduler.time < offset - Scheduler.slack then
      let dt := Scalar.smaller h.scheduler.step (offset - h.scheduler.time)
      dt ::
        match stepTask th dt t h with
        | (.ok false, h') =>
          match h'.scheduler.task with
          | some t' => stridesTaken th offset limit t' h'
          | none => []
        | _ => []
    else []

/-- The scheduler once a mount has built its flow. -/
def mounting (th : Theatre F A L α W ε) (flow : F) (callback : Option (Callback F A α))
    (h : Stagehand F A L α W) : Stagehand F A L α W :=
  { scheduler := rewound
      { h.scheduler.unmount with mounted := some (flow, callback), playing := true }
      (th.build flow h.world).1
    world := (th.build flow h.world).2 }

/-- The strides that the replay of a mount takes. -/
def mountStrides (th : Theatre F A L α W ε) (flow : F) (callback : Option (Callback F A α))
    (offset : α) (h : Stagehand F A L α W) : List α :=
  stridesTaken th offset (catchUpLimit h.scheduler.step offset) (th.build flow h.world).1
    (mounting th flow callback h)

/-- The scheduler after a step of some time, which left a task and a world. -/
def stepped (dt : α) (t : Task L) (w : W) (h : Stagehand F A L α W) : Stagehand F A L α W :=
  { scheduler := { h.scheduler with time := h.scheduler.time + dt, task := some t }, world := w }

variable {th : Theatre F A L α W ε} {offset : α} {limit : Nat} {t : Task L}
  {h h' : Stagehand F A L α W}

theorem stepTask_of_next {dt : α} {r : Except ε Bool} {t' : Task L} {w : W}
    (hn : t.next th.machine (some dt) h.world = ((r, t'), w)) :
    stepTask th dt t h = (r.mapError .flow, h.stepped dt t' w) := by
  unfold stepTask
  rw [hn]
  rfl

/-- A step fails only as the flow does. -/
theorem stepTask_fault {dt : α} {f : SchedulerFault ε} (hs : (stepTask th dt t h).1 = .error f) :
    ∃ e, f = .flow e := by
  have hr : (t.next th.machine (some dt) h.world).1.1.mapError SchedulerFault.flow = .error f := hs
  cases hn : (t.next th.machine (some dt) h.world).1.1 with
  | error e =>
    rw [hn] at hr
    cases hr
    exact ⟨e, rfl⟩
  | ok b =>
    rw [hn] at hr
    cases hr

/-- A task takes the first strides of its replay, and all of them if it is not done on the way. -/
theorem stridesFrom_eq {b : Bool} (hr : catchUp th offset limit t h = (.ok b, h')) :
    ∃ rest, stridesFrom h.scheduler.step offset limit h.scheduler.time =
        stridesTaken th offset limit t h ++ rest ∧ (b = false → rest = []) := by
  induction limit generalizing t h with
  | zero => cases hr
  | succ limit ih =>
    unfold catchUp at hr
    unfold stridesFrom stridesTaken
    by_cases htime : h.scheduler.time < offset - Scheduler.slack
    · simp only [if_pos htime] at hr ⊢
      generalize hdt : Scalar.smaller h.scheduler.step (offset - h.scheduler.time) = dt at hr ⊢
      have htask := stepTask_task th dt t h
      have hstep : (stepTask th dt t h).2.scheduler.step = h.scheduler.step := rfl
      have hnow : (stepTask th dt t h).2.scheduler.time = h.scheduler.time + dt := rfl
      generalize stepTask th dt t h = turn at hr htask hstep hnow ⊢
      obtain ⟨r, u⟩ := turn
      rcases r with f | _ | _
      · cases hr
      · simp only at htask hstep hnow
        simp only [htask] at hr ⊢
        obtain ⟨rest, hrest, hnil⟩ := ih hr
        rw [← hstep, ← hnow, hrest]
        exact ⟨rest, rfl, hnil⟩
      · cases hr
        exact ⟨_, rfl, fun h => absurd h (by decide)⟩
    · simp only [if_neg htime] at hr ⊢
      exact ⟨[], rfl, fun _ => rfl⟩

end

/-! ## Frames over rationals -/

/-- The scheduler of a replay as a clock drives it that shows a time. -/
def ticking {α : Type} (now : α) (h : Stagehand F A L α W) : Stagehand F A L α W :=
  { h with scheduler := { h.scheduler with phase := .running, last := some now } }

variable {th : Theatre F A L Rat W ε} {offset : Rat} {limit : Nat} {t : Task L}
  {h h' : Stagehand F A L Rat W}

theorem slack_pos : 0 < (Scheduler.slack : Rat) := by decide +kernel

/-- A replay that is given one step more than it needs fails only as the flow does. -/
theorem catchUp_fault {n : Nat} {f : SchedulerFault ε} (hpos : 0 < h.scheduler.step)
    (hn : offset - h.scheduler.time ≤ n * h.scheduler.step)
    (hr : (catchUp th offset (n + 1) t h).1 = .error f) : ∃ e, f = .flow e := by
  induction n generalizing t h with
  | zero =>
    have htime : ¬h.scheduler.time < offset - Scheduler.slack := by
      rw [Nat.cast_zero, zero_mul] at hn
      linarith [slack_pos]
    unfold catchUp at hr
    rw [if_neg htime] at hr
    cases hr
  | succ n ih =>
    unfold catchUp at hr
    by_cases htime : h.scheduler.time < offset - Scheduler.slack
    · simp only [if_pos htime, Scalar.smaller_rat] at hr
      generalize hd : min h.scheduler.step (offset - h.scheduler.time) = dt at hr
      have hnow : (stepTask th dt t h).2.scheduler.time = h.scheduler.time + dt := rfl
      have hstep : (stepTask th dt t h).2.scheduler.step = h.scheduler.step := rfl
      have hnext := stepTask_task th dt t h
      -- A stride is a whole step, or all that is left.
      have hleft : offset - (h.scheduler.time + dt) ≤ n * h.scheduler.step := by
        have hrest := mul_nonneg (Nat.cast_nonneg (α := Rat) n) hpos.le
        rw [Nat.cast_succ, add_mul, one_mul] at hn
        rcases min_choice h.scheduler.step (offset - h.scheduler.time) with hmin | hmin
        · linarith
        · linarith
      generalize hs : stepTask th dt t h = turn at hr hnow hstep hnext
      obtain ⟨r, u⟩ := turn
      rcases r with f' | _ | _
      · cases hr
        exact stepTask_fault (by rw [hs])
      · simp only at hnow hstep hnext
        simp only [hnext] at hr
        exact ih (by rwa [hstep]) (by rwa [hnow, hstep]) hr
      · cases hr
    · rw [if_neg htime] at hr
      cases hr

/-- A replay is given more steps than it needs. -/
theorem catchUpLimit_spec {step : Rat} (hpos : 0 < step) (hoffset : 0 ≤ offset) :
    ∃ n, catchUpLimit step offset = n + 1 ∧ offset ≤ n * step := by
  have hquotient : 0 ≤ offset / step := div_nonneg hoffset hpos.le
  have hlimit : catchUpLimit step offset = 100000000 + 2 * (offset / step).floor.toNat := by
    unfold catchUpLimit
    rw [Scalar.truncate_rat_of_nonneg hquotient]
  generalize hk : (offset / step).floor.toNat = k at hlimit
  refine ⟨99999999 + 2 * k, by omega, ?_⟩
  have hlt : (offset / step).floor < ((99999999 + 2 * k : Nat) : Int) := by omega
  have hle : offset / step < ((99999999 + 2 * k : Nat) : Int) :=
    not_le.mp fun h => not_le.mpr hlt (Rat.le_floor_iff.mpr h)
  rw [Int.cast_natCast] at hle
  exact (div_le_iff₀ hpos).mp hle.le

/-- A replay from the start comes to its end unless the flow fails. -/
theorem replay_ok (hpos : 0 < h.scheduler.step) (hstart : h.scheduler.time = 0)
    (hoffset : 0 < offset) (hok : ∀ e, (replay th offset t h).1 ≠ .error (.flow e)) :
    ∃ b u, replay th offset t h = (.ok b, u) ∧
      catchUp th offset (catchUpLimit h.scheduler.step offset) t h = (.ok b, u) := by
  have hreplay : replay th offset t h =
      catchUp th offset (catchUpLimit h.scheduler.step offset) t h := if_pos hoffset
  rw [hreplay] at hok ⊢
  obtain ⟨n, hlimit, hle⟩ := catchUpLimit_spec hpos hoffset.le
  have hleft : offset - h.scheduler.time ≤ n * h.scheduler.step := by rwa [hstart, sub_zero]
  rw [hlimit] at hok ⊢
  generalize hr : catchUp th offset (n + 1) t h = turn at hok
  obtain ⟨r, u⟩ := turn
  cases r with
  | error f =>
    obtain ⟨e, rfl⟩ := catchUp_fault hpos hleft (congrArg Prod.fst hr)
    exact absurd rfl (hok e)
  | ok b => exact ⟨b, u, rfl, rfl⟩

/-- A frame steps the task by the time that passed, within the bound. -/
theorem frame_ticking (th : Theatre F A L Rat W ε) (call : Caller F A L Rat W ε) (now : Rat)
    {dt : Rat} (hdt : 0 ≤ dt)
    (hlongest : dt ≤ h.scheduler.longest) (ht : h.scheduler.task = some t) :
    frame th call (now + dt) (h.ticking now) =
      settleFrame call ((stepTask th dt t h).1, (stepTask th dt t h).2.ticking (now + dt)) := by
  have hsize : Scalar.smaller (Scalar.larger (now + dt - now) Scalar.zero) h.scheduler.longest =
      dt := by
    rw [Scalar.smaller_rat, Scalar.larger_rat, Scalar.zero_rat, add_sub_cancel_left,
      max_eq_left hdt, min_eq_left hlongest]
  have hstep : frameStep th (now + dt) now t (h.ticking now) =
      stepTask th dt t (h.ticking (now + dt)) := by
    unfold frameStep
    rw [show (h.ticking now).scheduler.longest = h.scheduler.longest from rfl, hsize]
    rfl
  rw [frame_step (h := h.ticking now) call (now + dt) rfl rfl ht, hstep]
  rfl

theorem runs_frame (now : Rat) (cs : List (Command F A Rat)) (h : Stagehand F A L Rat W) :
    (runs th (.frame now :: cs) h).2 =
      (runs th cs (frame th (callBack th depthLimit) now h).2).2 := rfl

theorem scanl_eq_cons (now : Rat) (dts : List Rat) :
    dts.scanl (· + ·) now = now :: (dts.scanl (· + ·) now).tail := by
  cases dts with
  | nil => simp
  | cons dt dts => simp

theorem scanl_cons_tail (now dt : Rat) (dts : List Rat) :
    ((dt :: dts).scanl (· + ·) now).tail =
      (now + dt) :: (dts.scanl (· + ·) (now + dt)).tail := by
  rw [List.scanl_cons, List.tail_cons, ← scanl_eq_cons]

/-- The frames of a clock that passes through the strides of a replay do what the replay does. -/
theorem frames_catchUp {b : Bool} (now : Rat) (hpos : 0 < h.scheduler.step)
    (hlongest : h.scheduler.step ≤ h.scheduler.longest) (ht : h.scheduler.task = some t)
    (hr : catchUp th offset limit t h = (.ok b, h')) :
    ∃ now', (runs th (((stridesTaken th offset limit t h).scanl (· + ·) now).tail.map .frame)
        (h.ticking now)).2 =
      (settleFrame (callBack th depthLimit) (.ok b, h'.ticking now')).2 := by
  -- Frames and replay stay in step: after each stride the one is at `ticking` of the other.
  induction limit generalizing now t h with
  | zero => cases hr
  | succ limit ih =>
    unfold catchUp at hr
    unfold stridesTaken
    by_cases htime : h.scheduler.time < offset - Scheduler.slack
    · have hdt : Scalar.smaller h.scheduler.step (offset - h.scheduler.time) =
          min h.scheduler.step (offset - h.scheduler.time) := Scalar.smaller_rat _ _
      simp only [if_pos htime, hdt] at hr ⊢
      have hleft : 0 < offset - h.scheduler.time := by linarith [slack_pos]
      generalize hd : min h.scheduler.step (offset - h.scheduler.time) = dt at hr ⊢
      have hnonneg : 0 ≤ dt := hd ▸ le_min hpos.le hleft.le
      have hle : dt ≤ h.scheduler.longest := (hd ▸ min_le_left _ _ : dt ≤ _).trans hlongest
      have hframe := frame_ticking th (callBack th depthLimit) now hnonneg hle ht
      have hnext := stepTask_task th dt t h
      have hterms := stepTask_terms th dt t h
      rw [scanl_cons_tail, List.map_cons, runs_frame, hframe]
      generalize stepTask th dt t h = turn at hr hnext hterms ⊢
      obtain ⟨r, u⟩ := turn
      simp only at hnext hterms
      rcases r with f | _ | _
      · cases hr
      · simp only [hnext] at hr ⊢
        have hstep : u.scheduler.step = h.scheduler.step := congrArg Scheduler.Terms.step hterms
        have hsame : u.scheduler.longest = h.scheduler.longest :=
          congrArg Scheduler.Terms.longest hterms
        exact ih (now + dt) (by rwa [hstep]) (by rwa [hstep, hsame]) hnext hr
      · cases hr
        exact ⟨now + dt, rfl⟩
    · simp only [if_neg htime] at hr ⊢
      cases hr
      exact ⟨now, rfl⟩

theorem runs_append (cs ds : List (Command F A Rat)) (h : Stagehand F A L Rat W) :
    (runs th (cs ++ ds) h).2 = (runs th ds (runs th cs h).2).2 := by
  induction cs generalizing h with
  | nil => rfl
  | cons c cs ih => exact ih _

theorem runs_frames_of_ne_running (hp : h.scheduler.phase ≠ .running) (times : List Rat) :
    (runs th (times.map .frame) h).2 = h := by
  induction times with
  | nil => rfl
  | cons now times ih => rw [List.map_cons, runs_frame, frame_of_ne_running _ now hp, ih]

/-- A replay and the frames through its strides come to the same end. -/
theorem settle_ticking (th : Theatre F A L Rat W ε) (depth : Nat) (b : Bool) (now : Rat)
    (hplaying : h.scheduler.playing = true) :
    ∃ last, (settleFrame (callBack th depth) (.ok b, h.ticking now)).2 =
      (settle (callBack th depth) (.ok b, h)).2.timed last := by
  cases b with
  | false =>
    refine ⟨some now, ?_⟩
    simp only [settleFrame, settle, ticking, timed, Scheduler.caughtUp, hplaying, if_true]
  | true =>
    have hended : (h.ticking now).ended = h.ended.timed (some now) := rfl
    obtain ⟨last, heq, -⟩ := finish_timed th depth hended
    rw [settleFrame_snd, heq]
    exact ⟨last, rfl⟩

/-! ## The law -/

variable {flow : F} {callback : Option (Callback F A Rat)}

theorem run_mount (th : Theatre F A L Rat W ε) (offset : Rat) :
    (run th (.mount flow true offset callback) h).2 =
      (settle (callBack th depthLimit)
        (replay th offset (th.build flow h.world).1 (mounting th flow callback h))).2 := by
  unfold run perform
  simp only [restart_eq]
  rfl

/-- A mount at the start of a flow replays nothing. -/
theorem run_mount_start (th : Theatre F A L Rat W ε) :
    (run th (.mount flow true 0 callback) h).2 =
      { mounting th flow callback h with
        scheduler := (mounting th flow callback h).scheduler.caughtUp } := by
  have hreplay : replay th 0 (th.build flow h.world).1 (mounting th flow callback h) =
      (.ok false, mounting th flow callback h) := if_neg (lt_irrefl 0)
  rw [run_mount, hreplay]
  rfl

/-- A mount at the start of a flow, and frames at the times of a clock that passes through some
strides. The first frame starts the clock. -/
theorem runs_mount (now : Rat) (dts : List Rat) :
    (runs th (.mount flow true 0 callback :: (dts.scanl (· + ·) now).map .frame) h).2 =
      (runs th ((dts.scanl (· + ·) now).tail.map .frame)
        ((mounting th flow callback h).ticking now)).2 := by
  have hruns (cs : List (Command F A Rat)) : (runs th (.mount flow true 0 callback :: cs) h).2 =
      (runs th cs (run th (.mount flow true 0 callback) h).2).2 := rfl
  rw [hruns, run_mount_start, scanl_eq_cons, List.map_cons, runs_frame, frame_clock _ now rfl rfl]
  rfl

/-- Frames after a run that is over change nothing. -/
theorem runs_mount_append {now : Rat} {dts : List Rat} (more : List Rat)
    (hp : (runs th (.mount flow true 0 callback :: (dts.scanl (· + ·) now).map .frame)
      h).2.scheduler.phase ≠ .running) :
    (runs th (.mount flow true 0 callback :: ((dts ++ more).scanl (· + ·) now).map .frame) h).2 =
      (runs th (.mount flow true 0 callback :: (dts.scanl (· + ·) now).map .frame) h).2 := by
  rw [List.scanl_append, List.map_append, ← List.cons_append, runs_append,
    runs_frames_of_ne_running hp]

/-- A mount that replays a flow, and a mount at its start with frames through the strides of the
replay, come to the same but for the timestamp of the last frame. Frames may go on through the
strides that were not taken, unless the callback of the flow has begun another run. -/
theorem frames_replay (hpos : 0 < h.scheduler.step)
    (hlongest : h.scheduler.step ≤ h.scheduler.longest) (hoffset : 0 < offset)
    (hok : ∀ e, (replay th offset (th.build flow h.world).1 (mounting th flow callback h)).1 ≠
      .error (.flow e)) (now : Rat) :
    let sought := (run th (.mount flow true offset callback) h).2
    let played (dts : List Rat) :=
      (runs th (.mount flow true 0 callback :: (dts.scanl (· + ·) now).map .frame) h).2
    (∃ last, played (mountStrides th flow callback offset h) = sought.timed last) ∧
      ((∀ c ∈ callback, c.IsApart) →
        (sought.scheduler.phase = .running ∨ sought.scheduler.phase = .done) ∧
          ∃ last, played (strides h.scheduler.step offset) = sought.timed last) := by
  intro sought played
  obtain ⟨b, u, hreplay, hcatch⟩ :=
    replay_ok (h := mounting th flow callback h) hpos rfl hoffset hok
  have hsought : sought = (settle (callBack th depthLimit) (.ok b, u)).2 := by
    rw [← hreplay]
    exact run_mount th offset
  have hterms : u.scheduler.terms = (mounting th flow callback h).scheduler.terms := by
    have hkept := replay_terms th offset (th.build flow h.world).1 (mounting th flow callback h)
    rwa [hreplay] at hkept
  have hplaying : u.scheduler.playing = true := congrArg Scheduler.Terms.playing hterms
  have hmounted : u.scheduler.mounted = some (flow, callback) :=
    congrArg Scheduler.Terms.mounted hterms
  obtain ⟨now', hframes⟩ :=
    frames_catchUp (h := mounting th flow callback h) now hpos hlongest rfl hcatch
  obtain ⟨last, hlast⟩ := settle_ticking th depthLimit b now' hplaying
  have htaken : played (mountStrides th flow callback offset h) = sought.timed last := by
    rw [hsought, ← hlast, ← hframes]
    exact runs_mount now _
  refine ⟨⟨last, htaken⟩, fun hapart => ?_⟩
  obtain ⟨rest, hrest, hnil⟩ := stridesFrom_eq hcatch
  have hstrides : strides h.scheduler.step offset =
    mountStrides th flow callback offset h ++ rest := hrest
  rw [hstrides]
  cases b with
  | false =>
    have hphase : sought.scheduler.phase = .running := by
      rw [hsought]
      simp only [settle, Scheduler.caughtUp, hplaying, if_true]
    rw [hnil rfl, List.append_nil]
    exact ⟨.inl hphase, last, htaken⟩
  | true =>
    have hphase : sought.scheduler.phase = .done := by
      rw [hsought]
      exact congrArg Scheduler.phase (finish_apart th depthLimit hmounted hapart)
    have hstopped :
        (played (mountStrides th flow callback offset h)).scheduler.phase ≠ .running := by
      rw [htaken]
      exact fun hrunning => nomatch hphase.symm.trans hrunning
    have hlater : played (mountStrides th flow callback offset h ++ rest) =
        played (mountStrides th flow callback offset h) := runs_mount_append rest hstopped
    rw [hlater]
    exact ⟨.inr hphase, last, htaken⟩

end Stagehand

namespace Show
open Stagehand

/-- The two ways to come to an offset in a flow agree: a mount that seeks there, and a mount at the
start with frames through the strides of the seek. Time, phase, stage and events are the same. That
is so of the strides the flow lasts for, whatever its callback does then; and, if the callback
leaves the scheduler alone, of all the strides up to the offset. -/
theorem seek_by_frames [Analytic Rat] {h : Director Rat} {source : Source Rat}
    {callback : Option (Callback (Source Rat) HostAct Rat)} {offset : Rat}
    (hpos : 0 < h.scheduler.step) (hlongest : h.scheduler.step ≤ h.scheduler.longest)
    (hoffset : 0 < offset)
    (hok : ∀ e, (replay theatre offset (build source h.world).1
      (mounting theatre source callback h)).1 ≠ .error (.flow e)) (now : Rat) :
    let sought := (run theatre (.mount source true offset callback) h).2
    let played (dts : List Rat) :=
      (runs theatre (.mount source true 0 callback :: (dts.scanl (· + ·) now).map .frame) h).2
    let Agrees (dts : List Rat) :=
      (played dts).scheduler.time = sought.scheduler.time ∧
        (played dts).scheduler.phase = sought.scheduler.phase ∧
        (played dts).world.stage = sought.world.stage ∧
        (played dts).world.events = sought.world.events
    Agrees (mountStrides theatre source callback offset h) ∧
      ((∀ c ∈ callback, c.IsApart) →
        (sought.scheduler.phase = .running ∨ sought.scheduler.phase = .done) ∧
          Agrees (strides h.scheduler.step offset)) := by
  intro sought played Agrees
  have hagrees {dts : List Rat} (hd : ∃ last, played dts = sought.timed last) : Agrees dts := by
    obtain ⟨last, hlast⟩ := hd
    simp only [Agrees, hlast]
    exact ⟨rfl, rfl, rfl, rfl⟩
  obtain ⟨htaken, hall⟩ := frames_replay hpos hlongest hoffset hok now
  exact ⟨hagrees htaken, fun hapart => ⟨(hall hapart).1, hagrees (hall hapart).2⟩⟩

/-- A title that is typed at the third of five strides, the last of which is clipped. -/
theorem seek_by_frames_lateTitle :
    let callback : Callback (Source Rat) HostAct Rat := .mk "over" [.act .resetStage]
    let h : Director Rat := opening (1 / 3) (1 / 2) titleStage
    let sought := (run theatre (.mount lateTitle true (3 / 2) (some callback)) h).2
    let played := (runs theatre (.mount lateTitle true 0 (some callback) ::
      ((strides (1 / 3) (3 / 2)).scanl (· + ·) 7).map .frame) h).2
    strides (1 / 3) (3 / 2) = [1 / 3, 1 / 3, 1 / 3, 1 / 3, (1 / 6 : Rat)] ∧
      sought.scheduler.phase = .done ∧ played.scheduler.phase = .done ∧
      played.world.events = sought.world.events := by
  intro callback h sought played
  have hapart : ∀ c ∈ some callback, c.IsApart := by
    intro c hc
    cases hc
    exact List.forall_mem_singleton.mpr ⟨.resetStage, rfl⟩
  have hok : ∀ e, (replay theatre (3 / 2) (build lateTitle h.world).1
      (mounting theatre lateTitle (some callback) h)).1 ≠ .error (.flow e) := by
    have hends : (replay theatre (3 / 2) (build lateTitle h.world).1
        (mounting theatre lateTitle (some callback) h)).1.isOk = true := by decide +kernel
    intro e he
    rw [he] at hends
    cases hends
  have hstrides : strides (1 / 3) (3 / 2) = [1 / 3, 1 / 3, 1 / 3, 1 / 3, (1 / 6 : Rat)] := by
    decide +kernel
  have hdone : sought.scheduler.phase = .done := by decide +kernel
  obtain ⟨-, -, hphase, -, hevents⟩ := (seek_by_frames (h := h) (by decide +kernel)
    (by decide +kernel) (by decide +kernel) hok 7).2 hapart
  exact ⟨hstrides, hdone, hphase.trans hdone, hevents⟩

end Show
end Choreo
