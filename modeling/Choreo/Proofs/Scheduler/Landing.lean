import Mathlib.Algebra.Order.BigOperators.Group.List
import Mathlib.Algebra.Order.Floor.Semifield
import Mathlib.Data.Rat.Floor
import Choreo.Proofs.Scheduler.Ledger

/-!
How a replay lands.

A replay compares the time it has come to with a target a little before its offset, and clips the
last stride to what is left. In exact arithmetic it therefore ends, whatever the flow does, after no
more strides than steps fit into the offset, and it never steps past the offset
(`Stagehand.restart_lands`). It lands within a hair of the offset if the flow lasts. A flow that is
done on the way ends the run there, and one that fails leaves the scheduler seeking.
-/

namespace Choreo
variable {F A L W ε : Type}

/-! ## Strides -/

/-- Strides of one size, the last of which may be shorter, that do not leave a room. -/
structure Strode (step room : Rat) (dts : List Rat) : Prop where
  whole : ∀ dt ∈ dts.dropLast, dt = step
  bounds : ∀ dt ∈ dts, 0 < dt ∧ dt ≤ step
  sum_le : dts.sum ≤ room

namespace Strode
variable {step room dt : Rat} {dts : List Rat}

theorem nil (h : 0 ≤ room) : Strode step room [] := ⟨nofun, nofun, h⟩

theorem cons (h : Strode step (room - dt) dts) (hpos : 0 < dt) (hle : dt ≤ step)
    (hwhole : dts ≠ [] → dt = step) : Strode step room (dt :: dts) where
  whole d hd := by
    cases dts with
    | nil => cases hd
    | cons d' dts =>
      rcases List.mem_cons.mp hd with rfl | hd
      · exact hwhole (List.cons_ne_nil d' dts)
      · exact h.whole d hd
  bounds d hd := by
    rcases List.mem_cons.mp hd with rfl | hd
    · exact ⟨hpos, hle⟩
    · exact h.bounds d hd
  sum_le := by
    have hsum := h.sum_le
    rw [List.sum_cons]
    linarith

/-- Some first strides do not leave the room either. -/
theorem sum_take_le (h : Strode step room dts) (n : Nat) : (dts.take n).sum ≤ room := by
  have hrest : 0 ≤ (dts.drop n).sum :=
    List.sum_nonneg fun dt hdt => (h.bounds dt (List.mem_of_mem_drop hdt)).1.le
  have hsum := h.sum_le
  rw [← List.take_append_drop n dts, List.sum_append] at hsum
  linarith

/-- All strides but the last are whole, so there are no more of them than fit into the room. -/
theorem length_le (h : Strode step room dts) (hstep : 0 < step) :
    dts.length ≤ ⌈room / step⌉₊ := by
  rcases List.eq_nil_or_concat dts with rfl | ⟨init, last, rfl⟩
  · exact Nat.zero_le _
  · rw [List.concat_eq_append] at h ⊢
    have hinit : init.sum = init.length * step := by
      have hall : ∀ dt ∈ init, dt = step := by
        intro dt hdt
        exact h.whole dt (by rwa [List.dropLast_concat])
      rw [List.eq_replicate_of_mem hall, List.sum_replicate, List.length_replicate, nsmul_eq_mul]
    have hlast := (h.bounds last (List.mem_append_right init List.mem_cons_self)).1
    have hsum := h.sum_le
    rw [List.sum_append, List.sum_singleton, hinit] at hsum
    have hlt : (init.length : Rat) < room / step := by
      rw [lt_div_iff₀ hstep]
      linarith
    rw [List.length_append, List.length_singleton]
    exact Nat.lt_ceil.mpr hlt

end Strode

/-- Whether a task was done does not depend on when its steps are counted from. -/
theorem Fate.map_isSome_after (n : Nat) (r : Except ε (Fate L)) :
    (r.map (Fate.after n)).map (fun fate => fate.steps?.isSome) =
      r.map fun fate => fate.steps?.isSome := by
  rcases r with e | ⟨k⟩ | ⟨t⟩ <;> rfl

namespace Stagehand
variable {th : Theatre F A L Rat W ε} {offset : Rat} {n : Nat} {t : Task L}
  {h : Stagehand F A L Rat W}

/-! ## Replays -/

/-- How a replay of a task that takes some strides ends. -/
structure Lands (th : Theatre F A L Rat W ε) (offset : Rat) (t : Task L)
    (h : Stagehand F A L Rat W) (dts : List Rat) (turn : Turn F A L Rat W ε Bool) : Prop where
  strode : Strode h.scheduler.step (offset - h.scheduler.time) dts
  answer : turn.1 = ((t.through th.machine (dts.map some) h.world).1.map
    fun fate => fate.steps?.isSome).mapError .flow
  world : turn.2.world = (t.through th.machine (dts.map some) h.world).2
  time : turn.2.scheduler.time = h.scheduler.time + dts.sum
  left : ∀ t', (t.through th.machine (dts.map some) h.world).1 = .ok (.left t') →
    turn.2.scheduler = { h.scheduler with time := h.scheduler.time + dts.sum, task := some t' } ∧
      offset - Scheduler.slack ≤ turn.2.scheduler.time

/-- A replay that is as near as it has to be stays where it is. -/
theorem lands_near (htime : h.scheduler.time ≤ offset)
    (hnear : ¬h.scheduler.time < offset - Scheduler.slack) (ht : h.scheduler.task = some t) :
    Lands th offset t h [] (.ok false, h) where
  strode := .nil (sub_nonneg.mpr htime)
  answer := rfl
  world := rfl
  time := (add_zero _).symm
  left t' hleft := by
    cases hleft
    refine ⟨?_, not_lt.mp hnear⟩
    rw [List.sum_nil, add_zero, ← ht]

/-- A stride, and how the replay goes on from there. -/
theorem Lands.cons {dt : Rat} {t' : Task L} {w : W} {dts : List Rat}
    {turn : Turn F A L Rat W ε Bool} (hl : Lands th offset t' (h.stepped dt t' w) dts turn)
    (hpos : 0 < dt) (hle : dt ≤ h.scheduler.step) (hwhole : dts ≠ [] → dt = h.scheduler.step)
    (hn : t.next th.machine (some dt) h.world = ((.ok false, t'), w)) :
    Lands th offset t h (dt :: dts) turn := by
  have hthrough := Task.through_of_paused hn (dts.map some)
  have htime : turn.2.scheduler.time = h.scheduler.time + (dt :: dts).sum := by
    rw [hl.time, List.sum_cons, ← add_assoc]
    rfl
  refine ⟨?_, ?_, ?_, htime, fun u hu => ?_⟩
  · have hstrode : Strode h.scheduler.step (offset - (h.scheduler.time + dt)) dts := hl.strode
    rw [← sub_sub] at hstrode
    exact hstrode.cons hpos hle hwhole
  · rw [List.map_cons, hthrough, hl.answer]
    exact congrArg (Except.mapError SchedulerFault.flow) (Fate.map_isSome_after 1 _).symm
  · rw [List.map_cons, hthrough]
    exact hl.world
  · rw [List.map_cons, hthrough] at hu
    cases hran : (Task.through th.machine (dts.map some) t' w).1 with
    | error e =>
      rw [hran] at hu
      cases hu
    | ok fate =>
      rw [hran] at hu
      cases fate with
      | done k => cases hu
      | left u' =>
        cases hu
        obtain ⟨hscheduler, hnear⟩ := hl.left u hran
        refine ⟨?_, hnear⟩
        rw [hscheduler, List.sum_cons, ← add_assoc]
        rfl

/-- A stride with which the task is done or fails. -/
theorem lands_over {dt : Rat} {r : Except ε Bool} {t' : Task L} {w : W} (hpos : 0 < dt)
    (hle : dt ≤ h.scheduler.step) (hroom : dt ≤ offset - h.scheduler.time)
    (hn : t.next th.machine (some dt) h.world = ((r, t'), w)) (hr : r ≠ .ok false) :
    Lands th offset t h [dt] (r.mapError .flow, h.stepped dt t' w) := by
  have hstrode : Strode h.scheduler.step (offset - h.scheduler.time) [dt] :=
    (Strode.nil (sub_nonneg.mpr hroom)).cons hpos hle fun h => absurd rfl h
  have htime : h.scheduler.time + dt = h.scheduler.time + [dt].sum := by rw [List.sum_singleton]
  have hran : t.through th.machine [some dt] h.world = (r.map fun _ => .done 1, w) := by
    rcases r with e | _ | _
    · exact Task.through_of_error hn []
    · exact absurd rfl hr
    · exact Task.through_of_done hn []
  refine ⟨hstrode, ?_, ?_, htime, fun u hu => ?_⟩
  · rw [List.map_singleton, hran]
    rcases r with e | _ | _
    · rfl
    · exact absurd rfl hr
    · rfl
  · rw [List.map_singleton, hran]
    rfl
  · rw [List.map_singleton, hran] at hu
    rcases r with e | done <;> cases hu

/-- A replay that is given one step more than it needs lands. -/
theorem catchUp_lands (hstep : 0 < h.scheduler.step) (htime : h.scheduler.time ≤ offset)
    (hn : offset - h.scheduler.time ≤ n * h.scheduler.step) (ht : h.scheduler.task = some t) :
    Lands th offset t h (stridesTaken th offset (n + 1) t h) (catchUp th offset (n + 1) t h) := by
  induction n generalizing t h with
  | zero =>
    have hnear : ¬h.scheduler.time < offset - Scheduler.slack := by
      rw [Nat.cast_zero, zero_mul] at hn
      linarith [slack_pos]
    unfold stridesTaken catchUp
    rw [if_neg hnear, if_neg hnear]
    exact lands_near htime hnear ht
  | succ n ih =>
    unfold stridesTaken catchUp
    by_cases hfar : h.scheduler.time < offset - Scheduler.slack
    · simp only [if_pos hfar, Scalar.smaller_rat]
      have hpos : 0 < min h.scheduler.step (offset - h.scheduler.time) :=
        lt_min hstep (by linarith [slack_pos])
      have hle := min_le_left h.scheduler.step (offset - h.scheduler.time)
      have hroom := min_le_right h.scheduler.step (offset - h.scheduler.time)
      have hwhole := min_choice h.scheduler.step (offset - h.scheduler.time)
      generalize min h.scheduler.step (offset - h.scheduler.time) = dt at hpos hle hroom hwhole ⊢
      rcases hnext : t.next th.machine (some dt) h.world with ⟨⟨r, t'⟩, w⟩
      rw [stepTask_of_next hnext]
      rcases r with e | _ | _
      · exact lands_over hpos hle hroom hnext (by rintro ⟨⟩)
      · -- A stride is a whole step, or all that is left; then nothing comes after it.
        have hrest : offset - (h.scheduler.time + dt) ≤ n * h.scheduler.step := by
          have hnonneg := mul_nonneg (Nat.cast_nonneg (α := Rat) n) hstep.le
          rw [Nat.cast_succ, add_mul, one_mul] at hn
          rcases hwhole with hwhole | hwhole <;> linarith
        have hl := ih (t := t') (h := h.stepped dt t' w) hstep (by
          have htime' : (h.stepped dt t' w).scheduler.time = h.scheduler.time + dt := rfl
          linarith) hrest rfl
        refine hl.cons hpos hle (fun hne => ?_) hnext
        rcases hwhole with hwhole | hwhole
        · exact hwhole
        · have hnear : ¬(h.stepped dt t' w).scheduler.time < offset - Scheduler.slack := by
            have htime' : (h.stepped dt t' w).scheduler.time = h.scheduler.time + dt := rfl
            linarith [slack_pos]
          exact absurd (if_neg hnear) hne
      · exact lands_over hpos hle hroom hnext (by rintro ⟨⟩)
    · rw [if_neg hfar, if_neg hfar]
      exact lands_near htime hfar ht

/-- The replay of a task from its start. An offset that is not after the start is there already. -/
theorem replay_lands (hstep : 0 < h.scheduler.step) (hstart : h.scheduler.time = 0)
    (ht : h.scheduler.task = some t) :
    Lands th (max offset 0) t h (replayStrides th offset t h) (replay th offset t h) := by
  unfold replayStrides replay
  by_cases hoffset : 0 < offset
  · obtain ⟨n, hlimit, hle⟩ := catchUpLimit_spec hstep hoffset.le
    rw [Scalar.zero_rat, if_pos hoffset, if_pos hoffset, max_eq_left hoffset.le, hlimit]
    exact catchUp_lands hstep (by rw [hstart]; exact hoffset.le) (by rwa [hstart, sub_zero]) ht
  · have hreach : max offset 0 = 0 := max_eq_right (not_lt.mp hoffset)
    rw [Scalar.zero_rat, if_neg hoffset, if_neg hoffset, hreach]
    exact lands_near hstart.le (by rw [hstart]; linarith [slack_pos]) ht

theorem settle_of_left {call : Caller F A L Rat W ε} {turn : Turn F A L Rat W ε Bool}
    (hturn : turn.1 = .ok false) :
    settle call turn =
      (.ok (), { scheduler := turn.2.scheduler.caughtUp, world := turn.2.world }) := by
  obtain ⟨r, u⟩ := turn
  cases hturn
  rfl

/-! ## Restarts -/

/-- A restart replays its flow in at most as many strides as steps fit into the offset, all whole
but the last, and steps the flow by nothing else. Its time never passes the offset, or the start,
where an offset before the start leaves it. If the flow is neither done on the way nor fails, the
restart comes within the slack of its offset, and then plays or waits as it is told. -/
theorem restart_lands (th : Theatre F A L Rat W ε) (call : Caller F A L Rat W ε) (flow : F)
    (offset : Rat) (hstep : 0 < h.scheduler.step) :
    let t := (th.build flow h.world).1
    let start : Stagehand F A L Rat W :=
      { scheduler := rewound h.scheduler t, world := (th.build flow h.world).2 }
    let dts := replayStrides th offset t start
    let ran := t.through th.machine (dts.map some) start.world
    let turn := replay th offset t start
    (restart th call flow offset h = settle call turn ∧
      turn.1 = (ran.1.map fun fate => fate.steps?.isSome).mapError .flow ∧
      turn.2.world = ran.2 ∧ turn.2.scheduler.time = dts.sum) ∧
    (dts.length ≤ ⌈offset / h.scheduler.step⌉₊ ∧ (offset ≤ 0 → dts = []) ∧
      (∀ dt ∈ dts.dropLast, dt = h.scheduler.step) ∧
      ∀ dt ∈ dts, 0 < dt ∧ dt ≤ h.scheduler.step) ∧
    (∀ n, (dts.take n).sum ≤ max offset 0) ∧
    ∀ t', ran.1 = .ok (.left t') →
      restart th call flow offset h =
        (.ok (), { scheduler := { start.scheduler with
                     time := dts.sum
                     task := some t'
                     phase := if h.scheduler.playing then .running else .paused }
                   world := ran.2 }) ∧
      (0 < offset → offset - Scheduler.slack ≤ dts.sum ∧ dts.sum ≤ offset) := by
  intro t start dts ran turn
  have hrestart : restart th call flow offset h = settle call turn :=
    restart_eq th call flow offset h
  have hzero : start.scheduler.time = 0 := rfl
  have hl : Lands th (max offset 0) t start dts turn := replay_lands hstep hzero rfl
  have htime : turn.2.scheduler.time = dts.sum := by rw [hl.time, hzero, zero_add]
  have hstrode : Strode h.scheduler.step (max offset 0) dts := by
    have hstrode := hl.strode
    rwa [hzero, sub_zero] at hstrode
  have hnone : offset ≤ 0 → dts = [] := fun hoffset => if_neg (not_lt.mpr hoffset)
  have hcount : dts.length ≤ ⌈offset / h.scheduler.step⌉₊ := by
    rcases lt_or_ge 0 offset with hoffset | hoffset
    · rw [← max_eq_left hoffset.le]
      exact hstrode.length_le hstep
    · rw [hnone hoffset]
      exact Nat.zero_le _
  refine ⟨⟨hrestart, hl.answer, hl.world, htime⟩,
    ⟨hcount, hnone, hstrode.whole, hstrode.bounds⟩, hstrode.sum_take_le, fun t' hleft => ?_⟩
  obtain ⟨hscheduler, hnear⟩ := hl.left t' hleft
  have hanswer : turn.1 = .ok false := by
    rw [hl.answer, hleft]
    rfl
  have hworld : turn.2.world = ran.2 := hl.world
  refine ⟨?_, fun hoffset => ?_⟩
  · rw [hrestart, settle_of_left hanswer, hscheduler, hworld, hzero, zero_add]
    rfl
  · rw [htime, max_eq_left hoffset.le] at hnear
    have hsum := hstrode.sum_le
    rw [max_eq_left hoffset.le] at hsum
    exact ⟨hnear, hsum⟩

end Stagehand

/-! ## Landing, and missing -/

namespace Show
open Stagehand

/-- A whole stride and a shorter one. -/
theorem restart_lands_lateTitle :
    let h := opening (1 / 2) 1 titleStage
    let source : Source Rat := lateTitle
    let start : Director Rat :=
      { scheduler := rewound h.scheduler (theatre.build source h.world).1
        world := (theatre.build source h.world).2 }
    let dts := replayStrides theatre (3 / 4) (theatre.build source h.world).1 start
    0 < h.scheduler.step ∧ dts = [1 / 2, 1 / 4] ∧
      dts.length ≤ ⌈(3 / 4 : Rat) / h.scheduler.step⌉₊ := by
  intro h source start dts
  have hstep : 0 < h.scheduler.step := by decide +kernel
  obtain ⟨-, ⟨hcount, -⟩, -⟩ :=
    restart_lands theatre (callBack theatre depthLimit) source (3 / 4) hstep
  exact ⟨hstep, by decide +kernel, hcount⟩

/-- A replay up to an offset before the start stays at the start, which is after it. One whose flow
fails stops there, and neither plays nor waits. -/
theorem mount_misses :
    let early := run theatre (.mount lateTitle true (-1) none) (opening 1 1 titleStage)
    let broken := run theatre (.mount brokenWait true 2 none) (opening 1 1 titleStage)
    ¬early.2.scheduler.time ≤ -1 ∧
      broken.2.scheduler.phase = .seeking ∧
      broken.2.scheduler.time < 2 - Scheduler.slack := by
  decide +kernel

end Show
end Choreo
