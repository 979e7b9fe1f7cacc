import Choreo.Proofs.Flow.Pace
import Choreo.Proofs.Scheduler.Strides

/-!
Seeking, and playing at any pace.

A seek takes a flow to its offset in steps of one size, a clock in whatever steps its frames come
in. If these are the strides of the seek, the two agree in everything (`Show.seek_by_frames`). At
another pace a chain may lose time where the seek loses none, and what its tweens report differs
(`Show.pace_matters`). Where the parts of chains end at the same times all the same, each tween has
reported the same progress last (`Show.progress_at_any_pace`).
-/

namespace Choreo
variable {F A L W V ε : Type}

namespace Stagehand
variable {th : Theatre F A L Rat W ε} {h : Stagehand F A L Rat W} {t : Task L}

/-! ## The seek -/

/-- A replay over whole steps gives the task these steps, as long as it is not done. -/
theorem catchUp_through {offset : Rat} {limit n : Nat} (hslack : Scheduler.slack < h.scheduler.step)
    (hoffset : offset = h.scheduler.time + n * h.scheduler.step) (hlimit : n < limit) :
    let ran := t.through th.machine (List.replicate n (some h.scheduler.step)) h.world
    (catchUp th offset limit t h).1 = (ran.1.map fun f => f.steps?.isSome).mapError .flow ∧
      (catchUp th offset limit t h).2.world = ran.2 := by
  induction n generalizing limit t h with
  | zero =>
    obtain ⟨limit, rfl⟩ := Nat.exists_eq_succ_of_ne_zero (by omega : limit ≠ 0)
    have htime : ¬h.scheduler.time < offset - Scheduler.slack := by
      rw [hoffset, Nat.cast_zero, zero_mul]
      linarith [slack_pos]
    unfold catchUp
    rw [if_neg htime]
    exact ⟨rfl, rfl⟩
  | succ n ih =>
    obtain ⟨limit, rfl⟩ := Nat.exists_eq_succ_of_ne_zero (by omega : limit ≠ 0)
    have hleft : offset - h.scheduler.time = n * h.scheduler.step + h.scheduler.step := by
      rw [hoffset, Nat.cast_succ, add_mul, one_mul, add_sub_cancel_left]
    have hrest : 0 ≤ n * h.scheduler.step :=
      mul_nonneg (Nat.cast_nonneg n) (slack_pos.trans hslack).le
    have htime : h.scheduler.time < offset - Scheduler.slack := by linarith
    have hdt : Scalar.smaller h.scheduler.step (offset - h.scheduler.time) = h.scheduler.step := by
      rw [Scalar.smaller_rat, hleft, min_eq_left (le_add_of_nonneg_left hrest)]
    unfold catchUp
    simp only [if_pos htime, hdt, List.replicate_succ]
    rcases hn : t.next th.machine (some h.scheduler.step) h.world with ⟨⟨r, t'⟩, w⟩
    rw [stepTask_of_next hn]
    rcases r with e | _ | _
    · rw [Task.through_of_error hn]
      exact ⟨rfl, rfl⟩
    · have hoffset' : offset = h.scheduler.time + h.scheduler.step + n * h.scheduler.step := by
        linarith
      obtain ⟨hanswer, hworld⟩ :=
        ih (h := h.stepped h.scheduler.step t' w) (t := t') hslack hoffset' (by omega : n < limit)
      rw [Task.through_of_paused hn]
      refine ⟨hanswer.trans ?_, hworld⟩
      simp only [stepped]
      cases (t'.through th.machine (List.replicate n (some h.scheduler.step)) w).1 with
      | error e => rfl
      | ok f => cases f <;> rfl
    · rw [Task.through_of_done hn]
      exact ⟨rfl, rfl⟩

/-! ## Callbacks that are not noticed -/

/-- An observation that notices no act of the host, and no end of a run. -/
structure Overlooks (th : Theatre F A L Rat W ε) (see : W → V) : Prop where
  act : ∀ a w, see (th.act a w).2 = see w
  announce : ∀ tag p w, see (th.announce tag p w) = see w

variable {see : W → V} {flow : F} {callback : Option (Callback F A Rat)}

theorem see_performAll_apart (hsee : Overlooks th see) (call : Caller F A L Rat W ε)
    {cs : List (Command F A Rat)} (hc : ∀ c ∈ cs, ∃ a, c = .act a) (h : Stagehand F A L Rat W) :
    see (performAll th call cs h).2.world = see h.world := by
  induction cs generalizing h with
  | nil => rfl
  | cons c cs ih =>
    obtain ⟨a, rfl⟩ := hc c List.mem_cons_self
    have hact : see (perform th call (.act a) h).2.world = see h.world := hsee.act a h.world
    unfold performAll
    generalize perform th call (.act a) h = turn at hact ⊢
    obtain ⟨r, u⟩ := turn
    cases r with
    | error f => exact hact
    | ok x => exact (ih (fun d hd => hc d (List.mem_cons_of_mem _ hd)) u).trans hact

theorem see_finish_apart (hsee : Overlooks th see) (depth : Nat)
    (hm : h.scheduler.mounted = some (flow, callback)) (hc : ∀ c ∈ callback, c.IsApart) :
    see (finish (callBack th depth) h).2.world = see h.world := by
  rw [finish_eq, hm]
  rcases callback with _ | ⟨tag, commands⟩
  · rfl
  · cases depth with
    | zero => rfl
    | succ depth =>
      exact (see_performAll_apart hsee _ (hc _ rfl) _).trans (hsee.announce tag _ _)

/-- What is seen after a seek to a number of steps is what is seen of the task after these steps. -/
theorem see_mount (hsee : Overlooks th see) (hslack : Scheduler.slack < h.scheduler.step)
    {n : Nat} (hn : 0 < n) (hc : ∀ c ∈ callback, c.IsApart) :
    see (run th (.mount flow true (n * h.scheduler.step) callback) h).2.world =
      see ((th.build flow h.world).1.through th.machine
        (List.replicate n (some h.scheduler.step)) (th.build flow h.world).2).2 := by
  have hpos : 0 < h.scheduler.step := slack_pos.trans hslack
  have hoffset : 0 < n * h.scheduler.step := mul_pos (Nat.cast_pos.mpr hn) hpos
  obtain ⟨m, hlimit, hle⟩ := catchUpLimit_spec hpos hoffset.le
  have hnm : n ≤ m := by exact_mod_cast le_of_mul_le_mul_right hle hpos
  have hterms := replay_terms th (n * h.scheduler.step) (th.build flow h.world).1
    (mounting th flow callback h)
  have hworld : (catchUp th (n * h.scheduler.step) (m + 1) (th.build flow h.world).1
      (mounting th flow callback h)).2.world = ((th.build flow h.world).1.through th.machine
        (List.replicate n (some h.scheduler.step)) (th.build flow h.world).2).2 :=
    (catchUp_through (h := mounting th flow callback h) hslack (zero_add _).symm
      (by omega : n < m + 1)).2
  have hreplay : replay th (n * h.scheduler.step) (th.build flow h.world).1
      (mounting th flow callback h) =
        catchUp th (n * h.scheduler.step) (m + 1) (th.build flow h.world).1
          (mounting th flow callback h) := by
    rw [← hlimit]
    exact if_pos hoffset
  rw [hreplay] at hterms
  rw [run_mount, hreplay, ← hworld]
  generalize catchUp th (n * h.scheduler.step) (m + 1) (th.build flow h.world).1
    (mounting th flow callback h) = turn at hterms ⊢
  obtain ⟨r, u⟩ := turn
  rcases r with f | _ | _
  · rfl
  · rfl
  · exact see_finish_apart hsee depthLimit (congrArg Scheduler.Terms.mounted hterms) hc

/-! ## The frames -/

/-- What is seen after frames is what is seen of the task after the steps between them. -/
theorem see_frames (hsee : Overlooks th see) (hm : h.scheduler.mounted = some (flow, callback))
    (hc : ∀ c ∈ callback, c.IsApart) (ht : h.scheduler.task = some t) {dts : List Rat}
    (hdts : ∀ dt ∈ dts, 0 ≤ dt ∧ dt ≤ h.scheduler.longest) (now : Rat)
    (hok : ∀ e, (t.through th.machine (dts.map some) h.world).1 ≠ .error e) :
    see (runs th ((dts.scanl (· + ·) now).tail.map .frame) (h.ticking now)).2.world =
      see (t.through th.machine (dts.map some) h.world).2 := by
  induction dts generalizing t h now with
  | nil => simp [runs, ticking, Task.through]
  | cons dt dts ih =>
    obtain ⟨hnonneg, hlongest⟩ := hdts dt List.mem_cons_self
    have hframe := frame_ticking th (callBack th depthLimit) now hnonneg hlongest ht
    rw [List.map_cons] at hok ⊢
    rw [scanl_cons_tail, List.map_cons, runs_frame, hframe]
    rcases hn : t.next th.machine (some dt) h.world with ⟨⟨r, t'⟩, w⟩
    rw [stepTask_of_next hn]
    rcases r with e | _ | _
    · exact absurd (congrArg Prod.fst (Task.through_of_error hn (dts.map some))) (hok e)
    · rw [Task.through_of_paused hn] at hok ⊢
      exact ih (h := h.stepped dt t' w) hm rfl (fun x hx => hdts x (List.mem_cons_of_mem dt hx))
        (now + dt) fun e he => hok e (congrArg (Except.map (Fate.after 1)) he)
    · -- The run is over, and the frames that are left find nothing to play.
      have hover : (settleFrame (callBack th depthLimit)
          (.ok true, (h.stepped dt t' w).ticking (now + dt))).2.scheduler.phase ≠ .running := by
        rw [settleFrame_snd, finish_apart th depthLimit
          (h := (h.stepped dt t' w).ticking (now + dt)) hm hc]
        intro hrunning
        cases hrunning
      rw [Task.through_of_done hn]
      simp only [Except.mapError]
      rw [runs_frames_of_ne_running hover, settleFrame_snd,
        see_finish_apart hsee depthLimit (h := (h.stepped dt t' w).ticking (now + dt)) hm hc]
      rfl

end Stagehand

/-! ## What one sees of a tween -/

theorem World.resetTarget_suppressed {α C : Type} (w : World α C) (i : Handle) :
    (w.resetTarget i).suppressed = w.suppressed := by
  unfold resetTarget
  split
  · rfl
  · simp only
    split
    · rfl
    · unfold emit
      split <;> rfl

theorem World.seen_resetStage {α C : Type} (tag : String) (w : World α C) :
    w.resetStage.seen tag = w.seen tag := by
  have hsuppressed : w.resetStage.suppressed = w.suppressed := by
    unfold resetStage
    generalize w.stage.names = names
    induction names generalizing w with
    | nil => rfl
    | cons name names ih => rw [List.foldl_cons, ih, resetTarget_suppressed]
  have hprogress : w.resetStage.progress? tag = w.progress? tag := by
    obtain ⟨news, hlog, hnews⟩ := w.resetStage_log
    have hnone : news.findSome? (Event.progress? tag) = none := by
      rw [List.findSome?_eq_none_iff]
      intro e he
      obtain ⟨target, text, rfl⟩ := hnews e he
      rfl
    rw [progress?, hlog, List.findSome?_append, hnone, Option.none_or]
    rfl
  exact Prod.ext hsuppressed hprogress

namespace Show
open Stagehand (Overlooks run runs see_mount see_frames runs_mount)

theorem seen_overlooks [Analytic Rat] (tag : String) :
    Overlooks theatre (World.seen (α := Rat) (C := Crew Rat) tag) where
  act a w := by
    cases a with
    | resetStage => exact w.seen_resetStage tag
    | fail message => rfl
  announce _ _ w := World.seen_report rfl w

/-! ## The law -/

/-- A seek and frames at any pace, over the same number of steps of the seek, leave each tween of a
linear flow with the same last progress, if in its chains the parts that others follow end at the
same times. -/
theorem progress_at_any_pace [Analytic Rat] {h : Director Rat} {source : Source Rat}
    {callback : Option (Callback (Source Rat) HostAct Rat)} {n : Nat} {dts : List Rat}
    (hflow : source.flow.Linear) (htags : source.flow.tags.Nodup)
    (hslack : Scheduler.slack < h.scheduler.step) (hn : 0 < n)
    (hdts : ∀ dt ∈ dts, 0 ≤ dt ∧ dt ≤ h.scheduler.longest) (hlast : dts.getLast? ≠ some 0)
    (hsum : dts.sum = n * h.scheduler.step)
    (hends : source.flow.SameEnds (build source h.world).2 (List.replicate n h.scheduler.step) dts)
    (hapart : ∀ c ∈ callback, c.IsApart) (now : Rat) (tag : String) :
    let sought := (run theatre (.mount source true (n * h.scheduler.step) callback) h).2
    let played :=
      (runs theatre (.mount source true 0 callback :: (dts.scanl (· + ·) now).map .frame) h).2
    played.world.progress? tag = sought.world.progress? tag := by
  intro sought played
  have hpos : 0 < h.scheduler.step := Stagehand.slack_pos.trans hslack
  have htime : SameTime (List.replicate n h.scheduler.step) dts := by
    have hsteps (dt : Rat) (hdt : dt ∈ List.replicate n h.scheduler.step) : dt = h.scheduler.step :=
      List.eq_of_mem_replicate hdt
    refine ⟨⟨fun dt hdt => ?_, fun hzero => ?_⟩, ⟨fun dt hdt => (hdts dt hdt).1, hlast⟩, ?_⟩
    · rw [hsteps dt hdt]
      exact hpos.le
    · exact hpos.ne (hsteps 0 (List.mem_of_getLast? hzero))
    · rw [List.sum_replicate, nsmul_eq_mul, hsum]
  have hne : List.replicate n h.scheduler.step ≠ [] := by
    rw [ne_eq, List.replicate_eq_nil_iff]
    exact hn.ne'
  have hne' : dts ≠ [] := fun hnil => hne (htime.eq_nil_iff.mpr hnil)
  have hsought : sought.world.seen tag =
      (source.flow.course (List.replicate n h.scheduler.step)
        (build source h.world).2).2.seen tag := by
    rw [← Flow.through_eq_course source.flow hne, List.map_replicate]
    exact see_mount (seen_overlooks tag) hslack hn hapart
  have hplayed : played.world.seen tag =
      (source.flow.course dts (build source h.world).2).2.seen tag := by
    obtain ⟨f, hf⟩ := (Flow.watched_of_linear hflow tag).independent.through_eq (dts.map some)
    have hok : ∀ e, ((Task.fresh source.flow.toRoutine).through Leaf.machine (dts.map some)
        (build source h.world).2).1 ≠ .error e := by
      intro e he
      rw [hf] at he
      cases he
    rw [← Flow.through_eq_course source.flow hne']
    have hmount : played.world.seen tag = _ :=
      congrArg (fun u : Director Rat => u.world.seen tag) (runs_mount now dts)
    exact hmount.trans (see_frames (h := Stagehand.mounting theatre source callback h)
      (seen_overlooks tag) rfl hapart rfl hdts now hok)
  have hsame : (source.flow.course (List.replicate n h.scheduler.step)
      (build source h.world).2).2.seen tag =
        (source.flow.course dts (build source h.world).2).2.seen tag :=
    Flow.looksSame source.flow hflow htags _ _ _ _ htime hends rfl
  have hseen : played.world.seen tag = sought.world.seen tag :=
    hplayed.trans (hsame.symm.trans hsought.symm)
  exact congrArg Prod.snd hseen

/-- Frames of five lengths, which meet the end of the first part after two as the seek does. -/
theorem progress_at_any_pace_twoParts :
    let flow : Flow Rat :=
      .chain [.all [.act (.line "a" 1), .act (.wait (1 / 2))], .act (.line "b" 2)]
    let h : Director Rat := opening (1 / 2) 1 titleStage
    let sought := (run theatre (.mount ⟨flow, true⟩ true ((4 : Nat) * (1 / 2)) none) h).2
    let played := (runs theatre (.mount ⟨flow, true⟩ true 0 none ::
      ([3 / 4, 1 / 4, 1 / 2, 1 / 3, 1 / 6].scanl (· + ·) 7).map .frame) h).2
    played.world.progress? "b" = sought.world.progress? "b" ∧
      sought.world.progress? "b" = some (1 / 2) := by
  intro flow h sought played
  have hflow : flow.Linear := ⟨⟨rfl, trivial, trivial⟩, rfl, trivial⟩
  have hends : flow.SameEnds (build ⟨flow, true⟩ h.world).2 (List.replicate 4 (1 / 2))
      [3 / 4, 1 / 4, 1 / 2, 1 / 3, 1 / 6] := by
    refine ⟨⟨trivial, trivial, trivial⟩, fun _ => .inr
      ⟨2, 2, ?_, ?_, ?_, trivial, fun hne => absurd rfl hne⟩⟩
    · decide +kernel
    · decide +kernel
    · decide +kernel
  have hapart : ∀ c ∈ (none : Option (Callback (Source Rat) HostAct Rat)), c.IsApart := by
    intro c hc
    cases hc
  refine ⟨progress_at_any_pace (h := h) (n := 4) hflow (by decide) (by decide +kernel) (by decide)
    (by decide +kernel) (by decide +kernel) (by decide +kernel) hends hapart 7 "b", ?_⟩
  decide +kernel

/-- The last progress is not the same at every pace. Within a step of the seek a wait is over, and
frames go on to the tween sooner; a last frame in which no time passes takes the first step of a
group; and a seek in steps no longer than its slack stops before its offset. -/
theorem pace_matters :
    let sought (step offset : Rat) (f : Flow Rat) :=
      (run theatre (.mount ⟨f, true⟩ true offset none)
        (opening step 1 titleStage)).2.world.progress? "x"
    let played (step : Rat) (dts : List Rat) (f : Flow Rat) :=
      (runs theatre (.mount ⟨f, true⟩ true 0 none :: (dts.scanl (· + ·) 0).map .frame)
        (opening step 1 titleStage)).2.world.progress? "x"
    let late : Flow Rat := .chain [.act (.wait (1 / 2)), .act (.line "x" 2)]
    let grouped : Flow Rat := .chain [.act (.wait 1), .all [.act (.line "x" 0)]]
    let plain : Flow Rat := .act (.line "x" 1)
    (late.Linear ∧ sought 1 2 late = some (1 / 2) ∧
        played 1 [1 / 2, 1 / 2, 1 / 2, 1 / 2] late = some (3 / 4)) ∧
      (grouped.Linear ∧ sought 1 1 grouped = none ∧ played 1 [1, 0] grouped = some 1) ∧
      plain.Linear ∧ sought (1 / 1000000000) (2 / 1000000000) plain = some (1 / 1000000000) ∧
        played (1 / 1000000000) [2 / 1000000000] plain = some (2 / 1000000000) := by
  refine ⟨⟨⟨trivial, rfl, trivial⟩, ?_, ?_⟩, ⟨⟨trivial, ⟨rfl, trivial⟩, trivial⟩, ?_, ?_⟩,
    rfl, ?_, ?_⟩ <;> decide +kernel

end Show
end Choreo
