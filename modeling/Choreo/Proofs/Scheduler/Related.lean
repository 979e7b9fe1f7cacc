import Choreo.Scheduler.Basic
import Choreo.Proofs.Routine.Related

/-!
Schedulers in two worlds.

A scheduler does not look into the world it plays in: it only passes it to its theatre. So two
schedulers in the same state whose theatres answer alike in related worlds answer every command
alike, whatever callbacks the command leads to, and are in the same state afterwards:
`Stagehand.run_related`.
-/

namespace Choreo
variable {F A L α W W' ε β : Type}

/-- What a restart leaves as it is: the bounds on steps, what is mounted, and whether it plays. -/
structure Scheduler.Terms (F A α : Type) where
  step : α
  longest : α
  mounted : Option (F × Option (Callback F A α))
  playing : Bool

def Scheduler.terms (s : Scheduler F A L α) : Scheduler.Terms F A α :=
  { step := s.step, longest := s.longest, mounted := s.mounted, playing := s.playing }

structure Theatre.Related (th : Theatre F A L α W ε) (th' : Theatre F A L α W' ε)
    (R : W → W' → Prop) : Prop where
  machine : th.machine.Related th'.machine R
  build : ∀ f w w', R w w' → Alike R (th.build f w) (th'.build f w')
  act : ∀ a w w', R w w' → Alike R (th.act a w) (th'.act a w')
  announce : ∀ tag p w w', R w w' → R (th.announce tag p w) (th'.announce tag p w')

namespace Stagehand

/-- Two schedulers in the same state, in related worlds. -/
structure Matched (R : W → W' → Prop) (h : Stagehand F A L α W) (h' : Stagehand F A L α W') :
    Prop where
  scheduler : h.scheduler = h'.scheduler
  world : R h.world h'.world

/-- Two ways to run callbacks that answer alike. -/
def CallersRelated (R : W → W' → Prop) (call : Caller F A L α W ε) (call' : Caller F A L α W' ε) :
    Prop :=
  ∀ c h h', Matched R h h' → Alike (Matched R) (call c h) (call' c h')

variable {R : W → W' → Prop} {th : Theatre F A L α W ε} {th' : Theatre F A L α W' ε}
  {call : Caller F A L α W ε} {call' : Caller F A L α W' ε}
  {h : Stagehand F A L α W} {h' : Stagehand F A L α W'}

theorem Matched.withScheduler (hm : Matched R h h') (s : Scheduler F A L α) :
    Matched R { h with scheduler := s } { h' with scheduler := s } :=
  ⟨rfl, hm.world⟩

theorem finish_related (hc : CallersRelated R call call') (hm : Matched R h h') :
    Alike (Matched R) (finish call h) (finish call' h') := by
  have hd := hm.withScheduler { h'.scheduler with phase := .done, task := none }
  simp only [finish, hm.scheduler]
  split
  · exact hc _ _ _ hd
  · exact ⟨rfl, hd⟩

/-- What comes after a replay: the end of the run, or its phase once it has caught up. -/
def settle (call : Caller F A L α W ε) : Turn F A L α W ε Bool → Turn F A L α W ε Unit
  | (.error f, h) => (.error f, h)
  | (.ok true, h) => finish call h
  | (.ok false, h) => (.ok (), { h with scheduler := h.scheduler.caughtUp })

theorem settle_related (hc : CallersRelated R call call') {a : Turn F A L α W ε Bool}
    {b : Turn F A L α W' ε Bool} (hab : Alike (Matched R) a b) :
    Alike (Matched R) (settle call a) (settle call' b) := by
  obtain ⟨r, u, u', rfl, rfl, hR⟩ := hab.exists_eq
  rcases r with e | _ | _
  · exact ⟨rfl, hR⟩
  · exact ⟨rfl, congrArg Scheduler.caughtUp hR.scheduler, hR.world⟩
  · exact finish_related hc hR

variable [Scalar α]

/-! ## The parts of a restart -/

/-- The scheduler at the start of a task. -/
def rewound (s : Scheduler F A L α) (t : Task L) : Scheduler F A L α :=
  { s with task := some t, last := none, time := Scalar.zero, phase := .seeking }

/-- Nothing of a scheduler but its terms outlives a rewind. -/
theorem rewound_congr {s s' : Scheduler F A L α} (hs : s.terms = s'.terms) (t : Task L) :
    rewound s t = rewound s' t := by
  simp only [Scheduler.terms, Scheduler.Terms.mk.injEq] at hs
  obtain ⟨hstep, hlongest, hmounted, hplaying⟩ := hs
  simp only [rewound, hstep, hlongest, hmounted, hplaying]

/-- Replays a task from its start up to an offset. Reports whether it was done on the way. -/
def replay (th : Theatre F A L α W ε) (offset : α) (t : Task L) (h : Stagehand F A L α W) :
    Turn F A L α W ε Bool :=
  if Scalar.zero < offset then catchUp th offset (catchUpLimit h.scheduler.step offset) t h
  else (.ok false, h)

theorem restart_eq (th : Theatre F A L α W ε) (call : Caller F A L α W ε) (f : F) (offset : α)
    (h : Stagehand F A L α W) :
    restart th call f offset h =
      settle call (replay th offset (th.build f h.world).1
        { scheduler := rewound h.scheduler (th.build f h.world).1
          world := (th.build f h.world).2 }) := by
  unfold restart replay settle
  rfl

/-! ## Commands -/

theorem stepTask_related (ht : th.Related th' R) (dt : α) (t : Task L) (hm : Matched R h h') :
    Alike (Matched R) (stepTask th dt t h) (stepTask th' dt t h') := by
  obtain ⟨r, u, u', hu, hu', hw⟩ := (Task.next_related ht.machine (some dt) t hm.world).exists_eq
  simp only [stepTask, hu, hu', hm.scheduler]
  exact ⟨rfl, rfl, hw⟩

theorem catchUp_related (ht : th.Related th' R) (offset : α) (limit : Nat) (t : Task L)
    (hm : Matched R h h') :
    Alike (Matched R) (catchUp th offset limit t h) (catchUp th' offset limit t h') := by
  induction limit generalizing t h h' with
  | zero => exact ⟨rfl, hm⟩
  | succ limit ih =>
    unfold catchUp
    rw [hm.scheduler]
    split
    · obtain ⟨r, u, u', hu, hu', hR⟩ := (stepTask_related ht
        (Scalar.smaller h'.scheduler.step (offset - h'.scheduler.time)) t hm).exists_eq
      simp only [hu, hu']
      rcases r with e | _ | _
      · exact ⟨rfl, hR⟩
      · simp only [hR.scheduler]
        split
        · exact ih _ hR
        · exact ⟨rfl, hR⟩
      · exact ⟨rfl, hR⟩
    · exact ⟨rfl, hm⟩

theorem replay_related (ht : th.Related th' R) (offset : α) (t : Task L) (hm : Matched R h h') :
    Alike (Matched R) (replay th offset t h) (replay th' offset t h') := by
  unfold replay
  rw [hm.scheduler]
  split
  · exact catchUp_related ht _ _ t hm
  · exact ⟨rfl, hm⟩

/-- A restart needs no more than the same terms, and worlds that are related once the flow is
built. -/
theorem restart_related (ht : th.Related th' R) (hc : CallersRelated R call call') {f : F}
    (offset : α) (hs : h.scheduler.terms = h'.scheduler.terms)
    (hb : Alike R (th.build f h.world) (th'.build f h'.world)) :
    Alike (Matched R) (restart th call f offset h) (restart th' call' f offset h') := by
  obtain ⟨t, w, w', hw, hw', hR⟩ := hb.exists_eq
  rw [restart_eq, restart_eq, hw, hw', rewound_congr hs]
  exact settle_related hc (replay_related ht offset t ⟨rfl, hR⟩)

theorem frame_related (ht : th.Related th' R) (hc : CallersRelated R call call') (now : α)
    (hm : Matched R h h') :
    Alike (Matched R) (frame th call now h) (frame th' call' now h') := by
  unfold frame
  simp only [hm.scheduler]
  split
  · exact ⟨rfl, hm⟩
  · split
    · exact ⟨rfl, rfl, hm.world⟩
    · exact ⟨rfl, hm⟩
    · next last t _ _ =>
      obtain ⟨r, u, u', hu, hu', hR⟩ := (stepTask_related ht
        (Scalar.smaller (Scalar.larger (now - last) Scalar.zero) h'.scheduler.longest) t
        (hm.withScheduler { h'.scheduler with last := some now })).exists_eq
      simp only [hu, hu']
      rcases r with e | _ | _
      · exact ⟨rfl, hR⟩
      · exact ⟨rfl, hR⟩
      · obtain ⟨r, v, v', hv, hv', hR⟩ := (finish_related hc hR).exists_eq
        simp only [hv, hv']
        cases r with
        | error e => exact ⟨rfl, hR⟩
        | ok x =>
          simp only [hR.scheduler]
          exact ⟨rfl, hR⟩

theorem frames_related (ht : th.Related th' R) (hc : CallersRelated R call call') (times : List α)
    (hm : Matched R h h') :
    Alike (Matched R) (frames th call times h) (frames th' call' times h') := by
  induction times generalizing h h' with
  | nil => exact ⟨rfl, hm⟩
  | cons now rest ih =>
    obtain ⟨r, u, u', hu, hu', hR⟩ := (frame_related ht hc now hm).exists_eq
    simp only [frames, hu, hu']
    cases r with
    | error e => exact ⟨rfl, hR⟩
    | ok more =>
      obtain ⟨r, v, v', hv, hv', hR⟩ := (ih hR).exists_eq
      simp only [hv, hv']
      exact ⟨rfl, hR⟩

theorem perform_related (ht : th.Related th' R) (hc : CallersRelated R call call')
    (c : Command F A α) (hm : Matched R h h') :
    Alike (Matched R) (perform th call c h) (perform th' call' c h') := by
  cases c with
  | mount f playing offset callback =>
    have hs := hm.withScheduler
      { h'.scheduler.unmount with mounted := some (f, callback), playing := playing }
    obtain ⟨r, u, u', hu, hu', hR⟩ :=
      (restart_related ht hc offset rfl (ht.build f _ _ hs.world)).exists_eq
    simp only [perform, hm.scheduler, hu, hu']
    exact ⟨rfl, hR⟩
  | seek offset =>
    simp only [perform, hm.scheduler]
    split
    · exact ⟨rfl, hm⟩
    · next f _ _ =>
      obtain ⟨r, u, u', hu, hu', hR⟩ := (restart_related ht hc offset
        (congrArg Scheduler.terms hm.scheduler) (ht.build f _ _ hm.world)).exists_eq
      simp only [hu, hu']
      exact ⟨rfl, hR⟩
  | frame now =>
    obtain ⟨r, u, u', hu, hu', hR⟩ := (frame_related ht hc now hm).exists_eq
    simp only [perform, hu, hu']
    exact ⟨rfl, hR⟩
  | frames times =>
    obtain ⟨r, u, u', hu, hu', hR⟩ := (frames_related ht hc times hm).exists_eq
    simp only [perform, hu, hu']
    exact ⟨rfl, hR⟩
  | pause => exact ⟨rfl, congrArg Scheduler.pause hm.scheduler, hm.world⟩
  | play => exact ⟨rfl, congrArg Scheduler.play hm.scheduler, hm.world⟩
  | unmount => exact ⟨rfl, congrArg Scheduler.unmount hm.scheduler, hm.world⟩
  | act a =>
    obtain ⟨r, u, u', hu, hu', hR⟩ := (ht.act a _ _ hm.world).exists_eq
    simp only [perform, hu, hu']
    exact ⟨rfl, hm.scheduler, hR⟩

theorem performAll_related (ht : th.Related th' R) (hc : CallersRelated R call call')
    (cs : List (Command F A α)) (hm : Matched R h h') :
    Alike (Matched R) (performAll th call cs h) (performAll th' call' cs h') := by
  induction cs generalizing h h' with
  | nil => exact ⟨rfl, hm⟩
  | cons c cs ih =>
    obtain ⟨r, u, u', hu, hu', hR⟩ := (perform_related ht hc c hm).exists_eq
    simp only [performAll, hu, hu']
    cases r with
    | error e => exact ⟨rfl, hR⟩
    | ok x => exact ih hR

/-- The induction is on how deep callbacks may lead to one another. -/
theorem callBack_related (ht : th.Related th' R) (depth : Nat) :
    CallersRelated R (callBack th depth) (callBack th' depth) := by
  induction depth with
  | zero => exact fun _ _ _ hm => ⟨rfl, hm⟩
  | succ depth ih =>
    intro c h h' hm
    obtain ⟨tag, commands⟩ := c
    refine performAll_related ht ih commands ⟨hm.scheduler, ?_⟩
    rw [hm.scheduler]
    exact ht.announce _ _ _ _ hm.world

theorem run_related (ht : th.Related th' R) (c : Command F A α) (hm : Matched R h h') :
    Alike (Matched R) (run th c h) (run th' c h') :=
  perform_related ht (callBack_related ht depthLimit) c hm

end Stagehand
end Choreo
