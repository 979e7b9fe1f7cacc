import Choreo.Proofs.Scheduler.Notes

/-!
What a scheduler can do, said once.

A call is made of a few moves: a run begins, a replay or a frame steps the task, a replay catches
up, the clock starts, a run ends, and the small changes of pausing, playing on and unmounting. A law
is a property of a scheduler and of what has happened so far, together with another that holds in
the middle of a replay, such that every move keeps them. What every move keeps, every call of a
civil host keeps, whatever its callbacks do in between: `Law.reaches`.
-/

namespace Choreo
variable {F A L α W ε : Type} [Scalar α]

namespace Stagehand

/-- `P` holds whenever a host has its turn, and `Q` in the middle of a replay. -/
structure Law (th : Theatre F A L α W ε)
    (P Q : List (Note F A α ε) → Stagehand F A L α W → Prop) : Prop where
  world : ∀ {ns h} (w : W), P ns h → P ns { h with world := w }
  unmount : ∀ {ns h}, P ns h →
    P (ns ++ [.unmounted]) { h with scheduler := h.scheduler.unmount }
  pause : ∀ {ns h}, P ns h → P ns { h with scheduler := h.scheduler.pause }
  play : ∀ {ns h}, P ns h → P ns { h with scheduler := h.scheduler.play }
  mount : ∀ {ns h} (flow : F) (callback : Option (Callback F A α)) (playing : Bool), P ns h →
    Q (ns ++ [.mounted callback])
      { scheduler := rewound
          { h.scheduler.unmount with mounted := some (flow, callback), playing := playing }
          (th.build flow h.world).1
        world := (th.build flow h.world).2 }
  seek : ∀ {ns h flow callback}, P ns h → h.scheduler.mounted = some (flow, callback) →
    Q (ns ++ [.sought])
      { scheduler := rewound h.scheduler (th.build flow h.world).1
        world := (th.build flow h.world).2 }
  replayed : ∀ {ns h t dt h'}, Q ns h → h.scheduler.task = some t →
    stepTask th dt t h = (.ok false, h') → Q (ns ++ [.replayed (.ok false)]) h'
  replayDone : ∀ {ns h t dt h'}, Q ns h → h.scheduler.task = some t →
    stepTask th dt t h = (.ok true, h') →
    P (ns ++ .replayed (.ok true) :: h'.ended.callNotes) h'.ended
  replayFailed : ∀ {ns h t dt f h'}, Q ns h → h.scheduler.task = some t →
    stepTask th dt t h = (.error f, h') → P (ns ++ [.replayed (.error f)]) h'
  endless : ∀ {ns h}, Q ns h → P (ns ++ [.endless]) h
  caughtUp : ∀ {ns h}, Q ns h → P ns { h with scheduler := h.scheduler.caughtUp }
  clock : ∀ {ns h} (now : α), P ns h → h.scheduler.phase = .running →
    P ns { h with scheduler := { h.scheduler with last := some now } }
  framed : ∀ {ns h t dt h'}, P ns h → h.scheduler.phase = .running → h.scheduler.task = some t →
    stepTask th dt t h = (.ok false, h') → P (ns ++ [.framed (.ok false)]) h'
  frameDone : ∀ {ns h t dt h'}, P ns h → h.scheduler.phase = .running →
    h.scheduler.task = some t → stepTask th dt t h = (.ok true, h') →
    P (ns ++ .framed (.ok true) :: h'.ended.callNotes) h'.ended
  frameFailed : ∀ {ns h t dt f h'}, P ns h → h.scheduler.phase = .running →
    h.scheduler.task = some t → stepTask th dt t h = (.error f, h') →
    P (ns ++ [.framed (.error f)]) h'

/-- Callbacks keep a property, run by a host. -/
def Keeps (k : Host F A L α W ε) (P : List (Note F A α ε) → Stagehand F A L α W → Prop) : Prop :=
  ∀ c ns h, P ns h → P (ns ++ k.notes c h) (k.call c h).2

variable {th : Theatre F A L α W ε} {k : Host F A L α W ε}
  {P Q : List (Note F A α ε) → Stagehand F A L α W → Prop}

theorem stepTask_task (th : Theatre F A L α W ε) (dt : α) (t : Task L) (h : Stagehand F A L α W) :
    (stepTask th dt t h).2.scheduler.task = some (t.next th.machine (some dt) h.world).1.2 := rfl

omit [Scalar α] in
theorem finish_eq (call : Caller F A L α W ε) (h : Stagehand F A L α W) :
    finish call h =
      match h.scheduler.mounted with
      | some (_, some callback) => call callback h.ended
      | _ => (.ok (), h.ended) := rfl

omit [Scalar α] in
/-- The end of a run keeps what holds once its callback is called. That the call is made when it is
noted, and only then, is a part of this: what the host does in it changes the notes and the
scheduler together. -/
theorem finish_keeps (hk : Keeps k P) {ns : List (Note F A α ε)} {h : Stagehand F A L α W}
    (hp : P (ns ++ h.ended.callNotes) h.ended) :
    P (ns ++ finishNotes k h) (finish k.call h).2 := by
  rw [finishNotes, ← List.append_assoc, finish_eq]
  rcases h.scheduler.mounted with _ | ⟨flow, _ | callback⟩
  · rw [List.append_nil]
    exact hp
  · rw [List.append_nil]
    exact hp
  · exact hk _ _ _ hp

/-- How a property and its companion go on after a step or a replay. -/
def Continues (P Q : List (Note F A α ε) → Stagehand F A L α W → Prop)
    (ns : List (Note F A α ε)) : Turn F A L α W ε Bool → Prop
  | (.ok false, h) => Q ns h
  | (.ok true, h) => P (ns ++ h.ended.callNotes) h.ended
  | (.error _, h) => P ns h

theorem Law.catchUp (hl : Law th P Q) (offset : α) (limit : Nat) {ns : List (Note F A α ε)}
    {t : Task L} {h : Stagehand F A L α W} (hq : Q ns h) (ht : h.scheduler.task = some t) :
    Continues P Q (ns ++ catchUpNotes th offset limit t h)
      (Stagehand.catchUp th offset limit t h) := by
  induction limit generalizing ns t h with
  | zero => exact hl.endless hq
  | succ limit ih =>
    unfold catchUpNotes Stagehand.catchUp
    by_cases htime : h.scheduler.time < offset - Scheduler.slack
    · simp only [if_pos htime]
      have htask := stepTask_task th
        (Scalar.smaller h.scheduler.step (offset - h.scheduler.time)) t h
      generalize hs : stepTask th (Scalar.smaller h.scheduler.step (offset - h.scheduler.time)) t h
        = turn at htask
      obtain ⟨r, h'⟩ := turn
      rcases r with f | _ | _
      · exact hl.replayFailed hq ht hs
      · simp only at htask
        simp only [htask]
        have hi := ih (hl.replayed hq ht hs) htask
        rwa [List.append_assoc] at hi
      · simp only [Continues, List.append_assoc, List.cons_append, List.nil_append]
        exact hl.replayDone hq ht hs
    · simp only [if_neg htime, List.append_nil]
      exact hq

theorem Law.replay (hl : Law th P Q) (offset : α) {ns : List (Note F A α ε)}
    {t : Task L} {h : Stagehand F A L α W} (hq : Q ns h) (ht : h.scheduler.task = some t) :
    Continues P Q (ns ++ replayNotes th offset t h) (Stagehand.replay th offset t h) := by
  unfold replayNotes Stagehand.replay
  split
  · exact hl.catchUp offset _ hq ht
  · rw [List.append_nil]
    exact hq

/-- A restart whose rewind was kept is kept. -/
theorem Law.restart (hl : Law th P Q) (hk : Keeps k P) {flow : F} (offset : α)
    {ns : List (Note F A α ε)} {h : Stagehand F A L α W}
    (hq : Q ns { scheduler := rewound h.scheduler (th.build flow h.world).1
                 world := (th.build flow h.world).2 }) :
    P (ns ++ restartNotes th k flow offset h) (Stagehand.restart th k.call flow offset h).2 := by
  have hr := hl.replay offset hq rfl
  rw [restart_eq, restartNotes, ← List.append_assoc]
  generalize Stagehand.replay th offset _ _ = turn at hr ⊢
  obtain ⟨r, h'⟩ := turn
  rcases r with f | _ | _
  · rw [settleNotes, List.append_nil]
    exact hr
  · rw [settleNotes, List.append_nil]
    exact hl.caughtUp hr
  · exact finish_keeps hk hr

/-! ## Frames -/

theorem frame_of_ne_running (call : Caller F A L α W ε) (now : α) {h : Stagehand F A L α W}
    (hp : h.scheduler.phase ≠ .running) : frame th call now h = (.ok false, h) :=
  if_pos hp

/-- The first frame starts the clock. -/
theorem frame_clock (call : Caller F A L α W ε) (now : α) {h : Stagehand F A L α W}
    (hp : h.scheduler.phase = .running) (hlast : h.scheduler.last = none) :
    frame th call now h =
      (.ok true, { h with scheduler := { h.scheduler with last := some now } }) := by
  obtain ⟨⟨step, longest, phase, time, mounted, task, last, playing⟩, w⟩ := h
  cases hp
  cases hlast
  rfl

theorem frame_of_no_task (call : Caller F A L α W ε) (now : α) {h : Stagehand F A L α W} {last : α}
    (hlast : h.scheduler.last = some last) (ht : h.scheduler.task = none) :
    frame th call now h = (.ok false, h) := by
  unfold frame
  simp only [hlast, ht, ite_self]

/-- Nothing happens in a frame that finds the clock not running. -/
theorem frameNotes_eq_nil (now : α) {h : Stagehand F A L α W}
    (hno : h.scheduler.phase ≠ .running ∨ h.scheduler.last = none ∨ h.scheduler.task = none) :
    frameNotes th k now h = [] := by
  unfold frameNotes
  rcases hno with hp | hlast | ht
  · rw [if_pos hp]
  · simp only [hlast, ite_self]
  · simp only [ht]
    cases h.scheduler.last <;> exact ite_self []

/-- What a frame answers to its step. -/
def settleFrame (call : Caller F A L α W ε) : Turn F A L α W ε Bool → Turn F A L α W ε Bool
  | (.error f, h) => (.error f, h)
  | (.ok false, h) => (.ok true, h)
  | (.ok true, h) =>
    match finish call h with
    | (.error f, h) => (.error f, h)
    | (.ok (), h) => (.ok h.scheduler.isActive, h)

omit [Scalar α] in
theorem settleFrame_snd (call : Caller F A L α W ε) (h : Stagehand F A L α W) :
    (settleFrame call (.ok true, h)).2 = (finish call h).2 := by
  simp only [settleFrame]
  generalize finish call h = turn
  obtain ⟨r, h'⟩ := turn
  cases r <;> rfl

/-- A frame steps the task if the clock runs. -/
theorem frame_step (call : Caller F A L α W ε) (now : α) {h : Stagehand F A L α W} {last : α}
    {t : Task L} (hp : h.scheduler.phase = .running) (hlast : h.scheduler.last = some last)
    (ht : h.scheduler.task = some t) :
    frame th call now h = settleFrame call (frameStep th now last t h) := by
  obtain ⟨⟨step, longest, phase, time, mounted, task, last, playing⟩, w⟩ := h
  cases hp
  cases hlast
  cases ht
  rfl

theorem frameNotes_step (now : α) {h : Stagehand F A L α W} {last : α}
    {t : Task L} (hp : h.scheduler.phase = .running) (hlast : h.scheduler.last = some last)
    (ht : h.scheduler.task = some t) :
    frameNotes th k now h =
      .framed (frameStep th now last t h).1 :: settleNotes k (frameStep th now last t h) := by
  obtain ⟨⟨step, longest, phase, time, mounted, task, last, playing⟩, w⟩ := h
  cases hp
  cases hlast
  cases ht
  rfl

theorem Law.frame (hl : Law th P Q) (hk : Keeps k P) (now : α) {ns : List (Note F A α ε)}
    {h : Stagehand F A L α W} (hp : P ns h) :
    P (ns ++ frameNotes th k now h) (Stagehand.frame th k.call now h).2 := by
  by_cases hphase : h.scheduler.phase = .running
  · cases hlast : h.scheduler.last with
    | none =>
      rw [frame_clock k.call now hphase hlast, frameNotes_eq_nil now (.inr (.inl hlast)),
        List.append_nil]
      exact hl.clock now hp hphase
    | some last =>
      cases ht : h.scheduler.task with
      | none =>
        rw [frame_of_no_task k.call now hlast ht, frameNotes_eq_nil now (.inr (.inr ht)),
          List.append_nil]
        exact hp
      | some t =>
        have hc := hl.clock now hp hphase
        rw [frame_step k.call now hphase hlast ht, frameNotes_step now hphase hlast ht]
        -- The clock moves first, so the step is taken with the new timestamp.
        generalize hs : frameStep th now last t h = turn
        obtain ⟨r, h'⟩ := turn
        rcases r with f | _ | _
        · exact hl.frameFailed hc hphase ht hs
        · exact hl.framed hc hphase ht hs
        · have hd := hl.frameDone hc hphase ht hs
          rw [List.append_cons] at hd ⊢
          rw [settleFrame_snd]
          exact finish_keeps hk hd
  · rw [frame_of_ne_running k.call now hphase, frameNotes_eq_nil now (.inl hphase),
      List.append_nil]
    exact hp

theorem Law.frames (hl : Law th P Q) (hk : Keeps k P) (times : List α) {ns : List (Note F A α ε)}
    {h : Stagehand F A L α W} (hp : P ns h) :
    P (ns ++ framesNotes th k times h) (Stagehand.frames th k.call times h).2 := by
  induction times generalizing ns h with
  | nil =>
    rw [framesNotes, List.append_nil]
    exact hp
  | cons now rest ih =>
    have hf := hl.frame hk now hp
    unfold framesNotes Stagehand.frames
    generalize Stagehand.frame th k.call now h = turn at hf ⊢
    obtain ⟨r, h'⟩ := turn
    cases r with
    | error f =>
      rw [List.append_nil]
      exact hf
    | ok more =>
      rw [← List.append_assoc]
      exact ih hf

/-- What every move keeps, a call keeps, if the callbacks it leads to keep it. -/
theorem Law.perform (hl : Law th P Q) (hk : Keeps k P) (c : Command F A α)
    {ns : List (Note F A α ε)} {h : Stagehand F A L α W} (hp : P ns h) :
    P (ns ++ performNotes th k c h) (Stagehand.perform th k.call c h).2 := by
  cases c with
  | mount flow playing offset callback =>
    simp only [performNotes]
    rw [List.append_cons]
    exact hl.restart hk offset (h := { h with scheduler :=
      { h.scheduler.unmount with mounted := some (flow, callback), playing := playing } })
      (hl.mount flow callback playing hp)
  | seek offset =>
    cases hm : h.scheduler.mounted with
    | none =>
      simp only [performNotes, Stagehand.perform, hm, List.append_nil]
      exact hp
    | some mounted =>
      obtain ⟨flow, callback⟩ := mounted
      simp only [performNotes, Stagehand.perform, hm]
      rw [List.append_cons]
      exact hl.restart hk offset (hl.seek hp hm)
  | frame now => exact hl.frame hk now hp
  | frames times => exact hl.frames hk times hp
  | unmount => exact hl.unmount hp
  | pause =>
    rw [performNotes, List.append_nil]
    exact hl.pause hp
  | play =>
    rw [performNotes, List.append_nil]
    exact hl.play hp
  | act a =>
    rw [performNotes, List.append_nil]
    exact hl.world _ hp

theorem Law.reaches_of_keeps (hl : Law th P Q) (hk : Keeps k P) {h₀ h : Stagehand F A L α W}
    {ns notes : List (Note F A α ε)} (hp : P ns h₀) (hr : Reaches th k h₀ notes h) :
    P (ns ++ notes) h := by
  induction hr with
  | refl =>
    rw [List.append_nil]
    exact hp
  | world w _ ih => exact hl.world w ih
  | perform c _ ih =>
    rw [← List.append_assoc]
    exact hl.perform hk c ih

/-- The callbacks of a civil host keep what every move keeps. The induction is on how deep they lead
to one another. -/
theorem Law.keeps (hl : Law th P Q) (hk : k.Civil th) : Keeps k P := by
  induction hk with
  | idle h =>
    intro c ns u hp
    obtain ⟨hnotes, hsame⟩ := h c u
    rw [hnotes, List.append_nil]
    generalize (Host.call _ c u).2 = u' at hsame
    obtain ⟨s, w⟩ := u'
    have hs : s = u.scheduler := hsame
    subst hs
    exact hl.world w hp
  | calls inner hi hr ih => exact fun c ns u hp => hl.reaches_of_keeps (ih c u) hp (hr c u)

/-- What every move keeps, every civil host keeps. -/
theorem Law.reaches (hl : Law th P Q) (hk : k.Civil th) {h₀ h : Stagehand F A L α W}
    {notes : List (Note F A α ε)} (hp : P [] h₀) (hr : Reaches th k h₀ notes h) : P notes h :=
  hl.reaches_of_keeps (hl.keeps hk) hp hr

end Stagehand
end Choreo
