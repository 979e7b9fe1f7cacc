import Choreo.Proofs.Scheduler.Replay
import Choreo.Proofs.Scheduler.Sound

/-!
After a failure.

A flow that failed in a replay leaves the scheduler seeking, and no frame, pause or play changes
that. A flow that failed in a frame leaves a scheduler that plays on, with a task in which there is
nothing left to run. Such a task reports at its next step that it is done, and so the next frame
that finds the clock running ends the run as if the flow had come to its end: the phase says done,
and the callback is called. `Stagehand.Reaches.after_failure` says for every sequence of frames,
pauses and plays whether that comes to pass.
-/

namespace Choreo
variable {F A L α W ε : Type}

/-- A call that neither begins a run nor abandons one. -/
inductive Command.IsCalm : Command F A α → Prop where
  | frame (now : α) : IsCalm (.frame now)
  | pause : IsCalm .pause
  | play : IsCalm .play

/-- Whether a flow failed in a frame. -/
def Note.failedInFrame : Note F A α ε → Bool
  | .framed (.error _) => true
  | _ => false

theorem Note.exists_of_failedInFrame {n : Note F A α ε} (h : n.failedInFrame = true) :
    ∃ f, n = .framed (.error f) := by
  cases n with
  | framed answer =>
    cases answer with
    | error f => exact ⟨f, rfl⟩
    | ok b => cases h
  | mounted | sought | unmounted | replayed | endless | called => cases h

/-- Whether a scheduler plays, and whether its clock runs. -/
structure Beat where
  active : Bool
  clock : Bool

namespace Beat

/-- The first frame starts the clock, and playing on after a pause stops it. -/
def after (b : Beat) : Command F A α → Beat
  | .frame _ => { b with clock := b.clock || b.active }
  | .pause => { b with active := false }
  | .play => { active := true, clock := b.clock && b.active }
  | _ => b

/-- Whether a call steps the task. -/
def steps (b : Beat) : Command F A α → Bool
  | .frame _ => b.active && b.clock
  | _ => false

/-- Whether one of some calls steps the task, as long as the task is not done. -/
def stepsIn : Beat → List (Command F A α) → Bool
  | _, [] => false
  | b, c :: cs => b.steps c || (b.after c).stepsIn cs

end Beat

namespace Stagehand

def beat (h : Stagehand F A L α W) : Beat :=
  { active := h.scheduler.isActive, clock := h.scheduler.last.isSome }

variable [Scalar α] {th : Theatre F A L α W ε} {k : Host F A L α W ε}
  {h h₀ : Stagehand F A L α W} {notes : List (Note F A α ε)} {c : Command F A α}
  {later : List (Command F A α)}

theorem perform_frame (now : α) :
    (perform th k.call (.frame now) h).2 = (frame th k.call now h).2 := rfl

/-! ## Replays -/

/-- Nothing happens at a scheduler that was left seeking. -/
theorem seeking_calm (th : Theatre F A L α W ε) (k : Host F A L α W ε)
    (hp : h.scheduler.phase = .seeking) (hc : c.IsCalm) :
    performNotes th k c h = [] ∧ (perform th k.call c h).2.scheduler.phase = .seeking := by
  cases hc with
  | frame now =>
    have hne : h.scheduler.phase ≠ .running := fun hr => nomatch hp.symm.trans hr
    rw [perform_frame, frame_of_ne_running k.call now hne]
    exact ⟨frameNotes_eq_nil now (.inl hne), hp⟩
  | pause =>
    refine ⟨rfl, ?_⟩
    simp [perform, Scheduler.pause, hp]
  | play =>
    refine ⟨rfl, ?_⟩
    simp [perform, Scheduler.play, hp]

theorem seeking_calms (hp : h.scheduler.phase = .seeking) (hl : ∀ c ∈ later, c.IsCalm) :
    performsNotes th k later h = [] ∧
      (performs th k.call later h).scheduler.phase = .seeking := by
  induction later generalizing h with
  | nil => exact ⟨rfl, hp⟩
  | cons c later ih =>
    obtain ⟨hnotes, hp'⟩ := seeking_calm th k hp (hl c List.mem_cons_self)
    rw [performsNotes, hnotes]
    exact ih hp' fun d hd => hl d (List.mem_cons_of_mem c hd)

/-! ## Frames -/

/-- A scheduler that plays or is paused in a run whose flow has failed. -/
structure Crashed (h : Stagehand F A L α W) : Prop where
  phase : h.scheduler.phase = .running ∨ h.scheduler.phase = .paused
  task : h.scheduler.task = some .crashed

/-- A call that does not step the task of a crashed run lets nothing happen. -/
theorem Crashed.calm (hcrashed : Crashed h) (th : Theatre F A L α W ε) (k : Host F A L α W ε)
    (hc : c.IsCalm) (hno : h.beat.steps c = false) :
    performNotes th k c h = [] ∧ Crashed (perform th k.call c h).2 ∧
      (perform th k.call c h).2.scheduler.mounted = h.scheduler.mounted ∧
      (perform th k.call c h).2.beat = h.beat.after c := by
  -- Whether it plays and whether its clock runs decide what each call does, so take it apart.
  obtain ⟨⟨step, longest, phase, time, mounted, task, last, playing⟩, w⟩ := h
  obtain ⟨hphase, htask⟩ := hcrashed
  simp only at hphase htask
  subst htask
  rcases hphase with rfl | rfl
  · cases hc with
    | frame now =>
      cases last with
      | none => exact ⟨rfl, ⟨.inl rfl, rfl⟩, rfl, rfl⟩
      | some last => cases hno
    | pause => exact ⟨rfl, ⟨.inr rfl, rfl⟩, rfl, rfl⟩
    | play => exact ⟨rfl, ⟨.inl rfl, rfl⟩, rfl, by cases last <;> rfl⟩
  · cases hc with
    | frame now => exact ⟨rfl, ⟨.inr rfl, rfl⟩, rfl, by cases last <;> rfl⟩
    | pause => exact ⟨rfl, ⟨.inr rfl, rfl⟩, rfl, rfl⟩
    | play => exact ⟨rfl, ⟨.inl rfl, rfl⟩, rfl, by cases last <;> rfl⟩

/-- How a frame finishes a run: the task reports that it is done, and the callback of the mount is
called in the phase that says so. -/
def Finishes (th : Theatre F A L α W ε) (k : Host F A L α W ε) (c : Command F A α)
    (h : Stagehand F A L α W) : Prop :=
  ∃ u : Stagehand F A L α W, u.scheduler.mounted = h.scheduler.mounted ∧ u.world = h.world ∧
    performNotes th k c h = .framed (.ok true) :: finishNotes k u ∧
    (perform th k.call c h).2 = (finish k.call u).2

/-- The call that steps the task of a crashed run finishes the run. -/
theorem Crashed.finishes (hcrashed : Crashed h) (hyes : h.beat.steps c = true) :
    Finishes th k c h := by
  cases c with
  | frame now =>
    obtain ⟨hactive, hclock⟩ := Bool.and_eq_true_iff.mp hyes
    have hp : h.scheduler.phase = .running := of_decide_eq_true hactive
    obtain ⟨last, hlast⟩ := Option.isSome_iff_exists.mp hclock
    -- There is nothing left to run in a crashed task, and that it reports as being done.
    have hstep :
        frameStep th now last .crashed h = (.ok true, (frameStep th now last .crashed h).2) := rfl
    refine ⟨(frameStep th now last .crashed h).2, rfl, rfl, ?_, ?_⟩
    · rw [performNotes, frameNotes_step now hp hlast hcrashed.task, hstep]
      rfl
    · rw [perform_frame, frame_step k.call now hp hlast hcrashed.task, hstep, settleFrame_snd]
  | mount | frames | seek | pause | play | unmount | act => cases hyes

/-- Nothing happens to a crashed run before its task is stepped. -/
theorem Crashed.calms (hcrashed : Crashed h) (th : Theatre F A L α W ε) (k : Host F A L α W ε)
    (hl : ∀ c ∈ later, c.IsCalm)
    (hno : h.beat.stepsIn later = false) :
    performsNotes th k later h = [] ∧ Crashed (performs th k.call later h) := by
  induction later generalizing h with
  | nil => exact ⟨rfl, hcrashed⟩
  | cons c later ih =>
    obtain ⟨hc, hrest⟩ := Bool.or_eq_false_iff.mp hno
    obtain ⟨hnotes, hcrashed', -, hbeat⟩ :=
      hcrashed.calm th k (hl c List.mem_cons_self) hc
    rw [← hbeat] at hrest
    rw [performsNotes, hnotes]
    exact ih hcrashed' (fun d hd => hl d (List.mem_cons_of_mem c hd)) hrest

/-- The first call that steps the task of a crashed run finishes the run. -/
theorem Crashed.finishes_first (hcrashed : Crashed h) (hl : ∀ c ∈ later, c.IsCalm)
    (hyes : h.beat.stepsIn later = true) :
    ∃ before c after, later = before ++ c :: after ∧ performsNotes th k before h = [] ∧
      (performs th k.call before h).scheduler.mounted = h.scheduler.mounted ∧
      Finishes th k c (performs th k.call before h) := by
  induction later generalizing h with
  | nil => cases hyes
  | cons c later ih =>
    cases hc : h.beat.steps c with
    | true => exact ⟨[], c, later, rfl, rfl, rfl, hcrashed.finishes hc⟩
    | false =>
      obtain ⟨hnotes, hcrashed', hmounted, hbeat⟩ :=
        hcrashed.calm th k (hl c List.mem_cons_self) hc
      rw [Beat.stepsIn, hc, Bool.false_or, ← hbeat] at hyes
      obtain ⟨before, d, after, rfl, hsilent, hsame, hf⟩ :=
        ih hcrashed' (fun d hd => hl d (List.mem_cons_of_mem c hd)) hyes
      refine ⟨c :: before, d, after, rfl, ?_, hsame.trans hmounted, hf⟩
      rw [performsNotes, hnotes]
      exact hsilent

/-- Frames, pauses and plays after a failure. If the flow failed in a replay, nothing happens and
the scheduler stays seeking. If it failed in a frame, nothing happens and the run is not done until
a frame steps the task; but the first that does finishes the run. -/
theorem Reaches.after_failure (hb : th.IsFresh) (hk : k.Civil th) (ho : Opens h₀)
    (hr : Reaches th k h₀ notes h) (hl : ∀ c ∈ later, c.IsCalm) :
    (∀ before f, notes = before ++ [.replayed (.error f)] →
      performsNotes th k later h = [] ∧
        (performs th k.call later h).scheduler.phase = .seeking) ∧
    (∀ before f, notes = before ++ [.framed (.error f)] →
      (h.beat.stepsIn later = false → performsNotes th k later h = [] ∧
        (performs th k.call later h).scheduler.phase ≠ .done) ∧
      (h.beat.stepsIn later = true → ∃ before c after, later = before ++ c :: after ∧
        performsNotes th k before h = [] ∧
        (performs th k.call before h).scheduler.mounted = h.scheduler.mounted ∧
        Finishes th k c (performs th k.call before h))) := by
  have hfollows := (hr.follows hb hk ho).2
  refine ⟨fun before f hnotes => ?_, fun before f hnotes => ?_⟩
  · rw [hnotes, List.getLast?_concat] at hfollows
    exact seeking_calms hfollows hl
  · rw [hnotes, List.getLast?_concat] at hfollows
    have hcrashed : Crashed h := ⟨hfollows.1, hfollows.2⟩
    refine ⟨fun hno => ?_, hcrashed.finishes_first hl⟩
    obtain ⟨hsilent, hphase, -⟩ := hcrashed.calms th k hl hno
    refine ⟨hsilent, fun hdone => ?_⟩
    rw [hdone] at hphase
    rcases hphase with hp | hp <;> cases hp

end Stagehand

namespace Show
open Stagehand

/-- After a failure in the first frame that steps the flow, a pause and a frame that starts the
clock anew let nothing happen, and the next frame finishes the run. -/
theorem after_failure_brokenWait :
    let k := Host.ofDepth theatre depthLimit
    let history : List (Order Rat) :=
      [.mount brokenWait true 0 (some (.mk "over" [])), .frame 0, .frame 1]
    let h := performs theatre k.call history (opening 1 1 titleStage)
    let calm : List (Order Rat) := [.pause, .frame 2, .play, .frame 3]
    let later : List (Order Rat) := [.pause, .frame 2, .play, .frame 3, .frame 4]
    (performsNotes theatre k calm h = [] ∧
        (performs theatre k.call calm h).scheduler.phase ≠ .done) ∧
      ∃ before c after, later = before ++ c :: after ∧
        performsNotes theatre k before h = [] ∧
        (performs theatre k.call before h).scheduler.mounted = h.scheduler.mounted ∧
        Finishes theatre k c (performs theatre k.call before h) := by
  intro k history h calm later
  have hcalm : ∀ c ∈ calm, c.IsCalm := by
    simp only [calm, List.forall_mem_cons, List.not_mem_nil, false_imp_iff, implies_true, and_true]
    exact ⟨.pause, .frame 2, .play, .frame 3⟩
  have hlater : ∀ c ∈ later, c.IsCalm := by
    simp only [later, List.forall_mem_cons, List.not_mem_nil, false_imp_iff, implies_true, and_true]
    exact ⟨.pause, .frame 2, .play, .frame 3, .frame 4⟩
  have hk : k.Civil theatre := Host.ofDepth_civil theatre depthLimit
  have hr : Reaches theatre k (opening 1 1 titleStage)
      (performsNotes theatre k history (opening 1 1 titleStage)) h :=
    reaches_performs theatre k history _
  have hlast : ((performsNotes theatre k history (opening 1 1 titleStage)).getLast?.any
      Note.failedInFrame) = true := by decide +kernel
  obtain ⟨n, hn, hfailed⟩ := (Option.any_eq_true _ _).mp hlast
  obtain ⟨f, rfl⟩ := Note.exists_of_failedInFrame hfailed
  obtain ⟨before, hnotes⟩ := List.getLast?_eq_some_iff.mp hn
  have hafter (cs : List (Order Rat)) (hl : ∀ c ∈ cs, c.IsCalm) :=
    (Reaches.after_failure theatre_isFresh hk (.fresh 1 1 _) hr hl).2 before f hnotes
  have hno : h.beat.stepsIn calm = false := by decide +kernel
  have hyes : h.beat.stepsIn later = true := by decide +kernel
  exact ⟨(hafter calm hcalm).1 hno, (hafter later hlater).2 hyes⟩

/-- The frame after a failure reports the run as done and calls its callback. -/
theorem brokenWait_finishes :
    let history : List (Order Rat) :=
      [.mount brokenWait true 0 (some (.mk "over" [])), .frame 0, .frame 1, .frame 2]
    let played := runs theatre history (opening 1 1 titleStage)
    played.1[2]? = some (.error (.flow (.raised "boom"))) ∧
      played.2.scheduler.phase = .done ∧ played.2.world.events = [.finished "over" .done] := by
  decide +kernel

end Show
end Choreo
