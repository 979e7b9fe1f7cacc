import Choreo.Proofs.Routine.Course
import Choreo.Proofs.Scheduler.Law
import Choreo.Proofs.Scheduler.Replay

/-!
The states a scheduler can be in.

A scheduler that plays, waits or seeks has a flow and a task that is not done; one that is done or
has no flow has no task. Pausing and playing show in the phase. A scheduler is found seeking only
after a flow has failed in the middle of a replay. All of that holds whenever a host has its turn,
at the outside or in a callback, and whatever failed before: `Stagehand.Reaches.sound`.

How the last thing that happened left the scheduler (`Scheduler.Follows`) is a part of the same law.
-/

namespace Choreo
variable {F A L α W ε : Type}

/-- A flow is built as a task that is not done. -/
def Theatre.IsFresh (th : Theatre F A L α W ε) : Prop := ∀ f w, (th.build f w).1.isDone = false

/-! ## Schedulers -/

namespace Scheduler

/-- A flow is under way: it plays, it waits, or its replay has not come to its end. -/
def IsLive (s : Scheduler F A L α) : Prop :=
  s.phase = .running ∨ s.phase = .paused ∨ s.phase = .seeking

/-- The phase says what else the scheduler holds. -/
structure Sound (s : Scheduler F A L α) : Prop where
  mounted : s.IsLive → s.mounted.isSome
  task : s.IsLive → ∃ t, s.task = some t ∧ t.isDone = false
  stopped : s.phase = .done ∨ s.phase = .uninitialized → s.task = none
  running : s.phase = .running → s.playing = true
  paused : s.phase = .paused → s.playing = false

/-- How a scheduler is left by the last thing that happened at it. -/
def Follows (s : Scheduler F A L α) : Option (Note F A α ε) → Prop
  | some (.replayed (.error _)) => s.phase = .seeking
  | some .endless => s.phase = .seeking
  | some (.framed (.error _)) =>
    (s.phase = .running ∨ s.phase = .paused) ∧ s.task = some .crashed
  | _ => s.phase ≠ .seeking

/-- Nothing has to happen for a scheduler to be paused, played on or given a timestamp. -/
theorem Follows.congr {s s' : Scheduler F A L α} {n : Option (Note F A α ε)} (h : s.Follows n)
    (hseeking : s'.phase = .seeking ↔ s.phase = .seeking)
    (hlive : s.phase = .running ∨ s.phase = .paused → s'.phase = .running ∨ s'.phase = .paused)
    (htask : s'.task = s.task) : s'.Follows n := by
  unfold Follows at h ⊢
  split
  · exact hseeking.mpr h
  · exact hseeking.mpr h
  · exact ⟨hlive h.1, htask.trans h.2⟩
  · next hr he hf =>
    have hs : s.phase ≠ .seeking := by
      split at h
      · exact absurd rfl (hr _)
      · exact absurd rfl he
      · exact absurd rfl (hf _)
      · exact h
    exact fun hp => hs (hseeking.mp hp)

variable {s s' : Scheduler F A L α}

theorem sound_of_over (hp : s.phase = .done ∨ s.phase = .uninitialized) (ht : s.task = none) :
    s.Sound := by
  have hlive : ¬s.IsLive := by
    rintro (h | h | h) <;> rcases hp with hp | hp <;> rw [hp] at h <;> cases h
  refine ⟨fun h => absurd h hlive, fun h => absurd h hlive, fun _ => ht, fun h => ?_, fun h => ?_⟩
  · exact absurd (.inl h) hlive
  · exact absurd (.inr (.inl h)) hlive

theorem sound_of_live (hm : s.mounted.isSome) (ht : ∃ t, s.task = some t ∧ t.isDone = false)
    (hp : s.phase = .running ∧ s.playing = true ∨ s.phase = .paused ∧ s.playing = false ∨
      s.phase = .seeking) : s.Sound where
  mounted _ := hm
  task _ := ht
  stopped h := by
    rcases hp with ⟨hp, -⟩ | ⟨hp, -⟩ | hp <;> rcases h with h | h <;> rw [hp] at h <;> cases h
  running h := by
    rcases hp with ⟨-, hplaying⟩ | ⟨hp, -⟩ | hp
    · exact hplaying
    · rw [hp] at h; cases h
    · rw [hp] at h; cases h
  paused h := by
    rcases hp with ⟨hp, -⟩ | ⟨-, hplaying⟩ | hp
    · rw [hp] at h; cases h
    · exact hplaying
    · rw [hp] at h; cases h

theorem play_of_paused (hp : s.phase = .paused) :
    s.play = { s with playing := true, last := none, phase := .running } :=
  if_pos hp

theorem play_of_ne_paused (hp : s.phase ≠ .paused) : s.play = { s with playing := true } :=
  if_neg hp

theorem Sound.pause (h : s.Sound) : s.pause.Sound := by
  have hlive : s.pause.IsLive → s.IsLive := by
    unfold IsLive Scheduler.pause
    cases s.phase <;> simp
  refine ⟨fun hl => h.mounted (hlive hl), fun hl => h.task (hlive hl), fun ho => h.stopped ?_,
    fun hr => ?_, fun _ => rfl⟩
  · revert ho
    unfold Scheduler.pause
    cases s.phase <;> simp
  · revert hr
    unfold Scheduler.pause
    cases s.phase <;> simp

theorem Sound.play (h : s.Sound) : s.play.Sound := by
  by_cases hp : s.phase = .paused
  · have hl : s.IsLive := .inr (.inl hp)
    rw [play_of_paused hp]
    exact sound_of_live (h.mounted hl) (h.task hl) (.inl ⟨rfl, rfl⟩)
  · rw [play_of_ne_paused hp]
    exact ⟨h.mounted, h.task, h.stopped, fun _ => rfl, fun hpaused => absurd hpaused hp⟩

end Scheduler

/-! ## Turns -/

namespace Stagehand
variable [Scalar α] {th : Theatre F A L α W ε} {k : Host F A L α W ε} {dt : α} {t : Task L}
  {h h' h₀ : Stagehand F A L α W} {ns notes : List (Note F A α ε)}

theorem stepTask_ok {b : Bool} (hs : stepTask th dt t h = (.ok b, h')) :
    ∃ t', t'.isDone = b ∧ h'.scheduler =
      { h.scheduler with time := h.scheduler.time + dt, task := some t' } := by
  have hr : (stepTask th dt t h).1 = .ok b := by rw [hs]
  have hh : (stepTask th dt t h).2 = h' := by rw [hs]
  subst hh
  refine ⟨(t.next th.machine (some dt) h.world).1.2, Task.isDone_next ?_, rfl⟩
  have hmap : (t.next th.machine (some dt) h.world).1.1.mapError SchedulerFault.flow = .ok b := hr
  cases hn : (t.next th.machine (some dt) h.world).1.1 with
  | error e => rw [hn] at hmap; cases hmap
  | ok b' => rw [hn] at hmap; cases hmap; rfl

theorem stepTask_error {f : SchedulerFault ε} (ht : t.isDone = false)
    (hs : stepTask th dt t h = (.error f, h')) :
    h'.scheduler = { h.scheduler with time := h.scheduler.time + dt, task := some .crashed } := by
  have hr : (stepTask th dt t h).1 = .error f := by rw [hs]
  have hh : (stepTask th dt t h).2 = h' := by rw [hs]
  subst hh
  have hmap : (t.next th.machine (some dt) h.world).1.1.mapError SchedulerFault.flow = .error f :=
    hr
  cases hn : (t.next th.machine (some dt) h.world).1.1 with
  | ok b => rw [hn] at hmap; cases hmap
  | error e =>
    have hcrashed := (Task.next_error (Task.ne_done_of_isDone ht) hn).2
    simp only [stepTask, hcrashed]

/-- A host has its turn at a scheduler that nobody has used, and at one that runs a callback. -/
inductive Opens : Stagehand F A L α W → Prop where
  | fresh (step longest : α) (w : W) : Opens { scheduler := .idle step longest, world := w }
  | callback (h : Stagehand F A L α W) : Opens h.ended

omit [Scalar α] in
/-- After the end of a run nothing is left of how it was stepped. -/
theorem follows_ended (answer : Note F A α ε) (h : Stagehand F A L α W)
    (ha : h.ended.scheduler.Follows (some answer)) :
    h.ended.scheduler.Follows (ns ++ answer :: h.ended.callNotes).getLast? := by
  unfold callNotes
  split
  · rw [List.append_cons, List.getLast?_concat]
    exact fun hp => nomatch hp
  · rw [List.getLast?_concat]
    exact ha

/-- In the middle of a replay a scheduler has a task that goes on. -/
structure Replaying (ns : List (Note F A α ε)) (h : Stagehand F A L α W) : Prop where
  phase : h.scheduler.phase = .seeking
  mounted : h.scheduler.mounted.isSome
  task : ∃ t, h.scheduler.task = some t ∧ t.isDone = false
  goesOn : ∀ s : Scheduler F A L α, s.phase ≠ .seeking → s.Follows ns.getLast?

theorem sound_law (hb : th.IsFresh) :
    Law th (fun ns h => h.scheduler.Sound ∧ h.scheduler.Follows ns.getLast?) Replaying where
  world _ hp := hp
  unmount hp := by
    rw [List.getLast?_concat]
    exact ⟨Scheduler.sound_of_over (.inr rfl) rfl, fun hs => nomatch hs⟩
  pause {_ h} hp := by
    refine ⟨hp.1.pause, hp.2.congr ?_ ?_ rfl⟩ <;> unfold Scheduler.pause <;>
      cases h.scheduler.phase <;> simp
  play {_ h} hp := by
    refine ⟨hp.1.play, hp.2.congr ?_ ?_ ?_⟩ <;> unfold Scheduler.play <;>
      cases h.scheduler.phase <;> simp
  mount flow callback playing hp := by
    refine ⟨rfl, rfl, ⟨_, rfl, hb flow _⟩, fun s hs => ?_⟩
    rw [List.getLast?_concat]
    exact hs
  seek {_ h flow callback} hp hm := by
    refine ⟨rfl, ?_, ⟨_, rfl, hb flow _⟩, fun s hs => ?_⟩
    · have hmounted : (rewound h.scheduler (th.build flow h.world).1).mounted =
        h.scheduler.mounted := rfl
      rw [hmounted, hm]
      rfl
    · rw [List.getLast?_concat]
      exact hs
  replayed hq ht hs := by
    obtain ⟨t', ht', heq⟩ := stepTask_ok hs
    refine ⟨?_, ?_, ?_, fun s hs => ?_⟩
    · rw [heq]; exact hq.phase
    · rw [heq]; exact hq.mounted
    · rw [heq]; exact ⟨t', rfl, ht'⟩
    · rw [List.getLast?_concat]
      exact hs
  replayDone hq ht hs :=
    ⟨Scheduler.sound_of_over (.inl rfl) rfl, follows_ended _ _ fun hp => nomatch hp⟩
  -- A failed task is left crashed, which is not done: the scheduler stays sound.
  replayFailed hq ht hs := by
    obtain ⟨t', ht', hdone⟩ := hq.task
    have htt : some t' = some _ := ht'.symm.trans ht
    cases htt
    have heq := stepTask_error hdone hs
    rw [List.getLast?_concat, heq]
    exact ⟨Scheduler.sound_of_live hq.mounted ⟨_, rfl, rfl⟩ (.inr (.inr hq.phase)), hq.phase⟩
  endless hq := by
    rw [List.getLast?_concat]
    exact ⟨Scheduler.sound_of_live hq.mounted hq.task (.inr (.inr hq.phase)), hq.phase⟩
  caughtUp {_ h} hq := by
    have hplay : h.scheduler.caughtUp.phase = if h.scheduler.playing then .running else .paused :=
      rfl
    cases hp : h.scheduler.playing with
    | true =>
      rw [hp] at hplay
      exact ⟨Scheduler.sound_of_live hq.mounted hq.task (.inl ⟨hplay, hp⟩),
        hq.goesOn _ (by rw [hplay]; exact fun h => nomatch h)⟩
    | false =>
      rw [hp] at hplay
      exact ⟨Scheduler.sound_of_live hq.mounted hq.task (.inr (.inl ⟨hplay, hp⟩)),
        hq.goesOn _ (by rw [hplay]; exact fun h => nomatch h)⟩
  clock now hp hphase :=
    ⟨⟨hp.1.mounted, hp.1.task, hp.1.stopped, hp.1.running, hp.1.paused⟩,
      hp.2.congr Iff.rfl id rfl⟩
  framed hp hphase ht hs := by
    obtain ⟨t', ht', heq⟩ := stepTask_ok hs
    rw [List.getLast?_concat, heq]
    refine ⟨Scheduler.sound_of_live (hp.1.mounted (.inl hphase)) ⟨t', rfl, ht'⟩
      (.inl ⟨hphase, hp.1.running hphase⟩), ?_⟩
    exact fun hs => nomatch hphase.symm.trans hs
  frameDone hp hphase ht hs :=
    ⟨Scheduler.sound_of_over (.inl rfl) rfl, follows_ended _ _ fun hp => nomatch hp⟩
  frameFailed hp hphase ht hs := by
    obtain ⟨t', ht', hdone⟩ := hp.1.task (.inl hphase)
    have htt : some t' = some _ := ht'.symm.trans ht
    cases htt
    have heq := stepTask_error hdone hs
    rw [List.getLast?_concat, heq]
    exact ⟨Scheduler.sound_of_live (hp.1.mounted (.inl hphase)) ⟨_, rfl, rfl⟩
      (.inl ⟨hphase, hp.1.running hphase⟩), .inl hphase, rfl⟩

/-- Whenever a host has its turn, the scheduler is sound and as the last thing that happened left
it. -/
theorem Reaches.follows (hb : th.IsFresh) (hk : k.Civil th) (ho : Opens h₀)
    (hr : Reaches th k h₀ notes h) : h.scheduler.Sound ∧ h.scheduler.Follows notes.getLast? := by
  refine (sound_law hb).reaches hk ?_ hr
  cases ho with
  | fresh step longest w =>
    exact ⟨Scheduler.sound_of_over (.inr rfl) rfl, fun hp => nomatch hp⟩
  | callback h => exact ⟨Scheduler.sound_of_over (.inl rfl) rfl, fun hp => nomatch hp⟩

/-- Whatever a civil host does, whenever it has its turn the scheduler is sound. It is seeking only
if the last thing that happened is that a flow failed in a replay (or that a replay had no end), and
if it plays, then a step of its task fails only as the flow does. -/
theorem Reaches.sound (hb : th.IsFresh) (hk : k.Civil th) (ho : Opens h₀)
    (hr : Reaches th k h₀ notes h) :
    h.scheduler.Sound ∧
      (.endless ∉ notes → h.scheduler.phase = .seeking →
        ∃ before f, notes = before ++ [.replayed (.error f)]) ∧
      (h.scheduler.phase = .running → ∃ t, h.scheduler.task = some t ∧ t.isDone = false ∧
        ∀ dt e, (t.next th.machine dt h.world).1.1 = .error e →
          (t.advance th.machine (some dt) h.world).1 = .failed e) := by
  obtain ⟨hsound, hfollows⟩ := hr.follows hb hk ho
  refine ⟨hsound, fun hend hseeking => ?_, fun hrunning => ?_⟩
  · unfold Scheduler.Follows at hfollows
    split at hfollows
    · next f hlast =>
      obtain ⟨before, hbefore⟩ := List.getLast?_eq_some_iff.mp hlast
      exact ⟨before, f, hbefore⟩
    · next hlast => exact absurd (List.mem_of_getLast? hlast) hend
    · rw [hseeking] at hfollows
      rcases hfollows.1 with hp | hp <;> cases hp
    · exact absurd hseeking hfollows
  · obtain ⟨t, ht, hdone⟩ := hsound.task (.inl hrunning)
    exact ⟨t, ht, hdone, fun dt e he => (Task.next_error (Task.ne_done_of_isDone hdone) he).1⟩

end Stagehand

/-! ## A flow that breaks off -/

namespace Show
open Stagehand

theorem theatre_isFresh [Scalar α] [Analytic α] : (theatre (α := α)).IsFresh := fun _ _ => rfl

/-- Waits for a second, and fails. -/
def brokenWait : Source Rat :=
  { flow := .steps [.act (.wait 1), .act (.fail "boom")], isBound := true }

/-- A seek into the failure leaves the scheduler seeking, and sound. -/
theorem sound_brokenWait :
    let k := Host.ofDepth theatre depthLimit
    let history : List (Order Rat) :=
      [.mount brokenWait true 0 (some (.mk "over" [])), .frame 0, .pause, .seek 2, .play, .frame 1]
    let notes := performsNotes theatre k history (opening 1 1 titleStage)
    let h := performs theatre k.call history (opening 1 1 titleStage)
    h.scheduler.phase = .seeking ∧ h.scheduler.Sound ∧
      ∃ before f, notes = before ++ [.replayed (.error f)] := by
  intro k history notes h
  have hseeking : h.scheduler.phase = .seeking := by decide +kernel
  have hends : (notes.all fun | .endless => false | _ => true) = true := by decide +kernel
  have hend : .endless ∉ notes := fun hm => nomatch List.all_eq_true.mp hends _ hm
  have hk : k.Civil theatre := Host.ofDepth_civil theatre depthLimit
  have hr : Reaches theatre k (opening 1 1 titleStage) notes h :=
    reaches_performs theatre k history _
  obtain ⟨hsound, hfailed, -⟩ := Reaches.sound theatre_isFresh hk (.fresh 1 1 _) hr
  exact ⟨hseeking, hsound, hfailed hend hseeking⟩

end Show
end Choreo
