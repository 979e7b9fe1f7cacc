import Choreo.Proofs.Scheduler.Replay
import Choreo.Proofs.Scheduler.Law

/-!
Runs and their callbacks.

A run is the stretch from a mount or a seek to the next mount, seek or unmount. In a run of a flow
that does not fail, the task is stepped and is not done until it is, if it ever is; then the
callback of the mount is called at once, in the phase that says so, and nothing more happens in that
run. So everything that ever happens at a scheduler is a chronicle of such runs, whatever callbacks
begin or abandon while a call is still on (`Stagehand.Reaches.chronicle_of_unfailed`).

What is noted of a step is what the task of the run answers to it, that is the task built when the
run began, as the steps of the run have left it (`Stagehand.Reaches.told`).
-/

namespace Choreo
variable {F A L α W ε : Type}

namespace Note

/-- The task was stepped and is not done. A replay without an end is not done either. -/
inductive IsOpen : Note F A α ε → Prop where
  | replayed : IsOpen (.replayed (.ok false))
  | framed : IsOpen (.framed (.ok false))
  | endless : IsOpen .endless

/-- The task was stepped and is done. -/
inductive IsLast : Note F A α ε → Prop where
  | replayed : IsLast (.replayed (.ok true))
  | framed : IsLast (.framed (.ok true))

/-- The task was stepped and failed. -/
inductive IsFailure : Note F A α ε → Prop where
  | replayed (f : SchedulerFault ε) : IsFailure (.replayed (.error f))
  | framed (f : SchedulerFault ε) : IsFailure (.framed (.error f))

instance decidableIsFailure : (n : Note F A α ε) → Decidable n.IsFailure
  | .replayed (.error f) => isTrue (.replayed f)
  | .framed (.error f) => isTrue (.framed f)
  | .replayed (.ok _) => isFalse nofun
  | .framed (.ok _) => isFalse nofun
  | .mounted _ => isFalse nofun
  | .sought => isFalse nofun
  | .unmounted => isFalse nofun
  | .endless => isFalse nofun
  | .called _ _ => isFalse nofun

end Note

/-- No flow failed. -/
def Unfailed (ns : List (Note F A α ε)) : Prop := ∀ n ∈ ns, ¬n.IsFailure

instance decidableUnfailed (ns : List (Note F A α ε)) : Decidable (Unfailed ns) :=
  inferInstanceAs (Decidable (∀ n ∈ ns, ¬n.IsFailure))

theorem Unfailed.left {ns rest : List (Note F A α ε)} (h : Unfailed (ns ++ rest)) : Unfailed ns :=
  fun n hn => h n (List.mem_append_left _ hn)

theorem not_unfailed {ns : List (Note F A α ε)} {n : Note F A α ε} (hn : n.IsFailure) :
    ¬Unfailed (ns ++ [n]) :=
  fun h => h n (List.mem_append_right _ List.mem_cons_self) hn

/-- What happens in one run of a mount with a callback, or with none. -/
inductive Run (callback : Option (Callback F A α)) : List (Note F A α ε) → Prop where
  | abandoned {steps : List (Note F A α ε)} (hs : ∀ n ∈ steps, n.IsOpen) : Run callback steps
  | completed {steps : List (Note F A α ε)} {last : Note F A α ε} (hs : ∀ n ∈ steps, n.IsOpen)
      (hl : last.IsLast) :
      Run callback (steps ++ last :: callback.toList.map fun c => .called c .done)

/-- A run begins with a mount, or with a seek in what is mounted. It belongs to the mount with the
last callback given. -/
inductive Begins :
    Option (Option (Callback F A α)) → Note F A α ε → Option (Callback F A α) → Prop where
  | mount (m : Option (Option (Callback F A α))) (callback : Option (Callback F A α)) :
      Begins m (.mounted callback) callback
  | seek (callback : Option (Callback F A α)) : Begins (some callback) .sought callback

/-- One run after another, and unmounts between them. With it goes the callback of what is mounted
at the end, if anything is. -/
inductive Chronicle : Option (Option (Callback F A α)) → List (Note F A α ε) → Prop where
  | nil : Chronicle none []
  | unmounted {m : Option (Option (Callback F A α))} {ns : List (Note F A α ε)}
      (h : Chronicle m ns) : Chronicle none (ns ++ [.unmounted])
  | run {m : Option (Option (Callback F A α))} {ns run : List (Note F A α ε)} {n : Note F A α ε}
      {callback : Option (Callback F A α)} (h : Chronicle m ns) (hb : Begins m n callback)
      (hr : Run callback run) : Chronicle (some callback) (ns ++ n :: run)

/-- A chronicle whose last run is on its way. -/
inductive Underway (callback : Option (Callback F A α)) : List (Note F A α ε) → Prop where
  | intro {m : Option (Option (Callback F A α))} {ns steps : List (Note F A α ε)}
      {n : Note F A α ε} (h : Chronicle m ns) (hb : Begins m n callback)
      (hs : ∀ n ∈ steps, n.IsOpen) : Underway callback (ns ++ n :: steps)

namespace Underway
variable {callback : Option (Callback F A α)} {ns : List (Note F A α ε)} {n : Note F A α ε}

theorem chronicle (h : Underway callback ns) : Chronicle (some callback) ns := by
  obtain ⟨h, hb, hs⟩ := h
  exact .run h hb (.abandoned hs)

theorem begin {m : Option (Option (Callback F A α))} (h : Chronicle m ns)
    (hb : Begins m n callback) : Underway callback (ns ++ [n]) :=
  .intro h hb fun _ hn => absurd hn List.not_mem_nil

theorem step (h : Underway callback ns) (hn : n.IsOpen) : Underway callback (ns ++ [n]) := by
  obtain ⟨h, hb, hs⟩ := h
  rw [List.append_assoc, List.cons_append]
  refine .intro h hb fun n' hn' => ?_
  rcases List.mem_append.mp hn' with hn' | hn'
  · exact hs n' hn'
  · rw [List.mem_singleton.mp hn']
    exact hn

theorem complete (h : Underway callback ns) (hn : n.IsLast) :
    Chronicle (some callback) (ns ++ n :: callback.toList.map fun c => .called c .done) := by
  obtain ⟨h, hb, hs⟩ := h
  rw [List.append_assoc, List.cons_append]
  exact .run h hb (.completed hs hn)

end Underway

namespace Stagehand

/-- The callback of what is mounted, if anything is. -/
def callback? (h : Stagehand F A L α W) : Option (Option (Callback F A α)) :=
  h.scheduler.mounted.map (·.2)

theorem callNotes_eq {h : Stagehand F A L α W} {callback : Option (Callback F A α)}
    (hc : h.callback? = some callback) :
    (h.ended.callNotes : List (Note F A α ε)) =
      callback.toList.map fun c => .called c .done := by
  obtain ⟨⟨flow, c⟩, hm, rfl⟩ := Option.map_eq_some_iff.mp hc
  have hmounted : h.ended.scheduler.mounted = some (flow, c) := hm
  unfold callNotes
  rw [hmounted]
  cases c <;> rfl

variable [Scalar α] {th : Theatre F A L α W ε} {k : Host F A L α W ε} {dt : α} {t : Task L}
  {h h' : Stagehand F A L α W} {ns notes : List (Note F A α ε)} {n : Note F A α ε}

theorem stepTask_callback? {r : Except (SchedulerFault ε) Bool}
    (hs : stepTask th dt t h = (r, h')) : h'.callback? = h.callback? := by
  have hh : (stepTask th dt t h).2 = h' := by rw [hs]
  subst hh
  rfl

/-- What has happened is a chronicle, and a scheduler that plays or is paused is in the middle of
the last run. -/
structure Chronicled (ns : List (Note F A α ε)) (h : Stagehand F A L α W) : Prop where
  chronicle : Chronicle h.callback? ns
  underway : h.scheduler.phase = .running ∨ h.scheduler.phase = .paused →
    ∃ callback, h.callback? = some callback ∧ Underway callback ns

omit [Scalar α] in
theorem chronicled_underway {callback : Option (Callback F A α)}
    (hc : h.callback? = some callback) (hu : Underway callback ns) : Chronicled ns h where
  chronicle := by
    rw [hc]
    exact hu.chronicle
  underway _ := ⟨callback, hc, hu⟩

omit [Scalar α] in
/-- The end of a run that was on its way. -/
theorem chronicled_ended {callback : Option (Callback F A α)}
    (hc : h.callback? = some callback) (hu : Underway callback ns) (hn : n.IsLast) :
    Chronicled (ns ++ n :: h.ended.callNotes) h.ended where
  chronicle := by
    have hcallback : h.ended.callback? = some callback := hc
    rw [hcallback, callNotes_eq hc]
    exact hu.complete hn
  underway hp := by rcases hp with hp | hp <;> cases hp

/-- Up to the first failure everything that happens is chronicled. -/
theorem chronicle_law (th : Theatre F A L α W ε) :
    Law th (fun ns h => Unfailed ns → Chronicled ns h)
      (fun ns h => Unfailed ns →
        ∃ callback, h.callback? = some callback ∧ Underway callback ns) where
  world w hp hno := ⟨(hp hno).chronicle, (hp hno).underway⟩
  unmount hp hno :=
    ⟨.unmounted (hp hno.left).chronicle, fun hphase => by rcases hphase with h | h <;> cases h⟩
  pause {_ h} hp hno := by
    refine ⟨(hp hno).chronicle, fun hphase => (hp hno).underway ?_⟩
    revert hphase
    unfold Scheduler.pause
    cases h.scheduler.phase <;> simp
  play {_ h} hp hno := by
    have hcallback : ({ h with scheduler := h.scheduler.play } : Stagehand F A L α W).callback? =
        h.callback? := by
      unfold callback? Scheduler.play
      split <;> rfl
    refine ⟨by rw [hcallback]; exact (hp hno).chronicle, fun hphase => ?_⟩
    rw [hcallback]
    refine (hp hno).underway ?_
    revert hphase
    unfold Scheduler.play
    cases h.scheduler.phase <;> simp
  mount flow callback playing hp hno :=
    ⟨callback, rfl, .begin (hp hno.left).chronicle (.mount _ _)⟩
  seek {_ h flow callback} hp hm hno := by
    have hc : h.callback? = some callback := by
      unfold callback?
      rw [hm]
      rfl
    have hchronicle := (hp hno.left).chronicle
    rw [hc] at hchronicle
    exact ⟨callback, hc, .begin hchronicle (.seek _)⟩
  replayed hq _ hs hno := by
    obtain ⟨callback, hc, hu⟩ := hq hno.left
    exact ⟨callback, (stepTask_callback? hs).trans hc, hu.step .replayed⟩
  replayDone hq _ hs hno := by
    obtain ⟨callback, hc, hu⟩ := hq hno.left
    exact chronicled_ended ((stepTask_callback? hs).trans hc) hu .replayed
  replayFailed _ _ _ hno := absurd hno (not_unfailed (.replayed _))
  endless hq hno := by
    obtain ⟨callback, hc, hu⟩ := hq hno.left
    exact chronicled_underway hc (hu.step .endless)
  caughtUp hq hno := by
    obtain ⟨callback, hc, hu⟩ := hq hno
    exact chronicled_underway hc hu
  clock _ hp _ hno := ⟨(hp hno).chronicle, (hp hno).underway⟩
  framed hp hphase _ hs hno := by
    obtain ⟨callback, hc, hu⟩ := (hp hno.left).underway (.inl hphase)
    exact chronicled_underway ((stepTask_callback? hs).trans hc) (hu.step .framed)
  frameDone hp hphase _ hs hno := by
    obtain ⟨callback, hc, hu⟩ := (hp hno.left).underway (.inl hphase)
    exact chronicled_ended ((stepTask_callback? hs).trans hc) hu .framed
  frameFailed _ _ _ _ hno := absurd hno (not_unfailed (.framed _))

/-- Whatever a civil host does at a fresh scheduler, as long as no flow fails, all that happens is a
chronicle of runs. -/
theorem Reaches.chronicle_of_unfailed (hk : k.Civil th) {step longest : α} {w : W}
    (hr : Reaches th k { scheduler := .idle step longest, world := w } notes h)
    (hno : Unfailed notes) : Chronicle h.callback? notes := by
  have hfresh : Chronicled ([] : List (Note F A α ε))
      ({ scheduler := .idle step longest, world := w } : Stagehand F A L α W) :=
    ⟨.nil, fun hp => by rcases hp with hp | hp <;> cases hp⟩
  exact ((chronicle_law th).reaches hk (fun _ => hfresh) hr hno).chronicle

/-! ## Whose answers are noted -/

/-- What is noted of steps are answers of tasks. A mount and a seek build the flow as a task, and
every step after that is answered by what the steps before it left of this task, until the run is
over. With the notes go the flow that is mounted and what is left of its task. -/
inductive Told (th : Theatre F A L α W ε) :
    Option F → Option (Task L) → List (Note F A α ε) → Prop where
  | nil : Told th none none []
  | mounted {flow? : Option F} {task? : Option (Task L)} {ns : List (Note F A α ε)}
      (h : Told th flow? task? ns) (flow : F) (callback : Option (Callback F A α)) (w : W) :
      Told th (some flow) (some (th.build flow w).1) (ns ++ [.mounted callback])
  | sought {flow : F} {task? : Option (Task L)} {ns : List (Note F A α ε)}
      (h : Told th (some flow) task? ns) (w : W) :
      Told th (some flow) (some (th.build flow w).1) (ns ++ [.sought])
  | stepped {flow? : Option F} {t : Task L} {ns : List (Note F A α ε)}
      (h : Told th flow? (some t) ns) {note : Except (SchedulerFault ε) Bool → Note F A α ε}
      (hnote : note = .replayed ∨ note = .framed) (dt : α) (w : W) :
      Told th flow? (some (t.next th.machine (some dt) w).1.2)
        (ns ++ [note ((t.next th.machine (some dt) w).1.1.mapError .flow)])
  | endless {flow? : Option F} {task? : Option (Task L)} {ns : List (Note F A α ε)}
      (h : Told th flow? task? ns) : Told th flow? task? (ns ++ [.endless])
  | over {flow? : Option F} {task? : Option (Task L)} {ns : List (Note F A α ε)}
      (h : Told th flow? task? ns) : Told th flow? none ns
  | called {flow? : Option F} {ns : List (Note F A α ε)} (h : Told th flow? none ns)
      (callback : Callback F A α) (phase : Phase) :
      Told th flow? none (ns ++ [.called callback phase])
  | unmounted {flow? : Option F} {task? : Option (Task L)} {ns : List (Note F A α ε)}
      (h : Told th flow? task? ns) : Told th none none (ns ++ [.unmounted])

/-- What the notes tell is how a scheduler is. -/
def ToldOf (th : Theatre F A L α W ε) (ns : List (Note F A α ε)) (h : Stagehand F A L α W) :
    Prop :=
  Told th (h.scheduler.mounted.map Prod.fst) h.scheduler.task ns

/-- A step of a replay or a frame. -/
theorem ToldOf.stepped {note : Except (SchedulerFault ε) Bool → Note F A α ε}
    (hnote : note = .replayed ∨ note = .framed) {r : Except (SchedulerFault ε) Bool}
    (hp : ToldOf th ns h) (ht : h.scheduler.task = some t) (hs : stepTask th dt t h = (r, h')) :
    ToldOf th (ns ++ [note r]) h' := by
  obtain ⟨rfl, rfl⟩ := Prod.ext_iff.mp hs
  unfold ToldOf at hp
  rw [ht] at hp
  exact .stepped hp hnote dt h.world

omit [Scalar α] in
/-- The end of a run, and the call of its callback. -/
theorem ToldOf.ended (hp : ToldOf th ns h) : ToldOf th (ns ++ h.ended.callNotes) h.ended := by
  have hover : Told th (h.scheduler.mounted.map Prod.fst) none ns := .over hp
  unfold callNotes
  split
  · exact hover.called _ _
  · rw [List.append_nil]
    exact hover

theorem told_law (th : Theatre F A L α W ε) : Law th (ToldOf th) (ToldOf th) where
  world _ hp := hp
  unmount hp := .unmounted hp
  pause hp := hp
  play {_ h} hp := by
    unfold ToldOf Scheduler.play
    split <;> exact hp
  mount {_ h} flow callback _ hp := .mounted hp flow callback h.world
  seek {_ h _ _} hp hm := by
    have hflow : h.scheduler.mounted.map Prod.fst = some _ := congrArg (Option.map Prod.fst) hm
    unfold ToldOf at hp
    rw [hflow] at hp
    have htold := Told.sought hp h.world
    rw [← hflow] at htold
    exact htold
  replayed hq ht hs := hq.stepped (.inl rfl) ht hs
  replayDone hq ht hs := by
    rw [List.append_cons]
    exact (hq.stepped (.inl rfl) ht hs).ended
  replayFailed hq ht hs := hq.stepped (.inl rfl) ht hs
  endless hq := .endless hq
  caughtUp hq := hq
  clock _ hp _ := hp
  framed hp _ ht hs := hp.stepped (.inr rfl) ht hs
  frameDone hp _ ht hs := by
    rw [List.append_cons]
    exact (hp.stepped (.inr rfl) ht hs).ended
  frameFailed hp _ ht hs := hp.stepped (.inr rfl) ht hs

/-- Whatever a civil host does at a fresh scheduler, and whatever fails, what is noted of steps are
answers of the tasks of the runs. -/
theorem Reaches.told (hk : k.Civil th) {step longest : α} {w : W}
    (hr : Reaches th k { scheduler := .idle step longest, world := w } notes h) :
    Told th (h.scheduler.mounted.map Prod.fst) h.scheduler.task notes := by
  have hfresh : ToldOf th []
      ({ scheduler := .idle step longest, world := w } : Stagehand F A L α W) := Told.nil
  exact (told_law th).reaches hk hfresh hr

end Stagehand

/-- A title that is mounted again by the callback of a run that was done in a seek. -/
theorem Show.chronicle_lateTitle :
    let k := Host.ofDepth theatre Stagehand.depthLimit
    let again : Callback (Source Rat) HostAct Rat :=
      .mk "once" [.mount lateTitle true 0 (some (.mk "twice" []))]
    let history : List (Order Rat) :=
      [.mount lateTitle true 0 (some again), .frame 0, .seek 2, .frame 1, .frame 2, .unmount]
    let notes := Stagehand.performsNotes theatre k history (opening 1 1 titleStage)
    let h := Stagehand.performs theatre k.call history (opening 1 1 titleStage)
    Unfailed notes ∧ h.world.events.filter (fun | .finished _ _ => true | _ => false) =
        [.finished "once" .done, .finished "twice" .done] ∧
      Chronicle h.callback? notes := by
  intro k again history notes h
  have hno : Unfailed notes := by decide +kernel
  refine ⟨hno, by decide +kernel, ?_⟩
  exact Stagehand.Reaches.chronicle_of_unfailed (Host.ofDepth_civil theatre Stagehand.depthLimit)
    (Stagehand.reaches_performs theatre k history _) hno

end Choreo
