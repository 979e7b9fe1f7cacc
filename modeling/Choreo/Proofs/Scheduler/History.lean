import Choreo.Proofs.Scheduler.Related

/-!
Histories: commands one after another, whatever they answer.

As long as the callbacks of a history do nothing, what the scheduler plays and by which bounds can
be read off the commands alone: `Stagehand.runs_terms`. Whether a run came to its end, and how far
it came, has no part in that.
-/

namespace Choreo
variable {F A L α W W' ε : Type}

/-- A callback that does nothing. -/
def Callback.IsIdle : Callback F A α → Prop
  | .mk _ commands => commands = []

/-- A command whose callback, if it leaves one, does nothing. -/
def Command.Quiet : Command F A α → Prop
  | .mount _ _ _ (some callback) => callback.IsIdle
  | _ => True

namespace Scheduler.Terms

/-- What a command makes of the terms. -/
def after (t : Terms F A α) : Command F A α → Terms F A α
  | .mount flow playing _ callback =>
    { t with mounted := some (flow, callback), playing := playing }
  | .unmount => { t with mounted := none }
  | .pause => { t with playing := false }
  | .play => { t with playing := true }
  | .seek _ | .frame _ | .frames _ | .act _ => t

theorem foldl_after_bounds (cs : List (Command F A α)) (t : Terms F A α) :
    (cs.foldl after t).step = t.step ∧ (cs.foldl after t).longest = t.longest := by
  induction cs generalizing t with
  | nil => exact ⟨rfl, rfl⟩
  | cons c cs ih =>
    rw [List.foldl_cons, (ih _).1, (ih _).2]
    cases c <;> exact ⟨rfl, rfl⟩

/-- What is mounted calls back to no effect. -/
def Quiet (t : Terms F A α) : Prop :=
  ∀ flow callback, t.mounted = some (flow, some callback) → callback.IsIdle

theorem Quiet.after {t : Terms F A α} (ht : t.Quiet) {c : Command F A α} (hc : c.Quiet) :
    (t.after c).Quiet := by
  cases c with
  | mount f playing offset callback =>
    intro flow c' hm
    simp only [Terms.after, Option.some.injEq, Prod.mk.injEq] at hm
    obtain ⟨-, rfl⟩ := hm
    exact hc
  | unmount => exact fun _ _ hm => nomatch hm
  | seek | frame | frames | pause | play | act => exact ht

end Scheduler.Terms

namespace Stagehand
variable {th : Theatre F A L α W ε} {th' : Theatre F A L α W' ε} {call : Caller F A L α W ε}

/-- A way to run callbacks that leaves the scheduler alone when the callback does nothing. -/
def CallerIdle (call : Caller F A L α W ε) : Prop :=
  ∀ c h, c.IsIdle → (call c h).2.scheduler = h.scheduler

theorem finish_terms (hc : CallerIdle call) {h : Stagehand F A L α W}
    (hq : h.scheduler.terms.Quiet) : (finish call h).2.scheduler.terms = h.scheduler.terms := by
  unfold finish
  simp only
  split
  · next flow callback hm =>
    rw [hc callback _ (hq flow callback hm)]
    rfl
  · rfl

theorem settle_terms (hc : CallerIdle call) {turn : Turn F A L α W ε Bool}
    (hq : turn.2.scheduler.terms.Quiet) :
    (settle call turn).2.scheduler.terms = turn.2.scheduler.terms := by
  obtain ⟨r, h⟩ := turn
  rcases r with e | _ | _
  · rfl
  · rfl
  · exact finish_terms hc hq

variable [Scalar α]

theorem callBack_idle (th : Theatre F A L α W ε) (depth : Nat) :
    CallerIdle (callBack th depth) := by
  intro c h hc
  obtain ⟨tag, commands⟩ := c
  cases depth with
  | zero => rfl
  | succ depth =>
    have hc : commands = [] := hc
    subst hc
    rfl

theorem stepTask_terms (th : Theatre F A L α W ε) (dt : α) (t : Task L) (h : Stagehand F A L α W) :
    (stepTask th dt t h).2.scheduler.terms = h.scheduler.terms := rfl

theorem catchUp_terms (th : Theatre F A L α W ε) (offset : α) (limit : Nat) (t : Task L)
    (h : Stagehand F A L α W) :
    (catchUp th offset limit t h).2.scheduler.terms = h.scheduler.terms := by
  induction limit generalizing t h with
  | zero => rfl
  | succ limit ih =>
    unfold catchUp
    split
    · have hs := stepTask_terms th
        (Scalar.smaller h.scheduler.step (offset - h.scheduler.time)) t h
      simp only
      split
      · next h' heq =>
        rw [heq] at hs
        split
        · exact (ih _ h').trans hs
        · exact hs
      · exact hs
    · rfl

theorem replay_terms (th : Theatre F A L α W ε) (offset : α) (t : Task L)
    (h : Stagehand F A L α W) :
    (replay th offset t h).2.scheduler.terms = h.scheduler.terms := by
  unfold replay
  split
  · exact catchUp_terms th _ _ _ _
  · rfl

theorem restart_terms (hc : CallerIdle call) (flow : F) (offset : α) {h : Stagehand F A L α W}
    (hq : h.scheduler.terms.Quiet) :
    (restart th call flow offset h).2.scheduler.terms = h.scheduler.terms := by
  have hr := replay_terms th offset (th.build flow h.world).1
    { scheduler := rewound h.scheduler (th.build flow h.world).1
      world := (th.build flow h.world).2 }
  have hr' : _ = h.scheduler.terms := hr
  rw [restart_eq, settle_terms hc (by rw [hr']; exact hq), hr']

theorem frame_terms (hc : CallerIdle call) (now : α) {h : Stagehand F A L α W}
    (hq : h.scheduler.terms.Quiet) :
    (frame th call now h).2.scheduler.terms = h.scheduler.terms := by
  unfold frame
  simp only
  split
  · rfl
  · split
    · rfl
    · rfl
    · next last t _ _ =>
      have hs := stepTask_terms th
        (Scalar.smaller (Scalar.larger (now - last) Scalar.zero) h.scheduler.longest) t
        { h with scheduler := { h.scheduler with last := some now } }
      generalize stepTask th _ t _ = turn at hs
      have hs : turn.2.scheduler.terms = h.scheduler.terms := hs
      obtain ⟨r, u⟩ := turn
      rcases r with e | _ | _
      · exact hs
      · exact hs
      · have hf := finish_terms hc (h := u) (by rw [hs]; exact hq)
        rw [hs] at hf
        simp only
        split
        · next heq => rw [heq] at hf; exact hf
        · next heq => rw [heq] at hf; exact hf

theorem frames_terms (hc : CallerIdle call) (times : List α) {h : Stagehand F A L α W}
    (hq : h.scheduler.terms.Quiet) :
    (frames th call times h).2.scheduler.terms = h.scheduler.terms := by
  induction times generalizing h with
  | nil => rfl
  | cons now rest ih =>
    have hf : (frame th call now h).2.scheduler.terms = h.scheduler.terms := frame_terms hc now hq
    unfold frames
    split
    · next heq => rw [heq] at hf; exact hf
    · next more u heq =>
      rw [heq] at hf
      exact (ih (h := u) (by rw [hf]; exact hq)).trans hf

theorem perform_terms (hc : CallerIdle call) {c : Command F A α} (hq : c.Quiet)
    {h : Stagehand F A L α W} (ht : h.scheduler.terms.Quiet) :
    (perform th call c h).2.scheduler.terms = h.scheduler.terms.after c := by
  cases c with
  | mount flow playing offset callback =>
    exact restart_terms hc flow offset (h := { h with scheduler :=
      { h.scheduler.unmount with mounted := some (flow, callback), playing := playing } })
      (ht.after hq)
  | seek offset =>
    simp only [perform]
    split
    · rfl
    · exact restart_terms hc _ _ ht
  | frame now => exact frame_terms hc now ht
  | frames times => exact frames_terms hc times ht
  | pause => rfl
  | play =>
    simp only [perform, Scheduler.play]
    split <;> rfl
  | unmount => rfl
  | act a => rfl

theorem run_terms {c : Command F A α} (hq : c.Quiet) {h : Stagehand F A L α W}
    (ht : h.scheduler.terms.Quiet) :
    (run th c h).2.scheduler.terms = h.scheduler.terms.after c :=
  perform_terms (callBack_idle th depthLimit) hq ht

/-! ## Runs -/

/-- Carries out commands one after another and keeps what each of them answered. -/
def runs (th : Theatre F A L α W ε) :
    List (Command F A α) → Stagehand F A L α W →
      List (Except (SchedulerFault ε) Reply) × Stagehand F A L α W
  | [], h => ([], h)
  | c :: cs, h =>
    let (r, h') := run th c h
    let (rs, h'') := runs th cs h'
    (r :: rs, h'')

theorem runs_related {R : W → W' → Prop} (ht : th.Related th' R) (cs : List (Command F A α))
    {h : Stagehand F A L α W} {h' : Stagehand F A L α W'} (hm : Matched R h h') :
    Alike (Matched R) (runs th cs h) (runs th' cs h') := by
  induction cs generalizing h h' with
  | nil => exact ⟨rfl, hm⟩
  | cons c cs ih =>
    obtain ⟨r, u, u', hu, hu', hR⟩ := (run_related ht c hm).exists_eq
    obtain ⟨rs, v, v', hv, hv', hR⟩ := (ih hR).exists_eq
    simp only [runs, hu, hu', hv, hv']
    exact ⟨rfl, hR⟩

theorem runs_terms {cs : List (Command F A α)} (hq : ∀ c ∈ cs, c.Quiet)
    {h : Stagehand F A L α W} (ht : h.scheduler.terms.Quiet) :
    (runs th cs h).2.scheduler.terms = cs.foldl Scheduler.Terms.after h.scheduler.terms := by
  induction cs generalizing h with
  | nil => rfl
  | cons c cs ih =>
    have hc := hq c List.mem_cons_self
    have hr : (run th c h).2.scheduler.terms = h.scheduler.terms.after c := run_terms hc ht
    have hi := ih (fun d hd => hq d (List.mem_cons_of_mem c hd)) (h := (run th c h).2)
      (by rw [hr]; exact ht.after hc)
    rw [List.foldl_cons, ← hr, ← hi]
    rfl

end Stagehand
end Choreo
