import Choreo.Proofs.Scheduler.Law

/-!
Schedulers that have stopped.

The timestamp of the last frame is looked at by frames of a scheduler that plays, and every start of
a clock forgets it. So what has stopped answers every call alike whatever that timestamp is, and so
does a callback that is called at the end of a run (`Stagehand.finish_timed`). A callback that only
acts on the world leaves the scheduler alone.
-/

namespace Choreo
variable {F A L α W ε : Type}

/-- A callback that leaves the scheduler alone. -/
def Callback.IsApart : Callback F A α → Prop
  | .mk _ commands => ∀ c ∈ commands, ∃ a, c = .act a

namespace Stagehand

/-- The scheduler with another timestamp of its last frame. -/
def timed (last : Option α) (h : Stagehand F A L α W) : Stagehand F A L α W :=
  { h with scheduler := { h.scheduler with last := last } }

/-- Neither does the scheduler play, nor can it be made to play on. -/
def Stopped (h : Stagehand F A L α W) : Prop :=
  h.scheduler.phase ≠ .running ∧ h.scheduler.phase ≠ .paused

/-- Two turns that differ at most in a timestamp that nobody will look at. -/
def AlikeButClock {β : Type} (a b : Turn F A L α W ε β) : Prop :=
  ∃ last, b = (a.1, a.2.timed last) ∧ (last = a.2.scheduler.last ∨ a.2.Stopped)

theorem AlikeButClock.refl {β : Type} (a : Turn F A L α W ε β) : AlikeButClock a a :=
  ⟨a.2.scheduler.last, rfl, .inl rfl⟩

variable [Scalar α] {th : Theatre F A L α W ε} {h : Stagehand F A L α W}

theorem frames_of_ne_running (call : Caller F A L α W ε) (times : List α)
    (hp : h.scheduler.phase ≠ .running) :
    frames th call times h = (.ok (times.map fun _ => false), h) := by
  induction times with
  | nil => rfl
  | cons now rest ih =>
    simp only [frames, frame_of_ne_running call now hp, ih]
    rfl

/-- What has stopped answers a call alike, whatever the timestamp of its last frame. -/
theorem perform_timed (th : Theatre F A L α W ε) (call : Caller F A L α W ε)
    (c : Command F A α) (hs : h.Stopped) (last : Option α) :
    AlikeButClock (perform th call c h) (perform th call c (h.timed last)) := by
  have hp : (h.timed last).scheduler.phase ≠ .running := hs.1
  -- A mount and a seek forget the timestamp, and nothing else begins to play what has stopped.
  cases c with
  | mount flow playing offset callback => exact .refl _
  | seek offset =>
    cases hm : h.scheduler.mounted with
    | none =>
      have hm' : (h.timed last).scheduler.mounted = none := hm
      simp only [perform, hm, hm']
      exact ⟨last, rfl, .inr hs⟩
    | some mounted =>
      obtain ⟨flow, callback⟩ := mounted
      have hm' : (h.timed last).scheduler.mounted = some (flow, callback) := hm
      simp only [perform, hm, hm']
      exact .refl _
  | frame now =>
    simp only [perform, frame_of_ne_running call now hs.1, frame_of_ne_running call now hp]
    exact ⟨last, rfl, .inr hs⟩
  | frames times =>
    simp only [perform, frames_of_ne_running call times hs.1, frames_of_ne_running call times hp]
    exact ⟨last, rfl, .inr hs⟩
  | pause =>
    simp only [perform, Scheduler.pause, if_neg hs.1, if_neg hp]
    exact ⟨last, rfl, .inr hs⟩
  | play =>
    have hpaused : (h.timed last).scheduler.phase ≠ .paused := hs.2
    simp only [perform, Scheduler.play, if_neg hs.2, if_neg hpaused]
    exact ⟨last, rfl, .inr hs⟩
  | unmount => exact .refl _
  | act a => exact ⟨last, rfl, .inr hs⟩

theorem performAll_timed (call : Caller F A L α W ε) (cs : List (Command F A α)) (hs : h.Stopped)
    (last : Option α) :
    AlikeButClock (performAll th call cs h) (performAll th call cs (h.timed last)) := by
  induction cs generalizing h last with
  | nil => exact ⟨last, rfl, .inr hs⟩
  | cons c cs ih =>
    obtain ⟨last', heq, hor⟩ := perform_timed th call c hs last
    simp only [performAll, heq]
    generalize perform th call c h = turn at hor ⊢
    obtain ⟨r, u⟩ := turn
    cases r with
    | error f => exact ⟨last', rfl, hor⟩
    | ok x =>
      rcases hor with rfl | hs'
      · exact .refl _
      · exact ih hs' last'

theorem callBack_timed (depth : Nat) (c : Callback F A α) (hs : h.Stopped) (last : Option α) :
    AlikeButClock (callBack th depth c h) (callBack th depth c (h.timed last)) := by
  obtain ⟨tag, commands⟩ := c
  cases depth with
  | zero => exact ⟨last, rfl, .inr hs⟩
  | succ depth =>
    exact performAll_timed (h := { h with world := th.announce tag h.scheduler.phase h.world })
      _ commands hs last

/-- The end of a run does not look at the clock. -/
theorem finish_timed (th : Theatre F A L α W ε) (depth : Nat) {h u : Stagehand F A L α W}
    {last : Option α} (hu : u.ended = h.ended.timed last) :
    AlikeButClock (finish (callBack th depth) h) (finish (callBack th depth) u) := by
  have hs : h.ended.Stopped := ⟨nofun, nofun⟩
  have hm : u.scheduler.mounted = h.scheduler.mounted := by
    have hended : u.ended.scheduler.mounted = h.ended.scheduler.mounted := by
      rw [hu]
      rfl
    exact hended
  rw [finish_eq, finish_eq, hu, hm]
  rcases h.scheduler.mounted with _ | ⟨flow, _ | callback⟩
  · exact ⟨last, rfl, .inr hs⟩
  · exact ⟨last, rfl, .inr hs⟩
  · exact callBack_timed depth callback hs last

/-! ## Callbacks that leave the scheduler alone -/

theorem performAll_apart (call : Caller F A L α W ε) {cs : List (Command F A α)}
    (hc : ∀ c ∈ cs, ∃ a, c = .act a) (h : Stagehand F A L α W) :
    (performAll th call cs h).2.scheduler = h.scheduler := by
  induction cs generalizing h with
  | nil => rfl
  | cons c cs ih =>
    obtain ⟨a, rfl⟩ := hc c List.mem_cons_self
    have hsame : (perform th call (.act a) h).2.scheduler = h.scheduler := rfl
    unfold performAll
    generalize perform th call (.act a) h = turn at hsame ⊢
    obtain ⟨r, u⟩ := turn
    cases r with
    | error f => exact hsame
    | ok x => exact (ih (fun d hd => hc d (List.mem_cons_of_mem _ hd)) u).trans hsame

theorem callBack_apart (depth : Nat) {c : Callback F A α} (hc : c.IsApart)
    (h : Stagehand F A L α W) : (callBack th depth c h).2.scheduler = h.scheduler := by
  obtain ⟨tag, commands⟩ := c
  cases depth with
  | zero => rfl
  | succ depth => exact performAll_apart _ hc _

theorem finish_apart (th : Theatre F A L α W ε) (depth : Nat) {h : Stagehand F A L α W} {flow : F}
    {callback : Option (Callback F A α)} (hm : h.scheduler.mounted = some (flow, callback))
    (hc : ∀ c ∈ callback, c.IsApart) :
    (finish (callBack th depth) h).2.scheduler = h.ended.scheduler := by
  rw [finish_eq, hm]
  cases callback with
  | none => rfl
  | some c => exact callBack_apart depth (hc c rfl) _

end Stagehand
end Choreo
