import Choreo.Proofs.Scheduler.Related

/-!
What happens at a scheduler.

A call may begin a run, step its task many times, end the run and run a callback, and the callback
may make calls of its own before the first one returns. The notes of a call tell all that in order.
They change nothing: each is taken from a turn of the scheduler as it is.

Whoever uses a scheduler is a host. A host makes calls, whatever they answer, and says how callbacks
are run. It is civil if its callbacks, too, do no more to the scheduler than make calls, and do not
lead to one another for ever. Running the commands of callbacks to a depth is civil
(`Host.ofDepth_civil`), and so is a host whose callbacks look at what a call answered, go on after
one that failed, or raise by themselves.
-/

namespace Choreo
variable {F A L α W ε : Type}

/-- Something that happens at a scheduler. -/
inductive Note (F A α ε : Type) where
  /-- A mount begins a run. -/
  | mounted (callback : Option (Callback F A α))
  /-- A seek begins a run of what is mounted. -/
  | sought
  | unmounted
  /-- What the task of the run answers to a step of the replay. -/
  | replayed (answer : Except (SchedulerFault ε) Bool)
  /-- What the task of the run answers to the step of a frame. -/
  | framed (answer : Except (SchedulerFault ε) Bool)
  /-- A replay takes more steps than it is given. -/
  | endless
  /-- A callback is run, in a phase of the scheduler. -/
  | called (callback : Callback F A α) (phase : Phase)

/-- Who uses a scheduler: how it runs callbacks, and what happens meanwhile. -/
structure Host (F A L α W ε : Type) where
  call : Stagehand.Caller F A L α W ε
  notes : Callback F A α → Stagehand F A L α W → List (Note F A α ε)

namespace Stagehand

/-- The scheduler when a run is over and its callback is not yet run. -/
def ended (h : Stagehand F A L α W) : Stagehand F A L α W :=
  { h with scheduler := { h.scheduler with phase := .done, task := none } }

/-- The call of the callback of what is mounted. -/
def callNotes (h : Stagehand F A L α W) : List (Note F A α ε) :=
  match h.scheduler.mounted with
  | some (_, some callback) => [.called callback h.scheduler.phase]
  | _ => []

/-- The end of a run: its callback is called, and what happens meanwhile. -/
def finishNotes (k : Host F A L α W ε) (h : Stagehand F A L α W) : List (Note F A α ε) :=
  h.ended.callNotes ++
    match h.scheduler.mounted with
    | some (_, some callback) => k.notes callback h.ended
    | _ => []

/-- What comes of a step's answer. -/
def settleNotes (k : Host F A L α W ε) : Turn F A L α W ε Bool → List (Note F A α ε)
  | (.ok true, h) => finishNotes k h
  | (.ok false, _) => []
  | (.error _, _) => []

section
variable [Scalar α]

def catchUpNotes (th : Theatre F A L α W ε) (offset : α) :
    (limit : Nat) → Task L → Stagehand F A L α W → List (Note F A α ε)
  | 0, _, _ => [.endless]
  | limit + 1, t, h =>
    if h.scheduler.time < offset - Scheduler.slack then
      let turn :=
        stepTask th (Scalar.smaller h.scheduler.step (offset - h.scheduler.time)) t h
      .replayed turn.1 ::
        match turn with
        | (.ok false, h') =>
          match h'.scheduler.task with
          | some t' => catchUpNotes th offset limit t' h'
          | none => []
        | _ => []
    else []

def replayNotes (th : Theatre F A L α W ε) (offset : α) (t : Task L) (h : Stagehand F A L α W) :
    List (Note F A α ε) :=
  if Scalar.zero < offset then catchUpNotes th offset (catchUpLimit h.scheduler.step offset) t h
  else []

/-- The run that a restart begins, as far as the restart takes it. -/
def restartNotes (th : Theatre F A L α W ε) (k : Host F A L α W ε) (flow : F) (offset : α)
    (h : Stagehand F A L α W) : List (Note F A α ε) :=
  let (t, w) := th.build flow h.world
  let h : Stagehand F A L α W := { scheduler := rewound h.scheduler t, world := w }
  replayNotes th offset t h ++ settleNotes k (replay th offset t h)

/-- The step a frame takes when the clock runs. -/
def frameStep (th : Theatre F A L α W ε) (now last : α) (t : Task L)
    (h : Stagehand F A L α W) : Turn F A L α W ε Bool :=
  stepTask th (Scalar.smaller (Scalar.larger (now - last) Scalar.zero) h.scheduler.longest) t
    { h with scheduler := { h.scheduler with last := some now } }

def frameNotes (th : Theatre F A L α W ε) (k : Host F A L α W ε) (now : α)
    (h : Stagehand F A L α W) : List (Note F A α ε) :=
  if h.scheduler.phase ≠ .running then []
  else
    match h.scheduler.last, h.scheduler.task with
    | some last, some t =>
      .framed (frameStep th now last t h).1 :: settleNotes k (frameStep th now last t h)
    | _, _ => []

def framesNotes (th : Theatre F A L α W ε) (k : Host F A L α W ε) :
    List α → Stagehand F A L α W → List (Note F A α ε)
  | [], _ => []
  | now :: rest, h =>
    frameNotes th k now h ++
      match frame th k.call now h with
      | (.error _, _) => []
      | (.ok _, h') => framesNotes th k rest h'

/-- What happens in a call. -/
def performNotes (th : Theatre F A L α W ε) (k : Host F A L α W ε) (c : Command F A α)
    (h : Stagehand F A L α W) : List (Note F A α ε) :=
  match c with
  | .mount flow playing offset callback =>
    let s := { h.scheduler.unmount with mounted := some (flow, callback), playing := playing }
    .mounted callback :: restartNotes th k flow offset { h with scheduler := s }
  | .seek offset =>
    match h.scheduler.mounted with
    | none => []
    | some (flow, _) => .sought :: restartNotes th k flow offset h
  | .frame now => frameNotes th k now h
  | .frames times => framesNotes th k times h
  | .unmount => [.unmounted]
  | .pause | .play | .act _ => []

def performAllNotes (th : Theatre F A L α W ε) (k : Host F A L α W ε) :
    List (Command F A α) → Stagehand F A L α W → List (Note F A α ε)
  | [], _ => []
  | c :: cs, h =>
    performNotes th k c h ++
      match perform th k.call c h with
      | (.error _, _) => []
      | (.ok _, h') => performAllNotes th k cs h'

/-- The scheduler after some calls, whatever they answer. -/
def performs (th : Theatre F A L α W ε) (call : Caller F A L α W ε) :
    List (Command F A α) → Stagehand F A L α W → Stagehand F A L α W
  | [], h => h
  | c :: cs, h => performs th call cs (perform th call c h).2

/-- What happens in some calls. -/
def performsNotes (th : Theatre F A L α W ε) (k : Host F A L α W ε) :
    List (Command F A α) → Stagehand F A L α W → List (Note F A α ε)
  | [], _ => []
  | c :: cs, h => performNotes th k c h ++ performsNotes th k cs (perform th k.call c h).2

/-! ## Hosts -/

/-- What a host can make of a scheduler, and what happens meanwhile: it makes calls one after
another, whatever they answer, and may do as it likes with the world in between. -/
inductive Reaches (th : Theatre F A L α W ε) (k : Host F A L α W ε) (h₀ : Stagehand F A L α W) :
    List (Note F A α ε) → Stagehand F A L α W → Prop where
  | refl : Reaches th k h₀ [] h₀
  | world {notes : List (Note F A α ε)} {h : Stagehand F A L α W} (w : W)
      (hr : Reaches th k h₀ notes h) : Reaches th k h₀ notes { h with world := w }
  | perform {notes : List (Note F A α ε)} {h : Stagehand F A L α W} (c : Command F A α)
      (hr : Reaches th k h₀ notes h) :
      Reaches th k h₀ (notes ++ performNotes th k c h) (perform th k.call c h).2

/-- What is reached by one call after another from there is reached. -/
theorem Reaches.trans {th : Theatre F A L α W ε} {k : Host F A L α W ε}
    {h₀ h₁ h₂ : Stagehand F A L α W} {notes notes' : List (Note F A α ε)}
    (h : Reaches th k h₀ notes h₁) (h' : Reaches th k h₁ notes' h₂) :
    Reaches th k h₀ (notes ++ notes') h₂ := by
  induction h' with
  | refl =>
    rw [List.append_nil]
    exact h
  | world w _ ih => exact ih.world w
  | perform c _ ih =>
    rw [← List.append_assoc]
    exact ih.perform c

theorem reaches_performs (th : Theatre F A L α W ε) (k : Host F A L α W ε)
    (cs : List (Command F A α)) (h : Stagehand F A L α W) :
    Reaches th k h (performsNotes th k cs h) (performs th k.call cs h) := by
  induction cs generalizing h with
  | nil => exact .refl
  | cons c cs ih =>
    have hc : Reaches th k h (performNotes th k c h) (perform th k.call c h).2 :=
      Reaches.refl.perform c
    exact hc.trans (ih _)

end
end Stagehand

namespace Host
open Stagehand
variable [Scalar α] {th : Theatre F A L α W ε}

/-- A host whose callbacks leave the scheduler alone, or make calls as a civil host does. -/
inductive Civil (th : Theatre F A L α W ε) : Host F A L α W ε → Prop where
  | idle {k : Host F A L α W ε}
      (h : ∀ c h, k.notes c h = [] ∧ (k.call c h).2.scheduler = h.scheduler) : Civil th k
  | calls {k : Host F A L α W ε} (inner : Callback F A α → Stagehand F A L α W → Host F A L α W ε)
      (hi : ∀ c h, Civil th (inner c h))
      (hr : ∀ c h, Reaches th (inner c h) h (k.notes c h) (k.call c h).2) : Civil th k

/-- What happens while the commands of a callback are carried out. -/
def commandNotes (th : Theatre F A L α W ε) (k : Host F A L α W ε) :
    Callback F A α → Stagehand F A L α W → List (Note F A α ε)
  | .mk tag commands, h =>
    performAllNotes th k commands { h with world := th.announce tag h.scheduler.phase h.world }

/-- The host that runs the commands of callbacks to a depth. -/
def ofDepth (th : Theatre F A L α W ε) : (depth : Nat) → Host F A L α W ε
  | 0 => { call := callBack th 0, notes := fun _ _ => [] }
  | depth + 1 => { call := callBack th (depth + 1), notes := commandNotes th (ofDepth th depth) }

theorem ofDepth_call (th : Theatre F A L α W ε) (depth : Nat) :
    (ofDepth th depth).call = callBack th depth := by
  cases depth <;> rfl

theorem reaches_performAll (th : Theatre F A L α W ε) (k : Host F A L α W ε)
    (cs : List (Command F A α)) (h : Stagehand F A L α W) :
    Reaches th k h (performAllNotes th k cs h) (performAll th k.call cs h).2 := by
  induction cs generalizing h with
  | nil => exact .refl
  | cons c cs ih =>
    have hc : Reaches th k h (performNotes th k c h) (perform th k.call c h).2 :=
      Reaches.refl.perform c
    unfold performAllNotes performAll
    generalize perform th k.call c h = turn at hc ⊢
    obtain ⟨r, u⟩ := turn
    cases r with
    | error f =>
      rw [List.append_nil]
      exact hc
    | ok x => exact hc.trans (ih u)

/-- Callbacks that are lists of commands are civil, however deep they may lead to one another. -/
theorem ofDepth_civil (th : Theatre F A L α W ε) (depth : Nat) : (ofDepth th depth).Civil th := by
  induction depth with
  | zero => exact .idle fun _ _ => ⟨rfl, rfl⟩
  | succ depth ih =>
    refine .calls (fun _ _ => ofDepth th depth) (fun _ _ => ih) ?_
    rintro ⟨tag, commands⟩ h
    have hr := reaches_performAll th (ofDepth th depth) commands
      { h with world := th.announce tag h.scheduler.phase h.world }
    rw [ofDepth_call] at hr
    exact (Reaches.refl.world _).trans hr

end Host
end Choreo
