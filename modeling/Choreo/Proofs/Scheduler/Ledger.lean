import Mathlib.Data.List.Induction
import Choreo.Proofs.Scheduler.Sound
import Choreo.Proofs.Scheduler.Strides

/-!
The books of a run.

The time of a scheduler is advanced in replays and in frames, and how far a frame advances it
depends on a timestamp that a mount, a seek and the end of a pause forget. The ledger of a run tells
all that in order. It changes nothing: each posting is taken from a turn of the scheduler as it is.

After any commands the books balance, whatever the timestamps are, and whatever callbacks are run in
between (`Stagehand.runs_balanced`): the time is the sum of the steps that the task was given since
its run began, every step is within its bounds, and the first frame of a clock gives none, so that
no step reaches back over a pause or over the beginning of a run.

The books are kept in doubles as well as in rationals, so nothing is asked of the arithmetic but
what the two have in common (`Scalar.Orderly`).
-/

namespace Choreo
variable {F A L α W ε : Type}

/-! ## Orderly arithmetic -/

namespace Scalar
section
variable [Scalar α]

/-- Neither infinite nor without a value. -/
def IsFinite (x : α) : Prop := ∃ negative q, exact x = .finite negative q

/-- It has a value, maybe an infinite one. -/
def IsNumber (x : α) : Prop := exact x ≠ .nan

end

/-- What rationals and doubles have in common, as far as clocks are concerned. The last of these
says that a difference does not vanish: it holds of doubles as they underflow gradually. -/
structure Orderly (α : Type) [Scalar α] : Prop where
  le_of_not_lt : ∀ {a b : α}, IsNumber a → IsNumber b → ¬a < b → b ≤ a
  le_of_lt : ∀ {a b : α}, a < b → a ≤ b
  isNumber_of_le : ∀ {a b : α}, a ≤ b → IsNumber a ∧ IsNumber b
  isNumber_sub : ∀ {a b : α}, IsFinite a → IsFinite b → IsNumber (a - b)
  sub_pos : ∀ {a b : α}, a < b - Scheduler.slack → zero < b - a

theorem isFinite_rat (x : Rat) : IsFinite x := ⟨_, _, rfl⟩

theorem isNumber_rat (x : Rat) : IsNumber x := nofun

theorem orderly_rat : Orderly Rat where
  le_of_not_lt _ _ h := not_lt.mp h
  le_of_lt h := h.le
  isNumber_of_le _ := ⟨isNumber_rat _, isNumber_rat _⟩
  isNumber_sub _ _ := isNumber_rat _
  sub_pos {a b} h := by
    rw [zero_rat]
    linarith [Stagehand.slack_pos]

namespace Orderly
variable [Scalar α]

theorem le_refl (ho : Orderly α) {a : α} (ha : IsNumber a) : a ≤ a := by
  by_cases h : a < a
  · exact ho.le_of_lt h
  · exact ho.le_of_not_lt ha ha h

/-- The stride of a replay that has not caught up. -/
theorem stride_bounds (ho : Orderly α) {step offset time : α} (hstep : zero < step)
    (htime : time < offset - Scheduler.slack) :
    zero < smaller step (offset - time) ∧ smaller step (offset - time) ≤ step := by
  unfold smaller
  by_cases h : offset - time < step
  · rw [if_pos h]
    exact ⟨ho.sub_pos htime, ho.le_of_lt h⟩
  · rw [if_neg h]
    exact ⟨hstep, ho.le_refl (ho.isNumber_of_le (ho.le_of_lt hstep)).2⟩

/-- The step of a frame, however the clock went. -/
theorem frame_bounds (ho : Orderly α) {longest last now : α} (hlongest : zero ≤ longest)
    (hlast : IsFinite last) (hnow : IsFinite now) :
    zero ≤ smaller (larger (now - last) zero) longest ∧
      smaller (larger (now - last) zero) longest ≤ longest := by
  obtain ⟨hzero, hbound⟩ := ho.isNumber_of_le hlongest
  have hpassed : IsNumber (now - last) := ho.isNumber_sub hnow hlast
  have hlarger : zero ≤ larger (now - last) zero := by
    unfold larger
    by_cases h : now - last < zero
    · rw [if_pos h]
      exact ho.le_refl hzero
    · rw [if_neg h]
      exact ho.le_of_not_lt hpassed hzero h
  unfold smaller
  by_cases h : longest < larger (now - last) zero
  · rw [if_pos h]
    exact ⟨hlongest, ho.le_refl hbound⟩
  · rw [if_neg h]
    exact ⟨hlarger, ho.le_of_not_lt hbound (ho.isNumber_of_le hlarger).2 h⟩

end Orderly
end Scalar

/-! ## Ledgers -/

/-- What moves the time of a run, or its clock. -/
inductive Posting (α : Type) where
  /-- A mount or a seek begins a run. -/
  | began
  /-- A replay gives the task a step. -/
  | replayed (dt : α)
  /-- A frame starts the clock. -/
  | started (now : α)
  /-- A frame gives the task a step. -/
  | framed (now dt : α)
  /-- A pause is over. -/
  | resumed
  | unmounted
  deriving DecidableEq

namespace Posting

/-- The step the task is given. -/
def step? : Posting α → Option α
  | replayed dt => some dt
  | framed _ dt => some dt
  | _ => none

/-- What the clock shows from then on, if it runs. -/
def reading? : Posting α → Option α
  | started now => some now
  | framed now _ => some now
  | _ => none

/-- The clock is stopped and will be started anew. -/
def Stops : Posting α → Prop
  | began | resumed | unmounted => True
  | _ => False

/-- The steps given in the run so far. -/
def onto (dts : List α) : Posting α → List α
  | began => []
  | p => dts ++ p.step?.toList

theorem onto_of_step {p : Posting α} {dt : α} (hp : p.step? = some dt) (dts : List α) :
    p.onto dts = dts ++ [dt] := by
  cases p <;> cases hp <;> rfl

end Posting

abbrev Ledger (α : Type) := List (Posting α)

namespace Ledger

/-- The steps that were given since the last run began. -/
def given (l : Ledger α) : List α := l.foldl Posting.onto []

/-- What the clock shows, if it runs. -/
def reading (l : Ledger α) : Option α := l.getLast?.bind Posting.reading?

theorem given_concat (l : Ledger α) (p : Posting α) : given (l ++ [p]) = p.onto l.given := by
  rw [given, List.foldl_append]
  rfl

theorem reading_concat (l : Ledger α) (p : Posting α) : reading (l ++ [p]) = p.reading? := by
  rw [reading, List.getLast?_concat]
  rfl

variable [Scalar α]

/-- A posting keeps the rules, after what was posted before. -/
def Admits (step longest : α) (before : Ledger α) : Posting α → Prop
  | .replayed dt => Scalar.zero < dt ∧ dt ≤ step
  | .started _ => before.reading = none
  | .framed now dt => ∃ last, before.reading = some last ∧
      dt = Scalar.smaller (Scalar.larger (now - last) Scalar.zero) longest ∧
      (Scalar.IsFinite last → Scalar.IsFinite now → Scalar.zero ≤ dt ∧ dt ≤ longest)
  | _ => True

/-- Every posting keeps the rules. -/
def Sound (step longest : α) (l : Ledger α) : Prop :=
  ∀ before p after, l = before ++ p :: after → Admits step longest before p

theorem Sound.nil {step longest : α} : Sound step longest ([] : Ledger α) :=
  fun before _ _ h => absurd h.symm (List.append_ne_nil_of_right_ne_nil before nofun)

theorem Sound.concat {step longest : α} {l : Ledger α} {p : Posting α} (hl : Sound step longest l)
    (hp : Admits step longest l p) : Sound step longest (l ++ [p]) := by
  intro before q after heq
  rcases List.eq_nil_or_concat after with rfl | ⟨after', r, rfl⟩
  · obtain ⟨rfl, hq⟩ := List.append_inj' heq rfl
    cases hq
    exact hp
  · rw [List.concat_eq_append, ← List.cons_append, ← List.append_assoc] at heq
    exact hl before q after' (List.append_inj' heq rfl).1

theorem Sound.of_append {step longest : α} {l m : Ledger α} (h : Sound step longest (l ++ m)) :
    Sound step longest l :=
  fun before p after heq => h before p (after ++ m) (by rw [heq, List.append_assoc]; rfl)

/-- A clock that runs after a stop was started in between. -/
theorem Sound.started_of_reading {step longest last : α} {before mid : Ledger α} {stop : Posting α}
    (hl : Sound step longest (before ++ stop :: mid)) (hstop : stop.Stops)
    (hr : reading (before ++ stop :: mid) = some last) : ∃ now, .started now ∈ mid := by
  -- Going back from the reading, every frame that gave a step has a reading right before it.
  induction mid using List.reverseRecOn generalizing last with
  | nil =>
    rw [reading_concat] at hr
    cases stop with
    | began | resumed | unmounted => cases hr
    | replayed | started | framed => exact hstop.elim
  | append_singleton mid p ih =>
    rw [← List.cons_append, ← List.append_assoc] at hl hr
    rw [reading_concat] at hr
    cases p with
    | started now => exact ⟨now, List.mem_append_right mid List.mem_cons_self⟩
    | framed now dt =>
      obtain ⟨last', hr', -⟩ := hl _ _ [] rfl
      obtain ⟨now', hmem⟩ := ih hl.of_append hr'
      exact ⟨now', List.mem_append_left _ hmem⟩
    | began | replayed | resumed | unmounted => cases hr

/-- No step reaches back over a stop of the clock. -/
theorem Sound.started {step longest now dt : α} {before mid after : Ledger α} {stop : Posting α}
    (hl : Sound step longest (before ++ stop :: (mid ++ .framed now dt :: after)))
    (hstop : stop.Stops) : ∃ now', .started now' ∈ mid := by
  rw [← List.cons_append, ← List.append_assoc] at hl
  obtain ⟨last, hr, -⟩ := hl _ _ after rfl
  exact hl.of_append.started_of_reading hstop hr

end Ledger

/-! ## Keeping the books -/

/-- A task of a flow that was built and then given steps. What else happened to the world in between
does not matter. -/
inductive Theatre.Fed (th : Theatre F A L α W ε) (flow : F) : List α → Task L → Prop where
  | built (w : W) : Fed th flow [] (th.build flow w).1
  | stepped {dts : List α} {t : Task L} (dt : α) (w : W) (h : Fed th flow dts t) :
    Fed th flow (dts ++ [dt]) (t.next th.machine (some dt) w).1.2

namespace Stagehand

/-- What is posted while a callback is run. -/
abbrev Clerk (F A L α W : Type) := Callback F A α → Stagehand F A L α W → Ledger α

def finishLedger (clerk : Clerk F A L α W) (h : Stagehand F A L α W) : Ledger α :=
  match h.scheduler.mounted with
  | some (_, some callback) => clerk callback h.ended
  | _ => []

def settleLedger (clerk : Clerk F A L α W) : Turn F A L α W ε Bool → Ledger α
  | (.ok true, h) => finishLedger clerk h
  | (.ok false, _) => []
  | (.error _, _) => []

section
variable [Scalar α]

/-- The strides that a replay takes. -/
def replayStrides (th : Theatre F A L α W ε) (offset : α) (t : Task L)
    (h : Stagehand F A L α W) : List α :=
  if Scalar.zero < offset then stridesTaken th offset (catchUpLimit h.scheduler.step offset) t h
  else []

def restartLedger (th : Theatre F A L α W ε) (clerk : Clerk F A L α W) (flow : F) (offset : α)
    (h : Stagehand F A L α W) : Ledger α :=
  let (t, w) := th.build flow h.world
  let h : Stagehand F A L α W := { scheduler := rewound h.scheduler t, world := w }
  .began ::
    ((replayStrides th offset t h).map .replayed ++ settleLedger clerk (replay th offset t h))

def frameLedger (th : Theatre F A L α W ε) (clerk : Clerk F A L α W) (now : α)
    (h : Stagehand F A L α W) : Ledger α :=
  if h.scheduler.phase ≠ .running then []
  else
    match h.scheduler.last, h.scheduler.task with
    | none, _ => [.started now]
    | some _, none => []
    | some last, some t =>
      .framed now (Scalar.smaller (Scalar.larger (now - last) Scalar.zero) h.scheduler.longest) ::
        settleLedger clerk (frameStep th now last t h)

def framesLedger (th : Theatre F A L α W ε) (call : Caller F A L α W ε)
    (clerk : Clerk F A L α W) : List α → Stagehand F A L α W → Ledger α
  | [], _ => []
  | now :: rest, h =>
    frameLedger th clerk now h ++
      match frame th call now h with
      | (.error _, _) => []
      | (.ok _, h') => framesLedger th call clerk rest h'

def performLedger (th : Theatre F A L α W ε) (call : Caller F A L α W ε)
    (clerk : Clerk F A L α W) (c : Command F A α) (h : Stagehand F A L α W) : Ledger α :=
  match c with
  | .mount flow playing offset callback =>
    let s := { h.scheduler.unmount with mounted := some (flow, callback), playing := playing }
    restartLedger th clerk flow offset { h with scheduler := s }
  | .seek offset =>
    match h.scheduler.mounted with
    | none => []
    | some (flow, _) => restartLedger th clerk flow offset h
  | .frame now => frameLedger th clerk now h
  | .frames times => framesLedger th call clerk times h
  | .play => if h.scheduler.phase = .paused then [.resumed] else []
  | .unmount => [.unmounted]
  | .pause | .act _ => []

def performAllLedger (th : Theatre F A L α W ε) (call : Caller F A L α W ε)
    (clerk : Clerk F A L α W) : List (Command F A α) → Stagehand F A L α W → Ledger α
  | [], _ => []
  | c :: cs, h =>
    performLedger th call clerk c h ++
      match perform th call c h with
      | (.error _, _) => []
      | (.ok _, h') => performAllLedger th call clerk cs h'

def callBackLedger (th : Theatre F A L α W ε) : (depth : Nat) → Clerk F A L α W
  | 0, _, _ => []
  | depth + 1, .mk tag commands, h =>
    performAllLedger th (callBack th depth) (callBackLedger th depth) commands
      { h with world := th.announce tag h.scheduler.phase h.world }

/-- What is posted while commands are carried out, and while the callbacks are that they lead to. -/
def runsLedger (th : Theatre F A L α W ε) :
    List (Command F A α) → Stagehand F A L α W → Ledger α
  | [], _ => []
  | c :: cs, h =>
    performLedger th (callBack th depthLimit) (callBackLedger th depthLimit) c h ++
      runsLedger th cs (run th c h).2

/-! ## Balance -/

/-- A scheduler is as its ledger says. -/
structure Balanced (th : Theatre F A L α W ε) (step longest : α) (l : Ledger α)
    (s : Scheduler F A L α) : Prop where
  bounds : s.step = step ∧ s.longest = longest
  time : s.time = Scalar.sum l.given
  clock : s.last = l.reading
  task : ∀ t, s.task = some t → ∃ flow callback,
    s.mounted = some (flow, callback) ∧ th.Fed flow l.given t
  sound : l.Sound step longest

/-- Callbacks keep the books, if a clerk posts for them. -/
def KeepsBooks (th : Theatre F A L α W ε) (step longest : α) (call : Caller F A L α W ε)
    (clerk : Clerk F A L α W) : Prop :=
  ∀ c l h, Balanced th step longest l h.scheduler →
    Balanced th step longest (l ++ clerk c h) (call c h).2.scheduler

variable {th : Theatre F A L α W ε} {step longest : α} {l : Ledger α} {s : Scheduler F A L α}
  {h u : Stagehand F A L α W} {t : Task L} {call : Caller F A L α W ε} {clerk : Clerk F A L α W}

/-- A run begins with nothing given. -/
theorem balanced_rewound (hbounds : s.step = step ∧ s.longest = longest)
    (hsound : l.Sound step longest) {flow : F} {callback : Option (Callback F A α)}
    (hm : s.mounted = some (flow, callback)) (w : W) :
    Balanced th step longest (l ++ [.began]) (rewound s (th.build flow w).1) where
  bounds := hbounds
  time := by
    rw [Ledger.given_concat]
    rfl
  clock := (Ledger.reading_concat l .began).symm
  task t ht := by
    cases ht
    rw [Ledger.given_concat]
    exact ⟨flow, callback, hm, .built w⟩
  sound := hsound.concat trivial

/-- The task is given a step. -/
theorem Balanced.stepTask (hb : Balanced th step longest l h.scheduler)
    (ht : h.scheduler.task = some t) {p : Posting α} {dt : α} (hp : p.step? = some dt)
    (hadmits : Ledger.Admits step longest l p)
    (hu : u.scheduler = { h.scheduler with last := p.reading? }) :
    Balanced th step longest (l ++ [p]) (Stagehand.stepTask th dt t u).2.scheduler := by
  have hgiven : Ledger.given (l ++ [p]) = l.given ++ [dt] := by
    rw [Ledger.given_concat, Posting.onto_of_step hp]
  have hstep : (Stagehand.stepTask th dt t u).2.scheduler =
      { u.scheduler with
        time := u.scheduler.time + dt
        task := some (t.next th.machine (some dt) u.world).1.2 } := rfl
  rw [hstep, hu]
  refine ⟨hb.bounds, ?_, (Ledger.reading_concat l p).symm, fun t' ht' => ?_,
    hb.sound.concat hadmits⟩
  · rw [hgiven, Scalar.sum, List.foldl_append]
    exact congrArg (· + dt) hb.time
  · cases ht'
    obtain ⟨flow, callback, hm, hfed⟩ := hb.task t ht
    rw [hgiven]
    exact ⟨flow, callback, hm, hfed.stepped dt u.world⟩

/-- The clock is started or stopped, and no step is given. -/
theorem Balanced.turnClock (hb : Balanced th step longest l s) {p : Posting α}
    (hp : ∀ dts, p.onto dts = dts) (hadmits : Ledger.Admits step longest l p) (phase : Phase)
    (playing : Bool) :
    Balanced th step longest (l ++ [p])
      { s with last := p.reading?, phase := phase, playing := playing } := by
  have hgiven : Ledger.given (l ++ [p]) = l.given := by rw [Ledger.given_concat, hp]
  refine ⟨hb.bounds, ?_, (Ledger.reading_concat l p).symm, fun t ht => ?_,
    hb.sound.concat hadmits⟩
  · rw [hgiven]
    exact hb.time
  · rw [hgiven]
    exact hb.task t ht

/-- The task is dropped. -/
theorem Balanced.drop (hb : Balanced th step longest l s) (phase : Phase)
    (mounted : Option (F × Option (Callback F A α))) :
    Balanced th step longest l { s with phase := phase, mounted := mounted, task := none } :=
  ⟨hb.bounds, hb.time, hb.clock, nofun, hb.sound⟩

theorem Balanced.caughtUp (hb : Balanced th step longest l s) :
    Balanced th step longest l s.caughtUp :=
  ⟨hb.bounds, hb.time, hb.clock, hb.task, hb.sound⟩

theorem Balanced.pause (hb : Balanced th step longest l s) : Balanced th step longest l s.pause :=
  ⟨hb.bounds, hb.time, hb.clock, hb.task, hb.sound⟩

theorem Balanced.play (hb : Balanced th step longest l s) :
    Balanced th step longest (l ++ if s.phase = .paused then [.resumed] else []) s.play := by
  by_cases hp : s.phase = .paused
  · rw [if_pos hp, Scheduler.play_of_paused hp]
    exact hb.turnClock (p := .resumed) List.append_nil trivial .running true
  · rw [if_neg hp, List.append_nil, Scheduler.play_of_ne_paused hp]
    exact ⟨hb.bounds, hb.time, hb.clock, hb.task, hb.sound⟩

theorem Balanced.unmount (hb : Balanced th step longest l s) :
    Balanced th step longest (l ++ [.unmounted]) s.unmount :=
  (hb.turnClock (p := .unmounted) List.append_nil trivial .uninitialized s.playing).drop _ none

theorem Balanced.finish (hk : KeepsBooks th step longest call clerk)
    (hb : Balanced th step longest l h.scheduler) :
    Balanced th step longest (l ++ finishLedger clerk h) (finish call h).2.scheduler := by
  rw [finishLedger, finish_eq]
  rcases h.scheduler.mounted with _ | ⟨flow, _ | callback⟩
  · rw [List.append_nil]
    exact hb.drop _ _
  · rw [List.append_nil]
    exact hb.drop _ _
  · exact hk _ _ _ (hb.drop _ _)

section
variable (ho : Scalar.Orderly α) (hstep : Scalar.zero < step) (hlongest : Scalar.zero ≤ longest)
include ho

/-! ## Replays -/

section
include hstep

theorem Balanced.catchUp (offset : α) (limit : Nat)
    (hb : Balanced th step longest l h.scheduler) (ht : h.scheduler.task = some t)
    (hlast : h.scheduler.last = none) :
    Balanced th step longest (l ++ (stridesTaken th offset limit t h).map .replayed)
      (catchUp th offset limit t h).2.scheduler := by
  induction limit generalizing l t h with
  | zero =>
    rw [stridesTaken, List.map_nil, List.append_nil]
    exact hb
  | succ limit ih =>
    unfold stridesTaken Stagehand.catchUp
    by_cases htime : h.scheduler.time < offset - Scheduler.slack
    · have hbounds := ho.stride_bounds hstep htime
      simp only [if_pos htime, hb.bounds.1, List.map_cons]
      generalize Scalar.smaller step (offset - h.scheduler.time) = dt at hbounds ⊢
      have hs := hb.stepTask (p := .replayed dt) (u := h) ht rfl hbounds (by
        rw [show (Posting.replayed dt).reading? = none from rfl, ← hlast])
      have htask := stepTask_task th dt t h
      have hclock : (Stagehand.stepTask th dt t h).2.scheduler.last = none := hlast
      rw [List.append_cons]
      generalize Stagehand.stepTask th dt t h = turn at hs htask hclock ⊢
      obtain ⟨r, h'⟩ := turn
      rcases r with f | _ | _
      · rw [List.map_nil, List.append_nil]
        exact hs
      · simp only at htask
        simp only [htask]
        exact ih hs htask hclock
      · rw [List.map_nil, List.append_nil]
        exact hs
    · simp only [if_neg htime, List.map_nil, List.append_nil]
      exact hb

theorem Balanced.replay (offset : α) (hb : Balanced th step longest l h.scheduler)
    (ht : h.scheduler.task = some t) (hlast : h.scheduler.last = none) :
    Balanced th step longest (l ++ (replayStrides th offset t h).map .replayed)
      (replay th offset t h).2.scheduler := by
  unfold replayStrides Stagehand.replay
  split
  · exact hb.catchUp ho hstep offset _ ht hlast
  · rw [List.map_nil, List.append_nil]
    exact hb

theorem balanced_restart (hk : KeepsBooks th step longest call clerk) (offset : α)
    (hbounds : h.scheduler.step = step ∧ h.scheduler.longest = longest)
    (hsound : l.Sound step longest) {flow : F} {callback : Option (Callback F A α)}
    (hm : h.scheduler.mounted = some (flow, callback)) :
    Balanced th step longest (l ++ restartLedger th clerk flow offset h)
      (restart th call flow offset h).2.scheduler := by
  have hr := (balanced_rewound hbounds hsound hm h.world).replay (h := {
    scheduler := rewound h.scheduler (th.build flow h.world).1
    world := (th.build flow h.world).2 }) ho hstep offset rfl rfl
  rw [restart_eq, restartLedger, List.append_cons, ← List.append_assoc]
  generalize Stagehand.replay th offset _ _ = turn at hr ⊢
  obtain ⟨r, h'⟩ := turn
  rcases r with f | _ | _
  · rw [settleLedger, List.append_nil]
    exact hr
  · rw [settleLedger, List.append_nil]
    exact hr.caughtUp
  · exact hr.finish hk

end

/-! ## Frames -/

include hlongest

theorem Balanced.frame (hk : KeepsBooks th step longest call clerk) (now : α)
    (hb : Balanced th step longest l h.scheduler) :
    Balanced th step longest (l ++ frameLedger th clerk now h)
      (frame th call now h).2.scheduler := by
  unfold frameLedger
  by_cases hphase : h.scheduler.phase = .running
  · rw [if_neg (not_not_intro hphase)]
    cases hlast : h.scheduler.last with
    | none =>
      rw [frame_clock call now hphase hlast]
      exact hb.turnClock (p := .started now) List.append_nil (hb.clock.symm.trans hlast) _ _
    | some last =>
      cases ht : h.scheduler.task with
      | none =>
        rw [frame_of_no_task call now hlast ht, List.append_nil]
        exact hb
      | some t =>
        have hreading : l.reading = some last := hb.clock.symm.trans hlast
        simp only [hb.bounds.2]
        rw [frame_step call now hphase hlast ht]
        unfold frameStep
        rw [hb.bounds.2]
        have hadmits : Ledger.Admits step longest l (.framed now
            (Scalar.smaller (Scalar.larger (now - last) Scalar.zero) longest)) :=
          ⟨last, hreading, rfl, ho.frame_bounds hlongest⟩
        generalize Scalar.smaller (Scalar.larger (now - last) Scalar.zero) longest = dt at hadmits ⊢
        have hs := hb.stepTask (u := { h with scheduler := { h.scheduler with last := some now } })
          ht rfl hadmits rfl
        rw [List.append_cons]
        generalize Stagehand.stepTask th dt t _ = turn at hs ⊢
        obtain ⟨r, h'⟩ := turn
        rcases r with f | _ | _
        · rw [settleLedger, List.append_nil]
          exact hs
        · rw [settleLedger, List.append_nil]
          exact hs
        · rw [settleFrame_snd]
          exact hs.finish hk
  · rw [if_pos hphase, frame_of_ne_running call now hphase, List.append_nil]
    exact hb

theorem Balanced.frames (hk : KeepsBooks th step longest call clerk) (times : List α)
    (hb : Balanced th step longest l h.scheduler) :
    Balanced th step longest (l ++ framesLedger th call clerk times h)
      (frames th call times h).2.scheduler := by
  induction times generalizing l h with
  | nil =>
    rw [framesLedger, List.append_nil]
    exact hb
  | cons now rest ih =>
    have hf := hb.frame ho hlongest hk now
    unfold framesLedger Stagehand.frames
    rw [← List.append_assoc]
    generalize Stagehand.frame th call now h = turn at hf ⊢
    obtain ⟨r, h'⟩ := turn
    cases r with
    | error f =>
      rw [List.append_nil]
      exact hf
    | ok more => exact ih hf

/-! ## Commands -/

include hstep

theorem Balanced.perform (hk : KeepsBooks th step longest call clerk) (c : Command F A α)
    (hb : Balanced th step longest l h.scheduler) :
    Balanced th step longest (l ++ performLedger th call clerk c h)
      (perform th call c h).2.scheduler := by
  cases c with
  | mount flow playing offset callback =>
    exact balanced_restart ho hstep hk offset (h := { h with scheduler :=
      { h.scheduler.unmount with mounted := some (flow, callback), playing := playing } })
      hb.bounds hb.sound rfl
  | seek offset =>
    cases hm : h.scheduler.mounted with
    | none =>
      simp only [performLedger, Stagehand.perform, hm, List.append_nil]
      exact hb
    | some mounted =>
      obtain ⟨flow, callback⟩ := mounted
      simp only [performLedger, Stagehand.perform, hm]
      exact balanced_restart ho hstep hk offset hb.bounds hb.sound hm
  | frame now => exact hb.frame ho hlongest hk now
  | frames times => exact hb.frames ho hlongest hk times
  | unmount => exact hb.unmount
  | pause =>
    rw [performLedger, List.append_nil]
    exact hb.pause
  | play => exact hb.play
  | act a =>
    rw [performLedger, List.append_nil]
    exact hb

theorem Balanced.performAll (hk : KeepsBooks th step longest call clerk)
    (cs : List (Command F A α)) (hb : Balanced th step longest l h.scheduler) :
    Balanced th step longest (l ++ performAllLedger th call clerk cs h)
      (performAll th call cs h).2.scheduler := by
  induction cs generalizing l h with
  | nil =>
    rw [performAllLedger, List.append_nil]
    exact hb
  | cons c cs ih =>
    have hp := hb.perform ho hstep hlongest hk c
    unfold performAllLedger Stagehand.performAll
    rw [← List.append_assoc]
    generalize Stagehand.perform th call c h = turn at hp ⊢
    obtain ⟨r, h'⟩ := turn
    cases r with
    | error f =>
      rw [List.append_nil]
      exact hp
    | ok x => exact ih hp

/-- The induction is on how deep callbacks may lead to one another. -/
theorem callBack_keepsBooks (depth : Nat) :
    KeepsBooks th step longest (callBack th depth) (callBackLedger th depth) := by
  induction depth with
  | zero =>
    intro c l h hb
    rw [callBackLedger, List.append_nil]
    exact hb
  | succ depth ih =>
    rintro ⟨tag, commands⟩ l h hb
    exact Balanced.performAll ho hstep hlongest ih commands
      (h := { h with world := th.announce tag h.scheduler.phase h.world }) hb

theorem Balanced.runs (cs : List (Command F A α))
    (hb : Balanced th step longest l h.scheduler) :
    Balanced th step longest (l ++ runsLedger th cs h) (runs th cs h).2.scheduler := by
  induction cs generalizing l h with
  | nil =>
    rw [runsLedger, List.append_nil]
    exact hb
  | cons c cs ih =>
    have hp := hb.perform ho hstep hlongest
      (callBack_keepsBooks ho hstep hlongest depthLimit) c
    rw [runsLedger, ← List.append_assoc]
    exact ih hp

end

/-! ## The law -/

/-- After any commands, at any timestamps, the time is the sum of the steps that the task was given
since its run began. A step of a replay is positive and at most the step of seeking; that of a frame
is the time since the frame before, clamped, and between it and any stop of the clock the clock was
started by a frame that gave none. A frame changes nothing unless the scheduler plays. -/
theorem runs_balanced (th : Theatre F A L α W ε) (ho : Scalar.Orderly α)
    (hstep : Scalar.zero < step) (hlongest : Scalar.zero ≤ longest) (w : W)
    (cs : List (Command F A α)) :
    let start : Stagehand F A L α W := { scheduler := .idle step longest, world := w }
    let ledger := runsLedger th cs start
    let h := (runs th cs start).2
    (h.scheduler.time = Scalar.sum ledger.given ∧ ∀ t, h.scheduler.task = some t →
      ∃ flow callback, h.scheduler.mounted = some (flow, callback) ∧ th.Fed flow ledger.given t) ∧
    (∀ dt, .replayed dt ∈ ledger → Scalar.zero < dt ∧ dt ≤ step) ∧
    (∀ before now dt after, ledger = before ++ .framed now dt :: after →
      ∃ last, Ledger.reading before = some last ∧
        dt = Scalar.smaller (Scalar.larger (now - last) Scalar.zero) longest ∧
        (Scalar.IsFinite last → Scalar.IsFinite now → Scalar.zero ≤ dt ∧ dt ≤ longest)) ∧
    (∀ before stop mid now dt after, ledger = before ++ stop :: (mid ++ .framed now dt :: after) →
      stop.Stops → ∃ first, .started first ∈ mid) ∧
    h.scheduler.last = ledger.reading ∧
    ∀ call now, (h.scheduler.phase ≠ .running → frame th call now h = (.ok false, h)) ∧
      (h.scheduler.phase = .running → ledger.reading = none → frame th call now h =
        (.ok true, { h with scheduler := { h.scheduler with last := some now } })) := by
  intro start ledger h
  have hidle : Balanced th step longest [] start.scheduler :=
    ⟨⟨rfl, rfl⟩, rfl, rfl, nofun, .nil⟩
  have hb : Balanced th step longest ledger h.scheduler := hidle.runs ho hstep hlongest cs
  refine ⟨⟨hb.time, hb.task⟩, fun dt hmem => ?_, fun before now dt after heq => ?_,
    fun before stop mid now dt after heq hstop => ?_, hb.clock, fun call now => ⟨?_, ?_⟩⟩
  · obtain ⟨before, after, heq⟩ := List.append_of_mem hmem
    exact hb.sound before _ after heq
  · exact hb.sound before _ after heq
  · have hsound := hb.sound
    rw [heq] at hsound
    exact hsound.started hstop
  · exact fun hphase => frame_of_ne_running call now hphase
  · exact fun hphase hreading => frame_clock call now hphase (hb.clock.trans hreading)

end
end Stagehand

/-! ## A title that is paused -/

namespace Show
open Stagehand

/-- The clock goes backward, the show is paused, and the clock is far ahead when it is played on. -/
theorem runs_balanced_lateTitle :
    let history : List (Order Rat) := [.mount lateTitle true (1 / 4) none, .frame 5, .frame 6,
      .frame 4, .pause, .frame 100, .play, .frame 200, .frame (1601 / 8)]
    let ledger := runsLedger theatre history (opening (1 / 6) (1 / 4) titleStage)
    let h := (runs theatre history (opening (1 / 6) (1 / 4) titleStage)).2
    ledger = [.began, .replayed (1 / 6), .replayed (1 / 12), .started 5, .framed 6 (1 / 4),
        .framed 4 0, .resumed, .started 200, .framed (1601 / 8) (1 / 8)] ∧
      h.scheduler.time = Scalar.sum ledger.given ∧ Scalar.sum ledger.given = 5 / 8 ∧
      ∀ before now dt after, ledger = before ++ .framed now dt :: after → 0 ≤ dt ∧ dt ≤ 1 / 4 := by
  intro history ledger h
  have hledger : ledger = [.began, .replayed (1 / 6), .replayed (1 / 12), .started 5,
      .framed 6 (1 / 4), .framed 4 0, .resumed, .started 200, .framed (1601 / 8) (1 / 8)] := by
    decide +kernel
  have hstep : (Scalar.zero : Rat) < 1 / 6 := by decide +kernel
  have hlongest : (Scalar.zero : Rat) ≤ 1 / 4 := by decide +kernel
  obtain ⟨⟨htime, -⟩, -, hframed, -⟩ := runs_balanced theatre Scalar.orderly_rat hstep hlongest
    (World.ofStage titleStage .empty) history
  refine ⟨hledger, htime, ?_, fun before now dt after heq => ?_⟩
  · rw [hledger]
    decide +kernel
  · obtain ⟨last, -, -, hbounds⟩ := hframed before now dt after heq
    exact hbounds (Scalar.isFinite_rat last) (Scalar.isFinite_rat now)

end Show
end Choreo
