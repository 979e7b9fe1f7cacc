import Choreo.Routine.Basic

/-!
A task that keeps nothing back.

A task has two flags, whether it was started and whether it is done, and behind them a leaf that has
not run yet, is paused, or is over because it finished, failed or left. Calls in an unusual order
bring these together in unusual ways: a task that was closed before it was started, or one whose
leaf failed and that was not told. A `Keeper` keeps the flags and the leaf apart and writes down
what the leaf is asked, also when there is nobody left to hear it. Its leaf is any at all: it may
pause for ever, fail in any call, and refuse to leave.

What every call keeps is `Keeper.Sound`, and from it follows what calls keep to, `Keeper.LifeCycle`
(`Sound.lifeCycle`).
-/

namespace Choreo
variable {L δ W ε : Type}

/-! ## Leaves that are asked -/

/-- A machine whose paused leaves can be told to leave. A step may be no step at all. -/
structure Closable (L δ W ε : Type) extends Machine L (Option δ) W ε where
  /-- Tells a paused leaf to leave, which it may answer with another pause. -/
  leave : L → W → Signal L ε × W
  /-- The fault of a leaf that was told to leave and paused. -/
  stayed : ε
  /-- The fault of sending a step to a leaf that has not run yet. -/
  tooEarly : ε

/-- What a leaf can be asked: to run to its first pause, to go on with a step, or to leave. -/
inductive Ask (δ : Type) where
  | prime
  | send (dt : Option δ)
  | leave

/-- A leaf, and how far it is. -/
inductive Strand (L : Type) where
  | unstarted (l : L)
  | paused (l : L)
  | spent

namespace Strand

/-- What is left of a leaf that ran. -/
def ofSignal : Signal L ε → Strand L
  | .paused l => .paused l
  | .finished | .failed _ => .spent

def IsPaused (s : Strand L) : Prop := ∃ l, s = .paused l

/-- How a leaf runs when it is asked something, if it runs. Priming a paused leaf resumes it without
a step, and so does sending it none; the same starts a leaf that has not run. -/
def run? (m : Closable L δ W ε) (a : Ask δ) : Strand L → Option (W → Signal L ε × W)
  | .unstarted l =>
    match a with
    | .prime | .send none => some (m.start l)
    | .send (some _) | .leave => none
  | .paused l =>
    match a with
    | .prime => some (m.resume l none)
    | .send dt => some (m.resume l dt)
    | .leave => some (m.leave l)
  | .spent => none

/-- What is answered for a leaf that does not run, and what is left of it. -/
def unheard (m : Closable L δ W ε) (a : Ask δ) : Strand L → Signal L ε × Strand L
  | .unstarted l =>
    match a with
    | .send _ => (.failed m.tooEarly, .unstarted l)
    | .prime | .leave => (.finished, .spent)
  | .paused _ | .spent => (.finished, .spent)

end Strand

/-! ## Keepers -/

/-- Something a leaf was asked, and whether it ran. -/
structure Contact (δ : Type) where
  ask : Ask δ
  ran : Bool

/-- Whose fault it is. -/
inductive Blame (ε : Type) where
  /-- The task refuses a step because it is done. -/
  | own
  | leaf (fault : ε)

/-- A task with everything it consists of. -/
structure Keeper (L δ : Type) where
  strand : Strand L
  started : Bool
  done : Bool
  /-- All that the leaf was asked, in order. No call depends on it. -/
  contacts : List (Contact δ)

/-- A call on a task. -/
inductive Request (δ : Type) where
  | start
  | next (dt : δ)
  | close

namespace Keeper

def ofLeaf (l : L) : Keeper L δ :=
  { strand := .unstarted l, started := false, done := false, contacts := [] }

section
variable (m : Closable L δ W ε)

/-- Asks the leaf something. -/
def ask (a : Ask δ) (k : Keeper L δ) (w : W) : (Signal L ε × Keeper L δ) × W :=
  match k.strand.run? m a with
  | some run =>
    let (s, w') := run w
    ((s, { k with strand := .ofSignal s, contacts := k.contacts ++ [⟨a, true⟩] }), w')
  | none =>
    let (s, left) := k.strand.unheard m a
    ((s, { k with strand := left, contacts := k.contacts ++ [⟨a, false⟩] }), w)

/-- A task whose leaf finished is done. Reports whether it is. -/
def settle : (Signal L ε × Keeper L δ) × W → (Except (Blame ε) Bool × Keeper L δ) × W
  | ((.paused _, k), w) => ((.ok k.done, k), w)
  | ((.finished, k), w) => ((.ok true, { k with done := true }), w)
  | ((.failed e, k), w) => ((.error (.leaf e), k), w)

/-- Runs the leaf to its first pause if the task was not started. -/
def start (k : Keeper L δ) (w : W) : (Except (Blame ε) Bool × Keeper L δ) × W :=
  if k.started then ((.ok k.done, k), w)
  else settle ({ k with started := true }.ask m .prime w)

/-- One step. The first step starts the task. -/
def next (dt : Option δ) (k : Keeper L δ) (w : W) : (Except (Blame ε) Bool × Keeper L δ) × W :=
  if k.done then ((.error .own, k), w)
  else
    match k.start m w with
    | ((.ok false, k'), w') => settle (k'.ask m (.send dt) w')
    | turn => turn

/-- Tells the leaf to leave. Only if it does the task is done. -/
def close (k : Keeper L δ) (w : W) : (Except (Blame ε) Unit × Keeper L δ) × W :=
  match k.ask m .leave w with
  | ((.paused _, k'), w') => ((.error (.leaf m.stayed), k'), w')
  | ((.finished, k'), w') => ((.ok (), { k' with done := true }), w')
  | ((.failed e, k'), w') => ((.error (.leaf e), k'), w')

/-- A call, with what it reports if it reports something. -/
def take (r : Request (Option δ)) (k : Keeper L δ) (w : W) :
    (Except (Blame ε) (Option Bool) × Keeper L δ) × W :=
  match r with
  | .start => let ((r, k'), w') := k.start m w; ((r.map some, k'), w')
  | .next dt => let ((r, k'), w') := k.next m dt w; ((r.map some, k'), w')
  | .close => let ((r, k'), w') := k.close m w; ((r.map fun _ => none, k'), w')

/-- The task and the world after some calls. -/
def after : List (Request (Option δ)) → Keeper L δ → W → Keeper L δ × W
  | [], k, w => (k, w)
  | r :: rs, k, w => after rs (k.take m r w).1.2 (k.take m r w).2

/-- What some calls report. -/
def answers : List (Request (Option δ)) → Keeper L δ → W → List (Except (Blame ε) (Option Bool))
  | [], _, _ => []
  | r :: rs, k, w => (k.take m r w).1.1 :: answers rs (k.take m r w).1.2 (k.take m r w).2

end

/-! ### What the leaf was asked -/

/-- What the leaf was asked apart from leaving. -/
def errands (k : Keeper L δ) : List (Ask δ) :=
  (k.contacts.map Contact.ask).filter fun
    | .leave => false
    | _ => true

/-- The steps that were sent to the leaf. -/
def sent (k : Keeper L δ) : List (Option δ) :=
  k.contacts.filterMap fun
    | ⟨.send dt, _⟩ => some dt
    | _ => none

/-- The steps that the leaf ran with. -/
def heard (k : Keeper L δ) : List (Option δ) :=
  k.contacts.filterMap fun
    | ⟨.send dt, true⟩ => some dt
    | _ => none

/-- How often the leaf ran. -/
def runs (k : Keeper L δ) : Nat := k.contacts.countP Contact.ran

/-- What calls on a task keep to from a state on. -/
structure LifeCycle (m : Closable L δ W ε) (k : Keeper L δ) (w : W) : Prop where
  /-- The leaf is primed at most once, and before any step is sent to it. -/
  primed_first : k.errands = [] ∨ ∃ dts : List (Option δ), k.errands = .prime :: dts.map .send
  /-- A step of a task that is not done is sent at most once. -/
  sent_at_most_once : k.done = false → ∀ dt,
    (k.next m dt w).1.2.sent = k.sent ∨ (k.next m dt w).1.2.sent = k.sent ++ [dt]
  /-- It is sent, and the leaf runs with it, if the leaf is paused once the task is started. -/
  sent_once : k.done = false → (k.start m w).1.2.strand.IsPaused → ∀ dt,
    (k.next m dt w).1.2.sent = k.sent ++ [dt] ∧ (k.next m dt w).1.2.heard = k.heard ++ [dt]
  /-- A task that is done stays done. -/
  done_stays : k.done = true → ∀ r, (k.take m r w).1.2.done = true
  /-- Once a task is done no call makes its leaf run. -/
  done_rests : k.done = true → ∀ r, (k.take m r w).1.2.runs = k.runs ∧ (k.take m r w).2 = w
  /-- A task refuses a step if it is done, and only then. -/
  refuses_iff : ∀ dt, (k.next m dt w).1.1 = .error .own ↔ k.done = true
  /-- A task may be started before it is stepped. That makes no difference to the steps, to what
  they report and to what is sent, if the leaf is paused then. -/
  head_start : (k.start m w).1.2.strand.IsPaused → ∀ dts : List (Option δ),
    answers m (dts.map .next) (k.start m w).1.2 (k.start m w).2 = answers m (dts.map .next) k w ∧
      (after m (dts.map .next) (k.start m w).1.2 (k.start m w).2).1.sent =
        (after m (dts.map .next) k w).1.sent

/-- What every call on a task keeps. -/
structure Sound (k : Keeper L δ) : Prop where
  spent_of_done : k.done = true → k.strand = .spent
  begun_of_started : k.started = true → ∀ l, k.strand ≠ .unstarted l
  errands_of_started : k.started = true →
    ∃ dts : List (Option δ), k.errands = .prime :: dts.map .send
  errands_of_not_started : k.started = false → k.errands = []

section
variable {m : Closable L δ W ε} {k k' : Keeper L δ} {a : Ask δ} {w : W} {dt : Option δ}

/-! ### Lists of what was asked -/

theorem errands_prime {ran : Bool} (h : k'.contacts = k.contacts ++ [⟨.prime, ran⟩]) :
    k'.errands = k.errands ++ [.prime] := by
  simp [errands, h]

theorem errands_send {ran : Bool} (h : k'.contacts = k.contacts ++ [⟨.send dt, ran⟩]) :
    k'.errands = k.errands ++ [.send dt] := by
  simp [errands, h]

theorem errands_leave {ran : Bool} (h : k'.contacts = k.contacts ++ [⟨.leave, ran⟩]) :
    k'.errands = k.errands := by
  simp [errands, h]

/-! ### One question -/

/-- All that a question can come to. -/
theorem ask_cases (m : Closable L δ W ε) (a : Ask δ) (k : Keeper L δ) (w : W) :
    (∃ run, k.strand.run? m a = some run ∧
      k.ask m a w = (((run w).1, { k with
        strand := .ofSignal (run w).1, contacts := k.contacts ++ [⟨a, true⟩] }), (run w).2)) ∨
    k.strand.run? m a = none ∧
      k.ask m a w = (((k.strand.unheard m a).1, { k with
        strand := (k.strand.unheard m a).2, contacts := k.contacts ++ [⟨a, false⟩] }), w) := by
  unfold ask
  split
  · next run hrun => exact .inl ⟨run, hrun, rfl⟩
  · next hrun => exact .inr ⟨hrun, rfl⟩

/-- Nobody is left to answer once a leaf is over. -/
theorem ask_spent (m : Closable L δ W ε) (a : Ask δ) (h : k.strand = .spent) (w : W) :
    k.ask m a w = ((.finished, { k with contacts := k.contacts ++ [⟨a, false⟩] }), w) := by
  obtain ⟨strand, started, done, contacts⟩ := k
  cases h
  rfl

/-- What a question leaves of a leaf, and what is reported of it. -/
structure Settled (k : Keeper L δ) (a : Ask δ) (turn : (Except (Blame ε) Bool × Keeper L δ) × W) :
    Prop where
  started : turn.1.2.started = k.started
  begun : ∀ l, turn.1.2.strand ≠ .unstarted l
  spent_of_done : turn.1.2.done = true → turn.1.2.strand = .spent
  contacts : ∃ ran, turn.1.2.contacts = k.contacts ++ [⟨a, ran⟩]
  report : turn.1.1 = .ok turn.1.2.done ∨
    ∃ e, turn.1.1 = .error (.leaf e) ∧ ¬turn.1.2.strand.IsPaused

/-- A leaf is begun by any question, unless it is sent a step that comes too early. -/
theorem settled (hd : k.done = false) (ha : ∀ dt, a = .send dt → ∀ l, k.strand ≠ .unstarted l)
    (w : W) : Settled k a (settle (k.ask m a w)) := by
  obtain ⟨strand, started, done, contacts⟩ := k
  cases hd
  obtain ⟨run, hrun, hask⟩ | ⟨hrun, hask⟩ := ask_cases m a ⟨strand, started, false, contacts⟩ w
  · rw [hask]
    cases run w with
    | mk x v =>
      cases x with
      | paused l => exact ⟨rfl, nofun, nofun, ⟨true, rfl⟩, .inl rfl⟩
      | finished => exact ⟨rfl, nofun, fun _ => rfl, ⟨true, rfl⟩, .inl rfl⟩
      | failed e => exact ⟨rfl, nofun, nofun, ⟨true, rfl⟩, .inr ⟨e, rfl, nofun⟩⟩
  · rw [hask]
    have hunheard : strand.unheard m a = (.finished, .spent) := by
      cases strand with
      | paused | spent => rfl
      | unstarted l =>
        cases a with
        | send dt => exact absurd rfl (ha dt rfl l)
        | prime | leave => rfl
    rw [hunheard]
    exact ⟨rfl, nofun, fun _ => rfl, ⟨false, rfl⟩, .inl rfl⟩

/-! ### Calls -/

theorem start_of_started (h : k.started = true) (w : W) :
    k.start m w = ((.ok k.done, k), w) := if_pos h

theorem start_of_not_started (h : k.started = false) (w : W) :
    k.start m w = settle ({ k with started := true }.ask m .prime w) := by
  rw [start, h]
  rfl

/-- Of a task that is done nothing but its flag is left to start. -/
theorem start_of_done (hk : k.Sound) (hd : k.done = true) (w : W) :
    ∃ k', k.start m w = ((.ok true, k'), w) ∧ k'.Sound ∧ k'.done = true ∧ k'.runs = k.runs ∧
      k'.sent = k.sent := by
  cases hs : k.started with
  | true =>
    rw [start_of_started hs, hd]
    exact ⟨k, rfl, hk, hd, rfl, rfl⟩
  | false =>
    have hspent := hk.spent_of_done hd
    rw [start_of_not_started hs, ask_spent m .prime (k := { k with started := true }) hspent]
    refine ⟨_, rfl, ⟨fun _ => hspent, fun _ l => ?_, fun _ => ⟨[], ?_⟩, nofun⟩, rfl, ?_, ?_⟩
    · simp [hspent]
    · have hempty := hk.errands_of_not_started hs
      simp only [errands] at hempty
      simp [errands, hempty]
    · simp [runs]
    · simp [sent]

/-- What starting a task that is not done comes to. -/
structure Started (k : Keeper L δ) (turn : (Except (Blame ε) Bool × Keeper L δ) × W) : Prop where
  sound : turn.1.2.Sound
  started : turn.1.2.started = true
  sent : turn.1.2.sent = k.sent
  heard : turn.1.2.heard = k.heard
  report : turn.1.1 = .ok turn.1.2.done ∨
    ∃ e, turn.1.1 = .error (.leaf e) ∧ ¬turn.1.2.strand.IsPaused

theorem start_started (hk : k.Sound) (hd : k.done = false) (w : W) :
    Started k (k.start m w) := by
  cases hs : k.started with
  | true =>
    rw [start_of_started hs]
    exact ⟨hk, hs, rfl, rfl, .inl rfl⟩
  | false =>
    rw [start_of_not_started hs]
    obtain ⟨hstarted, hbegun, hspent, ⟨ran, hcontacts⟩, hreport⟩ :=
      settled (m := m) (k := { k with started := true }) (a := .prime) hd nofun w
    refine ⟨⟨hspent, fun _ => hbegun, fun _ => ⟨[], ?_⟩, ?_⟩, hstarted, ?_, ?_, hreport⟩
    · rw [errands_prime (k := k) hcontacts, hk.errands_of_not_started hs]
      rfl
    · rw [hstarted]
      nofun
    · simp [Keeper.sent, hcontacts]
    · simp [Keeper.heard, hcontacts]

theorem next_of_done (h : k.done = true) (dt : Option δ) (w : W) :
    k.next m dt w = ((.error .own, k), w) := if_pos h

theorem next_of_not_done (h : k.done = false) (dt : Option δ) (w : W) :
    k.next m dt w =
      match k.start m w with
      | ((.ok false, k'), w') => settle (k'.ask m (.send dt) w')
      | turn => turn := by
  rw [next, h]
  rfl

/-- A step of a task that is not done is sent to the leaf that was started, or it ends with the
start. -/
theorem next_cases (hk : k.Sound) (hd : k.done = false) (dt : Option δ) (w : W) :
    (∃ k' v, k.start m w = ((.ok false, k'), v) ∧ k'.done = false ∧
      k.next m dt w = settle (k'.ask m (.send dt) v)) ∨
    k.next m dt w = k.start m w ∧ ¬(k.start m w).1.2.strand.IsPaused := by
  have hstart := start_started (m := m) hk hd w
  rw [next_of_not_done hd]
  generalize k.start m w = turn at hstart ⊢
  obtain ⟨⟨r, k'⟩, v⟩ := turn
  obtain hr | ⟨e, hr, hpaused⟩ := hstart.report
  · have hr : r = .ok k'.done := hr
    cases hdone : k'.done with
    | false =>
      rw [hr, hdone]
      exact .inl ⟨k', v, rfl, hdone, rfl⟩
    | true =>
      rw [hr, hdone]
      refine .inr ⟨rfl, ?_⟩
      rintro ⟨l, hl⟩
      cases (hstart.sound.spent_of_done hdone).symm.trans hl
  · have hr : r = .error (.leaf e) := hr
    rw [hr]
    exact .inr ⟨rfl, hpaused⟩

/-- What a step that was sent comes to. -/
theorem settled_send (hk : k.Sound) (hs : k.started = true) (hd : k.done = false) (dt : Option δ)
    (w : W) : Settled k (.send dt) (settle (k.ask m (.send dt) w)) :=
  settled hd (fun _ _ => hk.begun_of_started hs) w

theorem Settled.isSound (hk : k.Sound) (hs : k.started = true)
    {turn : (Except (Blame ε) Bool × Keeper L δ) × W} (h : Settled k (.send dt) turn) :
    turn.1.2.Sound := by
  obtain ⟨ran, hcontacts⟩ := h.contacts
  refine ⟨h.spent_of_done, fun _ => h.begun, fun _ => ?_, ?_⟩
  · obtain ⟨dts, hdts⟩ := hk.errands_of_started hs
    refine ⟨dts ++ [dt], ?_⟩
    rw [errands_send hcontacts, hdts, List.cons_append, List.map_append, List.map_singleton]
  · rw [h.started, hs]
    nofun

theorem next_sound (hk : k.Sound) (dt : Option δ) (w : W) : (k.next m dt w).1.2.Sound := by
  cases hd : k.done with
  | true =>
    rw [next_of_done hd]
    exact hk
  | false =>
    have hstart := start_started (m := m) hk hd w
    obtain ⟨k', v, hs, hd', hn⟩ | ⟨hn, -⟩ := next_cases (m := m) hk hd dt w
    · rw [hs] at hstart
      rw [hn]
      exact (settled_send hstart.sound hstart.started hd' dt v).isSound hstart.sound hstart.started
    · rw [hn]
      exact hstart.sound

theorem start_sound (hk : k.Sound) (w : W) : (k.start m w).1.2.Sound := by
  cases hd : k.done with
  | true =>
    obtain ⟨k', hs, hk', -⟩ := start_of_done (m := m) hk hd w
    rw [hs]
    exact hk'
  | false => exact (start_started hk hd w).sound

/-- A leaf that is told to leave is never left unstarted, and it is over if the task is done. -/
theorem close_spec (m : Closable L δ W ε) (k : Keeper L δ) (w : W) :
    (k.close m w).1.2.started = k.started ∧ (∀ l, (k.close m w).1.2.strand ≠ .unstarted l) ∧
      ((k.close m w).1.2.strand = .spent ∨ (k.close m w).1.2.done = k.done ∧ k.strand ≠ .spent) ∧
      ∃ ran, (k.close m w).1.2.contacts = k.contacts ++ [⟨.leave, ran⟩] := by
  unfold close
  obtain ⟨run, hrun, hask⟩ | ⟨hrun, hask⟩ := ask_cases m .leave k w
  · have hne : k.strand ≠ .spent := by
      intro h
      rw [h] at hrun
      cases hrun
    rw [hask]
    rcases run w with ⟨_ | _ | e, v⟩
    · exact ⟨rfl, nofun, .inr ⟨rfl, hne⟩, true, rfl⟩
    · exact ⟨rfl, nofun, .inl rfl, true, rfl⟩
    · exact ⟨rfl, nofun, .inl rfl, true, rfl⟩
  · have hunheard : k.strand.unheard m .leave = (.finished, .spent) := by
      cases k.strand <;> rfl
    rw [hask, hunheard]
    exact ⟨rfl, nofun, .inl rfl, false, rfl⟩

theorem close_sound (hk : k.Sound) (w : W) : (k.close m w).1.2.Sound := by
  obtain ⟨hstarted, hbegun, hspent, ran, hcontacts⟩ := close_spec m k w
  refine ⟨fun hd => ?_, fun _ => hbegun, fun hs => ?_, fun hs => ?_⟩
  · rcases hspent with hspent | ⟨hdone, hne⟩
    · exact hspent
    · exact absurd (hk.spent_of_done (hdone.symm.trans hd)) hne
  · rw [errands_leave hcontacts]
    exact hk.errands_of_started (hstarted.symm.trans hs)
  · rw [errands_leave hcontacts]
    exact hk.errands_of_not_started (hstarted.symm.trans hs)

theorem take_sound (hk : k.Sound) (r : Request (Option δ)) (w : W) :
    (k.take m r w).1.2.Sound := by
  cases r with
  | start => exact start_sound hk w
  | next dt => exact next_sound hk dt w
  | close => exact close_sound hk w

theorem sound_ofLeaf (l : L) : (ofLeaf l : Keeper L δ).Sound :=
  ⟨nofun, nofun, nofun, fun _ => rfl⟩

theorem after_sound (hk : k.Sound) (calls : List (Request (Option δ))) (w : W) :
    (k.after m calls w).1.Sound := by
  induction calls generalizing k w with
  | nil => exact hk
  | cons r calls ih => exact ih (take_sound hk r w) _

/-! ### The life cycle -/

theorem Sound.primed_first (hk : k.Sound) :
    k.errands = [] ∨ ∃ dts : List (Option δ), k.errands = .prime :: dts.map .send := by
  cases hs : k.started with
  | false => exact .inl (hk.errands_of_not_started hs)
  | true => exact .inr (hk.errands_of_started hs)

theorem next_sent (hk : k.Sound) (hd : k.done = false) (dt : Option δ) (w : W) :
    (k.next m dt w).1.2.sent = k.sent ∨ (k.next m dt w).1.2.sent = k.sent ++ [dt] := by
  have hstart := start_started (m := m) hk hd w
  obtain ⟨k', v, hs, hd', hn⟩ | ⟨hn, -⟩ := next_cases (m := m) hk hd dt w
  · rw [hs] at hstart
    rw [hn]
    obtain ⟨ran, hcontacts⟩ := (settled_send (m := m) hstart.sound hstart.started hd' dt v).contacts
    have hsent : k'.sent = k.sent := hstart.sent
    rw [← hsent]
    exact .inr (by simp [sent, hcontacts])
  · rw [hn]
    exact .inl hstart.sent

/-- A step that is sent to a paused leaf is heard. -/
theorem settle_send_paused {l : L} (h : k.strand = .paused l) (dt : Option δ) (w : W) :
    (settle (k.ask m (.send dt) w)).1.2.contacts = k.contacts ++ [⟨.send dt, true⟩] := by
  obtain ⟨strand, started, done, contacts⟩ := k
  cases h
  obtain ⟨run, hrun, hask⟩ | ⟨hrun, -⟩ :=
    ask_cases m (.send dt) ⟨.paused l, started, done, contacts⟩ w
  · rw [hask]
    rcases run w with ⟨_ | _ | e, v⟩ <;> rfl
  · cases hrun

theorem next_heard (hk : k.Sound) (hd : k.done = false) (hp : (k.start m w).1.2.strand.IsPaused)
    (dt : Option δ) :
    (k.next m dt w).1.2.sent = k.sent ++ [dt] ∧ (k.next m dt w).1.2.heard = k.heard ++ [dt] := by
  have hstart := start_started (m := m) hk hd w
  obtain ⟨k', v, hs, -, hn⟩ | ⟨-, hnot⟩ := next_cases (m := m) hk hd dt w
  · rw [hs] at hstart hp
    obtain ⟨l, hl⟩ := hp
    have hcontacts := settle_send_paused (m := m) hl dt v
    have hsent : k'.sent = k.sent := hstart.sent
    have hheard : k'.heard = k.heard := hstart.heard
    rw [hn, ← hsent, ← hheard]
    exact ⟨by simp [sent, hcontacts], by simp [heard, hcontacts]⟩
  · exact absurd hp hnot

/-- No call does anything to a task that is done. -/
theorem take_of_done (hk : k.Sound) (hd : k.done = true) (r : Request (Option δ)) (w : W) :
    (k.take m r w).1.2.done = true ∧ (k.take m r w).1.2.runs = k.runs ∧ (k.take m r w).2 = w := by
  cases r with
  | start =>
    obtain ⟨k', hs, -, hd', hruns, -⟩ := start_of_done (m := m) hk hd w
    simp only [take, hs]
    exact ⟨hd', hruns, trivial⟩
  | next dt =>
    simp only [take, next_of_done hd]
    exact ⟨hd, trivial, trivial⟩
  | close =>
    simp only [take, close, ask_spent m .leave (hk.spent_of_done hd)]
    exact ⟨trivial, by simp [runs], trivial⟩

theorem next_refuses_iff (hk : k.Sound) (dt : Option δ) (w : W) :
    (k.next m dt w).1.1 = .error .own ↔ k.done = true := by
  cases hd : k.done with
  | true => simp [next_of_done hd]
  | false =>
    have hstart := start_started (m := m) hk hd w
    have hnever {b : Bool} {r : Except (Blame ε) Bool} {P : Prop}
        (h : r = .ok b ∨ ∃ e, r = .error (.leaf e) ∧ P) : ¬r = .error .own := by
      rcases h with rfl | ⟨e, rfl, -⟩ <;> nofun
    refine iff_of_false ?_ nofun
    obtain ⟨k', v, hs, hd', hn⟩ | ⟨hn, -⟩ := next_cases (m := m) hk hd dt w
    · rw [hs] at hstart
      rw [hn]
      exact hnever (settled_send hstart.sound hstart.started hd' dt v).report
    · rw [hn]
      exact hnever hstart.report

/-- Once it is started a task whose leaf is paused takes the step it would have taken before. -/
theorem next_start (hk : k.Sound) (hp : (k.start m w).1.2.strand.IsPaused) (dt : Option δ) :
    (k.start m w).1.2.next m dt (k.start m w).2 = k.next m dt w := by
  cases hd : k.done with
  | true =>
    obtain ⟨k', hs, hk', hd', -⟩ := start_of_done (m := m) hk hd w
    rw [hs] at hp
    obtain ⟨l, hl⟩ := hp
    cases (hk'.spent_of_done hd').symm.trans hl
  | false =>
    have hstart := start_started (m := m) hk hd w
    obtain ⟨k', v, hs, hd', hn⟩ | ⟨-, hnot⟩ := next_cases (m := m) hk hd dt w
    · rw [hs] at hstart
      rw [hn, hs]
      show k'.next m dt v = settle (k'.ask m (.send dt) v)
      rw [next, hd', start_of_started hstart.started, hd']
      rfl
    · exact absurd hp hnot

theorem start_sent (hk : k.Sound) (w : W) : (k.start m w).1.2.sent = k.sent := by
  cases hd : k.done with
  | true =>
    obtain ⟨k', hs, -, -, -, hsent⟩ := start_of_done (m := m) hk hd w
    rw [hs]
    exact hsent
  | false => exact (start_started hk hd w).sent

theorem head_start (hk : k.Sound) (hp : (k.start m w).1.2.strand.IsPaused)
    (dts : List (Option δ)) :
    answers m (dts.map .next) (k.start m w).1.2 (k.start m w).2 = answers m (dts.map .next) k w ∧
      (after m (dts.map .next) (k.start m w).1.2 (k.start m w).2).1.sent =
        (after m (dts.map .next) k w).1.sent := by
  cases dts with
  | nil => exact ⟨rfl, start_sent hk w⟩
  | cons dt dts =>
    simp only [List.map_cons, answers, after, take, next_start hk hp]
    exact ⟨trivial, trivial⟩

theorem Sound.lifeCycle (hk : k.Sound) (m : Closable L δ W ε) (w : W) : LifeCycle m k w where
  primed_first := hk.primed_first
  sent_at_most_once hd dt := next_sent hk hd dt w
  sent_once hd hp dt := next_heard hk hd hp dt
  done_stays hd r := (take_of_done hk hd r w).1
  done_rests hd r := (take_of_done hk hd r w).2
  refuses_iff dt := next_refuses_iff hk dt w
  head_start hp dts := head_start hk hp dts

end
end Keeper

end Choreo
