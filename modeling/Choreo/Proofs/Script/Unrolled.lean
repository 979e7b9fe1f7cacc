import Choreo.Proofs.Flow.Even
import Choreo.Proofs.Script.Makes
import Choreo.Proofs.Script.Rounds

/-!
The estimate of a block against the programs it unrolls to.

A run of a block is the flows it goes through, one after another: loops are unrolled and one side of
each branch is taken, a new choice each time. Among all runs the estimate is the longest. As
playback in even steps is done when the spans of its flows have passed, the estimate is how long the
longest program plays: `Stmt.durations_worst`.
-/

namespace Choreo
namespace Script

/-! ## One flow for each expression -/

theorem transition_name_ne (kind : TransitionKind) :
    kind.name ≠ "wait_for" ∧ kind.name ≠ "tween" ∧ kind.name ≠ "all_of" ∧ kind.name ≠ "chain" ∧
      kind.name ≠ "delay" := by
  cases kind <;> decide

theorem transition_name_inj {kind kind' : TransitionKind} (h : kind.name = kind'.name) :
    kind = kind' := by
  cases kind <;> cases kind' <;> first | rfl | exact absurd h (by decide)

theorem called_eq {callee : Expr} {a b : String} (ha : callee.calledName? = some a)
    (hb : callee.calledName? = some b) : a = b :=
  Option.some.inj (ha.symm.trans hb)

mutual

/-- An expression that makes an aligned flow makes no other flow. -/
theorem Makes.eq_of_aligned {e : Expr} {f g : Flow Rat} (hf : Makes e f) (hg : Makes e g)
    {dt : Rat} (ha : f.Aligned dt) : g = f := by
  cases hf with
  | wait name literal =>
    cases hg with
    | wait _ literal' =>
      rw [literal] at literal'
      cases literal'
      rfl
    | @transition _ _ t name' =>
      exact absurd (called_eq name' name) (transition_name_ne t.kind).1
    | tween name' | all name' | chain name' =>
      exact absurd (called_eq name name') (by decide)
  | @transition _ _ t name literal =>
    obtain ⟨hwait, htween, hall, hchain, -⟩ := transition_name_ne t.kind
    cases hg with
    | wait name' => exact absurd (called_eq name name') hwait
    | @transition _ _ t' name' literal' =>
      obtain ⟨kind, d⟩ := t
      obtain ⟨kind', d'⟩ := t'
      rw [literal] at literal'
      cases literal'
      have hkind : kind = kind' := transition_name_inj (called_eq name name')
      rw [hkind]
    | tween name' => exact absurd (called_eq name name') htween
    | all name' => exact absurd (called_eq name name') hall
    | chain name' => exact absurd (called_eq name name') hchain
  | tween => exact ha.elim
  | all name parts =>
    cases hg with
    | @transition _ _ t name' =>
      exact absurd (called_eq name' name) (transition_name_ne t.kind).2.2.1
    | all _ parts' => rw [parts.eq_of_aligned parts' ha.2]
    | wait name' | tween name' | chain name' | delay name' =>
      exact absurd (called_eq name name') (by decide)
  | chain name parts =>
    cases hg with
    | @transition _ _ t name' =>
      exact absurd (called_eq name' name) (transition_name_ne t.kind).2.2.2.1
    | chain _ parts' => rw [parts.eq_of_aligned parts' ha.2]
    | wait name' | tween name' | all name' | delay name' =>
      exact absurd (called_eq name name') (by decide)
  | delay name literal part =>
    cases hg with
    | delay _ literal' part' =>
      rw [literal] at literal'
      cases literal'
      rw [part.eq_of_aligned part' ha.2]
    | tween name' | all name' | chain name' => exact absurd (called_eq name name') (by decide)

theorem MakeAll.eq_of_aligned {es : List Expr} {fs gs : List (Flow Rat)} (hf : MakeAll es fs)
    (hg : MakeAll es gs) {dt : Rat} (ha : Flow.AlignedAll dt fs) : gs = fs := by
  cases hf with
  | nil =>
    cases hg
    rfl
  | cons first others =>
    cases hg with
    | cons first' others' =>
      rw [first.eq_of_aligned first' ha.1, others.eq_of_aligned others' ha.2]

end

/-! ## Runs -/

namespace Stmt

mutual

/-- A statement goes through the flows when the script runs. -/
inductive Runs : Stmt → List (Flow Rat) → Prop where
  | task {e : Expr} {f : Flow Rat} (makes : Makes e f) : Runs (.expression (.yieldFrom e)) [f]
  | loop {target source : Expr} {body otherwise : List Stmt} {n : Nat} {fs gs : List (Flow Rat)}
      (count : source.Counts n) (rounds : RunsTimes n body fs) (after : RunsAll otherwise gs) :
      Runs (.loop target source body otherwise) (fs ++ gs)
  | body {condition : Expr} {body otherwise : List Stmt} {fs : List (Flow Rat)}
      (taken : RunsAll body fs) : Runs (.branch condition body otherwise) fs
  | otherwise {condition : Expr} {body otherwise : List Stmt} {fs : List (Flow Rat)}
      (taken : RunsAll otherwise fs) : Runs (.branch condition body otherwise) fs

inductive RunsAll : List Stmt → List (Flow Rat) → Prop where
  | nil : RunsAll [] []
  | cons {s : Stmt} {rest : List Stmt} {fs gs : List (Flow Rat)} (first : Runs s fs)
      (others : RunsAll rest gs) : RunsAll (s :: rest) (fs ++ gs)

/-- A block is run through a number of times, and may go another way each time. -/
inductive RunsTimes : Nat → List Stmt → List (Flow Rat) → Prop where
  | zero {body : List Stmt} : RunsTimes 0 body []
  | succ {n : Nat} {body : List Stmt} {fs gs : List (Flow Rat)} (first : RunsAll body fs)
      (others : RunsTimes n body gs) : RunsTimes (n + 1) body (fs ++ gs)

end

mutual

/-- The statement runs a task made of whole steps, or is a loop over a range or a branch of such. -/
def Timed (dt : Rat) : Stmt → Prop
  | .expression (.yieldFrom e) => ∃ f, Makes e f ∧ f.Aligned dt
  | .loop _ source body otherwise =>
    (∃ n, source.Counts n) ∧ TimedAll dt body ∧ TimedAll dt otherwise
  | .branch _ body otherwise => TimedAll dt body ∧ TimedAll dt otherwise
  | _ => False

def TimedAll (dt : Rat) : List Stmt → Prop
  | [] => True
  | s :: rest => Timed dt s ∧ TimedAll dt rest

end

mutual

/-- Every loop can be counted: the bounds of its range are doubles as they are, and it does not run
more often than there are numbers to count with. -/
def Countable : Stmt → Prop
  | .loop _ source body otherwise =>
    (source.DoubleBounds ∧ ∀ n, source.Counts n → n ≤ countLimit) ∧
      CountableAll body ∧ CountableAll otherwise
  | .branch _ body otherwise => CountableAll body ∧ CountableAll otherwise
  | _ => True

def CountableAll : List Stmt → Prop
  | [] => True
  | s :: rest => Countable s ∧ CountableAll rest

end

mutual

/-- Every loop is counted as often as it runs, in doubles as in exact arithmetic. -/
def Counted : Stmt → Prop
  | .loop _ source body otherwise =>
    (∃ n, source.Counts n ∧ source.iterations Float = .ok n ∧ source.iterations Rat = .ok n) ∧
      CountedAll body ∧ CountedAll otherwise
  | .branch _ body otherwise => CountedAll body ∧ CountedAll otherwise
  | _ => True

def CountedAll : List Stmt → Prop
  | [] => True
  | s :: rest => Counted s ∧ CountedAll rest

end

mutual

/-- There is no branch in the statement. -/
def Straight : Stmt → Prop
  | .loop _ _ body otherwise => StraightAll body ∧ StraightAll otherwise
  | .branch _ _ _ => False
  | _ => True

def StraightAll : List Stmt → Prop
  | [] => True
  | s :: rest => Straight s ∧ StraightAll rest

end

/-! ## Counting the rounds -/

mutual

theorem counted (dt : Rat) (s : Stmt) (ht : s.Timed dt) (hc : s.Countable) : s.Counted := by
  cases s with
  | loop target source body otherwise =>
    obtain ⟨⟨n, hn⟩, htbody, htother⟩ := ht
    obtain ⟨⟨hdoubles, hlimit⟩, hcbody, hcother⟩ := hc
    have hle : ¬countLimit < n := not_lt.mpr (hlimit n hn)
    refine ⟨⟨n, hn, ?_, ?_⟩, countedAll dt body htbody hcbody,
      countedAll dt otherwise htother hcother⟩
    · rw [hn.iterations_doubles hdoubles, if_neg hle]
    · rw [hn.iterations_eq, if_neg hle]
  | branch condition body otherwise =>
    exact ⟨countedAll dt body ht.1 hc.1, countedAll dt otherwise ht.2 hc.2⟩
  | _ => trivial

theorem countedAll (dt : Rat) (body : List Stmt) (ht : TimedAll dt body) (hc : CountableAll body) :
    CountedAll body := by
  cases body with
  | nil => trivial
  | cons s rest => exact ⟨counted dt s ht.1 hc.1, countedAll dt rest ht.2 hc.2⟩

end

/-! ## The longest run -/

/-- Among some runs, all of aligned flows, `longest` is the span of the longest, and of every one if
they are `straight`. -/
structure Longest (dt : Rat) (runs : List (Flow Rat) → Prop) (straight : Prop) (longest : Rat) :
    Prop where
  aligned : ∀ fs, runs fs → ∀ f ∈ fs, f.Aligned dt
  most : ∀ fs, runs fs → (Flow.spans fs).sum ≤ longest
  attained : ∃ fs, runs fs ∧ (Flow.spans fs).sum = longest
  exact : straight → ∀ fs, runs fs → (Flow.spans fs).sum = longest

namespace Longest
variable {dt : Rat} {runs runs' : List (Flow Rat) → Prop} {straight straight' : Prop} {a b : Rat}

/-- One run after another. -/
theorem append (h : Longest dt runs straight a) (h' : Longest dt runs' straight' b) :
    Longest dt (fun fs => ∃ gs hs, runs gs ∧ runs' hs ∧ fs = gs ++ hs) (straight ∧ straight')
      (a + b) where
  aligned := by
    rintro _ ⟨gs, hs, hg, hh, rfl⟩ f hf
    rcases List.mem_append.mp hf with hf | hf
    · exact h.aligned gs hg f hf
    · exact h'.aligned hs hh f hf
  most := by
    rintro _ ⟨gs, hs, hg, hh, rfl⟩
    rw [Flow.spans_append, List.sum_append]
    exact add_le_add (h.most gs hg) (h'.most hs hh)
  attained := by
    obtain ⟨gs, hg, hga⟩ := h.attained
    obtain ⟨hs, hh, hhb⟩ := h'.attained
    exact ⟨gs ++ hs, ⟨gs, hs, hg, hh, rfl⟩, by rw [Flow.spans_append, List.sum_append, hga, hhb]⟩
  exact := by
    rintro ⟨hst, hst'⟩ _ ⟨gs, hs, hg, hh, rfl⟩
    rw [Flow.spans_append, List.sum_append, h.exact hst gs hg, h'.exact hst' hs hh]

/-- One run or the other. -/
theorem either (h : Longest dt runs straight a) (h' : Longest dt runs' straight' b) :
    Longest dt (fun fs => runs fs ∨ runs' fs) False (max a b) where
  aligned fs hfs := hfs.elim (h.aligned fs) (h'.aligned fs)
  most fs hfs := hfs.elim (fun hr => (h.most fs hr).trans (le_max_left a b))
    fun hr => (h'.most fs hr).trans (le_max_right a b)
  attained := by
    rcases le_total a b with hab | hab
    · obtain ⟨fs, hr, hb⟩ := h'.attained
      exact ⟨fs, .inr hr, by rw [hb, max_eq_right hab]⟩
    · obtain ⟨fs, hr, ha⟩ := h.attained
      exact ⟨fs, .inl hr, by rw [ha, max_eq_left hab]⟩
  exact hfalse := hfalse.elim

theorem nothing : Longest dt (fun fs => fs = []) True 0 where
  aligned := by
    rintro _ rfl f hf
    exact absurd hf List.not_mem_nil
  most := by
    rintro _ rfl
    exact le_refl _
  attained := ⟨[], rfl, rfl⟩
  exact := by
    rintro - _ rfl
    rfl

theorem single {f : Flow Rat} (ha : f.Aligned dt) :
    Longest dt (fun fs => fs = [f]) True f.span := by
  have hspan : (Flow.spans [f]).sum = f.span := by
    rw [Flow.spans, Flow.spans, List.sum_singleton]
  refine ⟨?_, ?_, ⟨[f], rfl, hspan⟩, ?_⟩
  · rintro _ rfl g hg
    rw [List.mem_singleton.mp hg]
    exact ha
  · rintro _ rfl
    exact hspan.le
  · rintro - _ rfl
    exact hspan

theorem congr (h : Longest dt runs straight a) (hruns : ∀ fs, runs' fs ↔ runs fs)
    (hstraight : straight' → straight) : Longest dt runs' straight' a where
  aligned fs hfs := h.aligned fs ((hruns fs).mp hfs)
  most fs hfs := h.most fs ((hruns fs).mp hfs)
  attained := by
    obtain ⟨fs, hr, ha⟩ := h.attained
    exact ⟨fs, (hruns fs).mpr hr, ha⟩
  exact hst fs hfs := h.exact (hstraight hst) fs ((hruns fs).mp hfs)

end Longest

section
variable {dt : Rat}

theorem longest_times {body : List Stmt} {straight : Prop} {a : Rat}
    (h : Longest dt (RunsAll body) straight a) (n : Nat) :
    Longest dt (RunsTimes n body) straight (n * a) := by
  induction n with
  | zero =>
    rw [Nat.cast_zero, zero_mul]
    refine Longest.nothing.congr (fun fs => ⟨fun hr => ?_, fun hr => ?_⟩) fun _ => trivial
    · cases hr
      rfl
    · rw [hr]
      exact .zero
  | succ n ih =>
    have hsum : ((n + 1 : Nat) : Rat) * a = a + n * a := by
      rw [Nat.cast_add, Nat.cast_one, add_mul, one_mul, add_comm]
    rw [hsum]
    refine (h.append ih).congr (fun fs => ⟨fun hr => ?_, ?_⟩) fun hst => ⟨hst, hst⟩
    · cases hr with
      | succ first others => exact ⟨_, _, first, others, rfl⟩
    · rintro ⟨gs, hs, first, others, rfl⟩
      exact .succ first others

mutual

/-- The duration of a statement is the span of its longest run. -/
theorem duration_longest (s : Stmt) (ht : s.Timed dt) (hc : s.Countable) :
    ∃ a : Rat, s.duration = .ok a ∧ Longest dt s.Runs s.Straight a := by
  cases s with
  | expression e =>
    cases e with
    | yieldFrom e =>
      obtain ⟨f, hf, ha⟩ := ht
      refine ⟨f.span, ?_, ?_⟩
      · rw [duration, Expr.duration]
        exact hf.taskDuration_eq
      · refine (Longest.single ha).congr (fun fs => ⟨fun hr => ?_, fun hr => ?_⟩) fun _ => trivial
        · cases hr with
          | task makes => rw [hf.eq_of_aligned makes ha]
        · rw [hr]
          exact .task hf
    | _ => exact ht.elim
  | loop target source body otherwise =>
    obtain ⟨⟨n, hn⟩, htbody, htother⟩ := ht
    obtain ⟨⟨-, hlimit⟩, hcbody, hcother⟩ := hc
    obtain ⟨a, hdur, hlong⟩ := durationsFrom_longest body htbody hcbody
    obtain ⟨b, hdur', hlong'⟩ := durationsFrom_longest otherwise htother hcother
    have hcount : source.iterations Rat = .ok n := by
      rw [hn.iterations_eq, if_neg (not_lt.mpr (hlimit n hn))]
    refine ⟨n * a + b, ?_, ?_⟩
    · simp only [duration, durations, hcount, hdur, hdur', bind, Except.bind, Scalar.ofNat_rat,
        Scalar.zero_rat, zero_add]
      rfl
    · refine ((longest_times hlong n).append hlong').congr (fun fs => ⟨fun hr => ?_, ?_⟩)
        fun hst => hst
      · cases hr with
        | loop count rounds after =>
          -- The run counts the rounds on its own account, but a range has only one count.
          rw [hn.unique count]
          exact ⟨_, _, rounds, after, rfl⟩
      · rintro ⟨gs, hs, rounds, after, rfl⟩
        exact .loop hn rounds after
  | branch condition body otherwise =>
    obtain ⟨a, hdur, hlong⟩ := durationsFrom_longest body ht.1 hc.1
    obtain ⟨b, hdur', hlong'⟩ := durationsFrom_longest otherwise ht.2 hc.2
    refine ⟨max a b, ?_, ?_⟩
    · simp only [duration, durations, hdur, hdur', bind, Except.bind, Scalar.zero_rat, zero_add,
        Scalar.larger_rat]
      rfl
    · refine (hlong.either hlong').congr (fun fs => ⟨fun hr => ?_, ?_⟩) fun hst => hst
      · cases hr with
        | body taken => exact .inl taken
        | otherwise taken => exact .inr taken
      · rintro (taken | taken)
        · exact .body taken
        · exact .otherwise taken
  | _ => exact ht.elim

theorem durationsFrom_longest (body : List Stmt) (ht : TimedAll dt body)
    (hc : CountableAll body) :
    ∃ a : Rat, (∀ sofar, durationsFrom sofar body = .ok (sofar + a)) ∧
      Longest dt (RunsAll body) (StraightAll body) a := by
  cases body with
  | nil =>
    refine ⟨0, fun sofar => by rw [durationsFrom, add_zero], ?_⟩
    refine Longest.nothing.congr (fun fs => ⟨fun hr => ?_, fun hr => ?_⟩) fun _ => trivial
    · cases hr
      rfl
    · rw [hr]
      exact .nil
  | cons s rest =>
    obtain ⟨a, hdur, hlong⟩ := duration_longest s ht.1 hc.1
    obtain ⟨b, hdur', hlong'⟩ := durationsFrom_longest rest ht.2 hc.2
    refine ⟨a + b, fun sofar => ?_, ?_⟩
    · simp only [durationsFrom, hdur, hdur', bind, Except.bind, add_assoc]
    · refine (hlong.append hlong').congr (fun fs => ⟨fun hr => ?_, ?_⟩) fun hst => hst
      · cases hr with
        | cons first others => exact ⟨_, _, first, others, rfl⟩
      · rintro ⟨gs, hs, first, others, rfl⟩
        exact .cons first others

end
end

/-- The estimate of a block is the time the longest program plays that it unrolls to, and a block
without branches plays just so long. The loops it multiplies by their rounds are counted in doubles,
as often as they run. -/
theorem durations_worst [Analytic Rat] {dt : Rat} (hdt : 0 < dt) {body : List Stmt}
    (ht : TimedAll dt body) (hc : CountableAll body) :
    CountedAll body ∧ ∃ estimate : Rat, durations body = .ok estimate ∧
      (∀ fs, RunsAll body fs → ∃ n : Nat, n * dt ≤ estimate ∧
        ∀ w, (Playback.ofFlow (.steps fs)).FinishesAfter dt n w) ∧
      (∃ fs, RunsAll body fs ∧ ∃ n : Nat, n * dt = estimate ∧
        ∀ w, (Playback.ofFlow (.steps fs)).FinishesAfter dt n w) ∧
      (StraightAll body → ∀ fs, RunsAll body fs → ∃ n : Nat, n * dt = estimate ∧
        ∀ w, (Playback.ofFlow (.steps fs)).FinishesAfter dt n w) := by
  obtain ⟨a, hdur, hlong⟩ := durationsFrom_longest body ht hc
  have hplays : ∀ fs, RunsAll body fs → ∃ n : Nat, (Flow.spans fs).sum = n * dt ∧
      ∀ w, (Playback.ofFlow (.steps fs)).FinishesAfter dt n w :=
    fun fs hr => Flow.finishesAfter_steps hdt (hlong.aligned fs hr)
  refine ⟨countedAll dt body ht hc, a, ?_, ?_, ?_, ?_⟩
  · rw [durations, hdur, Scalar.zero_rat, zero_add]
  · intro fs hr
    obtain ⟨n, hsum, hfinish⟩ := hplays fs hr
    exact ⟨n, hsum ▸ hlong.most fs hr, hfinish⟩
  · obtain ⟨fs, hr, hsum'⟩ := hlong.attained
    obtain ⟨n, hsum, hfinish⟩ := hplays fs hr
    exact ⟨fs, hr, n, hsum.symm.trans hsum', hfinish⟩
  · intro hst fs hr
    obtain ⟨n, hsum, hfinish⟩ := hplays fs hr
    exact ⟨n, hsum.symm.trans (hlong.exact hst fs hr), hfinish⟩

/-! ## A loop with a branch -/

/-- `for _ in range(3):` with `yield from wait_for(2)` or `yield from fade(1)` in it. -/
def waitOrFade : List Stmt :=
  [.loop (.name "_") (.call (.name "range") [.whole 3] [])
    [.branch (.name "chance")
      [.expression (.yieldFrom (.call (.name "wait_for") [.whole 2] []))]
      [.expression (.yieldFrom (.call (.name "fade") [.whole 1] []))]] []]

theorem counts_three : Expr.Counts (.call (.name "range") [.whole 3] []) 3 :=
  .range rfl rfl (by decide) fun k => by
    rw [if_pos (by decide)]
    omega

theorem durations_waitOrFade : durations waitOrFade = .ok (6 : Rat) := by
  have hcount : Expr.iterations Rat (.call (.name "range") [.whole 3] []) = .ok 3 := by
    rw [counts_three.iterations_eq, if_neg (by decide)]
  have hwait : (Expr.call (.name "wait_for") [.whole 2] []).taskDuration = .ok (2 : Rat) := by
    decide +kernel
  have hfade : (Expr.call (.name "fade") [.whole 1] []).taskDuration = .ok (1 : Rat) := by
    decide +kernel
  simp only [waitOrFade, durations, durationsFrom, duration, Expr.duration, hcount, hwait, hfade,
    bind, Except.bind]
  decide +kernel

theorem countable_waitOrFade : CountableAll waitOrFade := by
  have hbounds : (Expr.call (.name "range") [.whole 3] []).DoubleBounds :=
    Expr.doubleBounds_of_small (show [Expr.whole 3].mapM Expr.integer? = some [3] from rfl)
      (by decide)
  refine ⟨⟨⟨hbounds, fun n hn => ?_⟩, ⟨⟨⟨trivial, trivial⟩, ⟨trivial, trivial⟩⟩, trivial⟩, trivial⟩,
    trivial⟩
  rw [hn.unique counts_three]
  decide

/-- In steps of half a second the longest run takes twelve. -/
theorem durations_worst_waitOrFade :
    TimedAll (1 / 2) waitOrFade ∧ CountableAll waitOrFade ∧ CountedAll waitOrFade ∧
      durations waitOrFade = .ok (6 : Rat) ∧
      ∃ fs, RunsAll waitOrFade fs ∧
        ∀ w, (Playback.ofFlow (.steps fs)).FinishesAfter (1 / 2) 12 w := by
  have htimed : TimedAll (1 / 2) waitOrFade := by
    refine ⟨⟨⟨3, counts_three⟩, ⟨⟨⟨?_, trivial⟩, ⟨?_, trivial⟩⟩, trivial⟩, trivial⟩, trivial⟩
    · exact ⟨.act (.wait 2), .wait rfl rfl, 4, by decide, by norm_num⟩
    · exact ⟨.act (.transition ⟨.fade, 1⟩), .transition rfl rfl, 2, by decide, by norm_num⟩
  obtain ⟨hcounted, estimate, hdur, -, ⟨fs, hruns, n, hn, hfinish⟩, -⟩ :=
    durations_worst (by norm_num) htimed countable_waitOrFade
  have hestimate : estimate = 6 := Except.ok.inj (hdur.symm.trans durations_waitOrFade)
  have hn : n = 12 := by
    have hcast : (n : Rat) = (12 : Nat) := by
      push_cast
      linarith
    exact_mod_cast hcast
  subst hn
  exact ⟨htimed, countable_waitOrFade, hcounted, durations_waitOrFade, fs, hruns, hfinish⟩

/-! ## Loops that cannot be counted -/

/-- `yield from wait_for(1)`. -/
def waitSecond : List Stmt := [.expression (.yieldFrom (.call (.name "wait_for") [.whole 1] []))]

theorem timed_waitSecond : TimedAll 1 waitSecond :=
  ⟨⟨.act (.wait 1), .wait rfl rfl, 1, by decide, by norm_num⟩, trivial⟩

/-- `for _ in range(10000000000000000000): yield from wait_for(1)`. -/
def longLoop : List Stmt :=
  [.loop (.name "_") (.call (.name "range") [.whole 10000000000000000000] [])
    waitSecond []]

/-- `for _ in range(9007199254740992, 9007199254740993): yield from wait_for(1)`. -/
def farLoop : List Stmt :=
  [.loop (.name "_") (.call (.name "range") [.whole 9007199254740992, .whole 9007199254740993] [])
    waitSecond []]

theorem counts_far :
    Expr.Counts (.call (.name "range") [.whole 9007199254740992, .whole 9007199254740993] []) 1 :=
  .range rfl rfl (by decide) fun k => by
    rw [if_pos (by decide)]
    omega

theorem durations_farLoop : durations farLoop = .ok (0 : Float) := by
  have hcount : Expr.iterations Float
      (.call (.name "range") [.whole 9007199254740992, .whole 9007199254740993] []) = .ok 0 := by
    decide +kernel
  have hwait : (Expr.call (.name "wait_for") [.whole 1] []).taskDuration = .ok (1 : Float) := by
    decide +kernel
  simp only [farLoop, waitSecond, durations, durationsFrom, duration, Expr.duration, hcount, hwait,
    bind, Except.bind]
  decide +kernel

/-- Both loops play, for as long as they have rounds. But the rounds of the first are too many for
the estimate to count, and it does not see that of the second: no double lies between its bounds. -/
theorem uncounted_loops :
    (TimedAll 1 longLoop ∧ (durations longLoop : Except NumberFault Rat) = .error .overflow) ∧
      TimedAll 1 farLoop ∧ (durations farLoop : Except NumberFault Float) = .ok 0 ∧
      RunsAll farLoop [.act (.wait 1)] := by
  have hcounts : Expr.Counts (.call (.name "range") [.whole 10000000000000000000] [])
      10000000000000000000 :=
    .range rfl rfl (by decide) fun k => by
      rw [if_pos (by decide)]
      omega
  refine ⟨⟨⟨⟨⟨_, hcounts⟩, timed_waitSecond, trivial⟩, trivial⟩, ?_⟩, ?_, durations_farLoop, ?_⟩
  · have hiterations := hcounts.iterations_eq
    rw [if_pos (by decide)] at hiterations
    simp only [longLoop, durations, durationsFrom, duration, hiterations, bind, Except.bind]
  · exact ⟨⟨⟨1, counts_far⟩, timed_waitSecond, trivial⟩, trivial⟩
  · have hround : RunsAll waitSecond [.act (.wait 1)] := .cons (.task (.wait rfl rfl)) .nil
    exact .cons (.loop counts_far (.succ hround .zero) .nil) .nil

end Stmt
end Script
end Choreo
