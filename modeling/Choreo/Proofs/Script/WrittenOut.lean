import Choreo.Proofs.Script.Unrolled

/-!
Loops written out.

The estimate multiplies the body of a loop over a range by the number of its rounds. That is as
long as the body takes when it is written out so many times, for loops in any block and in each
other (`WrittenOut.durations_eq`). The rounds are counted in doubles, and for bounds of at most
fifty-three bits the count is the exact one (`literal_loops`). A loop that does not run is estimated
by its body all the same, so a body that leaves no estimate is missed when it is written out
(`skippedLongLoop_overflows`).
-/

namespace Choreo
namespace Script
/-! ## Literal bounds -/

namespace Expr

/-- The bounds of a range are the numbers it is given, nought or one. -/
theorem small_of_rangeBounds? {bounds : List Int} {start stop step : Int}
    (h : rangeBounds? bounds = some (start, stop, step))
    (small : ∀ b ∈ bounds, b.natAbs ≤ 2 ^ 53) : start.natAbs ≤ 2 ^ 53 ∧ stop.natAbs ≤ 2 ^ 53 := by
  unfold rangeBounds? at h
  split at h <;> cases h
  · exact ⟨by decide, small _ (by simp)⟩
  · exact ⟨small _ (by simp), small _ (by simp)⟩
  · exact ⟨small _ (by simp), small _ (by simp)⟩

theorem rangeLength_le {start stop step : Int} (moves : step ≠ 0) (hstart : start.natAbs ≤ 2 ^ 53)
    (hstop : stop.natAbs ≤ 2 ^ 53) : rangeLength start stop step ≤ countLimit := by
  by_contra hmore
  have hround : 2 ^ 54 < rangeLength start stop step := by
    have : countLimit = 9223372036854775807 := rfl
    omega
  rw [lt_rangeLength moves] at hround
  split_ifs at hround with hstep
  · omega
  · omega

end Expr

/-! ## Blocks -/

namespace Stmt

theorem durations_nil : durations [] = .ok (0 : Rat) := by
  rw [durations, durationsFrom, Scalar.zero_rat]

/-- What came before a block is added to its duration. -/
theorem durationsFrom_eq (sofar : Rat) (body : List Stmt) :
    durationsFrom sofar body = (durations body).map (sofar + ·) := by
  induction body generalizing sofar with
  | nil =>
    rw [durationsFrom, durations_nil]
    exact congrArg Except.ok (add_zero sofar).symm
  | cons s rest ih =>
    rw [durations, durationsFrom, durationsFrom]
    cases (s.duration : Except NumberFault Rat) with
    | error e => rfl
    | ok d =>
      show durationsFrom (sofar + d) rest = (durationsFrom (Scalar.zero + d) rest).map (sofar + ·)
      rw [ih, ih, Scalar.zero_rat, zero_add]
      cases (durations rest : Except NumberFault Rat) with
      | error e => rfl
      | ok d' => exact congrArg Except.ok (add_assoc sofar d d')

theorem durations_cons (s : Stmt) (rest : List Stmt) :
    durations (s :: rest) = do
      let d : Rat ← s.duration
      return d + (← durations rest) := by
  rw [durations, durationsFrom]
  cases (s.duration : Except NumberFault Rat) with
  | error e => rfl
  | ok d =>
    show durationsFrom (Scalar.zero + d) rest = _
    rw [durationsFrom_eq, Scalar.zero_rat, zero_add]
    cases (durations rest : Except NumberFault Rat) <;> rfl

theorem durations_append (body rest : List Stmt) :
    durations (body ++ rest) = do
      let d : Rat ← durations body
      return d + (← durations rest) := by
  induction body with
  | nil =>
    rw [List.nil_append, durations_nil]
    cases (durations rest : Except NumberFault Rat) with
    | error e => rfl
    | ok d => exact congrArg Except.ok (zero_add d).symm
  | cons s body ih =>
    rw [List.cons_append, durations_cons, durations_cons, ih]
    cases (s.duration : Except NumberFault Rat) with
    | error e => rfl
    | ok a =>
      cases (durations body : Except NumberFault Rat) with
      | error e => rfl
      | ok b =>
        cases (durations rest : Except NumberFault Rat) with
        | error e => rfl
        | ok c => exact congrArg Except.ok (add_assoc a b c).symm

/-- A block written out as often as a loop runs. -/
def rounds (n : Nat) (body : List Stmt) : List Stmt := (List.replicate n body).flatten

/-- A block written out again and again takes so many times its duration. -/
theorem durations_rounds {n : Nat} {body : List Stmt}
    (h : 0 < n ∨ ∃ d : Rat, durations body = .ok d) :
    durations (rounds n body) = (durations body).map ((n : Rat) * ·) := by
  cases hbody : (durations body : Except NumberFault Rat) with
  | error e =>
    -- A body without a duration has to be met once to leave the block without one.
    obtain ⟨m, rfl⟩ : ∃ m, n = m + 1 := by
      obtain hpos | ⟨d, hd⟩ := h
      · exact ⟨n - 1, by omega⟩
      · rw [hbody] at hd
        cases hd
    rw [rounds, List.replicate_succ, List.flatten_cons, durations_append, hbody]
    rfl
  | ok d =>
    clear h
    induction n with
    | zero =>
      show durations [] = .ok (((0 : Nat) : Rat) * d)
      rw [Nat.cast_zero, zero_mul, durations_nil]
    | succ n ih =>
      rw [rounds] at ih
      rw [rounds, List.replicate_succ, List.flatten_cons, durations_append, ih, hbody]
      show Except.ok (d + n * d) = .ok (((n + 1 : Nat) : Rat) * d)
      rw [Nat.cast_add, Nat.cast_one, add_mul, one_mul, add_comm]

/-- The second block is the first with loops over ranges written out, any of them at any depth. A
loop that does not run may only be written out if its body has a duration. -/
inductive WrittenOut : List Stmt → List Stmt → Prop where
  | nil : WrittenOut [] []
  | same (s : Stmt) {rest rest' : List Stmt} (after : WrittenOut rest rest') :
      WrittenOut (s :: rest) (s :: rest')
  | unrolled (target : Expr) {source : Expr} {n : Nat}
      {body body' otherwise otherwise' rest rest' : List Stmt} (count : source.Counts n)
      (limit : n ≤ countLimit) (known : 0 < n ∨ ∃ d : Rat, durations body = .ok d)
      (inner : WrittenOut body body') (last : WrittenOut otherwise otherwise')
      (after : WrittenOut rest rest') :
      WrittenOut (loop target source body otherwise :: rest)
        (rounds n body' ++ otherwise' ++ rest')
  | loop (target source : Expr) {body body' otherwise otherwise' rest rest' : List Stmt}
      (inner : WrittenOut body body') (last : WrittenOut otherwise otherwise')
      (after : WrittenOut rest rest') :
      WrittenOut (loop target source body otherwise :: rest)
        (loop target source body' otherwise' :: rest')
  | whileLoop (condition : Expr) {body body' otherwise otherwise' rest rest' : List Stmt}
      (inner : WrittenOut body body') (last : WrittenOut otherwise otherwise')
      (after : WrittenOut rest rest') :
      WrittenOut (whileLoop condition body otherwise :: rest)
        (whileLoop condition body' otherwise' :: rest')
  | branch (condition : Expr) {body body' otherwise otherwise' rest rest' : List Stmt}
      (inner : WrittenOut body body') (last : WrittenOut otherwise otherwise')
      (after : WrittenOut rest rest') :
      WrittenOut (branch condition body otherwise :: rest)
        (branch condition body' otherwise' :: rest')
  | context (head : List Expr) {body body' rest rest' : List Stmt}
      (inner : WrittenOut body body') (after : WrittenOut rest rest') :
      WrittenOut (context head body :: rest) (context head body' :: rest')
  | attempt (handlers : List Stmt)
      {body body' otherwise otherwise' final final' rest rest' : List Stmt}
      (inner : WrittenOut body body') (last : WrittenOut otherwise otherwise')
      (always : WrittenOut final final') (after : WrittenOut rest rest') :
      WrittenOut (attempt body handlers otherwise final :: rest)
        (attempt body' handlers otherwise' final' :: rest')

theorem duration_loop {source : Expr} {n : Nat} (count : source.Counts n)
    (limit : n ≤ countLimit) (target : Expr) (body otherwise : List Stmt) :
    (loop target source body otherwise).duration = do
      let d : Rat ← (durations body).map ((n : Rat) * ·)
      return d + (← durations otherwise) := by
  have hcount : source.iterations Rat = .ok n := by
    rw [count.iterations_eq, if_neg (not_lt.mpr limit)]
  rw [duration, hcount]
  cases (durations body : Except NumberFault Rat) <;> rfl

theorem WrittenOut.durations_eq {block block' : List Stmt} (h : WrittenOut block block') :
    durations block' = (durations block : Except NumberFault Rat) := by
  induction h with
  | nil => rfl
  | same s _ ih => rw [durations_cons, durations_cons, ih]
  | @unrolled target source n body body' otherwise otherwise' rest rest' count limit known _ _ _
      inner last after =>
    have hrounds : durations (rounds n body') = (durations body).map ((n : Rat) * ·) := by
      rw [durations_rounds (inner.symm ▸ known), inner]
    rw [durations_append, durations_append, hrounds, last, after, durations_cons,
      duration_loop count limit]
  | loop target source _ _ _ inner last after =>
    rw [durations_cons, durations_cons, duration, duration, inner, last, after]
  | whileLoop condition _ _ _ inner last after =>
    rw [durations_cons, durations_cons, duration, duration, inner, last, after]
  | branch condition _ _ _ inner last after =>
    rw [durations_cons, durations_cons, duration, duration, inner, last, after]
  | context head _ _ inner after =>
    rw [durations_cons, durations_cons, duration, duration, inner, after]
  | attempt handlers _ _ _ _ inner last always after =>
    rw [durations_cons, durations_cons, duration, duration, inner, last, always, after]

theorem WrittenOut.refl (block : List Stmt) : WrittenOut block block := by
  induction block with
  | nil => exact .nil
  | cons s rest ih => exact .same s ih

/-- A loop over a range with literal bounds runs as often as there are numbers of the range before
its stop, whether they are counted in doubles or exactly, and takes as long as its body written out
that often. In any block, such loops can be written out at any depth. -/
theorem literal_loops :
    (∀ (args : List Expr) (bounds : List Int) (start stop step : Int),
      args.mapM Expr.integer? = some bounds → (∀ b ∈ bounds, b.natAbs ≤ 2 ^ 53) →
      Expr.rangeBounds? bounds = some (start, stop, step) → step ≠ 0 →
      ∃ n ≤ countLimit,
        (∀ k : Nat, k < n ↔
          if 0 < step then start + k * step < stop else stop < start + k * step) ∧
        (Expr.call (.name "range") args []).iterations Float = .ok n ∧
        (Expr.call (.name "range") args []).iterations Rat = .ok n ∧
        ∀ (target : Expr) (body : List Stmt), (0 < n ∨ ∃ d : Rat, durations body = .ok d) →
          durations [loop target (.call (.name "range") args []) body []] =
            (durations (rounds n body) : Except NumberFault Rat)) ∧
    ∀ block block' : List Stmt, WrittenOut block block' →
      durations block = (durations block' : Except NumberFault Rat) := by
  constructor
  · intro args bounds start stop step literals small shape moves
    obtain ⟨hstart, hstop⟩ := Expr.small_of_rangeBounds? shape small
    have limit := Expr.rangeLength_le moves hstart hstop
    have rounds : ∀ k : Nat, k < Expr.rangeLength start stop step ↔
        if 0 < step then start + k * step < stop else stop < start + k * step :=
      Expr.lt_rangeLength moves
    have count : (Expr.call (.name "range") args []).Counts (Expr.rangeLength start stop step) :=
      .range literals shape moves rounds
    refine ⟨Expr.rangeLength start stop step, limit, rounds, ?_, ?_, ?_⟩
    · rw [count.iterations_doubles (Expr.doubleBounds_of_small literals small),
        if_neg (not_lt.mpr limit)]
    · rw [count.iterations_eq, if_neg (not_lt.mpr limit)]
    · intro target body known
      have hunrolled :=
        (WrittenOut.unrolled target count limit known (.refl body) .nil .nil).durations_eq
      rw [List.append_nil, List.append_nil] at hunrolled
      exact hunrolled.symm
  · intro block block' h
    exact h.durations_eq.symm

/-- `for _ in range(3, 0, -2): yield from wait_for(1)`. -/
def downwards : List Stmt :=
  [.loop (.name "_") (.call (.name "range") [.whole 3, .whole 0, .negative (.whole 2)] [])
    waitSecond []]

theorem literal_loops_nested :
    (Expr.call (.name "range") [.whole 1, .whole 10, .whole 4] []).iterations Float = .ok 3 ∧
      durations [.loop (.name "_") (.call (.name "range") [.whole 1, .whole 10, .whole 4] [])
          downwards []] =
        (durations (rounds 3 (rounds 2 waitSecond)) : Except NumberFault Rat) := by
  obtain ⟨n, -, hn, hdoubles, -, -⟩ := literal_loops.1 [.whole 1, .whole 10, .whole 4] [1, 10, 4]
    1 10 4 rfl (by decide) rfl (by decide)
  have hthree : n = 3 := by
    refine eq_of_forall_lt_iff fun k => ?_
    rw [hn k, if_pos (by decide)]
    omega
  subst hthree
  refine ⟨hdoubles, literal_loops.2 _ _ ?_⟩
  have houter : Expr.Counts (.call (.name "range") [.whole 1, .whole 10, .whole 4] []) 3 :=
    .range rfl rfl (by decide) hn
  have hinner : Expr.Counts
      (.call (.name "range") [.whole 3, .whole 0, .negative (.whole 2)] []) 2 :=
    .range rfl rfl (by decide) fun k => by
      rw [if_neg (by decide)]
      show k < 2 ↔ (0 : Int) < 3 + k * -2
      omega
  have hbody : WrittenOut downwards (rounds 2 waitSecond) :=
    .unrolled (.name "_") hinner (by decide) (.inl (by decide)) (.refl waitSecond) .nil .nil
  exact .unrolled (.name "_") houter (by decide) (.inl (by decide)) hbody .nil .nil

/-- `for _ in range(0): for _ in range(10000000000000000000): yield from wait_for(1)`. -/
def skippedLongLoop : List Stmt :=
  [.loop (.name "_") (.call (.name "range") [.whole 0] []) longLoop []]

/-- The outer loop does not run at all, but the estimate looks for the rounds of the inner one. -/
theorem skippedLongLoop_overflows :
    Expr.Counts (.call (.name "range") [.whole 0] []) 0 ∧
      (durations skippedLongLoop : Except NumberFault Rat) = .error .overflow ∧
      durations (rounds 0 longLoop) = .ok (0 : Rat) := by
  have hskipped : Expr.Counts (.call (.name "range") [.whole 0] []) 0 :=
    .range rfl rfl (by decide) fun k => by
      rw [if_pos (by decide)]
      omega
  have hlong : Expr.Counts (.call (.name "range") [.whole 10000000000000000000] [])
      10000000000000000000 :=
    .range rfl rfl (by decide) fun k => by
      rw [if_pos (by decide)]
      omega
  have hiterations := hlong.iterations_eq
  rw [if_pos (by decide)] at hiterations
  have hinner : (durations longLoop : Except NumberFault Rat) = .error .overflow := by
    rw [longLoop, durations_cons, duration, hiterations]
    rfl
  refine ⟨hskipped, ?_, durations_nil⟩
  rw [skippedLongLoop, durations_cons, duration_loop hskipped (by decide), hinner]
  rfl

end Stmt
end Script
end Choreo
