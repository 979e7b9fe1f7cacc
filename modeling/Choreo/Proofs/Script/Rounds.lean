import Choreo.Proofs.Number.Rational
import Choreo.Proofs.Number.Worth
import Choreo.Script.Duration

/-!
How often a loop over a range runs.

A range of whole numbers runs from its start in equal steps for as long as it lies before its stop.
The count the estimate computes is the number of these rounds, unless there are too many to count:
`Expr.Counts.iterations_eq` in exact arithmetic, and `Expr.Counts.iterations_doubles` in doubles,
where it takes bounds that are doubles as they are.
-/

namespace Choreo
namespace Script
namespace Expr

/-- The whole number an expression stands for, perhaps behind signs. -/
def integer? : Expr → Option Int
  | whole n => some n
  | negative e => (integer? e).map fun n => -n
  | positive e => integer? e
  | _ => none

/-- A loop over the expression runs `n` times: it is a range with whole numbers for bounds, and its
rounds `0`, `1` up to `n - 1` are those that lie before the stop. -/
inductive Counts : Expr → Nat → Prop where
  | range {args : List Expr} {bounds : List Int} {start stop step : Int} {n : Nat}
      (literals : args.mapM integer? = some bounds)
      (shape : rangeBounds? bounds = some (start, stop, step)) (moves : step ≠ 0)
      (rounds : ∀ k : Nat, k < n ↔
        if 0 < step then start + k * step < stop else stop < start + k * step) :
      Counts (.call (.name "range") args []) n

theorem literal?_of_integer? {e : Expr} {n : Int} (h : e.integer? = some n) :
    e.literal? = .ok (some (n : Rat)) := by
  fun_induction integer? e generalizing n with
  | case1 m =>
    cases h
    rfl
  | case2 e ih =>
    rw [Option.map_eq_some_iff] at h
    obtain ⟨m, hm, rfl⟩ := h
    rw [literal?, ih hm, Int.cast_neg]
    rfl
  | case3 e ih => exact ih h
  | case4 => cases h

theorem length_of_mapM_integer? {args : List Expr} {bounds : List Int}
    (h : args.mapM integer? = some bounds) : args.length = bounds.length := by
  induction args generalizing bounds with
  | nil =>
    cases h
    rfl
  | cons e args ih =>
    rw [List.mapM_cons] at h
    obtain ⟨n, -, h⟩ := Option.bind_eq_some_iff.mp h
    obtain ⟨rest, hrest, h⟩ := Option.bind_eq_some_iff.mp h
    cases h
    rw [List.length_cons, List.length_cons, ih hrest]

/-- A range has one to three bounds. -/
theorem length_of_rangeBounds? {bounds : List Int} {r : Int × Int × Int}
    (h : rangeBounds? bounds = some r) : 0 < bounds.length ∧ bounds.length ≤ 3 := by
  unfold rangeBounds? at h
  split at h
  · exact ⟨by simp, by simp⟩
  · exact ⟨by simp, by simp⟩
  · exact ⟨by simp, by simp⟩
  · cases h

theorem mapM_literal? {args : List Expr} {bounds : List Int}
    (h : args.mapM integer? = some bounds) :
    args.mapM literal? = .ok (bounds.map fun n : Int => some (n : Rat)) := by
  induction args generalizing bounds with
  | nil =>
    cases h
    rfl
  | cons e args ih =>
    rw [List.mapM_cons] at h
    obtain ⟨n, hn, h⟩ := Option.bind_eq_some_iff.mp h
    obtain ⟨rest, hrest, h⟩ := Option.bind_eq_some_iff.mp h
    cases h
    rw [List.mapM_cons, literal?_of_integer? hn, ih hrest]
    rfl

theorem wholes_map (bounds : List Int) :
    wholes (bounds.map fun n : Int => some (n : Rat)) = .ok (some bounds) := by
  induction bounds with
  | nil => rfl
  | cons n bounds ih =>
    have heq : (Scalar.ofInt n == (n : Rat)) = true := decide_eq_true rfl
    rw [List.map_cons, wholes, Scalar.truncate_rat]
    simp only [bind, Except.bind, heq, if_true, ih]
    rfl

/-- The rounds of a range are the first so many. -/
theorem lt_rangeLength {start stop step : Int} (hstep : step ≠ 0) (k : Nat) :
    k < rangeLength start stop step ↔
      if 0 < step then start + k * step < stop else stop < start + k * step := by
  unfold rangeLength
  by_cases h : 0 < step
  · have hcount : ((k : Int) + 1) * step ≤ stop - start + step - 1 ↔ start + k * step < stop := by
      rw [add_mul, one_mul]
      omega
    rw [if_pos h, if_pos h, ← hcount, ← Int.le_ediv_iff_mul_le h]
    omega
  · have hneg : 0 < -step := by omega
    have hcount : ((k : Int) + 1) * -step ≤ start - stop - step - 1 ↔
        stop < start + k * step := by
      rw [add_mul, one_mul, mul_neg]
      omega
    rw [if_neg h, if_neg h, ← hcount, ← Int.le_ediv_iff_mul_le hneg]
    omega

/-- A range runs a loop only so often. -/
theorem Counts.unique {e : Expr} {n n' : Nat} (h : e.Counts n) (h' : e.Counts n') : n = n' := by
  cases h with
  | range literals shape moves rounds =>
    cases h' with
    | range literals' shape' moves' rounds' =>
      cases literals.symm.trans literals'
      cases shape.symm.trans shape'
      refine eq_of_forall_lt_iff fun k => ?_
      rw [rounds, rounds']

/-- A loop over a range with whole numbers for bounds runs as often as the range is long, unless
there are too many rounds to count. -/
theorem iterations_range {α : Type} [Scalar α] {args : List Expr} {values : List (Option α)}
    {bounds : List Int} {start stop step : Int} {n : Nat}
    (literals : args.mapM integer? = some bounds)
    (shape : rangeBounds? bounds = some (start, stop, step)) (moves : step ≠ 0)
    (rounds : ∀ k : Nat, k < n ↔
      if 0 < step then start + k * step < stop else stop < start + k * step)
    (hvalues : args.mapM literal? = .ok values) (hwholes : wholes values = .ok (some bounds)) :
    (call (.name "range") args []).iterations α =
      if countLimit < n then .error .overflow else .ok n := by
  have hlength : rangeLength start stop step = n := by
    refine eq_of_forall_lt_iff fun k => ?_
    rw [lt_rangeLength moves, rounds]
  have hargs : (args.isEmpty || decide (3 < args.length)) = false := by
    have hbounds := length_of_rangeBounds? shape
    rw [← length_of_mapM_integer? literals] at hbounds
    rw [Bool.or_eq_false_iff, List.isEmpty_eq_false_iff, decide_eq_false_iff_not]
    exact ⟨List.ne_nil_of_length_pos hbounds.1, by omega⟩
  rw [iterations]
  simp only [hargs, Bool.false_eq_true, if_false, hvalues, bind, Except.bind, hwholes, Option.bind,
    shape, moves, hlength]
  rfl

theorem Counts.iterations_eq {e : Expr} {n : Nat} (h : e.Counts n) :
    e.iterations Rat = if countLimit < n then .error .overflow else .ok n := by
  cases h with
  | @range args bounds start stop step n literals shape moves rounds =>
    exact iterations_range literals shape moves rounds (mapM_literal? literals) (wholes_map bounds)

/-! ## Bounds as doubles -/

section
open Binary64 (IsDouble Stands)

theorem literal?_double {e : Expr} {n : Int} (h : e.integer? = some n) (hn : IsDouble n) :
    ∃ x : Float, e.literal? = .ok (some x) ∧ Stands x n := by
  fun_induction integer? e generalizing n with
  | case1 m =>
    cases h
    obtain ⟨s, q, hexact, -⟩ := hn.exists_exact
    have hexact : Scalar.exact (Scalar.ofInt (m : Int) : Float) = .finite s q := hexact
    refine ⟨Scalar.ofInt (m : Int), ?_, hn⟩
    rw [literal?, Quantity.ofWhole]
    simp only [hexact]
    rfl
  | case2 e ih =>
    rw [Option.map_eq_some_iff] at h
    obtain ⟨m, hm, rfl⟩ := h
    obtain ⟨x, hx, hstands⟩ := ih hm hn.of_neg
    refine ⟨-x, ?_, ?_⟩
    · rw [literal?, hx]
      rfl
    · rw [Int.cast_neg]
      exact hstands.neg
  | case3 e ih => exact ih h hn
  | case4 => cases h

theorem mapM_literal?_doubles {args : List Expr} {bounds : List Int}
    (literals : args.mapM integer? = some bounds) (hbounds : ∀ b ∈ bounds, IsDouble b) :
    ∃ xs : List Float, args.mapM literal? = .ok (xs.map some) ∧
      List.Forall₂ (fun x n => Stands x (n : Int)) xs bounds := by
  induction args generalizing bounds with
  | nil =>
    cases literals
    exact ⟨[], rfl, .nil⟩
  | cons e args ih =>
    rw [List.mapM_cons] at literals
    obtain ⟨n, hn, literals⟩ := Option.bind_eq_some_iff.mp literals
    obtain ⟨rest, hrest, literals⟩ := Option.bind_eq_some_iff.mp literals
    cases literals
    obtain ⟨x, hx, hstands⟩ := literal?_double hn (hbounds n List.mem_cons_self)
    obtain ⟨xs, hxs, hall⟩ := ih hrest fun b hb => hbounds b (List.mem_cons_of_mem n hb)
    refine ⟨x :: xs, ?_, .cons hstands hall⟩
    rw [List.mapM_cons, hx, hxs]
    rfl

theorem wholes_doubles {xs : List Float} {bounds : List Int}
    (h : List.Forall₂ (fun x n => Stands x (n : Int)) xs bounds)
    (hbounds : ∀ b ∈ bounds, IsDouble b) : wholes (xs.map some) = .ok (some bounds) := by
  induction h with
  | nil => rfl
  | @cons x n xs bounds hx _ ih =>
    have heq : (Scalar.ofInt n == x) = true :=
      (Stands.beq_iff (hbounds n List.mem_cons_self) hx).mpr rfl
    have hrest := ih fun b hb => hbounds b (List.mem_cons_of_mem n hb)
    rw [List.map_cons, wholes, hx.truncate_whole]
    simp only [bind, Except.bind, heq, if_true, hrest]
    rfl

/-- The bounds of the range that the expression is are doubles as they are. -/
def DoubleBounds (e : Expr) : Prop :=
  ∀ args bounds, e = .call (.name "range") args [] → args.mapM integer? = some bounds →
    ∀ b ∈ bounds, IsDouble b

/-- Bounds of at most fifty-three bits are doubles. -/
theorem doubleBounds_of_small {args : List Expr} {bounds : List Int}
    (literals : args.mapM integer? = some bounds) (small : ∀ b ∈ bounds, b.natAbs ≤ 2 ^ 53) :
    (call (.name "range") args []).DoubleBounds := by
  rintro args' bounds' ⟨⟩ literals' b hb
  cases literals.symm.trans literals'
  exact Binary64.stands_ofInt (small b hb)

/-- In doubles a loop is counted as it is exactly, if its bounds are doubles. -/
theorem Counts.iterations_doubles {e : Expr} {n : Nat} (h : e.Counts n) (hd : e.DoubleBounds) :
    e.iterations Float = if countLimit < n then .error .overflow else .ok n := by
  cases h with
  | @range args bounds start stop step n literals shape moves rounds =>
    have hbounds := hd args bounds rfl literals
    obtain ⟨xs, hvalues, hstands⟩ := mapM_literal?_doubles literals hbounds
    exact iterations_range literals shape moves rounds hvalues (wholes_doubles hstands hbounds)

end

end Expr
end Script
end Choreo
