import Mathlib.Algebra.Order.Ring.Cast
import Mathlib.Algebra.Order.Ring.Rat
import Choreo.Number.Quantity

/-!
Rationals as the arithmetic that laws of timing are stated in.
-/

namespace Choreo

/-- Rationals have no sines and no roots. No law of timing looks at them; where a run has to be
given some, each of these is near the right number at nought. -/
instance Analytic.ofRationals : Analytic Rat where
  exp2 _ := .ok 1
  sin x := x
  cos _ := 1
  angle _ y := y
  length x y := x + y
  cubeRoot x := x
  realPower _ _ := 1
  pi := 355 / 113

namespace Scalar

@[simp] theorem zero_rat : (zero : Rat) = 0 := rfl

@[simp] theorem ofNat_rat (n : Nat) : (ofNat n : Rat) = n := rfl

theorem larger_rat (a b : Rat) : larger a b = max a b := by
  unfold larger
  by_cases h : a < b
  · rw [if_pos h, max_eq_right h.le]
  · rw [if_neg h, max_eq_left (not_lt.mp h)]

theorem larger_zero_nonneg (a : Rat) : 0 ≤ larger a zero := by
  rw [larger_rat, zero_rat]
  exact le_max_right a 0

theorem smaller_rat (a b : Rat) : smaller a b = min a b := by
  unfold smaller
  by_cases h : b < a
  · rw [if_pos h, min_eq_right h.le]
  · rw [if_neg h, min_eq_left (not_lt.mp h)]

theorem sum_rat (xs : List Rat) : sum xs = xs.sum := by
  rw [sum, zero_rat, List.sum_eq_foldl]

/-- The whole part of what is not negative is its floor. -/
theorem truncate_rat_of_nonneg {q : Rat} (hq : 0 ≤ q) : truncate q = .ok q.floor := by
  have hexact : Scalar.exact q = .finite (decide (q < 0)) q.abs := rfl
  have hsign : ¬q < 0 := not_lt.mpr hq
  have habs : q.abs = q := if_pos hq
  have hfloor : 0 ≤ q.floor := Rat.le_floor_iff.mpr hq
  unfold truncate
  rw [hexact]
  simp only [habs, hsign, decide_false, Rounding.signed, Bool.false_eq_true, if_false,
    Int.toNat_of_nonneg hfloor]

/-- The whole part of what is negative is cut off towards nought. -/
theorem truncate_rat_of_neg {q : Rat} (hq : q < 0) :
    truncate q = .ok (-((-q).floor.toNat : Int)) := by
  have hexact : Scalar.exact q = .finite (decide (q < 0)) q.abs := rfl
  have habs : q.abs = -q := by rw [Rat.abs, if_neg (not_le.mpr hq)]
  unfold truncate
  rw [hexact]
  simp only [habs, hq, decide_true, Rounding.signed, if_true]

/-- A whole number is its own whole part. -/
theorem truncate_rat (n : Int) : truncate (n : Rat) = .ok n := by
  by_cases hn : 0 ≤ n
  · rw [truncate_rat_of_nonneg (Int.cast_nonneg hn), Rat.floor_intCast]
  · have hsign : (n : Rat) < 0 := Int.cast_lt_zero.mpr (not_le.mp hn)
    have hnat : ((-n).toNat : Int) = -n := Int.toNat_of_nonneg (by omega)
    rw [truncate_rat_of_neg hsign, ← Int.cast_neg, Rat.floor_intCast, hnat, neg_neg]

end Scalar

end Choreo
