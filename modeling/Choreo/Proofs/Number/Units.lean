import Choreo.Proofs.Number.Rounding
import Mathlib.Algebra.Order.Field.Power

/-!
Quotients in units of a power.

To round to the last digit kept, a quotient is taken in units of that digit, which is a quotient of
whole numbers again (`inUnits`). The exponent of its leading digit is the difference of the
exponents of the two sides, or one less (`leading_spec`).
-/

namespace Choreo
namespace Rounding
variable {base num den : Nat}

/-- A quotient in units of a power of the base, as a quotient of whole numbers. -/
theorem inUnits (hbase : 0 < base) (num den : Nat) (e : Int) :
    (num : Rat) / den / (base : Rat) ^ e =
      (num * Nat.pow base (-e).toNat : Nat) / (den * Nat.pow base e.toNat : Nat) := by
  have hne : (base : Rat) ≠ 0 := Nat.cast_ne_zero.mpr hbase.ne'
  have hpow : (base : Rat) ^ e = (base : Rat) ^ e.toNat / (base : Rat) ^ (-e).toNat := by
    rw [← zpow_natCast, ← zpow_natCast, ← zpow_sub₀ hne]
    congr 1
    omega
  rw [hpow]
  push_cast [Nat.pow_eq]
  rw [div_div, mul_div_assoc', div_div_eq_mul_div]

theorem unitDen_pos (hbase : 0 < base) (hden : 0 < den) (e : Int) :
    0 < den * Nat.pow base e.toNat := Nat.mul_pos hden (Nat.pow_pos hbase)

/-- Whether a quotient reaches a power of the base, in whole numbers. -/
theorem zpow_le_quotient_iff (hbase : 0 < base) (hden : 0 < den) (e : Int) :
    den * Nat.pow base e.toNat ≤ num * Nat.pow base (-e).toNat ↔
      (base : Rat) ^ e ≤ num / den := by
  have hpos : (0 : Rat) < (den * Nat.pow base e.toNat : Nat) :=
    Nat.cast_pos.mpr (unitDen_pos hbase hden e)
  have hone : (base : Rat) ^ e ≤ num / den ↔ 1 ≤ (num : Rat) / den / (base : Rat) ^ e :=
    (one_le_div (zpow_pos (Nat.cast_pos.mpr hbase) e)).symm
  rw [hone, inUnits hbase, one_le_div hpos, Nat.cast_le]

/-- The exponent of the leading digit, from those of the two sides. -/
theorem leading_spec (hbase : 0 < base) (hden : 0 < den) {m n : Int}
    (hm : (base : Rat) ^ m ≤ num ∧ (num : Rat) < (base : Rat) ^ (m + 1))
    (hn : (base : Rat) ^ n ≤ den ∧ (den : Rat) < (base : Rat) ^ (n + 1)) :
    let e := if den * Nat.pow base (m - n).toNat ≤ num * Nat.pow base (-(m - n)).toNat then m - n
      else m - n - 1
    (base : Rat) ^ e ≤ num / den ∧ (num : Rat) / den < (base : Rat) ^ (e + 1) := by
  have hpos : (0 : Rat) < base := Nat.cast_pos.mpr hbase
  have hden' : (0 : Rat) < den := Nat.cast_pos.mpr hden
  have hlow : (base : Rat) ^ (m - n - 1) ≤ num / den := by
    rw [sub_sub, zpow_sub₀ hpos.ne']
    exact div_le_div₀ (Nat.cast_nonneg _) hm.1 hden' hn.2.le
  have hhigh : (num : Rat) / den < (base : Rat) ^ (m - n + 1) := by
    rw [sub_add_eq_add_sub, zpow_sub₀ hpos.ne']
    exact div_lt_div₀ hm.2 hn.1 (zpow_pos hpos _).le (zpow_pos hpos _)
  intro e
  by_cases h : den * Nat.pow base (m - n).toNat ≤ num * Nat.pow base (-(m - n)).toNat
  · rw [show e = m - n from if_pos h]
    exact ⟨(zpow_le_quotient_iff hbase hden _).mp h, hhigh⟩
  · rw [show e = m - n - 1 from if_neg h, sub_add_cancel]
    rw [zpow_le_quotient_iff hbase hden, not_le] at h
    exact ⟨hlow, h⟩

end Rounding
end Choreo
