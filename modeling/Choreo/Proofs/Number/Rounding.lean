import Choreo.Number.Rounding
import Mathlib.Algebra.Field.Rat
import Mathlib.Algebra.Order.Field.Basic
import Mathlib.Algebra.Order.Ring.Rat
import Mathlib.Data.Rat.Cast.Order
import Mathlib.Tactic.Linarith
import Mathlib.Tactic.Ring

/-!
The nearest whole number to a quotient.

It lies within half a unit of the quotient (`halfEvenDiv_le`, `le_halfEvenDiv`), and so a whole
quotient is its own nearest (`halfEvenDiv_of_whole`). A half goes to the even neighbour, so an even
number is the nearest from half a unit below it on (`le_halfEvenDiv_of_even`).
-/

namespace Choreo
namespace Rounding

theorem halfEvenDiv_cases (num den : Nat) :
    (halfEvenDiv num den = num / den ∧ 2 * (num % den) ≤ den) ∨
      (halfEvenDiv num den = num / den + 1 ∧ den ≤ 2 * (num % den)) := by
  unfold halfEvenDiv
  dsimp only
  split_ifs with hbelow habove heven
  · exact .inl ⟨rfl, hbelow.le⟩
  · exact .inr ⟨rfl, habove.le⟩
  · exact .inl ⟨rfl, by omega⟩
  · exact .inr ⟨rfl, by omega⟩

section
variable {num den : Nat} {q : Rat}

/-- The whole part of a quotient and what is left of it. -/
theorem quotient_eq (hden : 0 < den) (hq : q = num / den) :
    q * den = (num / den : Nat) * den + (num % den : Nat) := by
  have hne : (den : Rat) ≠ 0 := Nat.cast_ne_zero.mpr hden.ne'
  rw [hq, div_mul_cancel₀ _ hne]
  exact_mod_cast (Nat.div_add_mod' num den).symm

theorem halfEvenDiv_le (hden : 0 < den) (hq : q = num / den) :
    (halfEvenDiv num den : Rat) ≤ q + 1 / 2 := by
  have hpos : (0 : Rat) < den := Nat.cast_pos.mpr hden
  have hparts := quotient_eq hden hq
  refine le_of_mul_le_mul_right ?_ hpos
  rcases halfEvenDiv_cases num den with ⟨heq, -⟩ | ⟨heq, hrest⟩
  · have hnonneg : (0 : Rat) ≤ (num % den : Nat) := Nat.cast_nonneg _
    rw [heq]
    linarith
  · have hrest : (den : Rat) ≤ 2 * (num % den : Nat) := by exact_mod_cast hrest
    rw [heq, Nat.cast_add, Nat.cast_one]
    linarith

theorem le_halfEvenDiv (hden : 0 < den) (hq : q = num / den) :
    q - 1 / 2 ≤ (halfEvenDiv num den : Rat) := by
  have hpos : (0 : Rat) < den := Nat.cast_pos.mpr hden
  have hparts := quotient_eq hden hq
  refine le_of_mul_le_mul_right ?_ hpos
  rcases halfEvenDiv_cases num den with ⟨heq, hrest⟩ | ⟨heq, -⟩
  · have hrest : 2 * (num % den : Nat) ≤ (den : Rat) := by exact_mod_cast hrest
    rw [heq]
    linarith
  · have hrest : ((num % den : Nat) : Rat) ≤ den := by
      exact_mod_cast (Nat.mod_lt num hden).le
    rw [heq, Nat.cast_add, Nat.cast_one]
    linarith

/-- A whole number is as near as itself. -/
theorem halfEvenDiv_of_whole {k : Nat} (hden : 0 < den) (hq : (k : Rat) = num / den) :
    halfEvenDiv num den = k := by
  have hle := halfEvenDiv_le hden hq
  have hge := le_halfEvenDiv hden hq
  have hlt : (halfEvenDiv num den : Rat) < k + 1 := by linarith
  have hgt : (k : Rat) < halfEvenDiv num den + 1 := by linarith
  have hlt : halfEvenDiv num den < k + 1 := by exact_mod_cast hlt
  have hgt : k < halfEvenDiv num den + 1 := by exact_mod_cast hgt
  omega

/-- A bound that is whole holds of the nearest whole number too. -/
theorem halfEvenDiv_le_of_le {k : Nat} (hden : 0 < den) (hq : q = num / den) (hk : q ≤ k) :
    halfEvenDiv num den ≤ k := by
  have hle := halfEvenDiv_le hden hq
  have hlt : (halfEvenDiv num den : Rat) < k + 1 := by linarith
  have hlt : halfEvenDiv num den < k + 1 := by exact_mod_cast hlt
  omega

theorem le_halfEvenDiv_of_le {k : Nat} (hden : 0 < den) (hq : q = num / den) (hk : k ≤ q) :
    k ≤ halfEvenDiv num den := by
  have hge := le_halfEvenDiv hden hq
  have hgt : (k : Rat) < halfEvenDiv num den + 1 := by linarith
  have hgt : k < halfEvenDiv num den + 1 := by exact_mod_cast hgt
  omega

/-- An even number is reached from half a unit below it on. -/
theorem le_halfEvenDiv_of_even {k : Nat} (hden : 0 < den) (hq : q = num / den) (heven : k % 2 = 0)
    (hk : k - 1 / 2 ≤ q) : k ≤ halfEvenDiv num den := by
  have hpos : (0 : Rat) < den := Nat.cast_pos.mpr hden
  have hne : (den : Rat) ≠ 0 := hpos.ne'
  have hscaled : 2 * k * den ≤ 2 * num + den := by
    have h := mul_le_mul_of_nonneg_right hk hpos.le
    rw [hq, div_mul_cancel₀ _ hne] at h
    have h : (2 * k * den : Rat) ≤ 2 * num + den := by linarith
    exact_mod_cast h
  have hparts := Nat.div_add_mod' num den
  have hrest := Nat.mod_lt num hden
  rcases Nat.lt_or_ge (num / den) k with hlt | hge
  · have hle : k ≤ num / den + 1 := by
      by_contra hmore
      have hprod : (num / den + 2) * den ≤ k * den := Nat.mul_le_mul_right den (by omega)
      rw [Nat.add_mul] at hprod
      rw [Nat.mul_assoc] at hscaled
      omega
    obtain rfl : k = num / den + 1 := by omega
    rw [Nat.mul_assoc, Nat.add_mul] at hscaled
    -- One less than an even number is odd, so at the half the neighbour above is taken.
    unfold halfEvenDiv
    dsimp only
    split_ifs <;> omega
  · rcases halfEvenDiv_cases num den with ⟨heq, -⟩ | ⟨heq, -⟩ <;> omega

end

end Rounding
end Choreo
