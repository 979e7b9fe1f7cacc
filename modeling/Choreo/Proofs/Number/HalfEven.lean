import Choreo.Proofs.Number.Rounding
import Mathlib.Algebra.Ring.Int.Parity

/-!
The nearest whole number to a rational, a half going to the even neighbour.

There is one such number (`IsNearest.unique`), and it is what rounding gives
(`halfEvenDiv_isNearest`, `units_isNearest`).
-/

namespace Choreo
namespace Rounding

/-- No whole number is nearer, and of two that are as near it is the even one. -/
def IsNearest (q : Rat) (n : Int) : Prop := |q - n| ≤ 1 / 2 ∧ (|q - n| = 1 / 2 → Even n)

section
variable {q : Rat} {m n : Int}

theorem isNearest_intCast (n : Int) : IsNearest n n := by
  refine ⟨by norm_num, fun htie => ?_⟩
  norm_num at htie

theorem IsNearest.le_add_one (hm : IsNearest q m) (hn : IsNearest q n) : m ≤ n + 1 := by
  have hm := abs_le.mp hm.1
  have hn := abs_le.mp hn.1
  have hle : (m : Rat) ≤ n + 1 := by linarith
  exact_mod_cast hle

theorem IsNearest.ne_add_one (hm : IsNearest q m) (hn : IsNearest q n) : m ≠ n + 1 := by
  rintro rfl
  have hm' := abs_le.mp hm.1
  have hn' := abs_le.mp hn.1
  push_cast at hm'
  -- Neighbours are as near as one another at the half only, and then both would be even.
  have hhalf : q - n = 1 / 2 := by linarith
  have heven : Even n := hn.2 (by rw [hhalf]; norm_num)
  have hsucc : Even (n + 1) := hm.2 (by push_cast; rw [← sub_sub, hhalf]; norm_num)
  exact Int.not_even_iff_odd.mpr heven.add_one hsucc

theorem IsNearest.unique (hm : IsNearest q m) (hn : IsNearest q n) : m = n := by
  have hle := hm.le_add_one hn
  have hge := hn.le_add_one hm
  have hne := hm.ne_add_one hn
  have hne' := hn.ne_add_one hm
  omega

/-- A whole bound of a rational bounds the nearest whole number. -/
theorem IsNearest.le_of_le {n limit : Nat} (hn : IsNearest q n) (hq : q ≤ limit) : n ≤ limit := by
  have hnear := (abs_le.mp hn.1).1
  rw [Int.cast_natCast] at hnear
  have hlt : (n : Rat) < limit + 1 := by linarith
  have hlt : n < limit + 1 := by exact_mod_cast hlt
  omega

end

/-- What is left of a quotient that lies half-way between two whole numbers. -/
theorem rest_of_tie {num den : Nat} {q : Rat} (hden : 0 < den) (hq : q = num / den)
    (htie : |q - (halfEvenDiv num den : Nat)| = 1 / 2) : 2 * (num % den) = den := by
  have hpos : (0 : Rat) < den := Nat.cast_pos.mpr hden
  have hrest : (0 : Rat) ≤ (num % den : Nat) := Nat.cast_nonneg _
  have hlt : ((num % den : Nat) : Rat) < den := Nat.cast_lt.mpr (Nat.mod_lt num hden)
  have hparts := quotient_eq hden hq
  have hscaled : (q - (halfEvenDiv num den : Nat)) * den = den / 2 ∨
      (q - (halfEvenDiv num den : Nat)) * den = -(den / 2) := by
    rcases (abs_eq (by norm_num)).mp htie with h | h
    · exact .inl (by rw [h]; ring)
    · exact .inr (by rw [h]; ring)
  rw [sub_mul, hparts] at hscaled
  have htwice : (2 * (num % den : Nat) : Rat) = den := by
    rcases halfEvenDiv_cases num den with ⟨heq, -⟩ | ⟨heq, -⟩ <;> rw [heq] at hscaled <;>
      push_cast at hscaled hrest hlt ⊢ <;> rcases hscaled with h | h <;> linarith
  exact_mod_cast htwice

theorem halfEvenDiv_isNearest {num den : Nat} {q : Rat} (hden : 0 < den) (hq : q = num / den) :
    IsNearest q (halfEvenDiv num den : Nat) := by
  have hle := halfEvenDiv_le hden hq
  have hge := le_halfEvenDiv hden hq
  rw [IsNearest, Int.cast_natCast]
  refine ⟨abs_le.mpr ⟨by linarith, by linarith⟩, fun htie => ?_⟩
  have hrest := rest_of_tie hden hq htie
  rw [Int.even_coe_nat, Nat.even_iff]
  unfold halfEvenDiv
  dsimp only
  split_ifs <;> omega

/-- Of a rational that is not negative, in units of a decimal place. -/
theorem units_isNearest (places : Nat) {q : Rat} (hq : 0 ≤ q) :
    IsNearest (q * 10 ^ places) (units places q : Nat) := by
  refine halfEvenDiv_isNearest q.den_pos ?_
  have hnum : ((q.num.natAbs : Nat) : Rat) = q.num := by
    rw [← Int.cast_natCast, Int.natAbs_of_nonneg (Rat.num_nonneg.mpr hq)]
  rw [Nat.cast_mul, hnum, Nat.pow_eq, Nat.cast_pow, Nat.cast_ofNat, mul_div_right_comm,
    Rat.num_div_den]

end Rounding
end Choreo
