import Choreo.Number.Quantity
import Choreo.Proofs.Number.Double
import Choreo.Proofs.Number.Units

/-!
The double nearest to a number.

A positive quotient keeps fifty-three bits, or those down to the smallest unit, and is rounded to
the last of them (`exact_ofQuotient`). So a whole number of at most fifty-three bits is a double as
it is (`exact_ofRat_whole`), and a number leaves the range where it is nearer to what would follow
the largest double than to that: `ofRat_infinite_iff` for rationals, `ofReading_infinite_iff` for
decimal numerals.
-/

namespace Choreo
namespace Binary64

theorem scaled_eq (m : Nat) (e : Int) : Exact.scaled m e = m * (2 : Rat) ^ e := by
  unfold Exact.scaled
  split_ifs with he
  · have hpow : (2 : Rat) ^ e = ((Nat.pow 2 (-e).toNat : Nat) : Rat)⁻¹ := by
      rw [Nat.pow_eq, Nat.cast_pow, Nat.cast_ofNat, ← zpow_natCast, ← zpow_neg]
      congr 1
      omega
    rw [Rat.mkRat_eq_div, hpow, Int.cast_natCast, div_eq_mul_inv]
  · have hpow : (2 : Rat) ^ e = ((Nat.pow 2 e.toNat : Nat) : Rat) := by
      rw [Nat.pow_eq, Nat.cast_pow, Nat.cast_ofNat, ← zpow_natCast]
      congr 1
      omega
    rw [Rat.mkRat_eq_div, hpow]
    push_cast
    ring

section
variable {num den : Nat}

/-- A quotient in units of a power of two, as a quotient of whole numbers. -/
theorem inUnits_eq (num den : Nat) (e : Int) :
    (num : Rat) / den / (2 : Rat) ^ e =
      (num * Nat.pow 2 (-e).toNat : Nat) / (den * Nat.pow 2 e.toNat : Nat) := by
  have h := Rounding.inUnits two_pos num den e
  rwa [Nat.cast_ofNat] at h

theorem full_mul (e : Int) : (9007199254740992 : Rat) * 2 ^ e = 2 ^ (53 + e) := by
  rw [zpow_add₀ two_ne_zero]
  rfl

theorem half_mul (e : Int) : (4503599627370496 : Rat) * 2 ^ e = 2 ^ (52 + e) := by
  rw [zpow_add₀ two_ne_zero]
  rfl

theorem unitDen_pos (hden : 0 < den) (e : Int) : 0 < den * Nat.pow 2 e.toNat :=
  Rounding.unitDen_pos two_pos hden e

theorem log2_bounds {n : Nat} (hn : 0 < n) :
    (2 : Rat) ^ (n.log2 : Int) ≤ n ∧ (n : Rat) < (2 : Rat) ^ ((n.log2 : Int) + 1) := by
  obtain ⟨hlow, hhigh⟩ := (Nat.log2_eq_iff hn.ne').mp rfl
  constructor
  · rw [zpow_natCast]
    exact_mod_cast hlow
  · rw [← Nat.cast_succ, zpow_natCast]
    exact_mod_cast hhigh

theorem leadingExponent_spec (hnum : 0 < num) (hden : 0 < den) :
    (2 : Rat) ^ leadingExponent num den ≤ num / den ∧
      (num : Rat) / den < (2 : Rat) ^ (leadingExponent num den + 1) := by
  have h := Rounding.leading_spec two_pos hden (log2_bounds hnum) (log2_bounds hden)
  simpa only [leadingExponent, reaches, decide_eq_true_eq, Nat.cast_ofNat] using h

/-! ## The bits kept -/

/-- A quotient has at most fifty-three bits in its last unit, and fifty-three unless that unit is
the smallest. -/
theorem inUnits_bounds (hnum : 0 < num) (hden : 0 < den) :
    (num : Rat) / den / (2 : Rat) ^ lastExponent num den < 9007199254740992 ∧
      (4503599627370496 ≤ (num : Rat) / den / (2 : Rat) ^ lastExponent num den ∨
        lastExponent num den = -1074) := by
  obtain ⟨hlow, hhigh⟩ := leadingExponent_spec hnum hden
  have hunit : (0 : Rat) < (2 : Rat) ^ lastExponent num den := zpow_pos two_pos _
  have hle : leadingExponent num den - 52 ≤ lastExponent num den := le_max_left _ _
  constructor
  · rw [div_lt_iff₀ hunit]
    rw [full_mul]
    exact hhigh.trans_le (zpow_le_zpow_right₀ one_le_two (by omega))
  · rcases max_choice (leadingExponent num den - 52) (-1074) with h | h
    · left
      rw [le_div_iff₀ hunit]
      have hlast : 52 + lastExponent num den = leadingExponent num den := by
        rw [lastExponent, h]
        omega
      rw [half_mul, hlast]
      exact hlow
    · exact .inr h

theorem keptUnits_le (hnum : 0 < num) (hden : 0 < den) : keptUnits num den ≤ 9007199254740992 :=
  Rounding.halfEvenDiv_le_of_le (unitDen_pos hden _) (inUnits_eq num den _)
    (inUnits_bounds hnum hden).1.le

theorem le_keptUnits (hnum : 0 < num) (hden : 0 < den) :
    4503599627370496 ≤ keptUnits num den ∨ lastExponent num den = -1074 := by
  refine (inUnits_bounds hnum hden).2.imp_left fun h => ?_
  exact Rounding.le_halfEvenDiv_of_le (unitDen_pos hden _) (inUnits_eq num den _) h

theorem lastExponent_ge : -1074 ≤ lastExponent num den := le_max_right _ _

/-- Words number the doubles upwards: bits and a unit read back from a word are those it was put
together from, or stand for the same number. -/
theorem significand_word {m : Nat} {e : Int} (hlow : -1074 ≤ e) (hle : m ≤ 9007199254740992)
    (hge : 4503599627370496 ≤ m ∨ e = -1074) :
    let n := (e + 1074).toNat * 4503599627370496 + m
    let s := Exact.significand (n / 4503599627370496) (n % 4503599627370496)
    (s.1 : Rat) * (2 : Rat) ^ s.2 = m * (2 : Rat) ^ e := by
  intro n s
  by_cases hfew : m < 4503599627370496
  · have hparts : s = (m, e) := by
      have hfield : n / 4503599627370496 = 0 := by omega
      have hfraction : n % 4503599627370496 = m := by omega
      show Exact.significand _ _ = _
      rw [hfield, hfraction, Exact.significand, if_pos rfl, Prod.mk.injEq]
      exact ⟨rfl, by omega⟩
    rw [hparts]
  · by_cases hcarry : m = 9007199254740992
    · have hparts : s = (4503599627370496, e + 1) := by
        have hfield : n / 4503599627370496 = (e + 1074).toNat + 2 := by omega
        have hfraction : n % 4503599627370496 = 0 := by omega
        show Exact.significand _ _ = _
        rw [hfield, hfraction, Exact.significand, if_neg (by omega), Prod.mk.injEq]
        exact ⟨by omega, by omega⟩
      rw [hparts, hcarry, zpow_add_one₀ two_ne_zero]
      push_cast
      ring
    · have hparts : s = (m, e) := by
        have hfield : n / 4503599627370496 = (e + 1074).toNat + 1 := by omega
        have hfraction : n % 4503599627370496 = m - 4503599627370496 := by omega
        show Exact.significand _ _ = _
        rw [hfield, hfraction, Exact.significand, if_neg (by omega), Prod.mk.injEq]
        exact ⟨by omega, by omega⟩
      rw [hparts]

/-- What the nearest double to a positive quotient is worth. -/
theorem exact_ofQuotient (hnum : 0 < num) (hden : 0 < den) :
    Exact.ofFloat (ofQuotient num den) =
      if infiniteWord ≤ (lastExponent num den + 1074).toNat * 4503599627370496 + keptUnits num den
      then .infinite false
      else .finite false (keptUnits num den * (2 : Rat) ^ lastExponent num den) := by
  have hlow : -1074 ≤ lastExponent num den := lastExponent_ge
  have hle := keptUnits_le hnum hden
  have hge := le_keptUnits hnum hden
  have hinfinite : infiniteWord = 2047 * 4503599627370496 := rfl
  rw [ofQuotient, exact_word (n := nearestWord num den) (Nat.min_le_right _ _), nearestWord]
  generalize lastExponent num den = e at hlow hge ⊢
  generalize keptUnits num den = m at hle hge ⊢
  split_ifs with h1 h2 h2
  · rfl
  · omega
  · omega
  · have hword : min ((e + 1074).toNat * 4503599627370496 + m) infiniteWord =
        (e + 1074).toNat * 4503599627370496 + m := by omega
    rw [hword, scaled_eq]
    congr 1
    exact significand_word hlow hle hge

/-! ## Range -/

/-- From here on a number is nearer to what would follow the largest double than to that. -/
def overflowBound : Rat := 2 ^ 1024 - 2 ^ 970

theorem overflowBound_eq :
    overflowBound = 18014398509481983 * (2 : Rat) ^ (970 : Int) := by
  have hpow : (2 : Rat) ^ 1024 = 18014398509481984 * 2 ^ 970 := by
    rw [show 1024 = 54 + 970 from rfl, pow_add]
    norm_num
  rw [overflowBound, hpow]
  have hunit : (2 : Rat) ^ (970 : Int) = 2 ^ 970 := zpow_natCast 2 970
  rw [hunit]
  generalize (2 : Rat) ^ 970 = u
  ring

theorem lt_overflowBound {e : Int} (he : e ≤ 1023) : (2 : Rat) ^ e < overflowBound := by
  have hpos : (0 : Rat) < 2 ^ (970 : Int) := zpow_pos two_pos _
  have hpow : (2 : Rat) ^ e ≤ 9007199254740992 * 2 ^ (970 : Int) := by
    rw [full_mul]
    exact zpow_le_zpow_right₀ one_le_two he
  rw [overflowBound_eq]
  generalize (2 : Rat) ^ (970 : Int) = u at hpos hpow ⊢
  linarith

theorem overflowBound_pos : 0 < overflowBound :=
  (zpow_pos two_pos (0 : Int)).trans (lt_overflowBound (by omega))

/-- A positive quotient leaves the range of doubles from the middle between the largest of them and
the next power of two on. -/
theorem overflows_iff (hnum : 0 < num) (hden : 0 < den) :
    infiniteWord ≤ (lastExponent num den + 1074).toNat * 4503599627370496 + keptUnits num den ↔
      overflowBound ≤ num / den := by
  have hlow : -1074 ≤ lastExponent num den := lastExponent_ge
  have hle := keptUnits_le hnum hden
  have hge := le_keptUnits hnum hden
  have hinfinite : infiniteWord = 2047 * 4503599627370496 := rfl
  obtain ⟨hfew, hmany⟩ := inUnits_bounds hnum hden
  have hunit : (0 : Rat) < (2 : Rat) ^ lastExponent num den := zpow_pos two_pos _
  rcases lt_trichotomy (lastExponent num den) 971 with he | he | he
  · have hbelow : (num : Rat) / den < overflowBound := by
      rw [div_lt_iff₀ hunit, full_mul] at hfew
      exact hfew.trans (lt_overflowBound (by omega))
    exact iff_of_false (by omega) (not_le.mpr hbelow)
  · have hbound : overflowBound ≤ (num : Rat) / den ↔
        ((9007199254740992 : Nat) : Rat) - 1 / 2 ≤
          num / den / (2 : Rat) ^ lastExponent num den := by
      have hdouble : (2 : Rat) ^ (971 : Int) = 2 * 2 ^ (970 : Int) := by
        rw [← zpow_one_add₀ two_ne_zero]
        rfl
      rw [le_div_iff₀ hunit, he, overflowBound_eq, hdouble]
      generalize (2 : Rat) ^ (970 : Int) = u
      push_cast
      ring_nf
    have hword : infiniteWord ≤
        (lastExponent num den + 1074).toNat * 4503599627370496 + keptUnits num den ↔
          9007199254740992 ≤ keptUnits num den := by
      rw [he]
      omega
    rw [hbound, hword]
    constructor
    · intro h
      have hnear := Rounding.halfEvenDiv_le (unitDen_pos hden _)
        (inUnits_eq num den (lastExponent num den))
      have h : ((9007199254740992 : Nat) : Rat) ≤ keptUnits num den := Nat.cast_le.mpr h
      exact (sub_le_iff_le_add.mpr (h.trans hnear))
    · exact Rounding.le_halfEvenDiv_of_even (unitDen_pos hden _) (inUnits_eq num den _) rfl
  · have hmany := hmany.resolve_right (by omega)
    rw [le_div_iff₀ hunit] at hmany
    have hpow : (2 : Rat) ^ (972 : Int) ≤ (2 : Rat) ^ lastExponent num den :=
      zpow_le_zpow_right₀ one_le_two (by omega)
    have hfour : (2 : Rat) ^ (972 : Int) = 4 * 2 ^ (970 : Int) := by
      rw [show (972 : Int) = 2 + 970 from rfl, zpow_add₀ two_ne_zero]
      rfl
    have habove : overflowBound ≤ (num : Rat) / den := by
      have hpos : (0 : Rat) < 2 ^ (970 : Int) := zpow_pos two_pos _
      rw [overflowBound_eq]
      rw [hfour] at hpow
      generalize (2 : Rat) ^ (970 : Int) = u at hpow hpos ⊢
      linarith
    exact iff_of_true (by omega) habove

/-- A positive quotient that a double can hold as it is becomes that double. -/
theorem exact_ofQuotient_of_units {k : Nat} (hnum : 0 < num) (hden : 0 < den)
    (hk : (num : Rat) / den = k * (2 : Rat) ^ lastExponent num den)
    (hbound : (num : Rat) / den < overflowBound) :
    Exact.ofFloat (ofQuotient num den) = .finite false (num / den) := by
  have hunit : (2 : Rat) ^ lastExponent num den ≠ 0 := (zpow_pos two_pos _).ne'
  have hkept : keptUnits num den = k := by
    refine Rounding.halfEvenDiv_of_whole (unitDen_pos hden _) ?_
    rw [← inUnits_eq, hk, mul_div_cancel_right₀ _ hunit]
  rw [exact_ofQuotient hnum hden, if_neg ((overflows_iff hnum hden).not.mpr (not_le.mpr hbound)),
    hkept, ← hk]

end

/-! ## Numbers -/

section
variable {n : Nat}

/-- Whole numbers of fifty-three bits are doubles as they are. -/
theorem exact_ofQuotient_whole (hpos : 0 < n) (hn : n ≤ 9007199254740992) :
    Exact.ofFloat (ofQuotient n 1) = .finite false n := by
  by_cases hlast : n = 9007199254740992
  · subst hlast
    have hlast : lastExponent 9007199254740992 1 = 1 := by decide
    have hunit : ((9007199254740992 : Nat) : Rat) / (1 : Nat) =
        (4503599627370496 : Nat) * (2 : Rat) ^ lastExponent 9007199254740992 1 := by
      rw [hlast]
      norm_num
    have hbound : ((9007199254740992 : Nat) : Rat) / (1 : Nat) < overflowBound := by
      have hpow : ((9007199254740992 : Nat) : Rat) / (1 : Nat) = 2 ^ (53 : Int) := by norm_num
      exact hpow.trans_lt (lt_overflowBound (by decide))
    rw [exact_ofQuotient_of_units hpos one_pos hunit hbound, Nat.cast_one, div_one]
  · have hlt : n < 2 ^ 53 := by omega
    have hlead : leadingExponent n 1 ≤ 52 := by
      have hlow := (leadingExponent_spec hpos one_pos).1
      by_contra hmore
      have hpow : (2 : Rat) ^ (53 : Int) ≤ 2 ^ leadingExponent n 1 :=
        zpow_le_zpow_right₀ one_le_two (by omega)
      have hn : (n : Rat) < 2 ^ (53 : Int) := by exact_mod_cast hlt
      rw [Nat.cast_one, div_one] at hlow
      linarith
    have hunit : (n : Rat) / (1 : Nat) =
        (n * 2 ^ (-lastExponent n 1).toNat : Nat) * (2 : Rat) ^ lastExponent n 1 := by
      have hlast : lastExponent n 1 = -((-lastExponent n 1).toNat : Int) := by
        unfold lastExponent
        omega
      have hone : (2 : Rat) ^ (-lastExponent n 1).toNat * (2 : Rat) ^ lastExponent n 1 = 1 := by
        rw [← zpow_natCast, ← zpow_add₀ two_ne_zero]
        convert zpow_zero (2 : Rat)
        omega
      push_cast
      rw [mul_assoc, hone, mul_one, div_one]
    have hbound : (n : Rat) / (1 : Nat) < overflowBound := by
      have hn : (n : Rat) < 2 ^ (53 : Int) := by exact_mod_cast hlt
      rw [Nat.cast_one, div_one]
      exact hn.trans (lt_overflowBound (by omega))
    rw [exact_ofQuotient_of_units hpos one_pos hunit hbound, Nat.cast_one, div_one]

end

theorem ofRat_zero : ofRat 0 = 0 := if_pos rfl

/-- The sign in front of a number that is not nought is the sign of its double. -/
theorem ofRat_neg {q : Rat} (hq : q ≠ 0) : ofRat (-q) = -ofRat q := by
  have hnum : q.num ≠ 0 := Rat.num_ne_zero.mpr hq
  have hnum' : (-q).num ≠ 0 := Rat.num_ne_zero.mpr (neg_ne_zero.mpr hq)
  unfold ofRat
  rw [if_neg hnum, if_neg hnum', Rat.neg_num, Rat.neg_den, Int.natAbs_neg]
  dsimp only
  by_cases hneg : q < 0
  · rw [if_pos hneg, if_neg (by linarith), neg_neg]
  · have hpos : 0 < q := lt_of_le_of_ne (not_lt.mp hneg) hq.symm
    rw [if_neg hneg, if_pos (by linarith)]

theorem ofRat_of_pos {q : Rat} (hq : 0 < q) : ofRat q = ofQuotient q.num.natAbs q.den := by
  have hnum : q.num ≠ 0 := Rat.num_ne_zero.mpr hq.ne'
  rw [ofRat, if_neg hnum]
  dsimp only
  rw [if_neg hq.not_gt]

/-- What the double nearest to a whole number of at most fifty-three bits is worth. -/
theorem exact_ofRat_whole {n : Int} (hn : n.natAbs ≤ 9007199254740992) :
    Exact.ofFloat (ofRat n) = .finite (decide (n < 0)) n.natAbs := by
  have hpositive : ∀ m : Nat, 0 < m → m ≤ 9007199254740992 →
      Exact.ofFloat (ofRat (m : Int)) = .finite false m := by
    intro m hpos hm
    rw [ofRat_of_pos (by exact_mod_cast hpos)]
    exact exact_ofQuotient_whole hpos hm
  rcases lt_trichotomy n 0 with hneg | rfl | hpos
  · obtain ⟨m, rfl⟩ : ∃ m : Nat, n = -(m : Int) := ⟨n.natAbs, by omega⟩
    rw [Int.natAbs_neg, Int.natAbs_natCast] at hn ⊢
    have hne : ((m : Int) : Rat) ≠ 0 := by
      rw [Int.cast_ne_zero]
      omega
    rw [Int.cast_neg, ofRat_neg hne, exact_neg, hpositive m (by omega) hn, decide_eq_true hneg]
    rfl
  · rw [Int.cast_zero, ofRat_zero, exact_zero, decide_eq_false (lt_irrefl 0), Int.natAbs_zero,
      Nat.cast_zero]
  · obtain ⟨m, rfl⟩ := Int.eq_ofNat_of_zero_le hpos.le
    rw [hpositive m (by omega) hn, decide_eq_false hpos.not_gt]
    rfl

theorem opposite_infinite {x : Exact} :
    (∃ s, opposite x = .infinite s) ↔ ∃ s, x = .infinite s := by
  cases x with
  | finite s q => simp [opposite]
  | infinite s => simp [opposite]
  | nan => simp [opposite]

theorem ofQuotient_infinite_iff {num den : Nat} (hnum : 0 < num) (hden : 0 < den) :
    (∃ s, Exact.ofFloat (ofQuotient num den) = .infinite s) ↔ overflowBound ≤ num / den := by
  rw [exact_ofQuotient hnum hden, ← overflows_iff hnum hden]
  split_ifs with h
  · exact iff_of_true ⟨false, rfl⟩ h
  · refine iff_of_false ?_ h
    rintro ⟨s, hs⟩
    cases hs

/-- A rational leaves the range of doubles on either side. -/
theorem ofRat_infinite_iff {q : Rat} :
    (∃ s, Exact.ofFloat (ofRat q) = .infinite s) ↔ overflowBound ≤ |q| := by
  have hpositive : ∀ {q : Rat}, 0 < q →
      ((∃ s, Exact.ofFloat (ofRat q) = .infinite s) ↔ overflowBound ≤ |q|) := by
    intro q hq
    have hnum : 0 < q.num := Rat.num_pos.mpr hq
    have hvalue : |q| = q.num.natAbs / q.den := by
      rw [abs_of_pos hq, Nat.cast_natAbs, abs_of_pos hnum, Rat.num_div_den]
    rw [ofRat_of_pos hq, ofQuotient_infinite_iff (by omega) q.den_pos, hvalue]
  rcases lt_trichotomy q 0 with hneg | rfl | hpos
  · rw [← abs_neg, ← hpositive (neg_pos.mpr hneg), ofRat_neg hneg.ne, exact_neg, opposite_infinite]
  · rw [abs_zero]
    refine iff_of_false ?_ (not_le.mpr overflowBound_pos)
    rintro ⟨s, hs⟩
    rw [ofRat_zero, exact_zero] at hs
    cases hs
  · exact hpositive hpos

/-! ## Decimals -/

/-- A power of ten lies between the powers of two three and four times as high. -/
theorem ten_zpow_le {e : Int} (he : e ≤ 0) : (10 : Rat) ^ e ≤ 2 ^ (3 * e) := by
  obtain ⟨k, rfl⟩ : ∃ k : Nat, e = -(k : Int) := ⟨(-e).toNat, by omega⟩
  have hpow : (2 : Rat) ^ (3 * -(k : Int)) = (8 ^ k)⁻¹ := by
    rw [zpow_mul, zpow_neg, zpow_natCast]
    norm_num
  rw [hpow, zpow_neg, zpow_natCast]
  exact inv_anti₀ (by positivity) (pow_le_pow_left₀ (by norm_num) (by norm_num) k)

theorem le_ten_zpow {e : Int} (he : 0 ≤ e) : (2 : Rat) ^ (3 * e) ≤ 10 ^ e := by
  obtain ⟨k, rfl⟩ := Int.eq_ofNat_of_zero_le he
  rw [zpow_mul, zpow_natCast, zpow_natCast]
  exact pow_le_pow_left₀ (by norm_num) (by norm_num) k

theorem overflowBound_lt : overflowBound < (2 : Rat) ^ (1024 : Int) := by
  have hpos : (0 : Rat) < 2 ^ 970 := pow_pos two_pos _
  exact sub_lt_self _ hpos

theorem div_ten_pow (digits : Nat) {exponent : Int} (h : exponent < 0) :
    (digits : Rat) / (Nat.pow 10 (-exponent).toNat : Nat) = digits * (10 : Rat) ^ exponent := by
  have hpow : (10 : Rat) ^ exponent = ((10 : Rat) ^ (-exponent).toNat)⁻¹ := by
    rw [← zpow_natCast, ← zpow_neg]
    congr 1
    omega
  rw [Nat.pow_eq, Nat.cast_pow, Nat.cast_ofNat, hpow, div_eq_mul_inv]

theorem mul_ten_pow (digits : Nat) {exponent : Int} (h : 0 ≤ exponent) :
    ((digits * Nat.pow 10 exponent.toNat : Nat) : Rat) / (1 : Nat) =
      digits * (10 : Rat) ^ exponent := by
  have hpow : (10 : Rat) ^ exponent = (10 : Rat) ^ exponent.toNat := by
    rw [← zpow_natCast]
    congr 1
    omega
  rw [Nat.cast_one, div_one, Nat.cast_mul, Nat.pow_eq, Nat.cast_pow, Nat.cast_ofNat, hpow]

/-- A large power of ten is out of range with any digits in front. -/
theorem le_of_large {digits : Nat} {exponent : Int} (hdigits : 0 < digits)
    (hlarge : 400 < exponent) : (2 : Rat) ^ (1024 : Int) ≤ digits * 10 ^ exponent := by
  have hten : (0 : Rat) < (10 : Rat) ^ exponent := zpow_pos (by norm_num) _
  have hdigits : (1 : Rat) ≤ digits := by exact_mod_cast hdigits
  calc (2 : Rat) ^ (1024 : Int) ≤ (2 : Rat) ^ (3 * exponent) :=
        zpow_le_zpow_right₀ one_le_two (by omega)
    _ ≤ 10 ^ exponent := le_ten_zpow (by omega)
    _ ≤ digits * 10 ^ exponent := le_mul_of_one_le_left hten.le hdigits

theorem lt_of_small {digits : Nat} {exponent : Int} (hdigits : 0 < digits)
    (hsmall : (digits.log2 : Int) + 3 * exponent < -1200) :
    digits * (10 : Rat) ^ exponent < 2 ^ (-1200 : Int) := by
  have hten : (0 : Rat) < (10 : Rat) ^ exponent := zpow_pos (by norm_num) _
  calc digits * (10 : Rat) ^ exponent
      < 2 ^ ((digits.log2 : Int) + 1) * 10 ^ exponent :=
        mul_lt_mul_of_pos_right (log2_bounds hdigits).2 hten
    _ ≤ 2 ^ ((digits.log2 : Int) + 1) * 2 ^ (3 * exponent) :=
      mul_le_mul_of_nonneg_left (ten_zpow_le (by omega)) (zpow_pos two_pos _).le
    _ = 2 ^ ((digits.log2 : Int) + 1 + 3 * exponent) := (zpow_add₀ two_ne_zero _ _).symm
    _ ≤ 2 ^ (-1200 : Int) := zpow_le_zpow_right₀ one_le_two (by omega)

/-- Digits and a power of ten leave the range of doubles where their value does. -/
theorem ofDecimal_infinite_iff (digits : Nat) (exponent : Int) :
    (∃ s, Exact.ofFloat (ofDecimal digits exponent) = .infinite s) ↔
      overflowBound ≤ digits * (10 : Rat) ^ exponent := by
  have hzero : ¬∃ s, Exact.ofFloat 0 = .infinite s := by simp [exact_zero]
  unfold ofDecimal
  split_ifs with hnone hlarge hsmall hneg
  · refine iff_of_false hzero ?_
    rw [hnone, Nat.cast_zero, zero_mul, not_le]
    exact overflowBound_pos
  · refine iff_of_true ⟨false, opened_infinite⟩ ?_
    exact overflowBound_lt.le.trans (le_of_large (Nat.pos_of_ne_zero hnone) hlarge)
  · refine iff_of_false hzero (not_le.mpr ?_)
    exact (lt_of_small (Nat.pos_of_ne_zero hnone) hsmall).trans (lt_overflowBound (by decide))
  · have hpos : 0 < Nat.pow 10 (-exponent).toNat := Nat.pow_pos (by decide)
    rw [ofQuotient_infinite_iff (Nat.pos_of_ne_zero hnone) hpos, div_ten_pow digits hneg]
  · have hpos : 0 < digits * Nat.pow 10 exponent.toNat :=
      Nat.mul_pos (Nat.pos_of_ne_zero hnone) (Nat.pow_pos (by decide))
    rw [ofQuotient_infinite_iff hpos one_pos, mul_ten_pow digits (by omega)]

/-- Whether a decimal numeral says a number beyond the largest double. -/
def exceedsDoubles : Text.Reading → Prop
  | .finite _ digits exponent => overflowBound ≤ digits * (10 : Rat) ^ exponent
  | .infinite _ => True
  | .nan => False

/-- A decimal numeral is read as an infinity where it exceeds the doubles. -/
theorem ofReading_infinite_iff (r : Text.Reading) :
    (∃ s, Exact.ofFloat (ofReading r) = .infinite s) ↔ exceedsDoubles r := by
  unfold ofReading exceedsDoubles
  split
  · split_ifs
    · rw [exact_neg, opposite_infinite, ofDecimal_infinite_iff]
    · exact ofDecimal_infinite_iff _ _
  · refine iff_of_true ?_ trivial
    split_ifs
    · rw [exact_neg, opposite_infinite, opened_infinite]
      exact ⟨false, rfl⟩
    · rw [opened_infinite]
      exact ⟨false, rfl⟩
  · rw [divided_nan]
    refine iff_of_false ?_ id
    rintro ⟨s, hs⟩
    cases hs

theorem ofQuotient_ne_nan {num den : Nat} (hnum : 0 < num) (hden : 0 < den) :
    Exact.ofFloat (ofQuotient num den) ≠ .nan := by
  rw [exact_ofQuotient hnum hden]
  split_ifs <;> nofun

theorem ofDecimal_ne_nan (digits : Nat) (exponent : Int) :
    Exact.ofFloat (ofDecimal digits exponent) ≠ .nan := by
  unfold ofDecimal
  split_ifs with hnone
  · rw [exact_zero]
    nofun
  · rw [opened_infinite]
    nofun
  · rw [exact_zero]
    nofun
  · exact ofQuotient_ne_nan (Nat.pos_of_ne_zero hnone) (Nat.pow_pos (by decide))
  · exact ofQuotient_ne_nan
      (Nat.mul_pos (Nat.pos_of_ne_zero hnone) (Nat.pow_pos (by decide))) one_pos

theorem opposite_nan {x : Exact} : opposite x = .nan ↔ x = .nan := by
  cases x <;> simp [opposite]

/-- A decimal numeral is read as no number where it says so. -/
theorem ofReading_nan_iff (r : Text.Reading) : Exact.ofFloat (ofReading r) = .nan ↔ r = .nan := by
  unfold ofReading
  split
  · refine iff_of_false ?_ nofun
    split_ifs
    · rw [exact_neg, opposite_nan]
      exact ofDecimal_ne_nan _ _
    · exact ofDecimal_ne_nan _ _
  · refine iff_of_false ?_ nofun
    split_ifs
    · rw [exact_neg, opposite_nan, opened_infinite]
      nofun
    · rw [opened_infinite]
      nofun
  · exact iff_of_true divided_nan rfl

end Binary64

/-- A whole number becomes the nearest double, unless that is infinite. -/
theorem Quantity.ofWhole_doubles (n : Int) :
    (Quantity.ofWhole n : Except NumberFault Float) =
      if Binary64.overflowBound ≤ |(n : Rat)| then .error .overflow
      else .ok (Binary64.ofRat n) := by
  unfold Quantity.ofWhole
  dsimp only
  split
  · next s hexact =>
    rw [if_pos (Binary64.ofRat_infinite_iff.mp ⟨s, hexact⟩)]
  · next hfinite =>
    rw [if_neg fun hbound => ?_]
    · rfl
    · obtain ⟨s, hexact⟩ := Binary64.ofRat_infinite_iff.mpr hbound
      exact hfinite s hexact

end Choreo
