import Choreo.Proofs.Number.Magnitude

/-!
Rounding to a neighbour.

A double is next to a number if none lies between the two (`Rounds`). So a bound that a double holds
carries over to what the number is rounded to (`Rounds.le`, `Rounds.ge`), a number that a double
holds is not rounded (`Rounds.eq`), and any other is off by less than its last unit
(`Rounds.error`). Shifting a mantissa keeps track of what is shifted out of it
(`Represents.shiftRight`), so the arithmetic on doubles taken apart gives one next to the exact
result (`add_approximates`, `sub_approximates`, `mul_approximates`, `div_approximates`).
-/

namespace Choreo
namespace Binary64

open Float.Model Float.Model.UnpackedFloat

/-! ## Neighbours -/

/-- A number of at most fifty-three bits, none of them below the smallest unit. -/
def Held (q : Rat) : Prop :=
  ∃ k e : Int, k.natAbs ≤ 9007199254740992 ∧ -1074 ≤ e ∧ q = k * 2 ^ e

/-- A number `v` of units `2 ^ e` that is less than one of them away from `r`. The unit is one that
leaves `r` fifty-three bits, or the smallest. -/
structure Near (r v : Rat) (k e : Int) : Prop where
  units : v = k * 2 ^ e
  bits : k.natAbs ≤ 9007199254740992
  low : -1074 ≤ e
  close : |v - r| < 2 ^ e
  full : 4503599627370496 * 2 ^ e ≤ |r| ∨ e = -1074

/-- A number is rounded to one next to it. -/
def Rounds (r v : Rat) : Prop := ∃ k e, Near r v k e

section
variable {r v b : Rat} {k e : Int}

theorem Held.neg (h : Held b) : Held (-b) := by
  obtain ⟨k, e, hk, he, rfl⟩ := h
  exact ⟨-k, e, by omega, he, by push_cast; ring⟩

theorem held_intCast {n : Int} (h : n.natAbs ≤ 9007199254740992) : Held n :=
  ⟨n, 0, h, by decide, by simp⟩

theorem held_two_zpow (he : -1074 ≤ e) : Held (2 ^ e) := ⟨1, e, by decide, he, by simp⟩

theorem Rounds.held (h : Rounds r v) : Held v := by
  obtain ⟨k, e, h⟩ := h
  exact ⟨k, e, h.bits, h.low, h.units⟩

theorem rounds_zero : Rounds 0 0 := ⟨0, -1074, by simp, by decide, le_rfl, by simp, .inr rfl⟩

theorem Near.neg (h : Near r v k e) : Near (-r) (-v) (-k) e where
  units := by rw [h.units]; push_cast; ring
  bits := by simpa using h.bits
  low := h.low
  close := by rw [← abs_neg]; convert h.close using 2; ring
  full := by simpa using h.full

theorem Rounds.neg (h : Rounds r v) : Rounds (-r) (-v) := by
  obtain ⟨k, e, h⟩ := h
  exact ⟨-k, e, h.neg⟩

/-- A whole number of units bounds what is rounded where it bounds the number. -/
theorem Near.le_units (h : Near r v k e) {n : Int} (hr : r ≤ n * 2 ^ e) : v ≤ n * 2 ^ e := by
  have hpos : (0 : Rat) < 2 ^ e := zpow_pos two_pos e
  have hclose := (abs_lt.mp h.close).2
  rw [h.units] at hclose ⊢
  have hlt : (k : Rat) < n + 1 := by
    by_contra hge
    have hle := mul_le_mul_of_nonneg_right (not_lt.mp hge) hpos.le
    rw [add_mul, one_mul] at hle
    linarith
  have hkn : k ≤ n := Int.lt_add_one_iff.mp (by exact_mod_cast hlt)
  exact mul_le_mul_of_nonneg_right (by exact_mod_cast hkn) hpos.le

/-- A bound that is held carries over. -/
theorem Rounds.le (h : Rounds r v) (hb : Held b) (hr : r ≤ b) : v ≤ b := by
  obtain ⟨k, e, h⟩ := h
  obtain ⟨n, f, hn, hf, rfl⟩ := hb
  by_cases hef : e ≤ f
  · -- The bound is a whole number of units.
    have hunits : (n : Rat) * 2 ^ f = (n * 2 ^ (f - e).toNat : Int) * 2 ^ e := by
      push_cast
      rw [mul_assoc, ← zpow_natCast, ← zpow_add₀ two_ne_zero]
      congr 2
      omega
    rw [hunits] at hr ⊢
    exact h.le_units hr
  · -- All of what is held in smaller units is less than fifty-three bits in these.
    have hfull := h.full.resolve_right (by omega)
    have hsize : |(n : Rat) * 2 ^ f| ≤ 4503599627370496 * 2 ^ e := by
      have hn : |(n : Rat)| ≤ 9007199254740992 := by
        rw [← Int.cast_abs, Int.abs_eq_natAbs]
        exact_mod_cast hn
      have hpos : (0 : Rat) < 2 ^ f := zpow_pos two_pos f
      rw [abs_mul, abs_of_pos hpos, half_mul]
      calc |(n : Rat)| * 2 ^ f ≤ 9007199254740992 * 2 ^ f := mul_le_mul_of_nonneg_right hn hpos.le
        _ = 2 ^ (53 + f) := full_mul f
        _ ≤ 2 ^ (52 + e) := zpow_le_zpow_right₀ one_le_two (by omega)
    obtain ⟨hlow, hhigh⟩ := abs_le.mp hsize
    rcases le_total 0 r with hpos | hneg
    · rw [abs_of_nonneg hpos] at hfull
      have hv := h.le_units (n := 4503599627370496) (by push_cast; linarith)
      push_cast at hv
      linarith
    · rw [abs_of_nonpos hneg] at hfull
      have hv := h.le_units (n := -4503599627370496) (by push_cast; linarith)
      push_cast at hv
      linarith

theorem Rounds.ge (h : Rounds r v) (hb : Held b) (hr : b ≤ r) : b ≤ v :=
  neg_le_neg_iff.mp (h.neg.le hb.neg (neg_le_neg hr))

/-- What is held is not rounded. -/
theorem Rounds.eq (h : Rounds r v) (hr : Held r) : v = r :=
  le_antisymm (h.le hr le_rfl) (h.ge hr le_rfl)

/-- A number within a power of two is off by less than the last of fifty-three bits. -/
theorem Rounds.error (h : Rounds r v) (he : -1022 ≤ e) (hr : |r| ≤ 2 ^ e) :
    |v - r| < 2 ^ (e - 52) := by
  obtain ⟨k, f, h⟩ := h
  refine h.close.trans_le (zpow_le_zpow_right₀ one_le_two ?_)
  rcases h.full with hfull | hlast
  · rw [half_mul] at hfull
    have hle := (zpow_le_zpow_iff_right₀ one_lt_two).mp (hfull.trans hr)
    omega
  · omega

end

/-! ## Shifts -/

/-- What a mantissa and the bits shifted out of it say about a number: it is the mantissa, or it
lies between that and the next one. -/
def Represents (em : ExtendedMantissa) (x : Rat) : Prop :=
  if em.roundBit || em.stickyBit then (em.mantissa : Rat) < x ∧ x < em.mantissa + 1
  else x = em.mantissa

section
variable {em : ExtendedMantissa} {x : Rat}

theorem represents_exact (m : Nat) :
    Represents (.ofMantissaAndAccuracy m .exact) m := rfl

theorem Represents.bounds (h : Represents em x) :
    (em.mantissa : Rat) ≤ x ∧ x < em.mantissa + 1 := by
  unfold Represents at h
  split_ifs at h
  · exact ⟨h.1.le, h.2⟩
  · rw [h]
    exact ⟨le_rfl, lt_add_one _⟩

theorem Represents.shiftRightOne (h : Represents em x) :
    Represents em.shiftRightOne (x / 2) := by
  have hparts : (2 * (em.mantissa / 2 : Nat) : Rat) + (em.mantissa % 2 : Nat) = em.mantissa := by
    exact_mod_cast Nat.div_add_mod em.mantissa 2
  unfold Represents at h ⊢
  unfold ExtendedMantissa.shiftRightOne
  dsimp only
  rcases Nat.mod_two_eq_zero_or_one em.mantissa with hbit | hbit
  · rw [hbit, Nat.cast_zero, add_zero] at hparts
    simp only [hbit, bne_self_eq_false, Bool.false_or]
    split_ifs at h ⊢
    · constructor <;> linarith
    · linarith
  · rw [hbit, Nat.cast_one] at hparts
    have hodd : (1 != 0 || (em.roundBit || em.stickyBit)) = true := rfl
    rw [hbit, if_pos hodd]
    split_ifs at h
    · constructor <;> linarith
    · constructor <;> linarith

theorem Represents.shiftRight (h : Represents em x) (n : Nat) :
    Represents (em >>> n) (x / 2 ^ n) := by
  induction n with
  | zero =>
    rw [pow_zero, div_one]
    exact h
  | succ n ih =>
    rw [pow_succ, ← div_div]
    exact ih.shiftRightOne

/-- A mantissa is rounded to itself or the next one. -/
theorem Represents.rounded (h : Represents em x) :
    em.mantissa ≤ em.roundedMantissa ∧ em.roundedMantissa ≤ em.mantissa + 1 ∧
      |(em.roundedMantissa : Rat) - x| < 1 := by
  have hup : em.mantissa ≤ em.roundedMantissa ∧ em.roundedMantissa ≤ em.mantissa + 1 := by
    refine ⟨?_, roundToNearestEven_le _ _⟩
    rcases em with ⟨m, _ | _, _ | _⟩ <;>
      simp [ExtendedMantissa.roundedMantissa, ExtendedMantissa.accuracy,
        Accuracy.roundToNearestEven]
  refine ⟨hup.1, hup.2, ?_⟩
  unfold Represents at h
  split_ifs at h with hbits
  · have hlow : (em.mantissa : Rat) ≤ em.roundedMantissa := by exact_mod_cast hup.1
    have hhigh : (em.roundedMantissa : Rat) ≤ em.mantissa + 1 := by exact_mod_cast hup.2
    rw [abs_lt]
    constructor <;> linarith
  · have hsame : em.roundedMantissa = em.mantissa := by
      rcases em with ⟨m, _ | _, _ | _⟩
      · rfl
      all_goals simp at hbits
    rw [h, hsame, sub_self, abs_zero]
    exact one_pos

end

/-! ## Rounding -/

/-- Nought, or bits and an exponent such as a double has, were it not for the largest exponent. -/
def Settled : UnpackedFloat → Prop
  | .zero _ => True
  | .finite _ m e _ =>
    m < 9007199254740992 ∧ -1074 ≤ e ∧ (4503599627370496 ≤ m ∨ e = -1074)
  | _ => False

/-- The number a finite double taken apart stands for. -/
def Means (u : UnpackedFloat) (q : Rat) : Prop := (worth u).value? = some q

def signed (s : Sign) (q : Rat) : Rat :=
  match s with
  | .negative => -q
  | .positive => q

/-- A double taken apart is one next to a number. -/
def Approximates (u : UnpackedFloat) (r : Rat) : Prop := Settled u ∧ ∃ v, Means u v ∧ Rounds r v

theorem means_zero {s : Sign} {q : Rat} : Means (.zero s) q ↔ q = 0 := by
  have hvalue : Means (.zero s) q ↔ some 0 = some q := by
    cases s with
    | negative => rw [Means, worth, ← neg_zero]; rfl
    | positive => rfl
  rw [hvalue, Option.some_inj, eq_comm]

theorem means_finite {s : Sign} {m : Nat} {e : Int} {hm : 0 < m} {q : Rat} :
    Means (.finite s m e hm) q ↔ q = signed s (m * 2 ^ e) := by
  have hvalue : Means (.finite s m e hm) q ↔ some (signed s (Exact.scaled m e)) = some q := by
    cases s <;> rfl
  rw [hvalue, scaled_eq, Option.some_inj, eq_comm]

theorem signed_apply (s : Sign) (m : Nat) (e : Int) :
    ((s.apply m : Int) : Rat) * 2 ^ e = signed s (m * 2 ^ e) := by
  cases s <;> simp [Sign.apply, signed]

theorem Rounds.signed {r v : Rat} (h : Rounds r v) (s : Sign) :
    Rounds (signed s r) (signed s v) := by
  cases s
  · exact h.neg
  · exact h

theorem Settled.cases {u : UnpackedFloat} {q : Rat} (h : Settled u) (hq : Means u q) :
    (∃ s, u = .zero s ∧ q = 0) ∨
      ∃ s m e hm, u = .finite s m e hm ∧ q = signed s (m * 2 ^ e) := by
  cases u with
  | infinity s => exact h.elim
  | notANumber => exact h.elim
  | zero s => exact .inl ⟨s, rfl, means_zero.mp hq⟩
  | finite s m e hm => exact .inr ⟨s, m, e, hm, rfl, means_finite.mp hq⟩

/-- A double is next to itself. -/
theorem Settled.approximates {u : UnpackedFloat} {q : Rat} (h : Settled u) (hq : Means u q) :
    Approximates u q := by
  refine ⟨h, q, hq, ?_⟩
  obtain ⟨s, rfl, rfl⟩ | ⟨s, m, e, hm, rfl, rfl⟩ := h.cases hq
  · exact rounds_zero
  · obtain ⟨hbits, hlow, hfull⟩ := h
    have hpos : (0 : Rat) < 2 ^ e := zpow_pos two_pos e
    refine Rounds.signed ⟨m, e, by simp, by omega, hlow, by simpa using hpos, ?_⟩ s
    rw [abs_of_nonneg (mul_nonneg m.cast_nonneg hpos.le)]
    exact hfull.imp_left fun h => mul_le_mul_of_nonneg_right (by exact_mod_cast h) hpos.le

/-- The bits left of a mantissa at the exponent it is shifted to. -/
theorem shifted_bits {m n : Nat} {e : Int}
    (hn : e + n = Format.binary64.targetExponent (totalExponent m e)) :
    m / 2 ^ n < 9007199254740992 ∧ (4503599627370496 ≤ m / 2 ^ n ∨ e + n = -1074) := by
  rw [targetExponent_eq, totalExponent] at hn
  have hpow (k : Nat) : 2 ^ (k + n) = 2 ^ k * 2 ^ n := Nat.pow_add 2 k n
  constructor
  · rw [Nat.div_lt_iff_lt_mul (Nat.two_pow_pos n)]
    calc m < 2 ^ (m.log2 + 1) := Nat.lt_log2_self
      _ ≤ 2 ^ (53 + n) := Nat.pow_le_pow_right two_pos (by omega)
      _ = 2 ^ 53 * 2 ^ n := hpow 53
  · by_cases hlast : e + n = -1074
    · exact .inr hlast
    · left
      have hm : m ≠ 0 := by
        rintro rfl
        rw [Nat.log2_zero] at hn
        omega
      rw [Nat.le_div_iff_mul_le (Nat.two_pow_pos n)]
      calc 4503599627370496 * 2 ^ n = 2 ^ (52 + n) := (hpow 52).symm
        _ ≤ 2 ^ m.log2 := Nat.pow_le_pow_right two_pos (by omega)
        _ ≤ m := Nat.log2_self_le hm

/-- A mantissa that is full, or of the smallest unit, is rounded to a neighbour. -/
theorem Represents.rounds {em : ExtendedMantissa} {x : Rat} {t : Int} (h : Represents em x)
    (hfew : em.mantissa < 9007199254740992)
    (hmany : 4503599627370496 ≤ em.mantissa ∨ t = -1074) (hlow : -1074 ≤ t) :
    Rounds (x * 2 ^ t) (em.roundedMantissa * 2 ^ t) := by
  obtain ⟨-, hle, hclose⟩ := h.rounded
  have hmantissa := h.bounds.1
  have hpos : (0 : Rat) < 2 ^ t := zpow_pos two_pos t
  have hx : 0 ≤ x := (Nat.cast_nonneg _).trans hmantissa
  refine ⟨em.roundedMantissa, t, by simp, by omega, hlow, ?_, hmany.imp_left fun h => ?_⟩
  · rw [← sub_mul, abs_mul, abs_of_pos hpos]
    exact mul_lt_of_lt_one_left hpos hclose
  · have hm : (4503599627370496 : Rat) ≤ em.mantissa := by exact_mod_cast h
    rw [abs_of_nonneg (mul_nonneg hx hpos.le)]
    exact mul_le_mul_of_nonneg_right (hm.trans hmantissa) hpos.le

theorem shiftToTargetExponent_eq {m n : Nat} {e : Int} {a : Accuracy}
    (hn : (Format.binary64.targetExponent (totalExponent m e) - e).toNat = n) :
    shiftToTargetExponent .binary64 m e a =
      (ExtendedMantissa.ofMantissaAndAccuracy m a >>> n, e + n) := by
  subst hn
  rfl

/-- After rounding there may be one bit too many, and then the last is nought. -/
theorem shift_carry {r : Nat} {t : Int} (hr : r ≤ 9007199254740992) (ht : -1074 ≤ t) :
    shiftToTargetExponent .binary64 r t .exact =
      if r = 9007199254740992 then (⟨4503599627370496, false, false⟩, t + 1)
      else (⟨r, false, false⟩, t) := by
  split_ifs with hcarry
  · subst hcarry
    have hlog : Nat.log2 9007199254740992 = 53 := Nat.log2_two_pow (n := 53)
    rw [shiftToTargetExponent_eq (n := 1) (by rw [targetExponent_eq, totalExponent, hlog]; omega)]
    rfl
  · have hlog : r.log2 ≤ 52 := by
      rcases Nat.eq_zero_or_pos r with rfl | hpos
      · decide
      · exact Nat.lt_succ_iff.mp ((Nat.log2_lt hpos.ne').mpr (by omega))
    rw [shiftToTargetExponent_eq (n := 0) (by rw [targetExponent_eq, totalExponent]; omega)]
    show (ExtendedMantissa.ofMantissaAndAccuracy r .exact, t + ((0 : Nat) : Int)) = _
    simp [ExtendedMantissa.ofMantissaAndAccuracy]

/-- What is known of a number is rounded to one next to it, if none of its bits is missing. -/
theorem roundWithAccuracy_approximates {s : Sign} {m : Nat} {e : Int} {a : Accuracy} {x : Rat}
    (h : Represents (.ofMantissaAndAccuracy m a) x)
    (he : e ≤ Format.binary64.targetExponent (totalExponent m e)) :
    Approximates (roundWithAccuracy .binary64 s m e a) (signed s (x * 2 ^ e)) := by
  obtain ⟨n, hn⟩ : ∃ n : Nat, e + n = Format.binary64.targetExponent (totalExponent m e) :=
    ⟨(Format.binary64.targetExponent (totalExponent m e) - e).toNat, by omega⟩
  have hlow : -1074 ≤ e + n := by
    rw [hn]
    exact le_max_right _ _
  have hmantissa : (ExtendedMantissa.ofMantissaAndAccuracy m a >>> n).mantissa = m / 2 ^ n := by
    rw [shiftRight_mantissa, ofMantissaAndAccuracy_mantissa]
  have hvalue : x * 2 ^ e = x / 2 ^ n * 2 ^ (e + n) := by
    rw [zpow_add₀ two_ne_zero, zpow_natCast]
    field_simp
  obtain ⟨hfew, hmany⟩ := shifted_bits hn
  have hshift := h.shiftRight n
  rw [← hmantissa] at hfew hmany
  unfold roundWithAccuracy
  rw [shiftToTargetExponent_eq (by omega : _ = n), hvalue]
  clear hvalue hmantissa hn he h
  generalize ExtendedMantissa.ofMantissaAndAccuracy m a >>> n = em at *
  generalize e + n = t at *
  have hnear := hshift.rounds hfew hmany hlow
  obtain ⟨hge, hle, -⟩ := hshift.rounded
  generalize x / 2 ^ n = y at *
  dsimp only
  rw [shift_carry (by omega) hlow]
  by_cases hcarry : em.roundedMantissa = 9007199254740992
  · simp only [if_pos hcarry]
    refine ⟨⟨by decide, by omega, .inl le_rfl⟩, _, means_finite.mpr rfl, ?_⟩
    rw [hcarry, Nat.cast_ofNat, full_mul] at hnear
    rw [Nat.cast_ofNat, half_mul, ← add_assoc, show (52 : Int) + t + 1 = 53 + t by omega]
    exact hnear.signed s
  · simp only [if_neg hcarry]
    split_ifs with hnone
    · refine ⟨trivial, 0, means_zero.mpr rfl, ?_⟩
      rw [hnone, Nat.cast_zero, zero_mul] at hnear
      have hzero : signed s 0 = 0 := by cases s <;> simp [signed]
      have hsigned := hnear.signed s
      rwa [hzero] at hsigned
    · refine ⟨⟨by omega, hlow, hmany.imp_left (le_trans · hge)⟩, _, means_finite.mpr rfl, ?_⟩
      exact hnear.signed s

theorem log2_shiftLeft {m : Nat} (hm : 0 < m) (n : Nat) : (m <<< n).log2 = m.log2 + n := by
  have hpos : 0 < 2 ^ n := Nat.two_pow_pos n
  rw [Nat.shiftLeft_eq, Nat.log2_eq_iff (Nat.mul_pos hm hpos).ne', Nat.add_right_comm, Nat.pow_add,
    Nat.pow_add _ _ n]
  exact ⟨Nat.mul_le_mul_right _ (Nat.log2_self_le hm.ne'),
    Nat.mul_lt_mul_of_pos_right Nat.lt_log2_self hpos⟩

theorem round_approximates {s : Sign} {m : Nat} {e : Int} (hm : 0 < m) :
    Approximates (UnpackedFloat.round .binary64 s m e) (signed s (m * 2 ^ e)) := by
  unfold UnpackedFloat.round decreaseExponent
  dsimp only
  generalize hn : (e - Format.binary64.targetExponent (totalExponent m e)).toNat = n
  have htarget : e - n ≤ Format.binary64.targetExponent (totalExponent (m <<< n) (e - n)) := by
    rw [targetExponent_eq, totalExponent] at hn ⊢
    rw [log2_shiftLeft hm]
    omega
  rw [← shiftLeft_mul m e n]
  exact roundWithAccuracy_approximates (represents_exact _) htarget

theorem normalize_approximates (z : Sign) (m e : Int) :
    Approximates (UnpackedFloat.normalize .binary64 m e z) (m * 2 ^ e) := by
  unfold UnpackedFloat.normalize
  split
  · next hlt =>
    have hm := compare_lt_iff_lt.mp hlt
    have hcast : (m : Rat) = -((-m).toNat : Nat) := by
      rw [← Int.cast_natCast, Int.toNat_of_nonneg (by omega)]
      push_cast
      ring
    rw [hcast, neg_mul]
    exact round_approximates (s := .negative) (by omega)
  · next heq =>
    rw [compare_eq_iff_eq.mp heq, Int.cast_zero, zero_mul]
    exact Settled.approximates trivial (means_zero.mpr rfl)
  · next hgt =>
    have hm := compare_gt_iff_gt.mp hgt
    have hcast : (m : Rat) = (m.toNat : Nat) := by
      rw [← Int.cast_natCast, Int.toNat_of_nonneg (by omega)]
    rw [hcast]
    exact round_approximates (s := .positive) (by omega)

/-! ## Arithmetic -/

theorem signed_aligned (s : Sign) (m : Nat) {e t : Int} (h : t ≤ e) :
    ((s.apply (m <<< (e - t).toNat : Nat) : Int) : Rat) * 2 ^ t = signed s (m * 2 ^ e) := by
  rw [signed_apply, aligned_mul m h]

theorem signed_neg (s : Sign) (x : Rat) : signed (-s) x = -signed s x := by
  cases s with
  | negative => exact (InvolutiveNeg.neg_neg x).symm
  | positive => rfl

theorem signed_mul (s s' : Sign) (x y : Rat) :
    signed (s * s') (x * y) = signed s x * signed s' y := by
  cases s with
  | negative =>
    cases s' with
    | negative => exact (neg_mul_neg x y).symm
    | positive => exact (neg_mul x y).symm
  | positive =>
    cases s' with
    | negative => exact (mul_neg x y).symm
    | positive => rfl

theorem signed_div (s s' : Sign) (x y : Rat) :
    signed (s / s') (x / y) = signed s x / signed s' y := by
  cases s with
  | negative =>
    cases s' with
    | negative => exact (neg_div_neg_eq x y).symm
    | positive => exact (neg_div y x).symm
  | positive =>
    cases s' with
    | negative => exact (div_neg x).symm
    | positive => rfl

theorem zero_approximates (s : Sign) : Approximates (.zero s) 0 :=
  Settled.approximates trivial (means_zero.mpr rfl)

section
variable {u v : UnpackedFloat} {a b : Rat}

theorem add_approximates (hu : Settled u) (hv : Settled v) (ha : Means u a) (hb : Means v b) :
    Approximates (UnpackedFloat.add .binary64 u v) (a + b) := by
  obtain ⟨s, rfl, rfl⟩ | ⟨s, m, e, hm, rfl, rfl⟩ := hu.cases ha
  · rw [zero_add]
    obtain ⟨s', rfl, rfl⟩ | ⟨s', m', e', hm', rfl, rfl⟩ := hv.cases hb
    · show Approximates (if s == s' then .zero s else .zero .positive) 0
      split <;> exact zero_approximates _
    · exact hv.approximates hb
  · obtain ⟨s', rfl, rfl⟩ | ⟨s', m', e', hm', rfl, rfl⟩ := hv.cases hb
    · rw [add_zero]
      exact hu.approximates ha
    · rw [← signed_aligned s m (min_le_left e e'), ← signed_aligned s' m' (min_le_right e e'),
        ← add_mul, ← Int.cast_add]
      exact normalize_approximates _ _ _

theorem sub_approximates (hu : Settled u) (hv : Settled v) (ha : Means u a) (hb : Means v b) :
    Approximates (UnpackedFloat.sub .binary64 u v) (a - b) := by
  obtain ⟨s, rfl, rfl⟩ | ⟨s, m, e, hm, rfl, rfl⟩ := hu.cases ha
  · rw [zero_sub]
    obtain ⟨s', rfl, rfl⟩ | ⟨s', m', e', hm', rfl, rfl⟩ := hv.cases hb
    · rw [neg_zero]
      show Approximates (if s == -s' then .zero s else .zero .positive) 0
      split <;> exact zero_approximates _
    · rw [← signed_neg]
      exact Settled.approximates (u := .finite (-s') m' e' hm') hv (means_finite.mpr rfl)
  · obtain ⟨s', rfl, rfl⟩ | ⟨s', m', e', hm', rfl, rfl⟩ := hv.cases hb
    · rw [sub_zero]
      exact hu.approximates ha
    · rw [← signed_aligned s m (min_le_left e e'), ← signed_aligned s' m' (min_le_right e e'),
        ← sub_mul, ← Int.cast_sub]
      exact normalize_approximates _ _ _

theorem mul_approximates (hu : Settled u) (hv : Settled v) (ha : Means u a) (hb : Means v b) :
    Approximates (UnpackedFloat.mul .binary64 u v) (a * b) := by
  obtain ⟨s, rfl, rfl⟩ | ⟨s, m, e, hm, rfl, rfl⟩ := hu.cases ha
  · rw [zero_mul]
    obtain ⟨s', rfl, rfl⟩ | ⟨s', m', e', hm', rfl, rfl⟩ := hv.cases hb
    · exact zero_approximates _
    · exact zero_approximates _
  · obtain ⟨s', rfl, rfl⟩ | ⟨s', m', e', hm', rfl, rfl⟩ := hv.cases hb
    · rw [mul_zero]
      exact zero_approximates _
    · obtain ⟨-, hlow, hfull⟩ := hu
      obtain ⟨-, hlow', hfull'⟩ := hv
      have htarget : e + e' ≤ Format.binary64.targetExponent (totalExponent (m * m') (e + e')) := by
        have hbits : 2 ^ 52 ≤ m * m' → 52 ≤ (m * m').log2 :=
          (Nat.le_log2 (Nat.mul_pos hm hm').ne').mpr
        have hleft : m ≤ m * m' := Nat.le_mul_of_pos_right m hm'
        have hright : m' ≤ m * m' := Nat.le_mul_of_pos_left m' hm
        rw [targetExponent_eq, totalExponent]
        omega
      have hvalue : signed s (m * 2 ^ e) * signed s' (m' * 2 ^ e') =
          signed (s * s') ((m * m' : Nat) * 2 ^ (e + e')) := by
        rw [← signed_mul, zpow_add₀ two_ne_zero, Nat.cast_mul, mul_mul_mul_comm]
      rw [hvalue]
      exact roundWithAccuracy_approximates (represents_exact _) htarget

/-- The quotient of two whole numbers and what is known of the remainder. -/
theorem represents_div (n : Nat) {d : Nat} (hd : 0 < d) :
    Represents (.ofMantissaAndAccuracy (n / d) (accuracyOfFraction (n % d) d)) (n / d : Rat) := by
  have hpos : (0 : Rat) < d := Nat.cast_pos.mpr hd
  have hparts : (n : Rat) = d * (n / d : Nat) + (n % d : Nat) := by
    exact_mod_cast (Nat.div_add_mod n d).symm
  unfold accuracyOfFraction
  split_ifs with hrest
  · show (n / d : Rat) = (n / d : Nat)
    rw [hrest, Nat.cast_zero, add_zero] at hparts
    rw [hparts, mul_div_cancel_left₀ _ hpos.ne']
  · have hlow : (0 : Rat) < (n % d : Nat) := by exact_mod_cast Nat.pos_of_ne_zero hrest
    have hhigh : ((n % d : Nat) : Rat) < d := by exact_mod_cast Nat.mod_lt n hd
    have hbetween : ((n / d : Nat) : Rat) < n / d ∧ (n / d : Rat) < (n / d : Nat) + 1 := by
      rw [lt_div_iff₀ hpos, div_lt_iff₀ hpos]
      constructor <;> linarith
    cases compare (2 * (n % d)) d <;> exact hbetween

/-- A quotient is computed at an exponent that leaves it at least fifty-three bits. -/
theorem quotient_target {m m' : Nat} {e e' t : Int} (hm : 0 < m) (hm' : 0 < m')
    (ht : min (e - e') (Format.binary64.targetExponent
      (totalExponent m e - totalExponent m' e')) = t) :
    t ≤ Format.binary64.targetExponent
      (totalExponent (m <<< (e - e' - t).toNat / m') t) := by
  rw [targetExponent_eq, totalExponent, totalExponent] at ht
  rw [targetExponent_eq, totalExponent]
  by_cases hlast : t ≤ -1074
  · omega
  · have hbits : 2 ^ 52 ≤ m <<< (e - e' - t).toNat / m' := by
      rw [Nat.le_div_iff_mul_le hm', Nat.shiftLeft_eq]
      calc 2 ^ 52 * m' ≤ 2 ^ 52 * 2 ^ (m'.log2 + 1) :=
            Nat.mul_le_mul_left _ Nat.lt_log2_self.le
        _ = 2 ^ (52 + (m'.log2 + 1)) := (Nat.pow_add 2 52 _).symm
        _ ≤ 2 ^ (m.log2 + (e - e' - t).toNat) := Nat.pow_le_pow_right two_pos (by omega)
        _ = 2 ^ m.log2 * 2 ^ (e - e' - t).toNat := Nat.pow_add 2 _ _
        _ ≤ m * 2 ^ (e - e' - t).toNat := Nat.mul_le_mul_right _ (Nat.log2_self_le hm.ne')
    have hlog := (Nat.le_log2 (by omega)).mpr hbits
    omega

theorem div_approximates (hu : Settled u) (hv : Settled v) (ha : Means u a) (hb : Means v b)
    (hne : b ≠ 0) : Approximates (UnpackedFloat.div .binary64 u v) (a / b) := by
  obtain ⟨s', rfl, hzero⟩ | ⟨s', m', e', hm', rfl, rfl⟩ := hv.cases hb
  · exact absurd hzero hne
  · obtain ⟨s, rfl, rfl⟩ | ⟨s, m, e, hm, rfl, rfl⟩ := hu.cases ha
    · rw [zero_div]
      exact zero_approximates _
    · show Approximates (roundWithAccuracy .binary64 (s / s') _ _ _) _
      generalize ht : min (e - e') (Format.binary64.targetExponent
        (totalExponent m e - totalExponent m' e')) = t
      have hvalue : signed s (m * 2 ^ e) / signed s' (m' * 2 ^ e') =
          signed (s / s') ((m <<< (e - e' - t).toNat : Nat) / m' * 2 ^ t) := by
        rw [← signed_div, div_mul_eq_mul_div, aligned_mul m (ht.symm.trans_le (min_le_left _ _)),
          zpow_sub₀ two_ne_zero]
        congr 1
        field_simp
      rw [hvalue]
      exact roundWithAccuracy_approximates (represents_div _ hm') (quotient_target hm hm' ht)

end

end Binary64
end Choreo
