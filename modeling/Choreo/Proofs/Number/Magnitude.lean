import Choreo.Proofs.Number.Nearest

/-!
Magnitudes that doubles stay within.

A computation on doubles is bounded by powers of two, so no rounding has to be followed: a sum of
two numbers within a bound is within four times that bound, a product or a quotient within twice the
product or the quotient of the bounds (`Within.add`, `Within.sub`, `Within.mul`, `Within.div`). As
long as a bound stays clear of the largest double nothing becomes infinite, and the whole part of
the result exists (`truncate_within`).
-/

namespace Choreo
namespace Binary64

open Float.Model Float.Model.UnpackedFloat

/-! ## Rounding -/

/-- A number taken apart that is finite and of magnitude at most a power of two. -/
def Small (k : Int) : UnpackedFloat → Prop
  | .zero _ => True
  | .finite _ m e _ => (m : Rat) * 2 ^ e ≤ 2 ^ k
  | _ => False

theorem targetExponent_eq (t : Int) :
    Format.binary64.targetExponent t = max (t - 53) (-1074) := rfl

/-- The exponent of the leading bit is bounded with the number. -/
theorem log2_add_le {m : Nat} {e k : Int} (he : e ≤ k) (h : (m : Rat) * 2 ^ e ≤ 2 ^ k) :
    (m.log2 : Int) + e ≤ k := by
  by_cases hm : m = 0
  · subst hm
    simpa using he
  · have hlow := (log2_bounds (Nat.pos_of_ne_zero hm)).1
    have hpos : (0 : Rat) < 2 ^ e := zpow_pos two_pos e
    have hpow : (2 : Rat) ^ ((m.log2 : Int) + e) ≤ 2 ^ k := by
      rw [zpow_add₀ two_ne_zero]
      exact (mul_le_mul_of_nonneg_right hlow hpos.le).trans h
    exact (zpow_le_zpow_iff_right₀ one_lt_two).mp hpow

theorem shiftRight_mantissa (k : Nat) (em : ExtendedMantissa) :
    (em >>> k).mantissa = em.mantissa / 2 ^ k := by
  induction k generalizing em with
  | zero => exact (Nat.div_one _).symm
  | succ k ih =>
    show (ExtendedMantissa.shiftRightOne (em >>> k)).mantissa = _
    rw [ExtendedMantissa.shiftRightOne, ih, Nat.div_div_eq_div_mul, Nat.pow_succ]

theorem ofMantissaAndAccuracy_mantissa (m : Nat) (a : Accuracy) :
    (ExtendedMantissa.ofMantissaAndAccuracy m a).mantissa = m := by
  rcases a with _ | _ | _ | _ <;> rfl

theorem roundToNearestEven_le (m : Nat) (a : Accuracy) : a.roundToNearestEven m ≤ m + 1 := by
  rcases a with _ | _ | _ | _ <;> simp only [Accuracy.roundToNearestEven] <;> omega

/-- A shift to the right cuts off bits. -/
theorem div_pow_mul_le (m k : Nat) (e : Int) :
    ((m / 2 ^ k : Nat) : Rat) * 2 ^ (e + k) ≤ m * 2 ^ e := by
  have hle : ((m / 2 ^ k : Nat) : Rat) * 2 ^ k ≤ m := by
    exact_mod_cast Nat.div_mul_le_self m (2 ^ k)
  have hpos : (0 : Rat) < 2 ^ e := zpow_pos two_pos e
  rw [zpow_add₀ two_ne_zero, zpow_natCast, mul_comm ((2 : Rat) ^ e), ← mul_assoc]
  exact mul_le_mul_of_nonneg_right hle hpos.le

/-- Rounding at most doubles a number, within the range of exponents. -/
theorem small_round {s : Sign} {m : Nat} {e k : Int} {a : Accuracy} (hk : -1074 ≤ k) (he : e ≤ k)
    (h : (m : Rat) * 2 ^ e ≤ 2 ^ k) :
    Small (k + 1) (roundWithAccuracy .binary64 s m e a) := by
  have hlog := log2_add_le he h
  unfold roundWithAccuracy shiftToTargetExponent shiftToExponent
  simp only [shiftRight_mantissa, ofMantissaAndAccuracy_mantissa, targetExponent_eq, totalExponent,
    ExtendedMantissa.roundedMantissa]
  split_ifs
  · trivial
  unfold Small
  dsimp only
  generalize hshift : (max ((m.log2 : Int) + 1 + e - 53) (-1074) - e).toNat = n
  generalize hround : Accuracy.roundToNearestEven (m / 2 ^ n) _ = r
  generalize (max ((r.log2 : Int) + 1 + (e + n) - 53) (-1074) - (e + n)).toNat = n'
  have hr : r ≤ m / 2 ^ n + 1 := hround ▸ roundToNearestEven_le _ _
  have hunit : (2 : Rat) ^ (e + n) ≤ 2 ^ k := zpow_le_zpow_right₀ one_le_two (by omega)
  have hvalue : (r : Rat) * 2 ^ (e + n) ≤ 2 ^ (k + 1) := by
    have hpos : (0 : Rat) < 2 ^ (e + n) := zpow_pos two_pos _
    have hr : (r : Rat) ≤ (m / 2 ^ n : Nat) + 1 := by exact_mod_cast hr
    have hcut := (div_pow_mul_le m n e).trans h
    rw [zpow_add_one₀ two_ne_zero]
    calc (r : Rat) * 2 ^ (e + n) ≤ ((m / 2 ^ n : Nat) + 1) * 2 ^ (e + n) :=
          mul_le_mul_of_nonneg_right hr hpos.le
      _ = (m / 2 ^ n : Nat) * 2 ^ (e + n) + 2 ^ (e + n) := by ring
      _ ≤ 2 ^ k * 2 := by linarith
  exact (div_pow_mul_le r n' (e + n)).trans hvalue

/-! ## Packing -/

theorem exponent_le {m : Nat} {e k : Int} (hm : 0 < m) (h : (m : Rat) * 2 ^ e ≤ 2 ^ k) : e ≤ k := by
  have hone : (1 : Rat) ≤ m := by exact_mod_cast hm
  have hpos : (0 : Rat) < 2 ^ e := zpow_pos two_pos e
  have hpow : (2 : Rat) ^ e ≤ 2 ^ k := (le_mul_of_one_le_left hpos.le hone).trans h
  exact (zpow_le_zpow_iff_right₀ one_lt_two).mp hpow

/-- Without an exponent only the smallest numbers are left. -/
theorem small_subnormal {k : Int} (hk : -1022 ≤ k) (s : Sign) (f : BitVec 52) :
    Small k (UnpackedFloat.unpack .binary64 (packComponents .binary64 s 0#11 f)) := by
  unfold UnpackedFloat.unpack
  simp only [unpackExponent_packComponents, unpackMantissa_packComponents,
    unpackSign_packComponents, Sign.ofBitVec_toBitVec]
  rw [if_neg (by decide), if_pos trivial]
  split_ifs
  · trivial
  · have hlt : (f.toNat : Rat) ≤ 4503599627370496 := by exact_mod_cast f.isLt.le
    have hpos : (0 : Rat) < 2 ^ (-1074 : Int) := zpow_pos two_pos _
    show (f.toNat : Rat) * 2 ^ (-1074 : Int) ≤ 2 ^ k
    calc (f.toNat : Rat) * 2 ^ (-1074 : Int)
        ≤ 4503599627370496 * 2 ^ (-1074 : Int) := mul_le_mul_of_nonneg_right hlt hpos.le
      _ = 2 ^ (52 + -1074 : Int) := half_mul _
      _ ≤ 2 ^ k := zpow_le_zpow_right₀ one_le_two (by omega)

/-- Bits and an exponent that no double can have, the exponent not being too large, are put together
without an exponent. -/
theorem pack_of_not_canonical {s : Sign} {m : Nat} {e : Int} {hm : 0 < m} (he : e ≤ 970)
    (hcanonical : ¬Canonical m e) :
    UnpackedFloat.pack .binary64 (.finite s m e hm) =
      packComponents .binary64 s 0#11 (BitVec.ofNat 52 m) := by
  have hbiased :
      (e + Format.binary64.exponentBias + Format.binary64.mantissaBitsWithoutImplicit).toNat =
        (e + 1075).toNat := by
    show (e + (1023 : Nat) + (52 : Nat)).toNat = _
    omega
  have hfinite : ¬2 ^ 11 ≤ (e + 1075).toNat + 1 := by omega
  rw [UnpackedFloat.pack]
  simp only [hbiased]
  rw [if_neg hfinite]
  by_cases hbits : m.log2 + 1 = Format.binary64.mantissaBits
  · obtain ⟨hfull, hlt⟩ := (Nat.log2_eq_iff hm.ne').mp (Nat.succ.inj hbits)
    have hnone : (e + 1075).toNat = 0 := by
      by_contra hsome
      exact hcanonical ⟨hm, hlt, by omega, by omega, .inl hfull⟩
    rw [if_pos hbits, hnone]
  · rw [if_neg hbits]

/-- What is put together from a small number is small. -/
theorem small_pack {u : UnpackedFloat} {k : Int} (hlow : -1022 ≤ k) (hhigh : k ≤ 970)
    (h : Small k u) :
    Small k (UnpackedFloat.unpack .binary64 (UnpackedFloat.pack .binary64 u)) := by
  cases u with
  | infinity s => exact h.elim
  | notANumber => exact h.elim
  | zero s =>
    have hzero : UnpackedFloat.unpack .binary64 (UnpackedFloat.pack .binary64 (.zero s)) =
        .zero s := by cases s <;> rfl
    rw [hzero]
    trivial
  | finite s m e hm =>
    by_cases hcanonical : Canonical m e
    · rw [unpack_pack_finite hcanonical]
      exact h
    · rw [pack_of_not_canonical ((exponent_le hm h).trans hhigh) hcanonical]
      exact small_subnormal hlow s _

/-! ## Arithmetic -/

theorem Small.mono {u : UnpackedFloat} {k k' : Int} (h : Small k u) (hk : k ≤ k') : Small k' u := by
  cases u with
  | infinity s => exact h.elim
  | notANumber => exact h.elim
  | zero s => trivial
  | finite s m e hm => exact le_trans h (zpow_le_zpow_right₀ one_le_two hk)

/-- A smaller exponent takes more bits, and the number stays. -/
theorem shiftLeft_mul (m : Nat) (e : Int) (n : Nat) :
    ((m <<< n : Nat) : Rat) * 2 ^ (e - n) = m * 2 ^ e := by
  rw [Nat.shiftLeft_eq, Nat.cast_mul, Nat.cast_pow, Nat.cast_ofNat, mul_assoc, ← zpow_natCast,
    ← zpow_add₀ two_ne_zero, add_sub_cancel]

theorem aligned_mul (m : Nat) {e t : Int} (h : t ≤ e) :
    ((m <<< (e - t).toNat : Nat) : Rat) * 2 ^ t = m * 2 ^ e := by
  have hshift := shiftLeft_mul m e (e - t).toNat
  have ht : e - ((e - t).toNat : Int) = t := by omega
  rwa [ht] at hshift

theorem small_normalize {z : Sign} {m e k : Int} (hk : -1074 ≤ k) (he : e ≤ k)
    (h : (m.natAbs : Rat) * 2 ^ e ≤ 2 ^ k) :
    Small (k + 1) (UnpackedFloat.normalize .binary64 m e z) := by
  have hround : ∀ s, Small (k + 1) (UnpackedFloat.round .binary64 s m.natAbs e) := by
    intro s
    refine small_round hk (by omega) ?_
    rw [shiftLeft_mul]
    exact h
  unfold UnpackedFloat.normalize
  split
  · next hlt =>
    have habs : (-m).toNat = m.natAbs := by
      have := compare_lt_iff_lt.mp hlt
      omega
    rw [habs]
    exact hround _
  · trivial
  · next hgt =>
    have habs : m.toNat = m.natAbs := by
      have := compare_gt_iff_gt.mp hgt
      omega
    rw [habs]
    exact hround _

theorem natAbs_apply (s : Sign) (m : Int) : (s.apply m).natAbs = m.natAbs := by
  cases s with
  | negative => exact Int.natAbs_neg m
  | positive => rfl

section
variable {u v : UnpackedFloat} {a b k : Int}

/-- Two numbers of one magnitude give one of at most four times the magnitude together. -/
theorem small_aligned {m m' : Nat} {e e' n : Int} {z : Sign} (hm : 0 < m) (hk : -1075 ≤ k)
    (hu : (m : Rat) * 2 ^ e ≤ 2 ^ k) (hv : (m' : Rat) * 2 ^ e' ≤ 2 ^ k)
    (hn : n.natAbs ≤ m <<< (e - min e e').toNat + m' <<< (e' - min e e').toNat) :
    Small (k + 2) (UnpackedFloat.normalize .binary64 n (min e e') z) := by
  have he := exponent_le hm hu
  have hpos : (0 : Rat) < 2 ^ min e e' := zpow_pos two_pos _
  have hn : (n.natAbs : Rat) ≤
      (m <<< (e - min e e').toNat : Nat) + (m' <<< (e' - min e e').toNat : Nat) := by
    exact_mod_cast hn
  rw [← aligned_mul m (min_le_left e e')] at hu
  rw [← aligned_mul m' (min_le_right e e')] at hv
  have hsum : (n.natAbs : Rat) * 2 ^ min e e' ≤ 2 ^ (k + 1) := calc
    (n.natAbs : Rat) * 2 ^ min e e'
      ≤ ((m <<< (e - min e e').toNat : Nat) + (m' <<< (e' - min e e').toNat : Nat)) *
          2 ^ min e e' := mul_le_mul_of_nonneg_right hn hpos.le
    _ ≤ 2 ^ k + 2 ^ k := by
      rw [add_mul]
      exact add_le_add hu hv
    _ = 2 ^ (k + 1) := by rw [zpow_add_one₀ two_ne_zero, mul_two]
  have hsmall := small_normalize (z := z) (by omega : -1074 ≤ k + 1) (by omega) hsum
  rwa [add_assoc] at hsmall

theorem small_add (hk : -1075 ≤ k) (hu : Small k u) (hv : Small k v) :
    Small (k + 2) (UnpackedFloat.add .binary64 u v) := by
  cases u with
  | infinity s => exact hu.elim
  | notANumber => exact hu.elim
  | zero s =>
    cases v with
    | infinity s' => exact hv.elim
    | notANumber => exact hv.elim
    | zero s' =>
      show Small _ (if s == s' then .zero s else .zero .positive)
      split <;> trivial
    | finite s' m' e' hm' => exact hv.mono (by omega)
  | finite s m e hm =>
    cases v with
    | infinity s' => exact hv.elim
    | notANumber => exact hv.elim
    | zero s' => exact hu.mono (by omega)
    | finite s' m' e' hm' =>
      refine small_aligned hm hk hu hv ((Int.natAbs_add_le _ _).trans_eq ?_)
      rw [natAbs_apply, natAbs_apply]
      rfl

theorem small_sub (hk : -1075 ≤ k) (hu : Small k u) (hv : Small k v) :
    Small (k + 2) (UnpackedFloat.sub .binary64 u v) := by
  cases u with
  | infinity s => exact hu.elim
  | notANumber => exact hu.elim
  | zero s =>
    cases v with
    | infinity s' => exact hv.elim
    | notANumber => exact hv.elim
    | zero s' =>
      show Small _ (if s == -s' then .zero s else .zero .positive)
      split <;> trivial
    | finite s' m' e' hm' => exact Small.mono (u := .finite s' m' e' hm') hv (by omega)
  | finite s m e hm =>
    cases v with
    | infinity s' => exact hv.elim
    | notANumber => exact hv.elim
    | zero s' => exact hu.mono (by omega)
    | finite s' m' e' hm' =>
      refine small_aligned hm hk hu hv ((Int.natAbs_sub_le _ _).trans_eq ?_)
      rw [natAbs_apply, natAbs_apply]
      rfl

theorem small_mul (hk : -1074 ≤ a + b) (hu : Small a u) (hv : Small b v) :
    Small (a + b + 1) (UnpackedFloat.mul .binary64 u v) := by
  cases u with
  | infinity s => exact hu.elim
  | notANumber => exact hu.elim
  | zero s =>
    cases v with
    | infinity s' => exact hv.elim
    | notANumber => exact hv.elim
    | zero s' => trivial
    | finite s' m' e' hm' => trivial
  | finite s m e hm =>
    cases v with
    | infinity s' => exact hv.elim
    | notANumber => exact hv.elim
    | zero s' => trivial
    | finite s' m' e' hm' =>
      have he := exponent_le hm hu
      have he' := exponent_le hm' hv
      refine small_round hk (by omega) ?_
      have hpos : (0 : Rat) ≤ m' * 2 ^ e' := mul_nonneg (Nat.cast_nonneg _) (zpow_pos two_pos _).le
      calc ((m * m' : Nat) : Rat) * 2 ^ (e + e') = (m * 2 ^ e) * (m' * 2 ^ e') := by
            rw [Nat.cast_mul, zpow_add₀ two_ne_zero]
            ring
        _ ≤ 2 ^ a * 2 ^ b := mul_le_mul hu hv hpos (zpow_pos two_pos _).le
        _ = 2 ^ (a + b) := (zpow_add₀ two_ne_zero _ _).symm

/-- A number taken apart that is of magnitude at least a power of two. -/
def Large (k : Int) : UnpackedFloat → Prop
  | .finite _ m e _ => (2 : Rat) ^ k ≤ m * 2 ^ e
  | _ => False

theorem le_log2_add {m : Nat} {e k : Int} (hm : 0 < m) (h : (2 : Rat) ^ k ≤ m * 2 ^ e) :
    k ≤ (m.log2 : Int) + e := by
  have hpos : (0 : Rat) < 2 ^ e := zpow_pos two_pos e
  have hpow : (2 : Rat) ^ k < 2 ^ ((m.log2 : Int) + 1 + e) := by
    rw [zpow_add₀ two_ne_zero]
    exact h.trans_lt (mul_lt_mul_of_pos_right (log2_bounds hm).2 hpos)
  have := (zpow_lt_zpow_iff_right₀ one_lt_two).mp hpow
  omega

theorem small_div (hk : -1074 ≤ a - b) (hu : Small a u) (hv : Large b v) :
    Small (a - b + 1) (UnpackedFloat.div .binary64 u v) := by
  cases v with
  | infinity s' => exact hv.elim
  | notANumber => exact hv.elim
  | zero s' => exact hv.elim
  | finite s' m' e' hm' =>
    cases u with
    | infinity s => exact hu.elim
    | notANumber => exact hu.elim
    | zero s => trivial
    | finite s m e hm =>
      have hlog := log2_add_le (exponent_le hm hu) hu
      have hlog' := le_log2_add hm' hv
      have ht : Format.binary64.targetExponent (totalExponent m e - totalExponent m' e') ≤
          a - b := by
        rw [targetExponent_eq, totalExponent, totalExponent]
        omega
      have hquotient : ∀ t ≤ e - e',
          ((m <<< (e - e' - t).toNat / m' : Nat) : Rat) * 2 ^ t ≤ 2 ^ (a - b) := by
        intro t hle
        have hpos : (0 : Rat) < 2 ^ t := zpow_pos two_pos t
        calc ((m <<< (e - e' - t).toNat / m' : Nat) : Rat) * 2 ^ t
            ≤ (m <<< (e - e' - t).toNat : Nat) / m' * 2 ^ t :=
              mul_le_mul_of_nonneg_right Nat.cast_div_le hpos.le
          _ = m * 2 ^ e / (m' * 2 ^ e') := by
            rw [div_mul_eq_mul_div, aligned_mul m hle, zpow_sub₀ two_ne_zero]
            ring
          _ ≤ 2 ^ a / 2 ^ b := div_le_div₀ (zpow_pos two_pos _).le hu (zpow_pos two_pos _) hv
          _ = 2 ^ (a - b) := (zpow_sub₀ two_ne_zero _ _).symm
      exact small_round hk ((min_le_right _ _).trans ht) (hquotient _ (min_le_left _ _))

end

/-! ## Doubles -/

/-- A finite double of magnitude at most a power of two. -/
def Within (k : Int) (x : Float) : Prop := Small k (fields x)

/-- A finite double of magnitude at least a power of two. -/
def Beyond (k : Int) (x : Float) : Prop := Large k (fields x)

theorem within_iff {k : Int} {x : Float} :
    Within k x ↔ ∃ s q, Exact.ofFloat x = .finite s q ∧ q ≤ 2 ^ k := by
  have hpos : (0 : Rat) < 2 ^ k := zpow_pos two_pos k
  rw [ofFloat_eq, Within]
  cases fields x with
  | infinity s => simp [worth, Small]
  | notANumber => simp [worth, Small]
  | zero s => simp [worth, Small, hpos.le]
  | finite s m e hm => simp [worth, Small, scaled_eq]

theorem beyond_iff {k : Int} {x : Float} :
    Beyond k x ↔ ∃ s q, Exact.ofFloat x = .finite s q ∧ 2 ^ k ≤ q := by
  have hpos : (0 : Rat) < 2 ^ k := zpow_pos two_pos k
  rw [ofFloat_eq, Beyond]
  cases fields x with
  | infinity s => simp [worth, Large]
  | notANumber => simp [worth, Large]
  | zero s => simp [worth, Large, hpos]
  | finite s m e hm => simp [worth, Large, scaled_eq]

section
variable {x y : Float} {a b k k' : Int}

theorem Within.mono (h : Within k x) (hk : k ≤ k') : Within k' x := Small.mono h hk

theorem Within.neg (h : Within k x) : Within k (-x) := by
  rw [within_iff] at h ⊢
  obtain ⟨s, q, hexact, hq⟩ := h
  rw [exact_neg, hexact]
  exact ⟨!s, q, rfl, hq⟩

theorem Within.add (hx : Within a x) (hy : Within a y) (hlow : -1024 ≤ a) (hk : a + 2 ≤ k)
    (hhigh : k ≤ 970) : Within k (x + y) :=
  small_pack (by omega) hhigh ((small_add (by omega) hx hy).mono hk)

theorem Within.sub (hx : Within a x) (hy : Within a y) (hlow : -1024 ≤ a) (hk : a + 2 ≤ k)
    (hhigh : k ≤ 970) : Within k (x - y) :=
  small_pack (by omega) hhigh ((small_sub (by omega) hx hy).mono hk)

theorem Within.mul (hx : Within a x) (hy : Within b y) (hlow : -1023 ≤ a + b)
    (hk : a + b + 1 ≤ k) (hhigh : k ≤ 970) : Within k (x * y) :=
  small_pack (by omega) hhigh ((small_mul (by omega) hx hy).mono hk)

theorem Within.div (hx : Within a x) (hy : Beyond b y) (hlow : -1023 ≤ a - b)
    (hk : a - b + 1 ≤ k) (hhigh : k ≤ 970) : Within k (x / y) :=
  small_pack (by omega) hhigh ((small_div (by omega) hx hy).mono hk)

end

/-! ## Numbers -/

section
variable {num den : Nat} {k : Int}

/-- The nearest double to a quotient is at most twice the bound of the quotient. -/
theorem within_ofQuotient (hnum : 0 < num) (hden : 0 < den) (hlow : -1074 ≤ k) (hhigh : k ≤ 1023)
    (h : (num : Rat) / den ≤ 2 ^ k) : Within (k + 1) (ofQuotient num den) := by
  have hfinite : ¬overflowBound ≤ (num : Rat) / den :=
    not_le.mpr (h.trans_lt (lt_overflowBound hhigh))
  have hlast : lastExponent num den ≤ k := by
    have hlead := (leadingExponent_spec hnum hden).1.trans h
    have hlead := (zpow_le_zpow_iff_right₀ one_lt_two).mp hlead
    unfold lastExponent
    omega
  rw [within_iff, exact_ofQuotient hnum hden, if_neg (mt (overflows_iff hnum hden).mp hfinite)]
  refine ⟨false, _, rfl, ?_⟩
  have hkept : (keptUnits num den : Rat) ≤
      num / den / (2 : Rat) ^ lastExponent num den + 1 / 2 :=
    Rounding.halfEvenDiv_le (unitDen_pos hden _) (inUnits_eq num den _)
  have hunit : (2 : Rat) ^ lastExponent num den ≤ 2 ^ k := zpow_le_zpow_right₀ one_le_two hlast
  have hpos : (0 : Rat) < 2 ^ lastExponent num den := zpow_pos two_pos _
  calc (keptUnits num den : Rat) * 2 ^ lastExponent num den
      ≤ (num / den / 2 ^ lastExponent num den + 1 / 2) * 2 ^ lastExponent num den :=
        mul_le_mul_of_nonneg_right hkept hpos.le
    _ = num / den + 2 ^ lastExponent num den / 2 := by
        rw [add_mul, div_mul_cancel₀ _ hpos.ne']
        ring
    _ ≤ 2 ^ k * 2 := by linarith
    _ = 2 ^ (k + 1) := (zpow_add_one₀ two_ne_zero k).symm

theorem within_zero (k : Int) : Within k 0 :=
  within_iff.mpr ⟨false, 0, exact_zero, (zpow_pos two_pos k).le⟩

theorem within_ofRat {q : Rat} (hlow : -1074 ≤ k) (hhigh : k ≤ 1023) (h : |q| ≤ 2 ^ k) :
    Within (k + 1) (ofRat q) := by
  have hpositive : ∀ {q : Rat}, 0 < q → |q| ≤ 2 ^ k → Within (k + 1) (ofRat q) := by
    intro q hq h
    have hnum : 0 < q.num := Rat.num_pos.mpr hq
    have hvalue : (q.num.natAbs : Rat) / q.den = |q| := by
      rw [abs_of_pos hq, Nat.cast_natAbs, abs_of_pos hnum, Rat.num_div_den]
    rw [ofRat_of_pos hq]
    exact within_ofQuotient (by omega) q.den_pos hlow hhigh (hvalue.trans_le h)
  rcases lt_trichotomy q 0 with hneg | rfl | hpos
  · obtain ⟨p, rfl⟩ : ∃ p, q = -p := ⟨-q, (InvolutiveNeg.neg_neg q).symm⟩
    have hp : 0 < p := neg_lt_zero.mp hneg
    rw [ofRat_neg hp.ne']
    exact (hpositive hp (by rwa [abs_neg] at h)).neg
  · exact within_zero _
  · exact hpositive hpos h

/-- Whole numbers of fifty-three bits keep their bounds. -/
theorem within_ofInt {n : Int} (hn : n.natAbs ≤ 9007199254740992) (h : (n.natAbs : Rat) ≤ 2 ^ k) :
    Within k (Scalar.ofInt n) :=
  within_iff.mpr ⟨_, _, exact_ofRat_whole hn, h⟩

theorem beyond_ofInt {n : Int} (hn : n.natAbs ≤ 9007199254740992) (h : (2 : Rat) ^ k ≤ n.natAbs) :
    Beyond k (Scalar.ofInt n) :=
  beyond_iff.mpr ⟨_, _, exact_ofRat_whole hn, h⟩

/-- Digits with a point among them. -/
theorem within_ofReading {digits places : Nat} (hlow : -1074 ≤ k) (hhigh : k ≤ 1023)
    (h : (digits : Rat) ≤ 2 ^ k) :
    Within (k + 1) (ofReading (.finite false digits (-(places : Int)))) := by
  rw [ofReading, if_neg Bool.false_ne_true, ofDecimal]
  split_ifs with hnone hlarge hsmall hneg
  · exact within_zero _
  · omega
  · exact within_zero _
  · have hone : (1 : Rat) ≤ (Nat.pow 10 (- -(places : Int)).toNat : Nat) := by
      exact_mod_cast Nat.one_le_pow _ _ (by decide)
    refine within_ofQuotient (Nat.pos_of_ne_zero hnone) (Nat.pow_pos (by decide)) hlow hhigh ?_
    exact (div_le_self (Nat.cast_nonneg _) hone).trans h
  · have hvalue : digits * Nat.pow 10 (-(places : Int)).toNat = digits := by
      have hplaces : (-(places : Int)).toNat = 0 := by omega
      rw [hplaces]
      exact Nat.mul_one digits
    rw [hvalue]
    refine within_ofQuotient (Nat.pos_of_ne_zero hnone) one_pos hlow hhigh ?_
    rwa [Nat.cast_one, div_one]

/-- The whole part of a number is within the bounds of the number. -/
theorem truncate_within {x : Float} (h : Within k x) :
    ∃ n, Scalar.truncate x = .ok n ∧ |(n : Rat)| ≤ 2 ^ k := by
  obtain ⟨s, q, hexact, hq⟩ := within_iff.mp h
  have hexact : Scalar.exact x = .finite s q := hexact
  refine ⟨Rounding.signed s q.floor.toNat, by rw [Scalar.truncate, hexact], ?_⟩
  have habs : |((Rounding.signed s q.floor.toNat : Int) : Rat)| = q.floor.toNat := by
    rw [← Int.cast_abs, ← Int.cast_natCast, Int.cast_inj]
    cases s with
    | false => exact Int.abs_natCast _
    | true => exact (abs_neg _).trans (Int.abs_natCast _)
  rw [habs]
  rcases le_total 0 q.floor with hpos | hneg
  · have hcast : ((q.floor.toNat : Nat) : Rat) = (q.floor : Int) := by
      exact_mod_cast Int.toNat_of_nonneg hpos
    rw [hcast]
    exact (Rat.floor_le q).trans hq
  · rw [Int.toNat_of_nonpos hneg, Nat.cast_zero]
    exact (zpow_pos two_pos k).le

/-- What is left of a number when its whole part is taken away. -/
theorem modulo_one_within {x : Float} (h : Within k x) :
    Within 1 (Scalar.modulo x Scalar.one) := by
  obtain ⟨s, q, hexact, -⟩ := within_iff.mp h
  have hone : Exact.ofFloat (ofRat 1) = .finite false 1 := exact_ofRat_whole (n := 1) (by decide)
  show Within 1 (modulo x (ofRat 1))
  unfold modulo
  rw [hexact, hone]
  dsimp only
  rw [if_neg one_ne_zero, div_one, one_mul]
  generalize (if s = true then -q else q) = q
  refine within_ofRat (k := 0) (by decide) (by decide) ?_
  have hlow := Rat.floor_le q
  have hhigh := Rat.lt_floor_add_one q
  rw [Int.cast_add, Int.cast_one] at hhigh
  rw [zpow_zero, abs_le]
  constructor <;> linarith

end

end Binary64
end Choreo
