import Choreo.Proofs.Number.Faithful

/-!
What doubles stand for after a computation.

A sum, a difference, a product or a quotient of doubles is next to the exact result (`Stands.add`,
`Stands.sub`, `Stands.mul`, `Stands.div`), and so is a rational or a decimal numeral made a double
(`rounded_ofRat`, `rounded_ofReading`). Two doubles compare as what they stand for
(`Stands.lt_iff`), and the whole part of one is that of the number (`Stands.truncate`). Against
nought every double is on one side, unless it is not a number (`compare_zero`, `unordered_nan`).
-/

namespace Choreo

/-- The number a decimal numeral says, if it says one. -/
def Text.Reading.value? : Text.Reading → Option Rat
  | .finite negative digits exponent =>
    some ((if negative then -(digits : Rat) else digits) * 10 ^ exponent)
  | _ => none

namespace Binary64

open Float.Model Float.Model.UnpackedFloat

/-! ## Doubles -/

/-- The number a finite double stands for. -/
def Stands (x : Float) (q : Rat) : Prop := (Exact.ofFloat x).value? = some q

theorem stands_iff {x : Float} {q : Rat} : Stands x q ↔ Means (fields x) q := by
  rw [Stands, ofFloat_eq, Means]

theorem Stands.settled {x : Float} {q : Rat} (h : Stands x q) : Settled (fields x) := by
  rw [stands_iff] at h
  cases hx : fields x with
  | infinity s =>
    rw [hx] at h
    cases h
  | notANumber =>
    rw [hx] at h
    cases h
  | zero s => trivial
  | finite s m e hm =>
    have hcanonical := canonical_unpack hx
    exact ⟨hcanonical.lt, hcanonical.low, hcanonical.full⟩

/-- Results are followed up to here, which is well below the largest double. -/
def reach : Rat := 2 ^ (970 : Int)

theorem two_zpow_le_reach {k : Int} (h : k ≤ 970) : (2 : Rat) ^ k ≤ reach :=
  zpow_le_zpow_right₀ one_le_two h

theorem reach_lt_overflowBound : reach < overflowBound := lt_overflowBound (by decide)

/-- A double is next to an exact result that is within reach. -/
def Rounded (z : Float) (r : Rat) : Prop := |r| ≤ reach → ∃ v, Stands z v ∧ Rounds r v

/-- What is next to a number within reach is put together and comes apart again. -/
theorem Approximates.rounded {u : UnpackedFloat} {r : Rat} {z : Float} (h : Approximates u r)
    (hz : fields z = UnpackedFloat.unpack .binary64 (UnpackedFloat.pack .binary64 u)) :
    Rounded z r := by
  intro hr
  obtain ⟨hsettled, v, hv, hround⟩ := h
  obtain ⟨hlow, hhigh⟩ := abs_le.mp hr
  have hheld : Held reach := held_two_zpow (by decide)
  have hbound : |v| ≤ reach := abs_le.mpr ⟨hround.ge hheld.neg hlow, hround.le hheld hhigh⟩
  have hsame : UnpackedFloat.unpack .binary64 (UnpackedFloat.pack .binary64 u) = u := by
    cases u with
    | infinity s => exact hsettled.elim
    | notANumber => exact hsettled.elim
    | zero s => cases s <;> rfl
    | finite s m e hm =>
      obtain ⟨hbits, hlow, hfull⟩ := hsettled
      have hpos : (0 : Rat) ≤ m * 2 ^ e := mul_nonneg m.cast_nonneg (zpow_pos two_pos e).le
      have habs : |v| = m * 2 ^ e := by
        rw [means_finite.mp hv, ← abs_of_nonneg hpos]
        cases s <;> simp [signed]
      rw [habs] at hbound
      have he := exponent_le hm hbound
      exact unpack_pack_finite ⟨hm, hbits, hlow, by omega, hfull⟩ s
  refine ⟨v, ?_, hround⟩
  rw [stands_iff, hz, hsame]
  exact hv

section
variable {x y : Float} {a b : Rat}

theorem Stands.add (hx : Stands x a) (hy : Stands y b) : Rounded (x + y) (a + b) :=
  (add_approximates hx.settled hy.settled (stands_iff.mp hx) (stands_iff.mp hy)).rounded rfl

theorem Stands.sub (hx : Stands x a) (hy : Stands y b) : Rounded (x - y) (a - b) :=
  (sub_approximates hx.settled hy.settled (stands_iff.mp hx) (stands_iff.mp hy)).rounded rfl

theorem Stands.mul (hx : Stands x a) (hy : Stands y b) : Rounded (x * y) (a * b) :=
  (mul_approximates hx.settled hy.settled (stands_iff.mp hx) (stands_iff.mp hy)).rounded rfl

theorem Stands.div (hx : Stands x a) (hy : Stands y b) (hne : b ≠ 0) : Rounded (x / y) (a / b) :=
  (div_approximates hx.settled hy.settled (stands_iff.mp hx) (stands_iff.mp hy) hne).rounded rfl

end

/-! ## Comparison -/

/-- Of two positive doubles the one with the larger exponent is larger, and then the one with the
larger mantissa. -/
theorem compare_bits {m m' : Nat} {e e' : Int} {hm : 0 < m} {hm' : 0 < m'} {s : Sign}
    (hu : Settled (.finite s m e hm)) (hv : Settled (.finite s m' e' hm')) :
    (compare e e').then (compare m m') = cmp (m * 2 ^ e : Rat) (m' * 2 ^ e') := by
  have hless : ∀ {m m' : Nat} {e e' : Int}, m < 9007199254740992 → -1074 ≤ e →
      4503599627370496 ≤ m' ∨ e' = -1074 → e < e' → (m * 2 ^ e : Rat) < m' * 2 ^ e' := by
    intro m m' e e' hbits hlow hfull hlt
    have hm : (m : Rat) < 9007199254740992 := by exact_mod_cast hbits
    have hm' : (4503599627370496 : Rat) ≤ m' := by exact_mod_cast hfull.resolve_right (by omega)
    calc (m * 2 ^ e : Rat) < 9007199254740992 * 2 ^ e :=
          mul_lt_mul_of_pos_right hm (zpow_pos two_pos e)
      _ = 2 ^ (53 + e) := full_mul e
      _ ≤ 2 ^ (52 + e') := zpow_le_zpow_right₀ one_le_two (by omega)
      _ = 4503599627370496 * 2 ^ e' := (half_mul e').symm
      _ ≤ m' * 2 ^ e' := mul_le_mul_of_nonneg_right hm' (zpow_pos two_pos e').le
  obtain ⟨hbits, hlow, hfull⟩ := hu
  obtain ⟨hbits', hlow', hfull'⟩ := hv
  rcases lt_trichotomy e e' with hlt | rfl | hgt
  · rw [compare_lt_iff_lt.mpr hlt, (cmp_eq_lt_iff _ _).mpr (hless hbits hlow hfull' hlt)]
    rfl
  · rw [compare_eq_iff_eq.mpr rfl, cmp_mul_pos_right (zpow_pos two_pos e)]
    rcases lt_trichotomy m m' with hlt | rfl | hgt
    · rw [compare_lt_iff_lt.mpr hlt, (cmp_eq_lt_iff _ _).mpr (Nat.cast_lt.mpr hlt)]
      rfl
    · rw [compare_eq_iff_eq.mpr rfl, cmp_self_eq_eq]
      rfl
    · rw [compare_gt_iff_gt.mpr hgt, (cmp_eq_gt_iff _ _).mpr (Nat.cast_lt.mpr hgt)]
      rfl
  · rw [compare_gt_iff_gt.mpr hgt, (cmp_eq_gt_iff _ _).mpr (hless hbits' hlow' hfull hgt)]
    rfl

theorem compare_settled {u v : UnpackedFloat} {a b : Rat} (hu : Settled u) (hv : Settled v)
    (ha : Means u a) (hb : Means v b) : UnpackedFloat.compare u v = some (cmp a b) := by
  have hpos {m : Nat} (hm : 0 < m) (e : Int) : (0 : Rat) < m * 2 ^ e :=
    mul_pos (Nat.cast_pos.mpr hm) (zpow_pos two_pos e)
  have hneg {m : Nat} (hm : 0 < m) (e : Int) : -((m : Rat) * 2 ^ e) < 0 :=
    neg_neg_of_pos (hpos hm e)
  obtain ⟨s, rfl, rfl⟩ | ⟨s, m, e, hm, rfl, rfl⟩ := hu.cases ha
  · obtain ⟨s', rfl, rfl⟩ | ⟨s', m', e', hm', rfl, rfl⟩ := hv.cases hb
    · rw [cmp_self_eq_eq]
      rfl
    · cases s' with
      | positive => exact congrArg some ((cmp_eq_lt_iff _ _).mpr (hpos hm' e')).symm
      | negative => exact congrArg some ((cmp_eq_gt_iff _ _).mpr (hneg hm' e')).symm
  · obtain ⟨s', rfl, rfl⟩ | ⟨s', m', e', hm', rfl, rfl⟩ := hv.cases hb
    · cases s with
      | positive => exact congrArg some ((cmp_eq_gt_iff _ _).mpr (hpos hm e)).symm
      | negative => exact congrArg some ((cmp_eq_lt_iff _ _).mpr (hneg hm e)).symm
    · cases s with
      | positive =>
        cases s' with
        | positive => exact congrArg some (compare_bits hu hv)
        | negative =>
          exact congrArg some ((cmp_eq_gt_iff _ _).mpr ((hneg hm' e').trans (hpos hm e))).symm
      | negative =>
        cases s' with
        | positive =>
          exact congrArg some ((cmp_eq_lt_iff _ _).mpr ((hneg hm e).trans (hpos hm' e'))).symm
        | negative =>
          show some ((compare e e').then (compare m m')).swap = _
          rw [compare_bits hu hv, cmp_swap]
          congr 1
          unfold cmp cmpUsing signed
          simp only [neg_lt_neg_iff]

theorem lt_iff_compare {x y : Float} :
    x < y ↔ UnpackedFloat.compare (fields x) (fields y) = some .lt := by
  show decide (x.toModel < y.toModel) = true ↔ _
  rw [decide_eq_true_iff]
  exact beq_iff_eq

theorem le_iff_compare {x y : Float} :
    x ≤ y ↔ (UnpackedFloat.compare (fields x) (fields y)).any (·.isLE) = true := by
  show decide (x.toModel ≤ y.toModel) = true ↔ _
  rw [decide_eq_true_iff]
  rfl

theorem beq_iff_compare {x y : Float} :
    (x == y) = true ↔ UnpackedFloat.compare (fields x) (fields y) = some .eq := by
  show (UnpackedFloat.compare (fields x) (fields y) == some .eq) = true ↔ _
  exact beq_iff_eq

section
variable {x y : Float} {a b : Rat}

theorem Stands.beq_iff (hx : Stands x a) (hy : Stands y b) : (x == y) = true ↔ a = b := by
  rw [beq_iff_compare, compare_settled hx.settled hy.settled (stands_iff.mp hx) (stands_iff.mp hy),
    Option.some_inj, cmp_eq_eq_iff]

theorem Stands.lt_iff (hx : Stands x a) (hy : Stands y b) : x < y ↔ a < b := by
  rw [lt_iff_compare, compare_settled hx.settled hy.settled (stands_iff.mp hx) (stands_iff.mp hy),
    Option.some_inj, cmp_eq_lt_iff]

theorem Stands.le_iff (hx : Stands x a) (hy : Stands y b) : x ≤ y ↔ a ≤ b := by
  rw [le_iff_compare, compare_settled hx.settled hy.settled (stands_iff.mp hx) (stands_iff.mp hy),
    Option.any_some, ← not_lt, ← cmp_eq_gt_iff]
  cases cmp a b <;> decide

end

/-! ## Signs -/

section
variable {x : Float}

theorem fields_zero : fields 0 = .zero .positive := rfl

/-- Whatever is a number compares with nought, from either side. -/
theorem compare_zero (h : Exact.ofFloat x ≠ .nan) :
    ∃ o : Ordering, UnpackedFloat.compare (fields x) (fields 0) = some o ∧
      UnpackedFloat.compare (fields 0) (fields x) = some o.swap := by
  rw [fields_zero]
  rw [ofFloat_eq] at h
  cases hx : fields x with
  | notANumber => exact absurd (congrArg worth hx) h
  | infinity s => cases s <;> exact ⟨_, rfl, rfl⟩
  | zero s => cases s <;> exact ⟨_, rfl, rfl⟩
  | finite s m e hm => cases s <;> exact ⟨_, rfl, rfl⟩

theorem zero_le_of_not_lt (h : Exact.ofFloat x ≠ .nan) (hx : ¬x < 0) : 0 ≤ x := by
  obtain ⟨o, hleft, hright⟩ := compare_zero h
  rw [lt_iff_compare, hleft] at hx
  rw [le_iff_compare, hright]
  cases o with
  | lt => exact absurd rfl hx
  | eq | gt => rfl

theorem zero_lt_of_not_le (h : Exact.ofFloat x ≠ .nan) (hx : ¬x ≤ 0) : 0 < x := by
  obtain ⟨o, hleft, hright⟩ := compare_zero h
  rw [le_iff_compare, hleft] at hx
  rw [lt_iff_compare, hright]
  cases o with
  | gt => rfl
  | eq | lt => exact absurd rfl hx

theorem fields_nan (h : Exact.ofFloat x = .nan) : fields x = .notANumber := by
  rw [ofFloat_eq] at h
  cases hx : fields x with
  | notANumber => rfl
  | infinity | zero | finite =>
    rw [hx] at h
    cases h

/-- What is not a number is in no order with nought. -/
theorem unordered_nan (h : Exact.ofFloat x = .nan) : ¬0 < x ∧ ¬0 ≤ x := by
  rw [lt_iff_compare, le_iff_compare, fields_nan h]
  exact ⟨nofun, nofun⟩

theorem not_zero_lt_of_le (hx : x ≤ 0) : ¬0 < x := by
  by_cases hnan : Exact.ofFloat x = .nan
  · exact (unordered_nan hnan).1
  · obtain ⟨o, hleft, hright⟩ := compare_zero hnan
    rw [le_iff_compare, hleft] at hx
    rw [lt_iff_compare, hright]
    cases o with
    | gt => cases hx
    | eq | lt => exact nofun

theorem not_zero_le_of_lt (hx : x < 0) : ¬0 ≤ x := by
  by_cases hnan : Exact.ofFloat x = .nan
  · exact (unordered_nan hnan).2
  · obtain ⟨o, hleft, hright⟩ := compare_zero hnan
    rw [lt_iff_compare, hleft] at hx
    rw [le_iff_compare, hright]
    cases o with
    | lt => exact nofun
    | eq | gt => cases hx

theorem zero_le_of_unsigned
    (h : Exact.ofFloat x = .infinite false ∨ ∃ q, Exact.ofFloat x = .finite false q) : 0 ≤ x := by
  rw [ofFloat_eq] at h
  rw [le_iff_compare, fields_zero]
  cases hx : fields x with
  | notANumber =>
    rw [hx] at h
    rcases h with h | ⟨q, h⟩ <;> cases h
  | zero s => cases s <;> rfl
  | infinity s | finite s =>
    cases s with
    | positive => rfl
    | negative =>
      rw [hx] at h
      rcases h with h | ⟨q, h⟩ <;> cases h

theorem zero_le_ofRat {q : Rat} (hq : 0 ≤ q) : 0 ≤ ofRat q := by
  rcases hq.eq_or_lt with rfl | hpos
  · rw [ofRat_zero]
    decide
  · have hnum : 0 < q.num.natAbs := Int.natAbs_pos.mpr (Rat.num_ne_zero.mpr hpos.ne')
    refine zero_le_of_unsigned ?_
    rw [ofRat_of_pos hpos, exact_ofQuotient hnum q.den_pos]
    split_ifs
    · exact .inl rfl
    · exact .inr ⟨_, rfl⟩

end

/-! ## Numbers -/

section
variable {x y : Float} {a b r : Rat}

theorem Stands.unique (hx : Stands x a) (hx' : Stands x b) : a = b :=
  Option.some.inj (hx.symm.trans hx')

theorem Stands.held (hx : Stands x a) : Held a := by
  obtain ⟨-, v, hv, hround⟩ := hx.settled.approximates (stands_iff.mp hx)
  rw [hx.unique (stands_iff.mpr hv)]
  exact hround.held

theorem Stands.neg (hx : Stands x a) : Stands (-x) (-a) := by
  unfold Stands at hx ⊢
  rw [exact_neg]
  cases h : Exact.ofFloat x with
  | nan =>
    rw [h] at hx
    cases hx
  | infinite s =>
    rw [h] at hx
    cases hx
  | finite s q =>
    rw [h] at hx
    cases s with
    | false => exact congrArg (fun a => some (-a)) (Option.some.inj hx)
    | true =>
      rw [← Option.some.inj hx, InvolutiveNeg.neg_neg]
      rfl

theorem Rounded.neg (h : Rounded x r) : Rounded (-x) (-r) := by
  intro hr
  obtain ⟨v, hv, hround⟩ := h ((abs_neg r).symm.trans_le hr)
  exact ⟨-v, hv.neg, hround.neg⟩

theorem stands_zero : Stands 0 0 := by
  rw [Stands, exact_zero]
  rfl

theorem stands_ofQuotient {num den : Nat} (hnum : 0 < num) (hden : 0 < den)
    (h : (num : Rat) / den ≤ reach) :
    ∃ v, Stands (ofQuotient num den) v ∧ Rounds (num / den) v := by
  have hfinite : ¬overflowBound ≤ (num : Rat) / den :=
    not_le.mpr (h.trans_lt reach_lt_overflowBound)
  have hexact := exact_ofQuotient hnum hden
  rw [if_neg (mt (overflows_iff hnum hden).mp hfinite)] at hexact
  refine ⟨keptUnits num den * 2 ^ lastExponent num den, by rw [Stands, hexact]; rfl,
    keptUnits num den, lastExponent num den, by simp, ?_, lastExponent_ge, ?_, ?_⟩
  · rw [Int.natAbs_natCast]
    exact keptUnits_le hnum hden
  · have hpos : (0 : Rat) < 2 ^ lastExponent num den := zpow_pos two_pos _
    have hunits := inUnits_eq num den (lastExponent num den)
    have hle : (keptUnits num den : Rat) ≤ _ := Rounding.halfEvenDiv_le (unitDen_pos hden _) hunits
    have hge : _ ≤ (keptUnits num den : Rat) := Rounding.le_halfEvenDiv (unitDen_pos hden _) hunits
    have hvalue : (num : Rat) / den =
        num / den / 2 ^ lastExponent num den * 2 ^ lastExponent num den :=
      (div_mul_cancel₀ _ hpos.ne').symm
    rw [hvalue, ← sub_mul, abs_mul, abs_of_pos hpos]
    refine mul_lt_of_lt_one_left hpos (abs_lt.mpr ⟨?_, ?_⟩) <;> linarith
  · have hpos : (0 : Rat) ≤ num / den := by positivity
    rw [abs_of_nonneg hpos]
    exact (inUnits_bounds hnum hden).2.imp_left (le_div_iff₀ (zpow_pos two_pos _)).mp

theorem rounded_ofRat (r : Rat) : Rounded (ofRat r) r := by
  have hpositive : ∀ {r : Rat}, 0 < r → Rounded (ofRat r) r := by
    intro r hr h
    have hnum : 0 < r.num := Rat.num_pos.mpr hr
    have hvalue : (r.num.natAbs : Rat) / r.den = r := by
      rw [Nat.cast_natAbs, abs_of_pos hnum, Rat.num_div_den]
    rw [abs_of_pos hr] at h
    obtain ⟨v, hv, hround⟩ := stands_ofQuotient (by omega) r.den_pos (hvalue.trans_le h)
    rw [hvalue] at hround
    rw [ofRat_of_pos hr]
    exact ⟨v, hv, hround⟩
  rcases lt_trichotomy r 0 with hneg | rfl | hpos
  · have hback := (hpositive (neg_pos.mpr hneg)).neg
    rwa [ofRat_neg hneg.ne, neg_neg, InvolutiveNeg.neg_neg] at hback
  · rw [ofRat_zero]
    exact fun _ => ⟨0, stands_zero, rounds_zero⟩
  · exact hpositive hpos

/-- A number that a double holds is the double that is nearest to it. -/
theorem stands_held (hr : Held r) (h : |r| ≤ reach) : Stands (ofRat r) r := by
  obtain ⟨v, hv, hround⟩ := rounded_ofRat r h
  rwa [hround.eq hr] at hv

/-- The whole number is a double: the one nearest to it is worth no less and no more. -/
def IsDouble (n : Int) : Prop := Stands (Scalar.ofInt n) n

theorem IsDouble.of_neg {n : Int} (h : IsDouble (-n)) : IsDouble n := by
  by_cases hn : n = 0
  · subst hn
    exact h
  · have hneg : (Scalar.ofInt (-n) : Float) = -Scalar.ofInt n := by
      show ofRat ((-n : Int) : Rat) = -ofRat n
      rw [Int.cast_neg, ofRat_neg (Int.cast_ne_zero.mpr hn)]
    have hback := Stands.neg h
    rwa [hneg, neg_neg, Int.cast_neg, InvolutiveNeg.neg_neg] at hback

theorem stands_ofInt {n : Int} (h : n.natAbs ≤ 9007199254740992) :
    Stands (Scalar.ofInt n) n := by
  rw [Stands]
  show (Exact.ofFloat (ofRat n)).value? = some n
  rw [exact_ofRat_whole h]
  by_cases hn : n < 0
  · rw [decide_eq_true hn]
    show some (-(n.natAbs : Rat)) = some (n : Rat)
    rw [Nat.cast_natAbs, abs_of_neg hn, Int.cast_neg, InvolutiveNeg.neg_neg]
  · rw [decide_eq_false hn]
    show some (n.natAbs : Rat) = some (n : Rat)
    rw [Nat.cast_natAbs, abs_of_nonneg (by omega)]

/-- Digits and a power of ten become a double next to what they say. -/
theorem rounded_ofDecimal (digits : Nat) (exponent : Int) :
    Rounded (ofDecimal digits exponent) (digits * 10 ^ exponent) := by
  have hpos : (0 : Rat) ≤ digits * 10 ^ exponent :=
    mul_nonneg (Nat.cast_nonneg _) (zpow_pos (by norm_num) _).le
  intro h
  rw [abs_of_nonneg hpos] at h
  unfold ofDecimal
  split_ifs with hnone hlarge hsmall hneg
  · rw [hnone, Nat.cast_zero, zero_mul]
    exact ⟨0, stands_zero, rounds_zero⟩
  · have hmore := le_of_large (Nat.pos_of_ne_zero hnone) hlarge
    have hpow := (zpow_le_zpow_iff_right₀ one_lt_two).mp (hmore.trans h)
    omega
  · have hless := lt_of_small (Nat.pos_of_ne_zero hnone) hsmall
    have hunit : (2 : Rat) ^ (-1200 : Int) ≤ 2 ^ (-1074 : Int) :=
      zpow_le_zpow_right₀ one_le_two (by decide)
    refine ⟨0, stands_zero, 0, -1074, by simp, by decide, le_rfl, ?_, .inr rfl⟩
    rw [zero_sub, abs_neg, abs_of_nonneg hpos]
    exact hless.trans_le hunit
  · have hvalue := div_ten_pow digits hneg
    have hden : 0 < Nat.pow 10 (-exponent).toNat := Nat.pow_pos (by decide)
    rw [← hvalue] at h ⊢
    exact stands_ofQuotient (Nat.pos_of_ne_zero hnone) hden h
  · have hvalue := mul_ten_pow digits (not_lt.mp hneg)
    have hnum : 0 < digits * Nat.pow 10 exponent.toNat :=
      Nat.mul_pos (Nat.pos_of_ne_zero hnone) (Nat.pow_pos (by decide))
    rw [← hvalue] at h ⊢
    exact stands_ofQuotient hnum one_pos h

/-- A decimal numeral becomes a double next to the number it says. -/
theorem rounded_ofReading {reading : Text.Reading} (hvalue : reading.value? = some r) :
    Rounded (ofReading reading) r := by
  cases reading with
  | nan => cases hvalue
  | infinite negative => cases hvalue
  | finite negative digits exponent =>
    obtain rfl := Option.some.inj hvalue
    have hdecimal := rounded_ofDecimal digits exponent
    cases negative with
    | false =>
      rw [ofReading, if_neg Bool.false_ne_true, if_neg Bool.false_ne_true]
      exact hdecimal
    | true =>
      rw [ofReading, if_pos rfl, if_pos rfl, neg_mul]
      exact hdecimal.neg

/-! ## Whole parts -/

theorem exact_nonneg {s : Bool} {q : Rat} (h : Exact.ofFloat x = .finite s q) : 0 ≤ q := by
  rw [ofFloat_eq] at h
  cases hx : fields x with
  | infinity s =>
    rw [hx] at h
    cases h
  | notANumber =>
    rw [hx] at h
    cases h
  | zero s =>
    rw [hx] at h
    cases h
    exact le_rfl
  | finite s m e hm =>
    rw [hx, worth, scaled_eq] at h
    cases h
    exact mul_nonneg (Nat.cast_nonneg _) (zpow_pos two_pos e).le

theorem Stands.exists_exact (h : Stands x a) :
    ∃ s q, Exact.ofFloat x = .finite s q ∧ 0 ≤ q ∧ a = if s then -q else q := by
  unfold Stands at h
  cases hx : Exact.ofFloat x with
  | nan =>
    rw [hx] at h
    cases h
  | infinite s =>
    rw [hx] at h
    cases h
  | finite s q =>
    rw [hx] at h
    refine ⟨s, q, rfl, exact_nonneg hx, ?_⟩
    cases s <;> exact (Option.some.inj h).symm

theorem Within.stands {k : Int} (h : Within k x) : ∃ a, Stands x a ∧ |a| ≤ 2 ^ k := by
  obtain ⟨s, q, hexact, hq⟩ := within_iff.mp h
  have habs : |q| = q := abs_of_nonneg (exact_nonneg hexact)
  rw [← habs] at hq
  cases s with
  | false => exact ⟨q, by rw [Stands, hexact]; rfl, hq⟩
  | true => exact ⟨-q, by rw [Stands, hexact]; rfl, (abs_neg q).trans_le hq⟩

/-- The whole part of a number that is not negative. -/
theorem Stands.truncate (h : Stands x a) (ha : 0 ≤ a) : Scalar.truncate x = .ok a.floor := by
  obtain ⟨s, q, hexact, hq, rfl⟩ := h.exists_exact
  have hexact : Scalar.exact x = .finite s q := hexact
  rw [Scalar.truncate, hexact]
  cases s with
  | false =>
    have hfloor : 0 ≤ q.floor := Rat.le_floor_iff.mpr hq
    exact congrArg Except.ok (Int.toNat_of_nonneg hfloor)
  | true =>
    have hzero : q = 0 := le_antisymm (neg_nonneg.mp ha) hq
    rw [hzero]
    rfl

theorem Stands.truncate_whole {n : Int} (h : Stands x n) : Scalar.truncate x = .ok n := by
  obtain ⟨s, q, hexact, hq, hn⟩ := h.exists_exact
  have hexact : Scalar.exact x = .finite s q := hexact
  have hfloor {k : Int} (hk : q = k) : (q.floor.toNat : Int) = k := by
    rw [hk] at hq
    have hk' : 0 ≤ k := by exact_mod_cast hq
    rw [hk, Rat.floor_intCast, Int.toNat_of_nonneg hk']
  rw [Scalar.truncate, hexact]
  cases s with
  | false => exact congrArg Except.ok (hfloor hn.symm)
  | true =>
    have hq : q = (-n : Int) := by
      rw [Int.cast_neg, hn, if_pos rfl, InvolutiveNeg.neg_neg]
    have hfloor := hfloor hq
    show Except.ok (-(q.floor.toNat : Int)) = Except.ok n
    rw [hfloor, InvolutiveNeg.neg_neg]

/-- The whole part of a double is a double. -/
theorem Held.floor (h : Held a) (ha : 0 ≤ a) : Held a.floor := by
  obtain ⟨k, e, hk, he, rfl⟩ := h
  have hfloor : 0 ≤ ((k : Rat) * 2 ^ e).floor := Rat.le_floor_iff.mpr ha
  by_cases hwhole : 0 ≤ e
  · obtain ⟨n, rfl⟩ := Int.eq_ofNat_of_zero_le hwhole
    have hvalue : (k : Rat) * 2 ^ (n : Int) = (k * 2 ^ n : Int) := by
      push_cast
      rw [zpow_natCast]
    rw [hvalue, Rat.floor_intCast]
    exact ⟨k, n, hk, he, hvalue.symm⟩
  · have hunit : (2 : Rat) ^ e ≤ 1 := zpow_le_one_of_nonpos₀ one_le_two (by omega)
    have hpos : (0 : Rat) < 2 ^ e := zpow_pos two_pos e
    have hk' : (0 : Rat) ≤ k := nonneg_of_mul_nonneg_left ha hpos
    have hle : (((k : Rat) * 2 ^ e).floor : Rat) ≤ k :=
      (Rat.floor_le _).trans (mul_le_of_le_one_right hk' hunit)
    have hle : ((k : Rat) * 2 ^ e).floor ≤ k := by exact_mod_cast hle
    exact held_intCast (by omega)

/-- What is left of a number when its whole part is taken away may be rounded up to one. -/
theorem Stands.modulo_one (h : Stands x a) :
    ∃ v, Stands (Scalar.modulo x Scalar.one) v ∧ 0 ≤ v ∧ v ≤ 1 := by
  obtain ⟨s, q, hexact, -, rfl⟩ := h.exists_exact
  have hone : Exact.ofFloat (ofRat 1) = .finite false 1 := exact_ofRat_whole (n := 1) (by decide)
  show ∃ v, Stands (modulo x (ofRat 1)) v ∧ _
  unfold modulo
  rw [hexact, hone]
  dsimp only
  rw [if_neg one_ne_zero, div_one, one_mul]
  generalize (if s = true then -q else q) = q
  have hlow := Rat.floor_le q
  have hhigh := Rat.lt_floor_add_one q
  rw [Int.cast_add, Int.cast_one] at hhigh
  have hsize : |q - q.floor| ≤ 2 ^ (0 : Int) := by
    rw [zpow_zero, abs_le]
    constructor <;> linarith
  obtain ⟨v, hv, hround⟩ := rounded_ofRat _ (hsize.trans (two_zpow_le_reach (by decide)))
  refine ⟨v, hv, hround.ge (held_intCast (n := 0) (by decide)) ?_,
    hround.le (held_intCast (n := 1) (by decide)) ?_⟩
  · linarith
  · linarith

end

end Binary64
end Choreo
