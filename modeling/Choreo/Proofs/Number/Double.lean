import Choreo.Number.Scalar
import Choreo.Proofs.Number.Rounding
import Mathlib

/-!
What a double is worth.

The value read off the bits of a double is the one its sign, significand and exponent stand for
(`ofFloat_eq`). A sign in front turns the value around and changes nothing else (`exact_neg`,
`neg_neg`). And the words below that of the infinite double number the doubles that are not negative
(`exact_word`).

That bits are packed again as they were unpacked is in the library already (`pack_unpack`,
`unpack_inj_of_valid`). No module of Mathlib brings these lemmas, only Mathlib as a whole, which is
why all of it is imported here.
-/

namespace Choreo
namespace Binary64

open Float.Model Float.Model.UnpackedFloat

/-! ## Fields -/

/-- A double taken apart. -/
def fields (x : Float) : UnpackedFloat := x.toModel.unpack

/-- What a double is worth, read off its parts. -/
def worth : UnpackedFloat → Exact
  | .notANumber => .nan
  | .infinity s => .infinite (s == .negative)
  | .zero s => .finite (s == .negative) 0
  | .finite s m e _ => .finite (s == .negative) (Exact.scaled m e)

theorem exponentField_eq (b : UInt64) :
    ((b >>> 52) &&& 0x7FF).toNat = (@unpackExponent .binary64 b.toBitVec).toNat := by
  have hmask : (0x7FF : Nat) = 2 ^ 11 - 1 := by decide
  show ((b >>> 52) &&& 0x7FF).toNat = (BitVec.extractLsb 62 52 b.toBitVec).toNat
  rw [BitVec.extractLsb_toNat, UInt64.toNat_and, UInt64.toNat_shiftRight]
  show b.toNat >>> (52 % 64) &&& 0x7FF = b.toNat >>> 52 % 2 ^ 11
  rw [hmask, Nat.and_two_pow_sub_one_eq_mod]

theorem fractionField_eq (b : UInt64) :
    (b &&& 0xFFFFFFFFFFFFF).toNat = (@unpackMantissa .binary64 b.toBitVec).toNat := by
  have hmask : (0xFFFFFFFFFFFFF : Nat) = 2 ^ 52 - 1 := by decide
  show (b &&& 0xFFFFFFFFFFFFF).toNat = (BitVec.extractLsb 51 0 b.toBitVec).toNat
  rw [BitVec.extractLsb_toNat, UInt64.toNat_and]
  show b.toNat &&& 0xFFFFFFFFFFFFF = b.toNat >>> 0 % 2 ^ 52
  rw [hmask, Nat.and_two_pow_sub_one_eq_mod, Nat.shiftRight_zero]

theorem signField_eq (b : UInt64) :
    (b >>> 63 == 1) = (Sign.ofBitVec (@unpackSign .binary64 b.toBitVec) == .negative) := by
  have hbit : (b >>> 63).toNat = (BitVec.extractLsb 63 63 b.toBitVec).toNat := by
    have hlt := b.toNat_lt
    rw [BitVec.extractLsb_toNat, UInt64.toNat_shiftRight]
    show b.toNat >>> 63 = b.toNat >>> 63 % 2 ^ 1
    rw [Nat.shiftRight_eq_div_pow]
    omega
  have hone : (b >>> 63 == 1) = ((b >>> 63).toNat == 1) := by
    rw [Bool.eq_iff_iff, beq_iff_eq, beq_iff_eq, ← UInt64.toNat_inj]
    rfl
  rw [hone, hbit]
  show ((BitVec.extractLsb 63 63 b.toBitVec).toNat == 1) =
    (Sign.ofBitVec (BitVec.extractLsb 63 63 b.toBitVec) == .negative)
  generalize BitVec.extractLsb 63 63 b.toBitVec = s
  revert s
  decide

/-- The bit in front of the fraction counts its full weight. -/
theorem toNat_one_append (f : BitVec 52) : (1#1 ++ f).toNat = 4503599627370496 + f.toNat := by
  rw [BitVec.toNat_append, ← Nat.shiftLeft_add_eq_or_of_lt f.isLt, Nat.shiftLeft_eq]
  rfl

theorem scaled_zero (e : Int) : Exact.scaled 0 e = 0 := by
  unfold Exact.scaled
  split
  · exact Rat.zero_mkRat _
  · rw [Int.ofNat_zero, Int.zero_mul]
    rfl

/-- The value of the bits is the value of the parts. -/
theorem ofFloat_eq (x : Float) : Exact.ofFloat x = worth (fields x) := by
  have hexponent := exponentField_eq x.toBits
  have hfraction := fractionField_eq x.toBits
  have hsign := signField_eq x.toBits
  show Exact.ofBits x.toBits = worth (UnpackedFloat.unpack .binary64 x.toBits.toBitVec)
  unfold Exact.ofBits
  simp only [hexponent, hfraction, hsign]
  generalize x.toBits.toBitVec = b
  have hfull : (@unpackExponent .binary64 b).toNat = 0x7FF ↔
      @unpackExponent .binary64 b = -1#11 := by
    rw [← BitVec.toNat_inj]
    rfl
  have hnone : (@unpackExponent .binary64 b).toNat = 0 ↔
      @unpackExponent .binary64 b = 0#11 := by
    rw [← BitVec.toNat_inj]
    rfl
  have hempty : (@unpackMantissa .binary64 b).toNat = 0 ↔
      @unpackMantissa .binary64 b = 0#52 := by
    rw [← BitVec.toNat_inj]
    rfl
  unfold UnpackedFloat.unpack
  simp only [hfull, hempty]
  split_ifs with h1 h2 h3 h4
  · rfl
  · rfl
  · show Exact.finite _ (Exact.scaled (Exact.significand _ _).1 (Exact.significand _ _).2) =
      .finite _ 0
    rw [hnone.mpr h3, hempty.mpr h4, Exact.significand, if_pos rfl, scaled_zero]
  · show Exact.finite _ (Exact.scaled (Exact.significand _ _).1 (Exact.significand _ _).2) =
      .finite _ (Exact.scaled _ _)
    rw [hnone.mpr h3]
    rfl
  · show Exact.finite _ (Exact.scaled (Exact.significand _ _).1 (Exact.significand _ _).2) =
      .finite _ (Exact.scaled _ _)
    rw [Exact.significand, if_neg (mt hnone.mp h3)]
    have hm : (1#1 ++ @unpackMantissa .binary64 b).toNat =
      4503599627370496 + (@unpackMantissa .binary64 b).toNat := toNat_one_append _
    rw [hm]
    rfl

theorem exact_zero : Exact.ofFloat 0 = .finite false 0 := by
  rw [ofFloat_eq]
  rfl

theorem opened_infinite : Exact.ofFloat (1.0 / 0.0) = .infinite false := by
  rw [ofFloat_eq]
  rfl

theorem divided_nan : Exact.ofFloat (0.0 / 0.0) = .nan := by
  rw [ofFloat_eq]
  rfl

/-! ## Putting a double together -/

/-- Bits kept and an exponent that a double can have: all bits are kept, unless the exponent is the
smallest. -/
structure Canonical (m : Nat) (e : Int) : Prop where
  pos : 0 < m
  lt : m < 9007199254740992
  low : -1074 ≤ e
  high : e ≤ 971
  full : 4503599627370496 ≤ m ∨ e = -1074

/-- What is put together from such bits and exponent comes apart into them again. -/
theorem unpack_pack_finite {m : Nat} {e : Int} (h : Canonical m e) (s : Sign) :
    UnpackedFloat.unpack .binary64 (UnpackedFloat.pack .binary64 (.finite s m e h.pos)) =
      .finite s m e h.pos := by
  obtain ⟨hpos, hlt, hlow, hhigh, hfull⟩ := h
  have hbiased :
      (e + Format.binary64.exponentBias + Format.binary64.mantissaBitsWithoutImplicit).toNat =
        (e + 1075).toNat := by
    show (e + (1023 : Nat) + (52 : Nat)).toNat = _
    omega
  have hfinite : ¬2 ^ 11 ≤ (e + 1075).toNat + 1 := by omega
  rw [UnpackedFloat.pack]
  simp only [hbiased]
  rw [if_neg hfinite]
  by_cases hm : 4503599627370496 ≤ m
  · have hlog : m.log2 + 1 = Format.binary64.mantissaBits := by
      have : m.log2 = 52 := (Nat.log2_eq_iff (by omega)).mpr ⟨hm, hlt⟩
      rw [this]
      rfl
    rw [if_pos hlog]
    have hfull : BitVec.ofNat 11 (e + 1075).toNat ≠ -1#11 := by
      rw [Ne, ← BitVec.toNat_inj, BitVec.toNat_ofNat]
      show (e + 1075).toNat % 2048 ≠ 2047
      omega
    have hnone : BitVec.ofNat 11 (e + 1075).toNat ≠ 0#11 := by
      rw [Ne, ← BitVec.toNat_inj, BitVec.toNat_ofNat]
      show (e + 1075).toNat % 2048 ≠ 0
      omega
    have hexponent :
        ((BitVec.ofNat 11 (e + 1075).toNat).toNat : Int) - ((1023 : Nat) + (52 : Nat)) = e := by
      rw [BitVec.toNat_ofNat]
      omega
    have hbits : (1#1 ++ BitVec.ofNat 52 m).toNat = m := by
      rw [toNat_one_append, BitVec.toNat_ofNat]
      omega
    unfold UnpackedFloat.unpack
    simp only [unpackExponent_packComponents, unpackMantissa_packComponents,
      unpackSign_packComponents, Sign.ofBitVec_toBitVec]
    rw [if_neg hfull, if_neg hnone]
    congr 1
  · have hlog : m.log2 + 1 ≠ Format.binary64.mantissaBits := by
      have : m.log2 < 52 := (Nat.log2_lt (by omega)).mpr (by omega)
      show m.log2 + 1 ≠ 53
      omega
    rw [if_neg hlog]
    have hempty : BitVec.ofNat 52 m ≠ 0#52 := by
      rw [Ne, ← BitVec.toNat_inj, BitVec.toNat_ofNat]
      show m % 4503599627370496 ≠ 0
      omega
    unfold UnpackedFloat.unpack
    simp only [unpackExponent_packComponents, unpackMantissa_packComponents,
      unpackSign_packComponents, Sign.ofBitVec_toBitVec]
    rw [if_neg (by decide), if_pos trivial, dif_neg hempty]
    congr 1
    · rw [BitVec.toNat_ofNat]
      omega
    · rw [hfull.resolve_left hm]
      rfl

/-- The bits and the exponent read off a double are ones that a double can have. -/
theorem canonical_unpack {b : BitVec Format.binary64.numBits} {s : Sign} {m : Nat} {e : Int}
    {hm : 0 < m} (h : UnpackedFloat.unpack .binary64 b = .finite s m e hm) : Canonical m e := by
  have hfraction : (unpackMantissa b).toNat < 4503599627370496 := (unpackMantissa b).isLt
  have hexponent : (unpackExponent b).toNat < 2048 := (unpackExponent b).isLt
  unfold UnpackedFloat.unpack at h
  dsimp only at h
  split_ifs at h with hfull hempty hnone hempty
  · cases h
    have hnone : (unpackExponent b).toNat = 0 := by
      rw [hnone]
      rfl
    have hlow : ((unpackExponent b).toNat : Int) - ((1023 : Nat) + (52 : Nat)) + 1 = -1074 := by
      omega
    exact ⟨hm, hfraction.trans (by decide), hlow.ge, hlow.le.trans (by decide), .inr hlow⟩
  · cases h
    have hfull : (unpackExponent b).toNat ≠ 2047 := fun h => hfull (BitVec.eq_of_toNat_eq h)
    have hnone : (unpackExponent b).toNat ≠ 0 := fun h => hnone (BitVec.eq_of_toNat_eq h)
    have hbits : (1#1 ++ unpackMantissa b).toNat = 4503599627370496 + (unpackMantissa b).toNat :=
      toNat_one_append _
    have hlow : -1074 ≤ ((unpackExponent b).toNat : Int) - ((1023 : Nat) + (52 : Nat)) := by omega
    have hhigh : ((unpackExponent b).toNat : Int) - ((1023 : Nat) + (52 : Nat)) ≤ 971 := by omega
    exact ⟨hm, by omega, hlow, hhigh, .inl (by omega)⟩

/-! ## Negation -/

theorem unpack_pack_neg (x : Float) :
    UnpackedFloat.unpack .binary64 (UnpackedFloat.pack .binary64 (fields x).neg) =
      (fields x).neg := by
  rcases hx : fields x with s | - | s | ⟨s, m, e, hm⟩
  · cases s <;> rfl
  · rfl
  · cases s <;> rfl
  · exact unpack_pack_finite (canonical_unpack hx) (-s)

theorem fields_neg (x : Float) : fields (-x) = (fields x).neg := unpack_pack_neg x

/-- What a number is worth with the other sign. -/
def opposite : Exact → Exact
  | .finite negative q => .finite (!negative) q
  | .infinite negative => .infinite (!negative)
  | .nan => .nan

theorem exact_neg (x : Float) : Exact.ofFloat (-x) = opposite (Exact.ofFloat x) := by
  rw [ofFloat_eq, ofFloat_eq, fields_neg]
  rcases fields x with s | - | s | ⟨s, m, e, hm⟩
  · cases s <;> rfl
  · rfl
  · cases s <;> rfl
  · cases s <;> rfl

theorem neg_neg (x : Float) : - -x = x := by
  have hfields : fields (- -x) = fields x := by
    rw [fields_neg, fields_neg]
    rcases fields x with s | - | s | ⟨s, m, e, hm⟩
    · cases s <;> rfl
    · rfl
    · cases s <;> rfl
    · cases s <;> rfl
  have hbits := (unpack_inj_of_valid (- -x).toModel.valid x.toModel.valid).mp hfields
  exact Float.toBits_inj.mp (UInt64.toBitVec_inj.mp hbits)

/-! ## Words -/

/-- A word stands for a double as it is, unless it stands for no number. -/
theorem toBits_ofBits {b : UInt64}
    (h : ((b >>> 52) &&& 0x7FF).toNat = 0x7FF → (b &&& 0xFFFFFFFFFFFFF).toNat = 0) :
    (Float.ofBits b).toBits = b := by
  have hnumber : @isNaNBits .binary64 b.toBitVec = false := by
    rw [isNaNBits, decide_eq_false_iff_not]
    rintro ⟨hfull, hfraction⟩
    rw [exponentField_eq, fractionField_eq] at h
    refine hfraction (BitVec.eq_of_toNat_eq (h ?_))
    rw [hfull]
    rfl
  have hpacked := @UnpackedFloat.pack_unpack .binary64 b.toBitVec
  rw [hnumber, if_neg Bool.false_ne_true] at hpacked
  exact UInt64.toBitVec_inj.mp hpacked

section
variable {n : Nat}

theorem toNat_word (h : n < 2 ^ 63) : (UInt64.ofNat n).toNat = n := by
  rw [UInt64.toNat_ofNat']
  omega

theorem exponentField_word (h : n < 2 ^ 63) :
    ((UInt64.ofNat n >>> 52) &&& 0x7FF).toNat = n / 4503599627370496 := by
  have hmask : (0x7FF : Nat) = 2 ^ 11 - 1 := by decide
  rw [UInt64.toNat_and, UInt64.toNat_shiftRight, toNat_word h]
  show n >>> 52 &&& 0x7FF = _
  rw [hmask, Nat.and_two_pow_sub_one_eq_mod, Nat.shiftRight_eq_div_pow]
  omega

theorem fractionField_word (h : n < 2 ^ 63) :
    (UInt64.ofNat n &&& 0xFFFFFFFFFFFFF).toNat = n % 4503599627370496 := by
  have hmask : (0xFFFFFFFFFFFFF : Nat) = 2 ^ 52 - 1 := by decide
  rw [UInt64.toNat_and, toNat_word h]
  show n &&& 0xFFFFFFFFFFFFF = _
  rw [hmask, Nat.and_two_pow_sub_one_eq_mod]

theorem signField_word (h : n < 2 ^ 63) : (UInt64.ofNat n >>> 63 == 1) = false := by
  rw [beq_eq_false_iff_ne, Ne, ← UInt64.toNat_inj, UInt64.toNat_shiftRight, toNat_word h]
  show ¬n >>> 63 = 1
  rw [Nat.shiftRight_eq_div_pow]
  omega

/-- What the double of a word is worth. -/
theorem exact_word (h : n ≤ infiniteWord) :
    Exact.ofFloat (Float.ofBits (UInt64.ofNat n)) =
      if n = infiniteWord then .infinite false
      else .finite false (Exact.scaled
        (Exact.significand (n / 4503599627370496) (n % 4503599627370496)).1
        (Exact.significand (n / 4503599627370496) (n % 4503599627370496)).2) := by
  have hinfinite : infiniteWord = 2047 * 4503599627370496 := rfl
  have hlt : n < 2 ^ 63 := by omega
  rw [Exact.ofFloat, toBits_ofBits, Exact.ofBits]
  · simp only [exponentField_word hlt, fractionField_word hlt, signField_word hlt]
    split_ifs with hfull hfraction hword hword hword
    · rfl
    · omega
    · omega
    · omega
    · omega
    · rfl
  · rw [exponentField_word hlt, fractionField_word hlt]
    intro hfull
    have : n / 4503599627370496 = 2047 := hfull
    omega

end

end Binary64
end Choreo
