import Choreo.Proofs.Color.Notation
import Choreo.Proofs.Number.Worth

/-!
Fractions of a channel, computed on doubles.

A hue with saturation and lightness, or with saturation and brightness, gives three fractions of the
full channel. In exact numbers they lie from nought to one. Those by brightness still do after every
rounding, as nought and one are doubles (`ofBrightness_between`). Those by lightness may leave that
range by some roundings, which is far less than the half that a channel is rounded up by
(`ofLightness_between`, `ofFraction_channel`).
-/

namespace Choreo
namespace Color

open Binary64

/-- A finite double from one number to another. -/
def Between (lo hi : Rat) (x : Float) : Prop := ∃ q, Stands x q ∧ lo ≤ q ∧ q ≤ hi

section
variable {x y z : Float} {a b r lo hi : Rat}

theorem Between.mono {lo' hi' : Rat} (h : Between lo hi x) (hlo : lo' ≤ lo) (hhi : hi ≤ hi') :
    Between lo' hi' x := by
  obtain ⟨q, hq, hl, hh⟩ := h
  exact ⟨q, hq, hlo.trans hl, hh.trans hhi⟩

theorem in_reach (h : |r| ≤ 1024) : |r| ≤ reach := by
  have hpow : (1024 : Rat) = 2 ^ (10 : Int) := by norm_num
  exact (h.trans_eq hpow).trans (two_zpow_le_reach (by decide))

/-- Bounds of an exact result that doubles hold are bounds of the rounded one. -/
theorem between_of (h : Rounded z r) (hlo : Held lo) (hhi : Held hi)
    (hsmall : -1024 ≤ lo ∧ hi ≤ 1024) (hr : lo ≤ r ∧ r ≤ hi) : Between lo hi z := by
  obtain ⟨v, hv, hround⟩ := h (in_reach (abs_le.mpr ⟨hsmall.1.trans hr.1, hr.2.trans hsmall.2⟩))
  exact ⟨v, hv, hround.ge hlo hr.1, hround.le hhi hr.2⟩

/-- A small result is rounded by next to nothing. -/
theorem near_of (h : Rounded z r) (hr : -8 ≤ r ∧ r ≤ 8) :
    ∃ v, Stands z v ∧ r - 1 / 1000000 ≤ v ∧ v ≤ r + 1 / 1000000 := by
  have hr : |r| ≤ 8 := abs_le.mpr hr
  obtain ⟨v, hv, hround⟩ := h (in_reach (hr.trans (by norm_num)))
  have herror : |v - r| ≤ 1 / 1000000 :=
    (hround.error (e := 3) (by decide) (hr.trans (by norm_num))).le.trans (by norm_num)
  rw [abs_le] at herror
  exact ⟨v, hv, by linarith, by linarith⟩

end

/-! ## Numbers -/

theorem held_zero : Held 0 := held_intCast (n := 0) (by decide)

theorem held_one : Held 1 := held_intCast (n := 1) (by decide)

theorem held_hundred : Held 100 := held_intCast (n := 100) (by decide)

theorem held_full : Held 255 := held_intCast (n := 255) (by decide)

theorem held_half : Held (1 / 2) := ⟨1, -1, by decide, by decide, by norm_num⟩

theorem stands_one : Stands Scalar.one 1 := by
  have h := stands_ofInt (n := 1) (by decide)
  rwa [Int.cast_one] at h

theorem stands_half : Stands (Scalar.ofRat (1 / 2)) (1 / 2) :=
  stands_held held_half (in_reach (by norm_num [abs_le]))

section
variable {x y : Float}

/-- Between nought and one. -/
abbrev Fraction (x : Float) : Prop := Between 0 1 x

theorem Fraction.mul (hx : Fraction x) (hy : Fraction y) : Fraction (x * y) := by
  obtain ⟨a, hx, ha, ha'⟩ := hx
  obtain ⟨b, hy, hb, hb'⟩ := hy
  exact between_of (hx.mul hy) held_zero held_one (by norm_num)
    ⟨mul_nonneg ha hb, mul_le_one₀ ha' hb hb'⟩

theorem Fraction.one_sub (hx : Fraction x) : Fraction (Scalar.one - x) := by
  obtain ⟨a, hx, ha, ha'⟩ := hx
  exact between_of (stands_one.sub hx) held_zero held_one (by norm_num)
    ⟨by linarith, by linarith⟩

/-! ## Channels -/

/-- A number that is not far out of the channel's range becomes a channel. -/
theorem round_half_up_channel (h : Between (-3 / 8) (255 + 3 / 8) x) :
    ∃ n, Scalar.truncate (x + Scalar.ofRat (1 / 2)) = .ok n ∧ 0 ≤ n ∧ n ≤ 255 := by
  obtain ⟨a, hx, ha, ha'⟩ := h
  have hlow : Held (1 / 8) := ⟨1, -3, by decide, by decide, by norm_num⟩
  have hhigh : Held (255 + 7 / 8) := ⟨2047, -3, by decide, by decide, by norm_num⟩
  obtain ⟨b, hb, hlo, hhi⟩ := between_of (hx.add stands_half) hlow hhigh (by norm_num)
    ⟨by linarith, by linarith⟩
  refine ⟨b.floor, hb.truncate (by linarith), Rat.le_floor_iff.mpr ?_, ?_⟩
  · push_cast
    linarith
  · have hlt : b < (256 : Int) := by
      push_cast
      linarith
    have := Rat.floor_lt_iff.mpr hlt
    omega

/-- Just about between nought and one. -/
abbrev Nearly (x : Float) : Prop := Between (-(1 / 1000)) (1 + 1 / 1000) x

theorem ofFraction_channel (h : Nearly x) : ∃ n, ofFraction x = .ok n ∧ 0 ≤ n ∧ n ≤ 255 := by
  obtain ⟨a, hx, ha, ha'⟩ := h
  have hlow : Held (-3 / 8) := ⟨-3, -3, by decide, by decide, by norm_num⟩
  have hhigh : Held (255 + 3 / 8) := ⟨2043, -3, by decide, by decide, by norm_num⟩
  have hfull : Stands (Scalar.ofInt 255) 255 := stands_ofInt (n := 255) (by decide)
  exact round_half_up_channel
    (between_of (hx.mul hfull) hlow hhigh (by norm_num) ⟨by linarith, by linarith⟩)

theorem ofPercent_channel {p : Nat} (h : p ≤ 100) :
    ∃ n, ofPercent Float p = .ok n ∧ 0 ≤ n ∧ n ≤ 255 := by
  have hp : (p : Rat) ≤ 100 := by exact_mod_cast h
  have hpos : (0 : Rat) ≤ p := Nat.cast_nonneg p
  have hvalue : ((p * 255 : Int) : Rat) = p * 255 := by push_cast; ring
  have hfinite : |((p * 255 : Int) : Rat)| < overflowBound := by
    have hsize : |((p * 255 : Int) : Rat)| ≤ 2 ^ (15 : Int) := by
      rw [hvalue, abs_of_nonneg (by positivity)]
      norm_num
      linarith
    exact hsize.trans_lt (lt_overflowBound (by decide))
  have hx : Stands (ofRat (p * 255 : Int)) (p * 255) := by
    rw [← hvalue]
    exact stands_ofInt (by omega)
  have hhundred : Stands (Scalar.ofInt 100) 100 := stands_ofInt (n := 100) (by decide)
  unfold ofPercent
  rw [Quantity.ofWhole_doubles, if_neg (not_le.mpr hfinite)]
  have hshare : Between 0 255 (ofRat (p * 255 : Int) / Scalar.ofInt 100) :=
    between_of (hx.div hhundred (by norm_num)) held_zero held_full (by norm_num)
      ⟨by positivity, by rw [div_le_iff₀ (by norm_num)]; linarith⟩
  exact round_half_up_channel (hshare.mono (by norm_num) (by norm_num))

/-! ## Brightness -/

/-- What is left of a number behind its whole part. -/
theorem sub_truncate {a : Rat} (hx : Stands x a) (ha : 0 ≤ a) (hhigh : a ≤ reach) :
    Scalar.truncate x = .ok a.floor ∧ Fraction (x - Scalar.ofInt a.floor) := by
  have hfloor : (0 : Rat) ≤ a.floor := by exact_mod_cast Rat.le_floor_iff.mpr ha
  have hle := Rat.floor_le a
  have hlt := Rat.lt_floor_add_one a
  rw [Int.cast_add, Int.cast_one] at hlt
  have hsize : |(a.floor : Rat)| ≤ reach := by
    rw [abs_of_nonneg hfloor]
    exact hle.trans hhigh
  have hwhole : Stands (Scalar.ofInt a.floor) a.floor := stands_held (hx.held.floor ha) hsize
  exact ⟨hx.truncate ha, between_of (hx.sub hwhole) held_zero held_one (by norm_num)
    ⟨by linarith, by linarith⟩⟩

theorem ofBrightness_between {h s v : Float} {a : Rat} (hh : Stands h a) (ha : 0 ≤ a)
    (hhigh : a ≤ 2 ^ (316 : Int)) (hs : Fraction s) (hv : Fraction v) :
    ∃ xs, ofBrightness h s v = .ok xs ∧ ∀ x ∈ xs, Fraction x := by
  have hsix : Stands (Scalar.ofInt 6) 6 := stands_ofInt (n := 6) (by decide)
  have hbound : a * 6 ≤ 2 ^ (319 : Int) := by
    have hpow : (2 : Rat) ^ (319 : Int) = 2 ^ (316 : Int) * 8 := by
      rw [show (319 : Int) = 316 + 3 from rfl, zpow_add₀ two_ne_zero]
      norm_num
    rw [hpow]
    generalize (2 : Rat) ^ (316 : Int) = u at hhigh
    linarith
  have hreach : (2 : Rat) ^ (319 : Int) ≤ reach := two_zpow_le_reach (by decide)
  have hpos : 0 ≤ a * 6 := by positivity
  obtain ⟨b, hb, hround⟩ := hh.mul hsix (by rw [abs_of_nonneg hpos]; exact hbound.trans hreach)
  obtain ⟨hwhole, hrest⟩ := sub_truncate hb (hround.ge held_zero hpos)
    ((hround.le (held_two_zpow (by decide)) hbound).trans hreach)
  unfold ofBrightness
  split_ifs with hgrey
  · refine ⟨_, rfl, fun x hx => ?_⟩
    obtain rfl : x = v := by simpa using hx
    exact hv
  · rw [hwhole]
    simp only [bind, Except.bind, pure, Except.pure]
    generalize h * Scalar.ofInt 6 - Scalar.ofInt b.floor = f at hrest
    have hp := hv.mul hs.one_sub
    have hq := hv.mul (hs.mul hrest).one_sub
    have ht := hv.mul (hs.mul hrest.one_sub).one_sub
    refine ⟨_, rfl, fun x hx => ?_⟩
    split at hx <;>
      · rw [List.mem_cons, List.mem_cons, List.mem_singleton] at hx
        rcases hx with rfl | rfl | rfl <;> assumption

end

/-! ## Lightness -/

section
variable {low high hue s l : Float} {a b c : Rat}

/-- The two ends of a channel's way, up to what rounding leaves. -/
structure Ends (low high : Float) (a b : Rat) : Prop where
  low : Stands low a
  high : Stands high b
  low_range : -(1 / 100000) ≤ a ∧ a ≤ 1 + 1 / 100000
  high_range : -(1 / 100000) ≤ b ∧ b ≤ 1 + 1 / 100000
  ordered : a ≤ b + 1 / 100000

/-- Up to a sixth of the circle makes up to the whole way from the low end to the full one. -/
theorem Ends.part (h : Ends low high a b) (hhue : Stands hue c)
    (hc : -(1 / 100000) ≤ c ∧ c ≤ 1 / 6 + 1 / 100000) :
    Nearly (low + (high - low) * hue * Scalar.ofInt 6) := by
  obtain ⟨hlow, hhigh, ⟨ha, ha'⟩, ⟨hb, hb'⟩, hab⟩ := h
  have hsix : Stands (Scalar.ofInt 6) 6 := stands_ofInt (n := 6) (by decide)
  obtain ⟨span, hspan, hspan1, hspan2⟩ := near_of (hhigh.sub hlow) ⟨by linarith, by linarith⟩
  have hway : -(1 / 50000) ≤ span * c ∧ a + span * c * 6 ≤ 1 + 1 / 5000 := by
    rcases le_total 0 span with hpos | hneg
    · have hleast := mul_le_mul_of_nonneg_left hc.1 hpos
      have hmost := mul_le_mul_of_nonneg_left hc.2 hpos
      constructor <;> linarith
    · have hleast := mul_le_mul_of_nonpos_left hc.2 hneg
      have hmost := mul_le_mul_of_nonpos_left hc.1 hneg
      constructor <;> linarith
  obtain ⟨turned, hturned, hturned1, hturned2⟩ := near_of (hspan.mul hhue)
    ⟨by linarith, by linarith⟩
  obtain ⟨part, hpart, hpart1, hpart2⟩ := near_of (hturned.mul hsix) ⟨by linarith, by linarith⟩
  obtain ⟨sum, hsum, hsum1, hsum2⟩ := near_of (hlow.add hpart) ⟨by linarith, by linarith⟩
  exact ⟨sum, hsum, by linarith, by linarith⟩

theorem Ends.hueChannel (h : Ends low high a b) (hhue : Stands hue c) :
    Nearly (hueChannel low high hue) := by
  have htwo : Stands (Scalar.ofInt 2) 2 := stands_ofInt (n := 2) (by decide)
  have hthree : Stands (Scalar.ofInt 3) 3 := stands_ofInt (n := 3) (by decide)
  have hsix : Stands (Scalar.ofInt 6) 6 := stands_ofInt (n := 6) (by decide)
  obtain ⟨turn, hturn, hturn0, hturn1⟩ := hhue.modulo_one
  obtain ⟨sixth, hsixth, -, hsixth'⟩ := near_of (stands_one.div hsix (by norm_num)) (by norm_num)
  obtain ⟨falls, hfalls, -, hfalls'⟩ := near_of (htwo.div hthree (by norm_num)) (by norm_num)
  unfold Color.hueChannel
  dsimp only
  split_ifs with hrising hfull hfalling
  · rw [hturn.lt_iff hsixth] at hrising
    exact h.part hturn ⟨by linarith, by linarith⟩
  · exact ⟨b, h.high, by linarith [h.high_range.1], by linarith [h.high_range.2]⟩
  · rw [hturn.lt_iff stands_half, not_lt] at hfull
    rw [hturn.lt_iff hfalls] at hfalling
    obtain ⟨left, hleft, hleft1, hleft2⟩ := near_of (hfalls.sub hturn) ⟨by linarith, by linarith⟩
    exact h.part hleft ⟨by linarith, by linarith⟩
  · exact ⟨a, h.low, by linarith [h.low_range.1], by linarith [h.low_range.2]⟩

/-- The full end by saturation and lightness. -/
theorem high_near (hs : Stands s a) (hl : Stands l b) (ha : 0 ≤ a ∧ a ≤ 1) (hb : 0 ≤ b ∧ b ≤ 1) :
    ∃ q, Stands (if l ≤ Scalar.ofRat (1 / 2) then l * (Scalar.one + s) else l + s - l * s) q ∧
      b - 1 / 250000 ≤ q ∧ q ≤ 1 + 1 / 250000 ∧ q ≤ 2 * b + 1 / 250000 := by
  split_ifs with hdark
  · rw [hl.le_iff stands_half] at hdark
    obtain ⟨more, hmore, hmore1, hmore2⟩ := near_of (stands_one.add hs) ⟨by linarith, by linarith⟩
    have hleast := mul_le_mul_of_nonneg_left (by linarith : 1 - 1 / 1000000 ≤ more) hb.1
    have hmost := mul_le_mul_of_nonneg_left (by linarith : more ≤ 2 + 1 / 1000000) hb.1
    obtain ⟨q, hq, hq1, hq2⟩ := near_of (hl.mul hmore) ⟨by linarith, by linarith⟩
    exact ⟨q, hq, by linarith, by linarith, by linarith⟩
  · rw [hl.le_iff stands_half, not_le] at hdark
    have hnone := mul_nonneg hb.1 ha.1
    have hless := mul_le_of_le_one_left ha.1 hb.2
    have hboth : 0 ≤ (1 - b) * (1 - a) := mul_nonneg (by linarith) (by linarith)
    obtain ⟨sum, hsum, hsum1, hsum2⟩ := near_of (hl.add hs) ⟨by linarith, by linarith⟩
    obtain ⟨product, hproduct, hproduct1, hproduct2⟩ := near_of (hl.mul hs)
      ⟨by linarith, by linarith⟩
    obtain ⟨q, hq, hq1, hq2⟩ := near_of (hsum.sub hproduct) ⟨by linarith, by linarith⟩
    exact ⟨q, hq, by linarith, by linarith, by linarith⟩

theorem exists_ends (hs : Fraction s) (hl : Fraction l) {high : Float}
    (hhigh : high = if l ≤ Scalar.ofRat (1 / 2) then l * (Scalar.one + s) else l + s - l * s) :
    ∃ a b, Ends (Scalar.ofInt 2 * l - high) high a b := by
  obtain ⟨x, hs, hx, hx'⟩ := hs
  obtain ⟨y, hl, hy, hy'⟩ := hl
  have htwo : Stands (Scalar.ofInt 2) 2 := stands_ofInt (n := 2) (by decide)
  obtain ⟨b, hb, hb1, hb2, hb3⟩ := high_near hs hl ⟨hx, hx'⟩ ⟨hy, hy'⟩
  rw [← hhigh] at hb
  obtain ⟨twice, htwice, htwice1, htwice2⟩ := near_of (htwo.mul hl) ⟨by linarith, by linarith⟩
  obtain ⟨a, ha, ha1, ha2⟩ := near_of (htwice.sub hb) ⟨by linarith, by linarith⟩
  exact ⟨a, b, ha, hb, ⟨by linarith, by linarith⟩, ⟨by linarith, by linarith⟩, by linarith⟩

theorem ofLightness_between (hh : Within 310 hue) (hs : Fraction s) (hl : Fraction l) :
    ∀ x ∈ ofLightness hue s l, Nearly x := by
  have hthird : Within 310 (Scalar.one / Scalar.ofInt 3 : Float) :=
    (within_one.div beyond_three (by decide) (by decide) (by decide) : Within 0 _).mono (by decide)
  unfold ofLightness
  by_cases hgrey : (s == Scalar.zero) = true
  · rw [if_pos hgrey]
    intro x hx
    obtain rfl : x = l := by simpa using hx
    exact hl.mono (by norm_num) (by norm_num)
  · rw [if_neg hgrey]
    dsimp only
    generalize hhigh :
      (if l ≤ Scalar.ofRat (1 / 2) then l * (Scalar.one + s) else l + s - l * s) = high
    obtain ⟨a, b, hends⟩ := exists_ends hs hl hhigh.symm
    have hchannel : ∀ h : Float, Within 312 h →
        Nearly (hueChannel (Scalar.ofInt 2 * l - high) high h) := by
      intro h hwithin
      obtain ⟨c, hc, -⟩ := hwithin.stands
      exact hends.hueChannel hc
    intro x hx
    rw [List.mem_cons, List.mem_cons, List.mem_singleton] at hx
    rcases hx with rfl | rfl | rfl
    · exact hchannel _ (hh.add hthird (by decide) (by decide) (by decide))
    · exact hchannel _ (hh.mono (by decide))
    · exact hchannel _ (hh.sub hthird (by decide) (by decide) (by decide))

end

end Color
end Choreo
