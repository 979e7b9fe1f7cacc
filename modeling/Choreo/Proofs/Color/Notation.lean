import Choreo.Color.Notation
import Choreo.Proofs.Number.Magnitude
import Choreo.Proofs.Text.Numeral

/-!
The strict color notations never fail on doubles.

A notation is at most a hundred characters long, so none of its numbers has more than ninety-five
digits, and no channel computed from them by percentages or by hue comes near the largest double
(`channels?_doubles`). The bounds below are exponents of two: a number of ninety-five digits is
within 316, and the longest product, of all three arguments of a hue, within 947.
-/

namespace Choreo

/-! ## Arguments -/

theorem length_le_of_mem_splitOnP {α : Type} {p : α → Bool} {xs piece : List α}
    (h : piece ∈ xs.splitOnP p) : piece.length ≤ xs.length := by
  induction xs generalizing piece with
  | nil =>
    rw [List.splitOnP_nil, List.mem_singleton] at h
    rw [h]
  | cons x xs ih =>
    rw [List.splitOnP_cons_eq_if_modifyHead] at h
    split_ifs at h
    · rcases List.mem_cons.mp h with rfl | hpiece
      · exact Nat.zero_le _
      · exact (ih hpiece).trans (Nat.le_succ _)
    · cases hpieces : xs.splitOnP p with
      | nil => exact absurd hpieces (List.splitOnP_ne_nil p xs)
      | cons first rest =>
        rw [hpieces] at h ih
        rcases List.mem_cons.mp h with rfl | hpiece
        · exact Nat.succ_le_succ (ih List.mem_cons_self)
        · exact (ih (List.mem_cons_of_mem first hpiece)).trans (Nat.le_succ _)

theorem filterMap_of_mapM {α β : Type} {f : α → Option β} {xs : List α} {ys : List β}
    (h : xs.mapM f = some ys) : xs.filterMap f = ys := by
  induction xs generalizing ys with
  | nil =>
    cases h
    rfl
  | cons x xs ih =>
    rw [List.mapM_cons] at h
    simp only [bind, Option.bind_eq_some_iff] at h
    obtain ⟨y, hy, rest, hrest, heq⟩ := h
    cases heq
    rw [List.filterMap_cons_some hy, ih hrest]

namespace Text

theorem length_strip_le (cs : List Char) : (strip cs).length ≤ cs.length := by
  have hfront := List.length_dropWhile_le isBlank cs
  have hback := List.length_dropWhile_le isBlank (cs.dropWhile isBlank).reverse
  rw [List.length_reverse] at hback
  rw [strip, stripWhere, List.length_reverse]
  omega

end Text

namespace Color

/-- An argument is shorter than the call it stands in, by the name and the parentheses. -/
theorem length_argument_le {function : String} {cs arg : List Char} {args : List (List Char)}
    (h : arguments? function cs = some args) (harg : arg ∈ args) :
    arg.length + function.toList.length + 2 ≤ cs.length := by
  unfold arguments? at h
  split at h
  · next body hcall =>
    obtain ⟨call, hprefix, hreverse⟩ := Option.map_eq_some_iff.mp hcall
    cases h
    obtain ⟨piece, hpiece, rfl⟩ := List.mem_map.mp harg
    have hle := (Text.length_strip_le piece).trans (length_le_of_mem_splitOnP hpiece)
    have hcs := congrArg List.length (List.isPrefixOf?_eq_some_iff_append_eq.mp hprefix)
    have hcall := congrArg List.length hreverse
    rw [List.length_append, String.toList_append, List.length_append] at hcs
    rw [List.length_reverse] at hle hcall
    rw [List.length_cons] at hcall
    have hparen : "(".toList.length = 1 := rfl
    omega
  · cases h

/-! ## Numbers -/

section
open Binary64

/-- An argument of a notation has at most ninety-five characters. -/
theorem digits_le {m n : Nat} (h : m < 10 ^ n) (hn : n ≤ 95) : (m : Rat) ≤ 2 ^ (316 : Int) := by
  have hpow : 10 ^ 95 ≤ 2 ^ (221 + 95) := by
    have hfives : 5 ^ 95 ≤ 2 ^ 221 := by norm_num
    rw [show 10 = 5 * 2 from rfl, Nat.mul_pow, Nat.pow_add]
    exact Nat.mul_le_mul_right _ hfives
  have hm : m ≤ 2 ^ (221 + 95) :=
    h.le.trans ((Nat.pow_le_pow_right (by decide) hn).trans hpow)
  have hcast (k : Nat) : ((2 ^ k : Nat) : Rat) = 2 ^ (k : Int) := by
    rw [Nat.cast_pow, zpow_natCast, Nat.cast_ofNat]
  exact (Nat.cast_le.mpr hm).trans_eq (hcast (221 + 95))

theorem within_half : Within 0 (Scalar.ofRat (1 / 2)) :=
  (within_ofRat (q := 1 / 2) (k := -1) (by decide) (by decide) (by norm_num [abs_of_pos])).mono
    (by decide)

theorem within_one : Within 0 Scalar.one := within_ofInt (n := 1) (by decide) (by norm_num)

theorem within_two : Within 1 (Scalar.ofInt 2) := within_ofInt (by decide) (by norm_num)

theorem within_six : Within 3 (Scalar.ofInt 6) := within_ofInt (by decide) (by norm_num)

theorem within_full : Within 8 (Scalar.ofInt 255) := within_ofInt (by decide) (by norm_num)

theorem beyond_three : Beyond 1 (Scalar.ofInt 3) := beyond_ofInt (by decide) (by norm_num)

theorem beyond_hundred : Beyond 6 (Scalar.ofInt 100) := beyond_ofInt (by decide) (by norm_num)

theorem beyond_circle : Beyond 8 (Scalar.ofInt 360) := beyond_ofInt (by decide) (by norm_num)

section
variable {cs : List Char} {x : Float}

theorem decimal?_within (h : decimal? cs = some x) (hlen : cs.length ≤ 95) : Within 317 x := by
  unfold decimal? at h
  split at h
  · next m places _ hopening =>
    cases h
    have hdigits := digits_le (Text.openingDecimal?_lt hopening) hlen
    exact within_ofReading (by decide) (by decide) hdigits
  · cases h

theorem fraction?_within (h : fraction? cs = some x) (hlen : cs.length ≤ 95) : Within 312 x := by
  unfold fraction? at h
  split at h
  · next ds hcs =>
    obtain ⟨y, hy, rfl⟩ := Option.map_eq_some_iff.mp h
    have hds := congrArg List.length hcs
    rw [List.length_reverse, List.length_cons] at hds
    have hwithin := decimal?_within hy (by rw [List.length_reverse]; omega)
    exact hwithin.div beyond_hundred (by decide) (by decide) (by decide)
  · cases h

end

theorem hueArguments?_within {args : Option (List (List Char))} {h a b : Float}
    (hargs : hueArguments? args = some (h, a, b))
    (hlen : ∀ l, args = some l → ∀ arg ∈ l, arg.length ≤ 95) :
    Within 310 h ∧ Within 312 a ∧ Within 312 b := by
  unfold hueArguments? at hargs
  split at hargs
  · next u v w =>
    have hlen := hlen _ rfl
    simp only [bind, Option.bind_eq_some_iff] at hargs
    obtain ⟨x, hx, y, hy, z, hz, heq⟩ := hargs
    cases heq
    refine ⟨?_, fraction?_within hy (hlen v (by simp)), fraction?_within hz (hlen w (by simp))⟩
    have hwithin := decimal?_within hx (hlen u (by simp))
    exact hwithin.div beyond_circle (by decide) (by decide) (by decide)
  · cases hargs

/-! ## Channels -/

/-- Channels whose opacity, if they have one, is a number of an argument's length. -/
def Modest : Option Channels → Prop
  | some (.four _ _ _ a) => ∃ n : Nat, a = n ∧ n < 10 ^ 95
  | _ => True

/-- A number scaled to a channel has a whole part. -/
theorem round_half_up {x : Float} (h : Within 958 x) :
    ∃ n, Scalar.truncate (x + Scalar.ofRat (1 / 2)) = .ok n := by
  have hshifted : Within 960 (x + Scalar.ofRat (1 / 2)) :=
    h.add (within_half.mono (by decide)) (by decide) (by decide) (by decide)
  obtain ⟨n, hn, -⟩ := truncate_within hshifted
  exact ⟨n, hn⟩

theorem ofFraction_doubles {x : Float} (h : Within 947 x) : ∃ n, ofFraction x = .ok n :=
  round_half_up (h.mul within_full (by decide) (by decide) (by decide))

theorem ofFractions_doubles {xs : List Float} (h : ∀ x ∈ xs, Within 947 x) :
    ∃ c, ofFractions xs = .ok c ∧ Modest c := by
  have hmap : ∃ ns, xs.mapM ofFraction = .ok ns := by
    induction xs with
    | nil => exact ⟨[], rfl⟩
    | cons x xs ih =>
      obtain ⟨n, hn⟩ := ofFraction_doubles (h x List.mem_cons_self)
      obtain ⟨ns, hns⟩ := ih fun y hy => h y (List.mem_cons_of_mem x hy)
      rw [List.mapM_cons, hn, hns]
      exact ⟨n :: ns, rfl⟩
  obtain ⟨ns, hns⟩ := hmap
  unfold ofFractions
  rw [hns]
  simp only [bind, Except.bind]
  split <;> exact ⟨_, rfl, trivial⟩

theorem ofPercent_doubles {p : Nat} (h : p < 10 ^ 95) : ∃ n, ofPercent Float p = .ok n := by
  have hp := digits_le h le_rfl
  have hbound : |((p * 255 : Int) : Rat)| ≤ 2 ^ (324 : Int) := by
    have hpow : (2 : Rat) ^ (324 : Int) = 2 ^ (316 : Int) * 256 := by
      rw [show (324 : Int) = 316 + 8 from rfl, zpow_add₀ two_ne_zero]
      norm_num
    have hpos : (0 : Rat) ≤ p := Nat.cast_nonneg p
    rw [hpow, Int.cast_mul, Int.cast_natCast, Int.cast_ofNat, abs_of_nonneg (by positivity)]
    generalize (2 : Rat) ^ (316 : Int) = u at hp
    linarith
  have hfinite : |((p * 255 : Int) : Rat)| < overflowBound :=
    hbound.trans_lt (lt_overflowBound (by decide))
  unfold ofPercent
  rw [Quantity.ofWhole_doubles, if_neg (not_le.mpr hfinite)]
  have hx : Within 325 (ofRat (p * 255 : Int)) := within_ofRat (by decide) (by decide) hbound
  exact round_half_up (hx.div beyond_hundred (by decide) (by decide) (by decide))

theorem hueChannel_within {low high hue : Float} {k k' : Int} (hk : 0 ≤ k) (hk' : k ≤ 900)
    (hlow : Within k low) (hhigh : Within k high) (hhue : Within k' hue) :
    Within (k + 12) (hueChannel low high hue) := by
  have hturn := modulo_one_within hhue
  have hspan : Within (k + 2) (high - low) := hhigh.sub hlow (by omega) (by omega) (by omega)
  have htwoThirds : Within 1 (Scalar.ofInt 2 / Scalar.ofInt 3 : Float) :=
    within_two.div beyond_three (by decide) (by decide) (by decide)
  have hpart : ∀ x : Float, Within 3 x →
      Within (k + 12) (low + (high - low) * x * Scalar.ofInt 6) := by
    intro x hx
    have hturned : Within (k + 6) ((high - low) * x) :=
      hspan.mul hx (by omega) (by omega) (by omega)
    have hsixth : Within (k + 10) ((high - low) * x * Scalar.ofInt 6) :=
      hturned.mul within_six (by omega) (by omega) (by omega)
    exact (hlow.mono (by omega)).add hsixth (by omega) (by omega) (by omega)
  unfold hueChannel
  dsimp only
  split_ifs
  · exact hpart _ (hturn.mono (by decide))
  · exact hhigh.mono (by omega)
  · exact hpart _ (htwoThirds.sub hturn (by decide) (by decide) (by decide))
  · exact hlow.mono (by omega)

theorem ofLightness_within {h s l : Float} (hh : Within 310 h) (hs : Within 312 s)
    (hl : Within 312 l) : ∀ x ∈ ofLightness h s l, Within 947 x := by
  have hthird : Within 0 (Scalar.one / Scalar.ofInt 3 : Float) :=
    within_one.div beyond_three (by decide) (by decide) (by decide)
  have hhigh : Within 627
      (if l ≤ Scalar.ofRat (1 / 2) then l * (Scalar.one + s) else l + s - l * s) := by
    have hmore : Within 314 (Scalar.one + s) :=
      (within_one.mono (by decide)).add hs (by decide) (by decide) (by decide)
    have hsum : Within 314 (l + s) := hl.add hs (by decide) (by decide) (by decide)
    have hproduct : Within 625 (l * s) := hl.mul hs (by decide) (by decide) (by decide)
    split_ifs
    · exact hl.mul hmore (by decide) (by decide) (by decide)
    · exact (hsum.mono (by decide)).sub hproduct (by decide) (by decide) (by decide)
  unfold ofLightness
  by_cases hgrey : (s == Scalar.zero) = true
  · rw [if_pos hgrey]
    intro x hx
    obtain rfl : x = l := by simpa using hx
    exact hl.mono (by decide)
  · rw [if_neg hgrey]
    dsimp only
    generalize (if l ≤ Scalar.ofRat (1 / 2) then l * (Scalar.one + s) else l + s - l * s) = high
      at hhigh ⊢
    have htwice : Within 314 (Scalar.ofInt 2 * l) :=
      within_two.mul hl (by decide) (by decide) (by decide)
    have hlow : Within 629 (Scalar.ofInt 2 * l - high) :=
      (htwice.mono (by decide)).sub hhigh (by decide) (by decide) (by decide)
    have hchannel : ∀ hue : Float, Within 312 hue →
        Within 947 (hueChannel (Scalar.ofInt 2 * l - high) high hue) := by
      intro hue hhue
      exact (hueChannel_within (by decide) (by decide) hlow (hhigh.mono (by decide)) hhue).mono
        (by decide)
    have hthird := hthird.mono (by decide : (0 : Int) ≤ 310)
    intro x hx
    rw [List.mem_cons, List.mem_cons, List.mem_singleton] at hx
    rcases hx with rfl | rfl | rfl
    · exact hchannel _ (hh.add hthird (by decide) (by decide) (by decide))
    · exact hchannel _ (hh.mono (by decide))
    · exact hchannel _ (hh.sub hthird (by decide) (by decide) (by decide))

theorem ofBrightness_within {h s v : Float} (hh : Within 310 h) (hs : Within 312 s)
    (hv : Within 312 v) :
    ∃ xs, ofBrightness h s v = .ok xs ∧ ∀ x ∈ xs, Within 947 x := by
  have hsixths : Within 314 (h * Scalar.ofInt 6) :=
    hh.mul within_six (by decide) (by decide) (by decide)
  obtain ⟨sixth, hsixth, hbound⟩ := truncate_within hsixths
  have hwhole : Within 315 (Scalar.ofInt sixth) := within_ofRat (by decide) (by decide) hbound
  have hrest : Within 317 (h * Scalar.ofInt 6 - Scalar.ofInt sixth) :=
    (hsixths.mono (by decide)).sub hwhole (by decide) (by decide) (by decide)
  -- Each channel is the brightness less some part of the saturation.
  have hless : ∀ x : Float, Within 632 x → Within 947 (v * (Scalar.one - x)) := by
    intro x hx
    have hleft : Within 634 (Scalar.one - x) :=
      (within_one.mono (by decide)).sub hx (by decide) (by decide) (by decide)
    exact hv.mul hleft (by decide) (by decide) (by decide)
  unfold ofBrightness
  split_ifs with hgrey
  · refine ⟨_, rfl, fun x hx => ?_⟩
    obtain rfl : x = v := by simpa using hx
    exact hv.mono (by decide)
  · rw [hsixth]
    simp only [bind, Except.bind, pure, Except.pure]
    generalize h * Scalar.ofInt 6 - Scalar.ofInt sixth = f at hrest
    have hv' : Within 947 v := hv.mono (by decide)
    have hp := hless s (hs.mono (by decide))
    have hq := hless (s * f) (hs.mul hrest (by decide) (by decide) (by decide))
    have hcorest : Within 319 (Scalar.one - f) :=
      (within_one.mono (by decide)).sub hrest (by decide) (by decide) (by decide)
    have ht := hless (s * (Scalar.one - f)) (hs.mul hcorest (by decide) (by decide) (by decide))
    refine ⟨_, rfl, fun x hx => ?_⟩
    split at hx <;>
      · rw [List.mem_cons, List.mem_cons, List.mem_singleton] at hx
        rcases hx with rfl | rfl | rfl <;> assumption

/-! ## Notations -/

theorem hexDigits?_lt {cs : List Char} {ds : List Nat} (h : hexDigits? cs = some ds) :
    ∀ d ∈ ds, d < 16 := by
  intro d hd
  rw [← filterMap_of_mapM h] at hd
  obtain ⟨c, -, hc⟩ := List.mem_filterMap.mp hd
  split_ifs at hc
  exact Text.hexDigit?_lt hc

theorem ofHex?_modest (cs : List Char) : Modest (ofHex? cs) := by
  unfold ofHex?
  split
  · trivial
  · next r g b a h =>
    have ha := hexDigits?_lt h a (by simp)
    exact ⟨a * 17, by push_cast; rfl, by omega⟩
  · trivial
  · next r r' g g' b b' a a' h =>
    have ha := hexDigits?_lt h a (by simp)
    have ha' := hexDigits?_lt h a' (by simp)
    exact ⟨a * 16 + a', by push_cast; rfl, by omega⟩
  · trivial

theorem whole?_lt {cs : List Char} {n : Nat} (h : whole? cs = some n) : n < 10 ^ cs.length := by
  unfold whole? at h
  split_ifs at h
  obtain ⟨ds, hds, rfl⟩ := Option.map_eq_some_iff.mp h
  rw [← filterMap_of_mapM hds]
  exact Text.numeral_digits_lt cs

theorem percent?_lt {cs : List Char} {n : Nat} (h : percent? cs = some n) :
    n < 10 ^ cs.length := by
  unfold percent? at h
  split at h
  · next ds hcs =>
    have hds := congrArg List.length hcs
    rw [List.length_reverse, List.length_cons] at hds
    refine (whole?_lt h).trans_le (Nat.pow_le_pow_right (by decide) ?_)
    rw [List.length_reverse]
    omega
  · cases h

section
variable {cs : List Char}

theorem length_argument_le_of_short (hcs : cs.length ≤ notationLimit) {function : String}
    (hfunction : 3 ≤ function.toList.length) {args : List (List Char)}
    (hargs : arguments? function cs = some args) : ∀ arg ∈ args, arg.length ≤ 95 := by
  intro arg harg
  have hcs : cs.length ≤ 100 := hcs
  have hle := length_argument_le hargs harg
  omega

theorem ofWholeCall?_modest (hcs : cs.length ≤ notationLimit) : Modest (ofWholeCall? cs) := by
  unfold ofWholeCall?
  split
  · trivial
  · next r g b a hcall _ =>
    obtain ⟨args, hargs, hmap⟩ := Option.bind_eq_some_iff.mp hcall
    have ha : a ∈ args.filterMap whole? := by
      rw [filterMap_of_mapM hmap]
      simp
    obtain ⟨arg, harg, ha⟩ := List.mem_filterMap.mp ha
    have hlen := length_argument_le_of_short hcs (by decide) hargs arg harg
    exact ⟨a, rfl, (whole?_lt ha).trans_le (Nat.pow_le_pow_right (by decide) hlen)⟩
  · trivial

theorem ofComputedCall?_doubles (hcs : cs.length ≤ notationLimit) :
    ∃ c, ofComputedCall? Float cs = .ok c ∧ Modest c := by
  unfold ofComputedCall?
  split
  · next r g b hcall =>
    obtain ⟨args, hargs, hmap⟩ := Option.bind_eq_some_iff.mp hcall
    have hpercent : ∀ p ∈ [r, g, b], ∃ n, ofPercent Float p = .ok n := by
      intro p hp
      rw [← filterMap_of_mapM hmap] at hp
      obtain ⟨arg, harg, hp⟩ := List.mem_filterMap.mp hp
      have hlen := length_argument_le_of_short hcs (by decide) hargs arg harg
      exact ofPercent_doubles ((percent?_lt hp).trans_le (Nat.pow_le_pow_right (by decide) hlen))
    obtain ⟨r', hr⟩ := hpercent r (by simp)
    obtain ⟨g', hg⟩ := hpercent g (by simp)
    obtain ⟨b', hb⟩ := hpercent b (by simp)
    rw [hr, hg, hb]
    exact ⟨_, rfl, trivial⟩
  · split
    · next h s l hcall =>
      obtain ⟨hh, hs, hl⟩ := hueArguments?_within hcall fun _ hargs =>
        length_argument_le_of_short hcs (by decide) hargs
      exact ofFractions_doubles (ofLightness_within hh hs hl)
    · dsimp only
      split
      · next h s v hcall =>
        have hlen : ∀ l, (arguments? "hsv" cs).or (arguments? "hsb" cs) = some l →
            ∀ arg ∈ l, arg.length ≤ 95 := by
          intro l hl
          rcases Option.or_eq_some_iff.mp hl with hl | ⟨-, hl⟩
          · exact length_argument_le_of_short hcs (by decide) hl
          · exact length_argument_le_of_short hcs (by decide) hl
        obtain ⟨hh, hs, hv⟩ := hueArguments?_within hcall hlen
        obtain ⟨xs, hxs, hwithin⟩ := ofBrightness_within hh hs hv
        rw [hxs]
        exact ofFractions_doubles hwithin
      · exact ⟨_, rfl, trivial⟩

end

/-- On doubles every notation is read without a fault. -/
theorem channels?_doubles (cs : List Char) : ∃ c, channels? Float cs = .ok c ∧ Modest c := by
  unfold channels?
  split_ifs with hlong
  · exact ⟨none, rfl, trivial⟩
  · have hcs : (cs.map lower).length ≤ notationLimit := by
      rw [List.length_map]
      omega
    generalize cs.map lower = cs at hcs
    dsimp only
    split
    · next c hdirect =>
      refine ⟨some c, rfl, ?_⟩
      rw [← hdirect]
      split
      · exact ofHex?_modest _
      · cases hname : ofName? cs with
        | none => exact ofWholeCall?_modest hcs
        | some c =>
          obtain ⟨rgb, -, rfl⟩ := Option.map_eq_some_iff.mp hname
          trivial
    · exact ofComputedCall?_doubles hcs

end

end Color
end Choreo
