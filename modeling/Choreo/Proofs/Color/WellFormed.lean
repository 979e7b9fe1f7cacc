import Choreo.Proofs.Color.Captured
import Choreo.Proofs.Color.Fractions

/-!
Which colors are well formed.

Nothing holds a color that is read to the ranges of its parts, but it keeps to them as long as the
text does: names, shades and hexadecimal digits always, and the other notations where each number in
them lies in the range of what it stands for (`wellFormed_of_inRange`).
-/

namespace Choreo

/-- A finite number from one to another. -/
def Quantity.Between {α : Type} [Scalar α] (lo hi : Rat) (q : Quantity α) : Prop :=
  ∃ r ∈ q.exact.value?, lo ≤ r ∧ r ≤ hi

instance {α : Type} [Scalar α] (lo hi : Rat) (q : Quantity α) : Decidable (q.Between lo hi) :=
  inferInstanceAs (Decidable (∃ r ∈ q.exact.value?, lo ≤ r ∧ r ≤ hi))

namespace Color

/-- Three channels out of 255 and an opacity out of one. -/
def WellFormed {α : Type} [Scalar α] (c : Color α) : Prop :=
  (∀ q ∈ [c.red, c.green, c.blue], q.Between 0 255) ∧ c.alpha.Between 0 1

instance {α : Type} [Scalar α] (c : Color α) : Decidable c.WellFormed :=
  inferInstanceAs (Decidable (_ ∧ _))

/-! ## Texts in range -/

/-- A text that, if it is a decimal numeral at all, says a number from nought to a limit. -/
def Ranges (limit : Rat) (text : List Char) : Prop :=
  ∀ r ∈ (Text.readDecimal text).toOption, ∃ q ∈ r.value?, 0 ≤ q ∧ q ≤ limit

instance (limit : Rat) (text : List Char) : Decidable (Ranges limit text) :=
  inferInstanceAs (Decidable (∀ r ∈ (Text.readDecimal text).toOption, ∃ q ∈ r.value?, _))

/-- A part of a notation that keeps to a limit, which for a percentage is a hundred. -/
def Fits (limit : Rat) (part : List Char) : Prop :=
  if part.getLast? = some '%' then Ranges 100 part.dropLast else Ranges limit part

instance (limit : Rat) (part : List Char) : Decidable (Fits limit part) :=
  inferInstanceAs (Decidable (if part.getLast? = some '%' then _ else _))

/-- The numbers of a strict notation keep to the channels' limit. A hue has none. -/
def CallInRange (cs : List Char) : Prop :=
  (∀ function ∈ ["rgb", "rgba"], ∀ args ∈ arguments? function cs, ∀ arg ∈ args, Fits 255 arg) ∧
  ∀ function ∈ ["hsl", "hsv", "hsb"], ∀ args ∈ arguments? function cs,
    ∀ arg ∈ args.tail, Fits 255 arg

instance (cs : List Char) : Decidable (CallInRange cs) := inferInstanceAs (Decidable (_ ∧ _))

/-- The parts of a text that is read in the loose functional notation: there are three or more. -/
def channelParts? (s : List Char) : Option (List (List Char)) :=
  (looseParts? s).filter (3 ≤ ·.length)

/-- The numbers of a text, in the notation that it is read in, keep to their limits. -/
def InRange (s : List Char) : Prop :=
  (∀ parts ∈ channelParts? s,
    (∀ part ∈ parts.take 3, Ranges 255 part) ∧ ∀ part ∈ parts[3]?, Fits 1 part) ∧
  (channelParts? s = none → CallInRange ((Text.strip s).map lower))

instance (s : List Char) : Decidable (InRange s) := inferInstanceAs (Decidable (_ ∧ (_ → _)))

/-- The percentage behind a name, or the text in its brackets, keeps to its limits. -/
def NameInRange (cs : List Char) : Prop :=
  if cs.contains '/' && cs.head? != some '[' then Ranges 100 ((cs.dropWhile (· != '/')).drop 1)
  else isBracketed cs = true → InRange (withBlanks ((cs.drop 1).dropLast))

instance (cs : List Char) : Decidable (NameInRange cs) :=
  inferInstanceAs (Decidable (ite _ _ (_ → _)))

end Color

/-- The name in a color token keeps to its limits. -/
def Token.InRange (token : List Char) : Prop :=
  ∀ name ∈ Token.colorStarts.findSome? fun start => after? start token, Color.NameInRange name

instance (token : List Char) : Decidable (Token.InRange token) :=
  inferInstanceAs (Decidable (∀ name ∈ Token.colorStarts.findSome? _, _))

namespace Color

open Binary64

/-! ## Numbers -/

theorem value?_ofRat (q : Rat) : (Exact.ofRat q).value? = some q := by
  unfold Exact.ofRat
  by_cases hq : q < 0
  · rw [decide_eq_true hq, Rat.abs, if_neg (not_le.mpr hq)]
    exact congrArg some (InvolutiveNeg.neg_neg q)
  · rw [decide_eq_false hq, Rat.abs, if_pos (not_lt.mp hq)]
    rfl

/-- A whole number in the range of channels. -/
def IsChannel (n : Int) : Prop := 0 ≤ n ∧ n ≤ 255

instance (n : Int) : Decidable (IsChannel n) := inferInstanceAs (Decidable (0 ≤ n ∧ n ≤ 255))

theorem wellFormed_of_channels {r g b : Int} {a : Quantity Float} (hr : IsChannel r)
    (hg : IsChannel g) (hb : IsChannel b) (ha : a.Between 0 1) :
    (Color.mk (.whole r) (.whole g) (.whole b) a).WellFormed := by
  have hwhole : ∀ {n : Int}, IsChannel n → (Quantity.whole n : Quantity Float).Between 0 255 :=
    fun {n} h => ⟨n, value?_ofRat n, by exact_mod_cast h.1, by exact_mod_cast h.2⟩
  exact ⟨by simp [hwhole hr, hwhole hg, hwhole hb], ha⟩

theorem between_one : (Quantity.whole 1 : Quantity Float).Between 0 1 :=
  ⟨1, value?_ofRat 1, by decide, le_rfl⟩

theorem transparent_wellFormed : (transparent : Color Float).WellFormed :=
  have hnought : IsChannel 0 := ⟨le_rfl, by decide⟩
  wellFormed_of_channels hnought hnought hnought ⟨0, value?_ofRat 0, le_rfl, by decide⟩

/-! ## Parts -/

/-- A computation gives nothing but results of a kind. -/
def Gives {β : Type} (P : β → Prop) (x : Except NumberFault β) : Prop := ∀ b, x = .ok b → P b

theorem Gives.bind {β γ : Type} {P : β → Prop} {Q : γ → Prop} {x : Except NumberFault β}
    {f : β → Except NumberFault γ} (hx : Gives P x) (hf : ∀ b, P b → Gives Q (f b)) :
    Gives Q (x >>= f) := by
  intro c hc
  cases hresult : x with
  | error e =>
    rw [hresult] at hc
    cases hc
  | ok b =>
    rw [hresult] at hc
    exact hf b (hx b hresult) c hc

theorem Gives.of_exists {β : Type} {P : β → Prop} {x : Except NumberFault β}
    (h : ∃ b, x = .ok b ∧ P b) : Gives P x := by
  obtain ⟨b, rfl, hb⟩ := h
  rintro _ ⟨⟩
  exact hb

theorem Gives.mapM {β γ : Type} {P : γ → Prop} {f : β → Except NumberFault γ} {xs : List β}
    (h : ∀ x ∈ xs, Gives P (f x)) : Gives (fun ys => ∀ y ∈ ys, P y) (xs.mapM f) := by
  induction xs with
  | nil => exact Gives.of_exists ⟨[], rfl, nofun⟩
  | cons x xs ih =>
    rw [List.mapM_cons]
    refine (h x List.mem_cons_self).bind fun y hy => ?_
    refine (ih fun z hz => h z (List.mem_cons_of_mem x hz)).bind fun ys hys => ?_
    exact Gives.of_exists ⟨y :: ys, rfl, List.forall_mem_cons.mpr ⟨hy, hys⟩⟩

theorem Gives.map {β γ : Type} {P : β → Prop} {Q : γ → Prop} {x : Except NumberFault β} {f : β → γ}
    (hx : Gives P x) (hf : ∀ b, P b → Q (f b)) : Gives Q (x.map f) := by
  rintro _ hc
  cases x with
  | error e => cases hc
  | ok b =>
    cases hc
    exact hf b (hx b rfl)

theorem Gives.ok {β : Type} {P : β → Prop} {b : β} (h : P b) : Gives P (.ok b) :=
  .of_exists ⟨b, rfl, h⟩

section
variable {part : List Char} {limit : Rat}

theorem Ranges.exists_value (h : Ranges limit part) {r : Text.Reading}
    (hr : Text.readDecimal part = .ok r) : ∃ q, r.value? = some q ∧ 0 ≤ q ∧ q ≤ limit :=
  h r (by rw [hr]; rfl)

/-- A number that keeps to its limit is read as a double that does. -/
theorem readReal_between (h : Ranges limit part) (hheld : Held limit) (hlimit : limit ≤ 1024) :
    Gives (Between 0 limit) (readReal part : Except NumberFault Float) := by
  unfold readReal
  cases hread : Text.readDecimal part with
  | error e => nofun
  | ok r =>
    obtain ⟨q, hq, hlow, hhigh⟩ := h.exists_value hread
    exact Gives.ok (between_of (rounded_ofReading hq) held_zero hheld (by norm_num [hlimit])
      ⟨hlow, hhigh⟩)

theorem readChannel_channel (h : Ranges 255 part) : Gives IsChannel (readChannel Float part) := by
  refine (readReal_between h held_full (by norm_num)).bind fun x hx => ?_
  obtain ⟨q, hq, hlow, hhigh⟩ := hx
  rw [hq.truncate hlow]
  refine Gives.ok ⟨Rat.le_floor_iff.mpr hlow, ?_⟩
  have hle : (q.floor : Rat) ≤ 255 := (Rat.floor_le q).trans hhigh
  exact_mod_cast hle

theorem percent_fraction {x : Float} (h : Between 0 100 x) : Fraction (x / Scalar.ofInt 100) := by
  obtain ⟨q, hq, hlow, hhigh⟩ := h
  have hhundred : Stands (Scalar.ofInt 100) 100 := stands_ofInt (n := 100) (by decide)
  exact between_of (hq.div hhundred (by norm_num)) held_zero held_one (by norm_num)
    ⟨by positivity, by rw [div_le_one (by norm_num)]; exact hhigh⟩

theorem readAlpha_fraction (h : Fits 1 part) :
    Gives Fraction (readAlpha part : Except NumberFault Float) := by
  rw [readAlpha_eq]
  unfold Fits at h
  split_ifs at h ⊢
  · exact (readReal_between h held_hundred (by norm_num)).map fun _ => percent_fraction
  · exact readReal_between h held_one (by norm_num)

theorem ofParts_wellFormed {r g b : List Char} {rest : List (List Char)}
    (hparts : ∀ part ∈ [r, g, b], Ranges 255 part) (hrest : ∀ part ∈ rest.head?, Fits 1 part) :
    Gives WellFormed (ofParts r g b rest : Except NumberFault (Color Float)) := by
  refine (readChannel_channel (hparts r (by simp))).bind fun r' hr => ?_
  refine (readChannel_channel (hparts g (by simp))).bind fun g' hg => ?_
  refine (readChannel_channel (hparts b (by simp))).bind fun b' hb => ?_
  cases rest with
  | nil => exact Gives.ok (wellFormed_of_channels hr hg hb between_one)
  | cons a rest =>
    refine (readAlpha_fraction (hrest a rfl)).bind fun x hx => ?_
    exact Gives.ok (wellFormed_of_channels hr hg hb hx)

end

/-! ## Arguments -/

section
variable {arg : List Char} {limit : Rat}

theorem whole?_le {n : Nat} (h : Fits limit arg) (hn : whole? arg = some n) : n ≤ limit := by
  have hlast : arg.getLast? ≠ some '%' := fun hlast =>
    absurd ((whole?_eq_some hn).2.1 '%' (List.mem_of_getLast? hlast)) (by decide)
  rw [Fits, if_neg hlast] at h
  obtain ⟨q, hq, -, hle⟩ := h.exists_value (readDecimal_whole hn)
  have hvalue : (n : Rat) = q := by simpa [Text.Reading.value?] using hq
  rwa [hvalue]

theorem percent?_le {n : Nat} (h : Fits limit arg) (hn : percent? arg = some n) : n ≤ 100 := by
  obtain ⟨ds, rfl, hwhole⟩ := percent?_eq_some hn
  rw [Fits, if_pos List.getLast?_concat, List.dropLast_concat] at h
  have hfits : Fits 100 ds := by
    unfold Fits
    split_ifs with hlast
    · exact absurd ((whole?_eq_some hwhole).2.1 '%' (List.mem_of_getLast? hlast)) (by decide)
    · exact h
  exact_mod_cast whole?_le hfits hwhole

theorem fraction?_between {x : Float} (h : Fits limit arg) (hx : fraction? arg = some x) :
    Fraction x := by
  obtain ⟨ds, y, rfl, hy, rfl⟩ := fraction?_parts hx
  rw [Fits, if_pos List.getLast?_concat, List.dropLast_concat] at h
  obtain ⟨m, places, hopening, rfl⟩ := decimal?_reading hy
  refine percent_fraction (readReal_between h held_hundred (by norm_num) _ ?_)
  rw [readReal, readDecimal_of_opening hopening]
  rfl

/-- A hue is not negative, and its argument is too short to leave the range of doubles. -/
theorem decimal?_stands {x : Float} (h : decimal? arg = some x) (hlength : arg.length ≤ 95) :
    ∃ a, Stands x a ∧ 0 ≤ a ∧ a ≤ 2 ^ (316 : Int) := by
  obtain ⟨m, places, hopening, rfl⟩ := decimal?_reading h
  have hm := digits_le (Text.openingDecimal?_lt hopening) hlength
  have hten : (10 : Rat) ^ (-(places : Int)) ≤ 1 := zpow_le_one_of_nonpos₀ (by norm_num) (by omega)
  have hpos : (0 : Rat) ≤ m * 10 ^ (-(places : Int)) :=
    mul_nonneg m.cast_nonneg (zpow_pos (by norm_num) _).le
  have hle : (m : Rat) * 10 ^ (-(places : Int)) ≤ 2 ^ (316 : Int) :=
    (mul_le_of_le_one_right m.cast_nonneg hten).trans hm
  have hvalue : (Text.Reading.finite false m (-(places : Int))).value? =
      some ((m : Rat) * 10 ^ (-(places : Int))) := rfl
  obtain ⟨v, hv, hround⟩ := rounded_ofReading hvalue
    (by rw [abs_of_nonneg hpos]; exact hle.trans (two_zpow_le_reach (by decide)))
  exact ⟨v, hv, hround.ge held_zero hpos, hround.le (held_two_zpow (by decide)) hle⟩

/-- A hue with two percentages. -/
theorem hueArguments?_ranges {args : List (List Char)} {h a b : Float}
    (hargs : hueArguments? (some args) = some (h, a, b))
    (hlength : ∀ arg ∈ args, arg.length ≤ 95) (hfits : ∀ arg ∈ args.tail, Fits limit arg) :
    (∃ t, Stands h t ∧ 0 ≤ t ∧ t ≤ 2 ^ (316 : Int)) ∧ Within 310 h ∧ Fraction a ∧ Fraction b := by
  obtain ⟨hwithin, -, -⟩ := hueArguments?_within hargs fun l hl => by cases hl; exact hlength
  obtain ⟨u, v, w, x, rfl, hx, rfl, hv, hw⟩ := hueArguments?_parts hargs
  have hcircle : Stands (Scalar.ofInt 360) 360 := stands_ofInt (n := 360) (by decide)
  obtain ⟨t, ht, hpos, hhigh⟩ := decimal?_stands hx (hlength u List.mem_cons_self)
  have hle : t / 360 ≤ 2 ^ (316 : Int) := (div_le_self hpos (by norm_num)).trans hhigh
  have hpos : 0 ≤ t / 360 := by positivity
  obtain ⟨turns, hturns, hround⟩ := ht.div hcircle (by norm_num)
    (by rw [abs_of_nonneg hpos]; exact hle.trans (two_zpow_le_reach (by decide)))
  exact ⟨⟨turns, hturns, hround.ge held_zero hpos, hround.le (held_two_zpow (by decide)) hle⟩,
    hwithin, fraction?_between (hfits v (by simp)) hv, fraction?_between (hfits w (by simp)) hw⟩

end

/-! ## Strict notations -/

/-- Channels of which each is in range. -/
def Channels.Valid : Channels → Prop
  | .three r g b => IsChannel r ∧ IsChannel g ∧ IsChannel b
  | .four r g b a => IsChannel r ∧ IsChannel g ∧ IsChannel b ∧ IsChannel a

section
variable {cs : List Char} {c : Channels}

theorem ofHex?_valid (h : ofHex? cs = some c) : c.Valid := by
  have htwice : ∀ d : Nat, d < 16 → IsChannel (d * 17) := fun d hd => ⟨by omega, by omega⟩
  have hpair : ∀ d d' : Nat, d < 16 → d' < 16 → IsChannel (d * 16 + d') :=
    fun d d' hd hd' => ⟨by omega, by omega⟩
  unfold ofHex? at h
  split at h
  · next r g b hds =>
    have hlt := hexDigits?_lt hds
    simp only [List.forall_mem_cons] at hlt
    obtain ⟨hr, hg, hb, -⟩ := hlt
    cases h
    exact ⟨htwice r hr, htwice g hg, htwice b hb⟩
  · next r g b a hds =>
    have hlt := hexDigits?_lt hds
    simp only [List.forall_mem_cons] at hlt
    obtain ⟨hr, hg, hb, ha, -⟩ := hlt
    cases h
    exact ⟨htwice r hr, htwice g hg, htwice b hb, htwice a ha⟩
  · next r r' g g' b b' hds =>
    have hlt := hexDigits?_lt hds
    simp only [List.forall_mem_cons] at hlt
    obtain ⟨hr, hr', hg, hg', hb, hb', -⟩ := hlt
    cases h
    exact ⟨hpair r r' hr hr', hpair g g' hg hg', hpair b b' hb hb'⟩
  · next r r' g g' b b' a a' hds =>
    have hlt := hexDigits?_lt hds
    simp only [List.forall_mem_cons] at hlt
    obtain ⟨hr, hr', hg, hg', hb, hb', ha, ha', -⟩ := hlt
    cases h
    exact ⟨hpair r r' hr hr', hpair g g' hg hg', hpair b b' hb hb', hpair a a' ha ha'⟩
  · cases h

theorem ofName?_valid (h : ofName? cs = some c) : c.Valid := by
  have hnames : ∀ entry ∈ named, entry.2 < 16777216 := by decide +kernel
  obtain ⟨rgb, hlookup, rfl⟩ := Option.map_eq_some_iff.mp h
  obtain ⟨front, rest, hsplit, -⟩ := List.lookup_eq_some_iff.mp hlookup
  have hrgb : rgb < 16777216 := hnames (String.ofList cs, rgb) (by rw [hsplit]; simp)
  exact ⟨⟨by omega, by omega⟩, ⟨by omega, by omega⟩, ⟨by omega, by omega⟩⟩

theorem ofWholeCall?_valid (hrange : CallInRange cs) (h : ofWholeCall? cs = some c) :
    c.Valid := by
  have hwhole : ∀ {function : String} {ns : List Nat}, function ∈ ["rgb", "rgba"] →
      (arguments? function cs).bind (·.mapM whole?) = some ns → ∀ n ∈ ns, IsChannel n := by
    intro function ns hfunction hcall n hn
    obtain ⟨args, hargs, hmap⟩ := Option.bind_eq_some_iff.mp hcall
    rw [← filterMap_of_mapM hmap] at hn
    obtain ⟨arg, harg, hn⟩ := List.mem_filterMap.mp hn
    have hle := whole?_le (hrange.1 function hfunction args hargs arg harg) hn
    exact ⟨by omega, by exact_mod_cast hle⟩
  unfold ofWholeCall? at h
  split at h
  · next r g b hcall =>
    have hchannels := hwhole (by simp) hcall
    cases h
    exact ⟨hchannels r (by simp), hchannels g (by simp), hchannels b (by simp)⟩
  · next r g b a hcall _ =>
    have hchannels := hwhole (by simp) hcall
    cases h
    exact ⟨hchannels r (by simp), hchannels g (by simp), hchannels b (by simp),
      hchannels a (by simp)⟩
  · cases h

theorem ofFractions_valid {xs : List Float} (h : ∀ x ∈ xs, Nearly x) :
    Gives (fun c => ∀ d ∈ c, d.Valid) (ofFractions xs) := by
  have hmap := Gives.mapM fun x hx => Gives.of_exists (P := IsChannel) (ofFraction_channel (h x hx))
  refine hmap.bind fun ns hns => ?_
  split
  · next r g b =>
    refine Gives.ok ?_
    rintro _ ⟨⟩
    exact ⟨hns r (by simp), hns g (by simp), hns b (by simp)⟩
  · exact Gives.ok nofun

theorem ofPercents_valid {r g b : Nat} (hrange : CallInRange cs)
    (hcall : (arguments? "rgb" cs).bind (·.mapM percent?) = some [r, g, b]) :
    ∀ p ∈ [r, g, b], Gives IsChannel (ofPercent Float p) := by
  intro p hp
  obtain ⟨args, hargs, hmap⟩ := Option.bind_eq_some_iff.mp hcall
  rw [← filterMap_of_mapM hmap] at hp
  obtain ⟨arg, harg, hp⟩ := List.mem_filterMap.mp hp
  exact Gives.of_exists (ofPercent_channel
    (percent?_le (hrange.1 "rgb" (by simp) args hargs arg harg) hp))

theorem hueCall_ranges {call : Option (List (List Char))} {h a b : Float}
    (hlength : cs.length ≤ notationLimit) (hrange : CallInRange cs)
    (hcall : ∀ args, call = some args →
      ∃ function ∈ ["hsl", "hsv", "hsb"], arguments? function cs = some args)
    (hargs : hueArguments? call = some (h, a, b)) :
    (∃ t, Stands h t ∧ 0 ≤ t ∧ t ≤ 2 ^ (316 : Int)) ∧ Within 310 h ∧ Fraction a ∧ Fraction b := by
  cases call with
  | none => cases hargs
  | some args =>
    have hnames : ∀ name ∈ ["hsl", "hsv", "hsb"], 3 ≤ name.toList.length := by decide
    obtain ⟨function, hfunction, hcall⟩ := hcall args rfl
    exact hueArguments?_ranges hargs
      (length_argument_le_of_short hlength (hnames function hfunction) hcall)
      (hrange.2 function hfunction args hcall)

theorem ofComputedCall?_valid (hlength : cs.length ≤ notationLimit) (hrange : CallInRange cs) :
    Gives (fun c => ∀ d ∈ c, d.Valid) (ofComputedCall? Float cs) := by
  unfold ofComputedCall?
  split
  · next r g b hcall =>
    have hpercent := ofPercents_valid hrange hcall
    refine (hpercent r (by simp)).bind fun r' hr => ?_
    refine (hpercent g (by simp)).bind fun g' hg => ?_
    refine (hpercent b (by simp)).bind fun b' hb => ?_
    refine Gives.ok ?_
    rintro _ ⟨⟩
    exact ⟨hr, hg, hb⟩
  · split
    · next h s l hargs =>
      obtain ⟨-, hh, hs, hl⟩ :=
        hueCall_ranges hlength hrange (fun args hcall => ⟨"hsl", by simp, hcall⟩) hargs
      exact ofFractions_valid (ofLightness_between hh hs hl)
    · dsimp only
      split
      · next h s v hargs =>
        have hcall : ∀ args, (arguments? "hsv" cs).or (arguments? "hsb" cs) = some args →
            ∃ function ∈ ["hsl", "hsv", "hsb"], arguments? function cs = some args := by
          intro args hcall
          rcases Option.or_eq_some_iff.mp hcall with hcall | ⟨-, hcall⟩
          · exact ⟨"hsv", by simp, hcall⟩
          · exact ⟨"hsb", by simp, hcall⟩
        obtain ⟨⟨t, ht, hpos, hhigh⟩, -, hs, hv⟩ := hueCall_ranges hlength hrange hcall hargs
        refine (Gives.of_exists (ofBrightness_between ht hpos hhigh hs hv)).bind fun xs hxs => ?_
        exact ofFractions_valid fun x hx => (hxs x hx).mono (by norm_num) (by norm_num)
      · exact Gives.ok nofun

theorem channels?_valid (hrange : CallInRange (cs.map lower)) :
    Gives (fun c => ∀ d ∈ c, d.Valid) (channels? Float cs) := by
  unfold channels?
  split_ifs with hlong
  · exact Gives.ok nofun
  · have hlength : (cs.map lower).length ≤ notationLimit := by
      rw [List.length_map]
      omega
    dsimp only
    split
    · next d hdirect =>
      refine Gives.ok ?_
      rintro _ ⟨⟩
      split at hdirect
      · exact ofHex?_valid hdirect
      · rcases Option.or_eq_some_iff.mp hdirect with hname | ⟨-, hcall⟩
        · exact ofName?_valid hname
        · exact ofWholeCall?_valid hrange hcall
    · exact ofComputedCall?_valid hlength hrange

end

/-- An opacity out of 255. -/
theorem dividedBy_between {a : Int} (ha : IsChannel a) :
    Gives (Quantity.Between 0 1) ((Quantity.whole a : Quantity Float).dividedBy 255) := by
  have hlow : (0 : Rat) ≤ a := by exact_mod_cast ha.1
  have hhigh : (a : Rat) ≤ 255 := by exact_mod_cast ha.2
  have hshare : Fraction (ofRat (mkRat a 255)) := by
    rw [Rat.mkRat_eq_div]
    exact between_of (rounded_ofRat _) held_zero held_one (by norm_num)
      ⟨by positivity, by rw [Nat.cast_ofNat, div_le_one (by norm_num)]; exact hhigh⟩
  unfold Quantity.dividedBy
  dsimp only
  split
  · nofun
  · exact Gives.ok hshare

theorem ofChannels_wellFormed {c : Option Channels} (h : ∀ d ∈ c, d.Valid) :
    Gives WellFormed (ofChannels c : Except NumberFault (Color Float)) := by
  cases c with
  | none => exact Gives.ok transparent_wellFormed
  | some c =>
    have hc := h c rfl
    cases c with
    | three r g b => exact Gives.ok (wellFormed_of_channels hc.1 hc.2.1 hc.2.2 between_one)
    | four r g b a =>
      obtain ⟨hr, hg, hb, ha⟩ := hc
      refine (dividedBy_between ha).bind fun q hq => ?_
      exact Gives.ok (wellFormed_of_channels hr hg hb hq)

/-! ## Texts -/

theorem orTransparent_wellFormed {x : Except NumberFault (Color Float)}
    (h : Gives WellFormed x) : Gives WellFormed (orTransparent x) := by
  cases x with
  | ok c => exact h
  | error e =>
    by_cases he : e = .overflow
    · subst he
      nofun
    · rw [orTransparent_error he]
      exact Gives.ok transparent_wellFormed

theorem parseText_wellFormed {s : List Char} (h : InRange s) :
    Gives WellFormed (parseText s : Except NumberFault (Color Float)) := by
  obtain ⟨hloose, hstrict⟩ := h
  unfold channelParts? looseParts? at hloose hstrict
  unfold parseText
  dsimp only
  split_ifs
  · exact Gives.ok transparent_wellFormed
  · split
    · next r g b rest hparts =>
      rw [hparts] at hloose
      obtain ⟨hchannels, halpha⟩ := hloose (r :: g :: b :: rest) (by simp)
      refine orTransparent_wellFormed (ofParts_wellFormed hchannels ?_)
      rwa [← List.head?_drop] at halpha
    · next hparts =>
      have hnone : ((functionalBody? (Text.strip s)).map functionalParts).filter
          (3 ≤ ·.length) = none := by
        rw [Option.filter_eq_none_iff]
        rintro (_ | ⟨r, _ | ⟨g, _ | ⟨b, rest⟩⟩⟩) hsome
        · simp
        · simp
        · simp
        · exact absurd hsome (hparts r g b rest)
      refine orTransparent_wellFormed ((channels?_valid (hstrict hnone)).bind fun c hc => ?_)
      exact ofChannels_wellFormed hc

/-! ## Names -/

/-- A digit of the palette's shades, which are written in lower case. -/
def isShadeDigit (c : Char) : Bool := ('0' ≤ c && c ≤ '9') || ('a' ≤ c && c ≤ 'f')

def isShade (hex : String) : Bool :=
  match hex.toList with
  | ['#', r, r', g, g', b, b'] =>
    isShadeDigit r && isShadeDigit r' && isShadeDigit g && isShadeDigit g' && isShadeDigit b &&
      isShadeDigit b'
  | _ => false

theorem mem_of_isShadeDigit {c : Char} (h : isShadeDigit c = true) :
    c ∈ "0123456789abcdef".toList := by
  have hall : ∀ n < 128, isShadeDigit (Char.ofNat n) = true →
      Char.ofNat n ∈ "0123456789abcdef".toList := by decide
  have hlt : c.toNat < 128 := by
    simp only [isShadeDigit, Bool.or_eq_true, Bool.and_eq_true, decide_eq_true_eq] at h
    rcases h with ⟨-, hle⟩ | ⟨-, hle⟩
    · exact (show c.toNat ≤ 57 from hle).trans_lt (by decide)
    · exact (show c.toNat ≤ 102 from hle).trans_lt (by decide)
  rw [← Char.ofNat_toNat c] at h ⊢
  exact hall _ hlt h

theorem readWhole_pair {c d : Char} (hc : isShadeDigit c = true) (hd : isShadeDigit d = true) :
    ∃ n, Text.readWhole 16 [c, d] = .ok n ∧ IsChannel n := by
  have hall : ("0123456789abcdef".toList.all fun c => "0123456789abcdef".toList.all fun d =>
      (Text.readWhole 16 [c, d]).toOption.any fun n => decide (IsChannel n)) = true := by
    decide +kernel
  have hpair := List.all_eq_true.mp (List.all_eq_true.mp hall c (mem_of_isShadeDigit hc)) d
    (mem_of_isShadeDigit hd)
  cases hread : Text.readWhole 16 [c, d] with
  | error e =>
    rw [hread] at hpair
    cases hpair
  | ok n =>
    rw [hread] at hpair
    exact ⟨n, rfl, of_decide_eq_true hpair⟩

section
variable {cs : List Char} {c : Color Float}

theorem ofHexText_wellFormed {hex : String} (h : isShade hex = true)
    (hc : ofHexText hex = .ok c) : c.WellFormed := by
  unfold isShade at h
  split at h
  · next r r' g g' b b' hhex =>
    simp only [Bool.and_eq_true] at h
    obtain ⟨⟨⟨⟨⟨hr, hr'⟩, hg⟩, hg'⟩, hb⟩, hb'⟩ := h
    have hsign : (r == '#') = false := by
      rw [beq_eq_false_iff_ne]
      rintro rfl
      exact absurd hr (by decide)
    obtain ⟨x, hx, hx'⟩ := readWhole_pair hr hr'
    obtain ⟨y, hy, hy'⟩ := readWhole_pair hg hg'
    obtain ⟨z, hz, hz'⟩ := readWhole_pair hb hb'
    have hchannels : hexChannels hex.toList = .ok (x, y, z) := by
      rw [hhex, hexChannels]
      simp only [List.dropWhile_cons, BEq.rfl, if_true, hsign, Bool.false_eq_true, if_false,
        List.take_succ_cons, List.take_zero, List.drop_succ_cons, List.drop_zero, hx, hy, hz]
      rfl
    unfold ofHexText at hc
    rw [hchannels] at hc
    cases hc
    exact wellFormed_of_channels hx' hy' hz' between_one
  · cases h

theorem isShade_of_keyword {name hex : String} (h : Palette.keywords.lookup name = some hex) :
    isShade hex = true := by
  have hall : ∀ entry ∈ Palette.keywords, isShade entry.2 = true := by decide +kernel
  obtain ⟨front, rest, hsplit, -⟩ := List.lookup_eq_some_iff.mp h
  exact hall (name, hex) (by rw [hsplit]; simp)

theorem isShade_of_palette {family shade hex : String}
    (h : Palette.standard.find? family shade = some hex) : isShade hex = true := by
  have hall : (Palette.standard.all fun entry => entry.2.all fun shade => isShade shade.2) =
      true := by decide +kernel
  obtain ⟨entries, hfamily, hshade⟩ := Option.bind_eq_some_iff.mp h
  obtain ⟨front, rest, hsplit, -⟩ := List.lookup_eq_some_iff.mp hfamily
  obtain ⟨front', rest', hsplit', -⟩ := List.lookup_eq_some_iff.mp hshade
  have hentries := List.all_eq_true.mp hall (family, entries) (by rw [hsplit]; simp)
  exact List.all_eq_true.mp hentries (shade, hex) (by rw [hsplit']; simp)

/-- Without an opacity only a text in brackets may be out of range. -/
theorem resolveOpaque_wellFormed
    (h : isBracketed cs = true → InRange (withBlanks ((cs.drop 1).dropLast)))
    (hc : resolveOpaque Palette.standard cs = .ok c) : c.WellFormed := by
  unfold resolveOpaque at hc
  dsimp only at hc
  split_ifs at hc with hbrackets hnone
  · cases htext : (parseText (withBlanks ((cs.drop 1).dropLast)) : Except _ (Color Float)) with
    | error e =>
      rw [htext] at hc
      cases hc
    | ok c' =>
      rw [htext] at hc
      cases hc
      exact parseText_wellFormed (h hbrackets) c htext
  · cases hc
    exact transparent_wellFormed
  · split at hc
    · next hkeyword => exact ofHexText_wellFormed (isShade_of_keyword hkeyword) hc
    · split at hc
      · next hshade => exact ofHexText_wellFormed (isShade_of_palette hshade) hc
      · cases hc

theorem resolve_wellFormed {s : String} (h : NameInRange s.toList)
    (hc : resolve Palette.standard s = .ok c) : c.WellFormed := by
  unfold resolve at hc
  unfold NameInRange at h
  dsimp only at hc
  generalize s.toList = cs at h hc
  split_ifs at h hc with hslash
  · rw [Bool.and_eq_true, bne_iff_ne] at hslash
    cases hpercent : (readReal ((cs.dropWhile (· != '/')).drop 1) : Except _ Float) with
    | error e =>
      rw [hpercent] at hc
      cases hc
    | ok percent =>
      rw [hpercent] at hc
      cases hcolor : (resolveOpaque Palette.standard (cs.takeWhile (· != '/')) :
          Except _ (Color Float)) with
      | error e =>
        rw [hcolor] at hc
        cases hc
      | ok c' =>
        rw [hcolor] at hc
        cases hc
        have hfront := not_isBracketed_front hslash.2
        have hchannels := resolveOpaque_wellFormed (fun h => by simp [hfront] at h) hcolor
        exact ⟨hchannels.1,
          percent_fraction (readReal_between h held_hundred (by norm_num) percent hpercent)⟩
  · exact resolveOpaque_wellFormed h hc

end

end Color

namespace Token

theorem color?_wellFormed {token : List Char} {c : Color Float} (h : InRange token)
    (hc : color? token = .ok (some c)) : c.WellFormed := by
  unfold color? at hc
  split at hc
  · cases hc
  · next name hname =>
    split at hc
    · next c' hcolor =>
      cases hc
      exact Color.resolve_wellFormed (by rw [String.toList_ofList]; exact h name hname) hcolor
    · cases hc
    · cases hc

end Token

namespace Color

/-- A color that is read from a text, a name or a token is well formed where the numbers in that are
in range. -/
theorem wellFormed_of_inRange (s : String) (c : Color Float) :
    (parse (.text s) = .ok c → InRange s.toList → c.WellFormed) ∧
      (resolve Palette.standard s = .ok c → NameInRange s.toList → c.WellFormed) ∧
      (Token.color? s.toList = .ok (some c) → Token.InRange s.toList → c.WellFormed) :=
  ⟨fun hc h => parseText_wellFormed h c hc, fun hc h => resolve_wellFormed h hc,
    fun hc h => Token.color?_wellFormed h hc⟩

theorem wellFormed_of_inRange_red :
    (parse (.text "hsl(0, 100%, 50%)") = .ok (opaqueOf 255 0 0 : Color Float) ∧
        InRange "hsl(0, 100%, 50%)".toList ∧ (opaqueOf 255 0 0 : Color Float).WellFormed) ∧
      (resolve Palette.standard "[rgb(255_0_0)]" = .ok (opaqueOf 255 0 0 : Color Float) ∧
        NameInRange "[rgb(255_0_0)]".toList ∧ (opaqueOf 255 0 0 : Color Float).WellFormed) ∧
      Token.color? "bg-[#ff0000]".toList = .ok (some (opaqueOf 255 0 0 : Color Float)) ∧
        Token.InRange "bg-[#ff0000]".toList ∧ (opaqueOf 255 0 0 : Color Float).WellFormed := by
  have htext : parse (.text "hsl(0, 100%, 50%)") = .ok (opaqueOf 255 0 0 : Color Float) := by
    decide +kernel
  have hname : resolve Palette.standard "[rgb(255_0_0)]" =
      .ok (opaqueOf 255 0 0 : Color Float) := by decide +kernel
  have htoken : Token.color? "bg-[#ff0000]".toList =
      .ok (some (opaqueOf 255 0 0 : Color Float)) := by decide +kernel
  have htextRange : InRange "hsl(0, 100%, 50%)".toList := by decide +kernel
  have hnameRange : NameInRange "[rgb(255_0_0)]".toList := by decide +kernel
  have htokenRange : Token.InRange "bg-[#ff0000]".toList := by decide +kernel
  exact ⟨⟨htext, htextRange, (wellFormed_of_inRange _ _).1 htext htextRange⟩,
    ⟨hname, hnameRange, (wellFormed_of_inRange _ _).2.1 hname hnameRange⟩,
    htoken, htokenRange, (wellFormed_of_inRange _ _).2.2 htoken htokenRange⟩

/-- Numbers out of range are taken as they are, whichever way they come in. -/
theorem numbers_unbounded :
    (∃ c : Color Float, parse (.text "rgba(300,0,0,5)") = .ok c ∧
        ¬c.red.Between 0 255 ∧ ¬c.alpha.Between 0 1) ∧
      (∃ c : Color Float, parse (.text "RGB(200%,0%,0%)") = .ok c ∧ ¬c.WellFormed) ∧
      (∃ c : Color Float, parse (.text "hsl(0,100%,200%)") = .ok c ∧ ¬c.WellFormed) ∧
      (∃ c : Color Float, resolve Palette.standard "white/150" = .ok c ∧ ¬c.WellFormed) ∧
      ∃ c : Color Float, Token.color? "bg-[rgb(300,0,0)]".toList = .ok (some c) ∧
        ¬c.WellFormed := by
  refine ⟨⟨⟨.whole 300, .whole 0, .whole 0, .real 5⟩, by decide +kernel⟩,
    ⟨opaqueOf 510 0 0, by decide +kernel⟩, ⟨opaqueOf 255 765 765, by decide +kernel⟩,
    ⟨⟨.whole 255, .whole 255, .whole 255, .real 1.5⟩, by decide +kernel⟩,
    opaqueOf 300 0 0, by decide +kernel⟩

end Color
end Choreo
