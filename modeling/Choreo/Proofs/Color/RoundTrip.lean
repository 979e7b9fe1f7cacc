import Choreo.Proofs.Color.Functional
import Choreo.Proofs.Number.HalfEven
import Choreo.Proofs.Number.Rational

/-!
Colors written and read again.

A color is written with its channels held to their range and rounded, and its opacity to four
places. In exact arithmetic the text is read as that very color, and written as the same text again
(`Color.css_round_trip`).
-/

namespace Choreo

/-- What a quantity is worth. -/
def Quantity.worth : Quantity Rat → Rat
  | .whole n => n
  | .real x => x

namespace Color
open Rounding Text

/-! ## Writing -/

/-- A number held between nought and a limit. -/
def clamp (limit x : Rat) : Rat := min (max x 0) limit

theorem clamp_nonneg {limit : Rat} (hlimit : 0 ≤ limit) (x : Rat) : 0 ≤ clamp limit x :=
  le_min (le_max_right x 0) hlimit

theorem clamp_le (limit x : Rat) : clamp limit x ≤ limit := min_le_right _ _

theorem clamp_of_mem {limit x : Rat} (hnonneg : 0 ≤ x) (hle : x ≤ limit) : clamp limit x = x := by
  rw [clamp, max_eq_left hnonneg, min_eq_left hle]

theorem worth_limited (limit : Int) (q : Quantity Rat) :
    (limited limit q).worth = clamp limit q.worth := by
  cases q with
  | whole n =>
    show ((min (max n 0) limit : Int) : Rat) = min (max (n : Rat) 0) limit
    push_cast
    rfl
  | real x =>
    show Scalar.smaller (Scalar.larger x Scalar.zero) (Scalar.ofInt limit) = _
    rw [Scalar.smaller_rat, Scalar.larger_rat]
    rfl

/-- What a quantity is worth decides how it is rounded. -/
theorem exact_eq_worth (q : Quantity Rat) : q.exact = Exact.ofRat q.worth := by
  cases q <;> rfl

theorem exact_of_nonneg {x : Rat} (hx : 0 ≤ x) : Exact.ofRat x = .finite false x := by
  rw [Exact.ofRat, decide_eq_false (not_lt.mpr hx), Rat.abs, if_pos hx]

theorem channel_spec (q : Quantity Rat) :
    ∃ n : Nat, channel q = .ok (n : Int) ∧ IsNearest (clamp 255 q.worth) n ∧ n ≤ 255 := by
  have hworth := worth_limited 255 q
  have hnonneg : 0 ≤ clamp 255 q.worth := clamp_nonneg (by norm_num) q.worth
  have hle : clamp 255 q.worth ≤ (255 : Nat) := by exact_mod_cast clamp_le 255 q.worth
  rw [Int.cast_ofNat] at hworth
  unfold channel
  cases hq : limited 255 q with
  | whole m =>
    have hm : (m : Rat) = clamp 255 q.worth := by rw [← hworth, hq]; rfl
    obtain ⟨n, rfl⟩ := Int.eq_ofNat_of_zero_le (Int.cast_nonneg_iff.mp (hm ▸ hnonneg))
    have hnearest : IsNearest (clamp 255 q.worth) n := hm ▸ isNearest_intCast n
    exact ⟨n, rfl, hnearest, hnearest.le_of_le hle⟩
  | real x =>
    have hx : x = clamp 255 q.worth := by rw [← hworth, hq]; rfl
    have hexact : Scalar.exact (clamp 255 q.worth) = .finite false (clamp 255 q.worth) :=
      exact_of_nonneg hnonneg
    have hnearest := units_isNearest 0 (hx ▸ hnonneg)
    rw [pow_zero, mul_one, hx] at hnearest
    refine ⟨units 0 (clamp 255 q.worth), ?_, hnearest, hnearest.le_of_le hle⟩
    show Scalar.round x = _
    unfold Scalar.round
    rw [hx, hexact]
    rfl

theorem opacity_spec (q : Quantity Rat) :
    ∃ n : Nat, opacity q = Decimal.significant (.finite false (mkRat n (Nat.pow 10 4))) ∧
      IsNearest (10 ^ 4 * clamp 1 q.worth) n ∧ n ≤ 10 ^ 4 := by
  have hworth := worth_limited 1 q
  have hnonneg : 0 ≤ clamp 1 q.worth := clamp_nonneg (by norm_num) q.worth
  have hle : 10 ^ 4 * clamp 1 q.worth ≤ (10 ^ 4 : Nat) := by
    have hle := clamp_le 1 q.worth
    push_cast
    linarith
  have hnearest := units_isNearest 4 hnonneg
  rw [mul_comm] at hnearest
  refine ⟨units 4 (clamp 1 q.worth), ?_, hnearest, hnearest.le_of_le hle⟩
  rw [opacity, exact_eq_worth, hworth, Int.cast_one, exact_of_nonneg hnonneg]
  rfl

/-! ## Reading -/

theorem exists_spelling (n : Nat) :
    ∃ x : Spelling, Decimal.digits n = x.text ∧ x.value = n := by
  obtain ⟨ds, htext, hne, hvalue, -⟩ := Decimal.exists_digitText n
  refine ⟨⟨ds, none, by simpa using hne⟩, htext.trans (List.append_nil _).symm, ?_⟩
  rw [Spelling.value, ← numeral_eq_wholeValue, hvalue]
  exact add_zero _

theorem readReal_text (x : Spelling) :
    (readReal x.text : Except NumberFault Rat) = .ok x.value := by
  rw [readReal, x.readDecimal_text, ← x.ofReading_digits]
  rfl

theorem readChannel_text {x : Spelling} {n : Nat} (hx : x.value = n) :
    readChannel Rat x.text = .ok (n : Int) := by
  rw [readChannel, readReal_text, hx]
  exact Scalar.truncate_rat n

theorem readAlpha_text (x : Spelling) :
    (readAlpha x.text : Except NumberFault Rat) = .ok x.value := by
  unfold readAlpha
  split
  · next ds hreverse =>
    have hmem : '%' ∈ x.text := by
      rw [← List.mem_reverse, hreverse]
      exact List.mem_cons_self
    rcases x.of_mem_text hmem with h | h
    · exact absurd h (by decide)
    · exact absurd h (by decide)
  · exact readReal_text x

/-- Four decimals as they are written between the parentheses. -/
def written (r g b a : List Char) : List Char :=
  r ++ ',' :: ' ' :: (g ++ ',' :: ' ' :: (b ++ ',' :: ' ' :: a))

theorem functionalParts_written (r g b a : Spelling) :
    functionalParts (written r.text g.text b.text a.text) = [r.text, g.text, b.text, a.text] := by
  have hblank : ∀ c ∈ [' '], isSeparator c = true := by
    intro c hc
    obtain rfl := List.mem_singleton.mp hc
    rfl
  have htext : ∀ x : Spelling, pieces isSeparator x.text = [x.text] :=
    fun x => pieces_word (isSeparator_of_isPlain x.isPlain_text) x.text_ne_nil
  have hnext : ∀ (x : Spelling) (rest : List Char),
      pieces isSeparator (x.text ++ ',' :: ' ' :: rest) = x.text :: pieces isSeparator rest := by
    intro x rest
    rw [pieces_append rfl, htext, ← List.singleton_append (x := ' '), pieces_append_left hblank]
    rfl
  rw [functionalParts_eq, written, hnext, hnext, hnext, htext]

theorem parseText_written {r g b a : Spelling} {m n k : Nat} (hr : r.value = m) (hg : g.value = n)
    (hb : b.value = k) :
    parseText ("rgba(".toList ++ written r.text g.text b.text a.text ++ [')']) =
      .ok ⟨.whole m, .whole n, .whole k, .real a.value⟩ := by
  have hclose : ')' ∉ written r.text g.text b.text a.text := by
    have hnot : ∀ x : Spelling, ')' ∉ x.text :=
      fun x => x.isPlain_text.not_mem (by decide) (by decide) (by decide)
    simp [written, hnot]
  rw [parseText_call (by simp [loosePrefixes]) hclose (functionalParts_written r g b a)]
  simp only [ofParts, readChannel_text hr, readChannel_text hg, readChannel_text hb,
    readAlpha_text]
  rfl

/-! ## Both -/

/-- The text of a color whose channels and opacity are rounded. -/
theorem css_eq {c : Color Rat} {r g b : Nat} (hr : channel c.red = .ok (r : Int))
    (hg : channel c.green = .ok (g : Int)) (hb : channel c.blue = .ok (b : Int)) :
    css c = .ok (String.ofList ("rgba(".toList ++ written (Decimal.digits r) (Decimal.digits g)
      (Decimal.digits b) (opacity c.alpha) ++ [')'])) := by
  have hdigits : ∀ n : Nat, (n : Int).repr.toList = Decimal.digits n := by
    intro n
    exact String.toList_ofList
  unfold css
  rw [hr, hg, hb]
  refine congrArg Except.ok (String.toList_inj.mp ?_)
  simp [written, hdigits]

/-- The color of whole channels and an opacity in units of four places. -/
def rounded (r g b a : Nat) : Color Rat := ⟨.whole r, .whole g, .whole b, .real (a / 10 ^ 4)⟩

theorem css_rounded {r g b a : Nat} (hr : r ≤ 255) (hg : g ≤ 255) (hb : b ≤ 255)
    (ha : a ≤ 10 ^ 4) :
    css (rounded r g b a) = .ok (String.ofList ("rgba(".toList ++ written (Decimal.digits r)
      (Decimal.digits g) (Decimal.digits b)
      (Decimal.significant (.finite false (mkRat a (Nat.pow 10 4)))) ++ [')'])) := by
  have hwhole : ∀ {n : Nat}, n ≤ 255 → channel (.whole n : Quantity Rat) = .ok (n : Int) := by
    intro n hn
    show Except.ok (min (max (n : Int) 0) 255) = _
    rw [max_eq_left (by omega), min_eq_left (by omega)]
  obtain ⟨n, htext, hnearest, -⟩ := opacity_spec (.real (a / 10 ^ 4))
  have hworth : 10 ^ 4 * clamp 1 (Quantity.real (a / 10 ^ 4 : Rat)).worth = (a : Int) := by
    have hle : (a : Rat) / 10 ^ 4 ≤ 1 := by
      rw [div_le_one (by norm_num)]
      exact_mod_cast ha
    rw [Quantity.worth, clamp_of_mem (by positivity) hle]
    push_cast
    ring
  rw [hworth] at hnearest
  obtain rfl : n = a := by exact_mod_cast hnearest.unique (isNearest_intCast a)
  rw [css_eq (hwhole hr) (hwhole hg) (hwhole hb), ← htext]
  rfl

/-- A color is read from its text with its channels and its opacity held to their ranges and
rounded, a half going to the even neighbour, and that color has the same text again. -/
theorem css_round_trip (c : Color Rat) :
    ∃ (s : String) (r g b a : Nat), css c = .ok s ∧
      IsNearest (clamp 255 c.red.worth) r ∧ IsNearest (clamp 255 c.green.worth) g ∧
      IsNearest (clamp 255 c.blue.worth) b ∧ IsNearest (10 ^ 4 * clamp 1 c.alpha.worth) a ∧
      parse (.text s) = .ok (rounded r g b a) ∧ css (rounded r g b a) = .ok s := by
  obtain ⟨r, hr, hred, hrle⟩ := channel_spec c.red
  obtain ⟨g, hg, hgreen, hgle⟩ := channel_spec c.green
  obtain ⟨b, hb, hblue, hble⟩ := channel_spec c.blue
  obtain ⟨a, ha, halpha, hale⟩ := opacity_spec c.alpha
  obtain ⟨x, hx, hxr⟩ := exists_spelling r
  obtain ⟨y, hy, hyg⟩ := exists_spelling g
  obtain ⟨z, hz, hzb⟩ := exists_spelling b
  obtain ⟨w, hw, hwa⟩ := Decimal.significant_spelling hale
  have htext := css_rounded hrle hgle hble hale
  refine ⟨_, r, g, b, a, (css_eq hr hg hb).trans (by rw [ha]), hred, hgreen, hblue, halpha, ?_,
    htext⟩
  have hread := parseText_written hxr hyg hzb (a := w)
  rw [hwa, ← hx, ← hy, ← hz, ← hw] at hread
  rw [parse, String.toList_ofList]
  exact hread

example : css (⟨.real (5 / 2), .whole 300, .real (-1), .real (1 / 3)⟩ : Color Rat) =
    .ok "rgba(2, 255, 0, 0.3333)" := by
  decide +kernel

end Color
end Choreo
