import Choreo.Proofs.Number.HalfEven
import Choreo.Proofs.Number.Rational
import Choreo.Proofs.Text.Decimal
import Choreo.Token.Value
import Mathlib.Data.Fin.Basic

/-!
The text that a number is handed to a renderer with.

A decimal has one spelling from which nothing can be left out (`Text.Spelling.IsShort.unique`), and
a rational is written as that of its size, rounded to the places there are, with a sign in front
(`Decimal.canonical_eq`). Rounding may leave nothing of a negative number, and what is left then has
no sign. So texts and ten-thousandths belong together one to one (`Token.numberText_canonical`).
-/

namespace Choreo

namespace Rounding

theorem IsNearest.neg {q : Rat} {n : Int} (h : IsNearest q n) : IsNearest (-q) (-n) := by
  have habs : |-q - ((-n : Int) : Rat)| = |q - n| := by
    rw [Int.cast_neg, ← neg_sub_neg, abs_sub_comm, neg_neg, neg_neg]
  rw [IsNearest, habs]
  exact ⟨h.1, fun htie => (h.2 htie).neg⟩

/-- A rational of any sign, in units of a decimal place. -/
theorem signed_isNearest (places : Nat) (q : Rat) :
    IsNearest (q * 10 ^ places) (signed (decide (q < 0)) (units places q.abs)) := by
  by_cases hq : q < 0
  · have habs : q.abs = -q := by rw [Rat.abs, if_neg (not_le.mpr hq)]
    have hnear := (units_isNearest places (neg_nonneg.mpr hq.le)).neg
    rw [neg_mul, neg_neg] at hnear
    rw [habs, decide_eq_true hq]
    exact hnear
  · have habs : q.abs = q := if_pos (not_lt.mp hq)
    rw [habs, decide_eq_false hq]
    exact units_isNearest places (not_lt.mp hq)

end Rounding

/-- A sign in front of a reading negates what is read. -/
theorem Exact.decimal_neg (m : Nat) (e : Int) : decimal true m e = -decimal false m e := by
  unfold decimal
  simp only [if_true, Bool.false_eq_true, if_false]
  split_ifs
  · rw [Rat.neg_mkRat]
  · rw [neg_mul, Rat.neg_mkRat]

/-! ## One short spelling -/

namespace Text

theorem placesValue_bounds (ds : List (Fin 10)) : 0 ≤ placesValue ds ∧ placesValue ds < 1 := by
  induction ds with
  | nil => exact ⟨le_rfl, zero_lt_one⟩
  | cons d ds ih =>
    have hdigit : (d : Nat) ≤ 9 := by omega
    have hdigit : ((d : Nat) : Rat) ≤ 9 := by exact_mod_cast hdigit
    have hpos : (0 : Rat) ≤ (d : Nat) := Nat.cast_nonneg _
    rw [placesValue]
    constructor <;> linarith [ih.1, ih.2]

/-- Two whole numbers with a part each are the same sum when the wholes and the parts are. -/
theorem parts_eq {m n : Nat} {x y : Rat} (hx : 0 ≤ x ∧ x < 1) (hy : 0 ≤ y ∧ y < 1)
    (h : m + x = n + y) : m = n ∧ x = y := by
  have hle : (m : Rat) < n + 1 := by linarith [hx.1, hy.2]
  have hge : (n : Rat) < m + 1 := by linarith [hy.1, hx.2]
  have hle : m < n + 1 := by exact_mod_cast hle
  have hge : n < m + 1 := by exact_mod_cast hge
  obtain rfl : m = n := by omega
  exact ⟨rfl, add_left_cancel h⟩

/-- Places that are worth nothing are noughts, so none of them can be the last of short ones. -/
theorem eq_nil_of_placesValue {ds : List (Fin 10)} (hlast : ds.getLast? ≠ some 0)
    (hvalue : placesValue ds = 0) : ds = [] := by
  induction ds with
  | nil => rfl
  | cons d ds ih =>
    obtain ⟨hpos, -⟩ := placesValue_bounds ds
    have hd : (0 : Rat) ≤ (d : Nat) := Nat.cast_nonneg _
    rw [placesValue] at hvalue
    have hrest : placesValue ds = 0 := by linarith
    have hzero : ((d : Nat) : Rat) = 0 := by linarith
    obtain rfl : d = 0 := Fin.val_eq_zero_iff.mp (by exact_mod_cast hzero)
    cases ds with
    | nil => exact absurd rfl hlast
    | cons e ds =>
      rw [List.getLast?_cons_cons] at hlast
      cases ih hlast hrest

theorem getLast?_ne_of_cons {d : Fin 10} {ds : List (Fin 10)}
    (h : (d :: ds).getLast? ≠ some 0) : ds.getLast? ≠ some 0 := by
  cases ds with
  | nil => simp
  | cons e ds => rwa [List.getLast?_cons_cons] at h

theorem placesValue_inj {ds es : List (Fin 10)} (hds : ds.getLast? ≠ some 0)
    (hes : es.getLast? ≠ some 0) (h : placesValue ds = placesValue es) : ds = es := by
  induction ds generalizing es with
  | nil => exact (eq_nil_of_placesValue hes h.symm).symm
  | cons d ds ih =>
    cases es with
    | nil => exact eq_nil_of_placesValue hds h
    | cons e es =>
      rw [placesValue, placesValue, div_left_inj' (by norm_num)] at h
      obtain ⟨hdigit, hrest⟩ := parts_eq (placesValue_bounds ds) (placesValue_bounds es) h
      rw [Fin.ext hdigit, ih (getLast?_ne_of_cons hds) (getLast?_ne_of_cons hes) hrest]

/-- The digits in front of the point, from the last one on. -/
theorem reverse_eq_digits {ws : List (Fin 10)} (h : ws.length = 1 ∨ ws ≠ [] ∧ ws.head? ≠ some 0) :
    ws.reverse.map Fin.val =
      if wholeValue ws = 0 then [0] else Nat.digits 10 (wholeValue ws) := by
  by_cases hhead : ws.head? = some 0
  · obtain rfl : ws = [0] := by
      rcases h with hone | ⟨-, hne⟩
      · obtain ⟨d, rfl⟩ := List.length_eq_one_iff.mp hone
        rw [Option.some.inj hhead]
      · exact absurd hhead hne
    rfl
  · have hne : ws ≠ [] := by
      rcases h with hone | ⟨hne, -⟩
      · exact List.ne_nil_of_length_pos (hone ▸ Nat.one_pos)
      · exact hne
    have hdigits : Nat.digits 10 (wholeValue ws) = ws.reverse.map Fin.val := by
      refine Nat.digits_ofDigits 10 (by decide) _ ?_ fun hmap hlast => hhead ?_
      · rintro _ hmem
        obtain ⟨d, -, rfl⟩ := List.mem_map.mp hmem
        exact d.isLt
      · rw [List.getLast_map, List.getLast_reverse] at hlast
        rw [List.head?_eq_some_head hne, Fin.val_eq_zero_iff.mp hlast]
    have hvalue : wholeValue ws ≠ 0 := by
      intro hzero
      rw [hzero, Nat.digits_zero] at hdigits
      exact hne (List.reverse_eq_nil_iff.mp (List.map_eq_nil_iff.mp hdigits.symm))
    rw [if_neg hvalue, hdigits]

/-- A decimal has one short spelling. -/
theorem Spelling.IsShort.unique {x y : Spelling} (hx : x.IsShort) (hy : y.IsShort)
    (h : x.value = y.value) : x = y := by
  obtain ⟨ws, ps, hspelled⟩ := x
  obtain ⟨ws', ps', hspelled'⟩ := y
  obtain ⟨hwhole, hplaces⟩ := parts_eq (placesValue_bounds _) (placesValue_bounds _) h
  have hws : ws = ws' := by
    have hmap : ws.reverse.map Fin.val = ws'.reverse.map Fin.val := by
      rw [reverse_eq_digits hx.whole, reverse_eq_digits hy.whole, hwhole]
    exact List.reverse_injective (List.map_injective_iff.mpr Fin.val_injective hmap)
  have hlast {ps : Option (List (Fin 10))} (hps : ∀ ds ∈ ps, ds ≠ [] ∧ ds.getLast? ≠ some 0) :
      (ps.getD []).getLast? ≠ some 0 := by
    cases ps with
    | none => nofun
    | some ds => exact (hps ds rfl).2
  have hds := placesValue_inj (hlast hx.places) (hlast hy.places) hplaces
  have hps : ps = ps' := by
    cases ps with
    | none =>
      cases ps' with
      | none => rfl
      | some ds' => exact absurd hds.symm (hy.places ds' rfl).1
    | some ds =>
      cases ps' with
      | none => exact absurd hds (hx.places ds rfl).1
      | some ds' => exact congrArg some hds
  subst hws hps
  rfl

/-- The text of a decimal tells what it is worth. -/
theorem Spelling.value_of_text {x y : Spelling} (h : x.text = y.text) : x.value = y.value := by
  have hread := x.readDecimal_text
  rw [h, y.readDecimal_text] at hread
  rw [← x.ofReading_digits, ← y.ofReading_digits, Except.ok.inj hread]

theorem Spelling.IsShort.text_eq_nought_iff {x : Spelling} (hx : x.IsShort) :
    x.text = ['0'] ↔ x.value = 0 := by
  obtain ⟨nought, htext, hshort, hvalue⟩ :
      ∃ nought : Spelling, nought.text = ['0'] ∧ nought.IsShort ∧ nought.value = 0 :=
    ⟨⟨[0], none, by simp⟩, rfl, ⟨.inl rfl, nofun⟩, by simp [value, wholeValue, placesValue]⟩
  rw [← htext, ← hvalue]
  exact ⟨value_of_text, fun h => by rw [hx.unique hshort h]⟩

end Text

namespace Decimal
open Text

theorem dropRight_cons {c d : Char} (h : d ≠ c) (cs : List Char) :
    dropRight c (d :: cs) = d :: dropRight c cs := by
  induction cs using List.reverseRecOn with
  | nil => exact (dropRight_concat c d []).trans (if_neg h)
  | append_singleton cs e ih =>
    rw [← List.cons_append, dropRight_concat, dropRight_concat]
    split
    · exact ih
    · rfl

/-- A text with a point is trimmed behind its sign. -/
theorem trimmed_sign (negative : Bool) {cs : List Char} (h : '.' ∈ cs) :
    trimmed (sign negative cs) = sign negative (trimmed cs) := by
  have hcs : cs.contains '.' = true := by simpa using h
  have hsign : (sign negative cs).contains '.' = true := by
    cases negative
    · exact hcs
    · simp [sign, h]
  rw [trimmed, trimmed, if_pos hcs, if_pos hsign]
  cases negative
  · rfl
  · show dropRight '.' (dropRight '0' ('-' :: cs)) = '-' :: dropRight '.' (dropRight '0' cs)
    rw [dropRight_cons (by decide), dropRight_cons (by decide)]

/-- A rational is written as the short spelling of its rounded size, behind a minus if what is left
of it after rounding is negative. -/
theorem canonical_eq {places : Nat} (hp : 0 < places) {q : Rat} {n : Int}
    (hn : Rounding.IsNearest (q * 10 ^ places) n) :
    ∃ x : Spelling, canonical places (Exact.ofRat q) = sign (decide (n < 0)) x.text ∧
      x.value = n.natAbs / 10 ^ places ∧ x.IsShort ∧ x.placeCount ≤ places := by
  obtain rfl := hn.unique (Rounding.signed_isNearest places q)
  generalize hk : Rounding.units places q.abs = k
  generalize hnegative : decide (q < 0) = negative
  have hpoint : '.' ∈ placed places k := by
    obtain ⟨ws, ps, htext, -⟩ := placed_eq hp k
    rw [htext]
    simp
  obtain ⟨x, htext, hvalue, hshort, hcount⟩ := trimmed_placed hp k
  have htrimmed : trimmed (fixed places (Exact.ofRat q)) = sign negative x.text := by
    rw [Exact.ofRat, fixed, hk, hnegative, trimmed_sign negative hpoint, htext]
  have hsize : (Rounding.signed negative k).natAbs = k := by
    cases negative <;> simp [Rounding.signed]
  refine ⟨x, ?_, by rw [hvalue, hsize], hshort, hcount⟩
  have hzero : x.text = ['0'] ↔ k = 0 := by
    rw [hshort.text_eq_nought_iff, hvalue, div_eq_zero_iff, or_iff_left (by positivity),
      Nat.cast_eq_zero]
  rw [canonical, htrimmed]
  by_cases hminus : negative = true ∧ k = 0
  · obtain ⟨rfl, rfl⟩ := hminus
    rw [hzero.mpr rfl]
    rfl
  · have hne : sign negative x.text ≠ ['-', '0'] := by
      cases negative
      · intro h
        have hmem : '-' ∈ x.text := by
          rw [show x.text = ['-', '0'] from h]
          simp
        exact x.isPlain_text.not_mem (by decide) (by decide) (by decide) hmem
      · intro h
        exact hminus ⟨rfl, hzero.mp (List.cons.inj h).2⟩
    have hsign : decide (Rounding.signed negative k < 0) = negative := by
      cases negative
      · exact decide_eq_false (Int.not_lt.mpr (Int.natCast_nonneg k))
      · have hpos : 0 < k := Nat.pos_of_ne_zero fun h => hminus ⟨rfl, h⟩
        exact decide_eq_true (Int.neg_neg_of_pos (Int.natCast_pos.mpr hpos))
    rw [hsign]
    split
    · next h => exact absurd h hne
    · rfl

end Decimal

/-! ## Numbers handed to a renderer -/

namespace Token
open Rounding Text

/-- What is read of the text of a decimal with a sign. -/
theorem read_sign (x : Spelling) (negative : Bool) :
    (readDecimal (Decimal.sign negative x.text)).map Scalar.ofReading =
      .ok (if negative then -x.value else x.value) := by
  have hplus : Exact.decimal false x.digits (-(x.placeCount : Int)) = x.value :=
    x.ofReading_digits
  rw [x.readDecimal_sign, Except.map]
  cases negative
  · exact congrArg Except.ok hplus
  · exact congrArg Except.ok ((Exact.decimal_neg _ _).trans (congrArg Neg.neg hplus))

/-- The text of a number depends on its nearest ten-thousandth alone, and tells it. -/
theorem numberText_of_nearest {v : Rat} {n : Int} (hn : IsNearest (v * 10 ^ 4) n) :
    ∃ x : Spelling, (numberText v).toList = Decimal.sign (decide (n < 0)) x.text ∧
      x.value = n.natAbs / 10 ^ 4 ∧ x.IsShort ∧ x.placeCount ≤ 4 := by
  obtain ⟨x, htext, hvalue, hshort, hcount⟩ := Decimal.canonical_eq (by decide) hn
  exact ⟨x, String.toList_ofList.trans htext, hvalue, hshort, hcount⟩

theorem read_numberText {v : Rat} {n : Int} (hn : IsNearest (v * 10 ^ 4) n) :
    (readDecimal (numberText v).toList).map Scalar.ofReading = .ok ((n : Rat) / 10 ^ 4) := by
  obtain ⟨x, htext, hvalue, -, -⟩ := numberText_of_nearest hn
  rw [htext, read_sign, hvalue]
  congr 1
  by_cases hneg : n < 0
  · rw [decide_eq_true hneg, if_pos rfl, ← neg_div, ← Int.cast_natCast,
      Int.ofNat_natAbs_of_nonpos hneg.le, Int.cast_neg, neg_neg]
  · rw [decide_eq_false hneg, if_neg Bool.false_ne_true, ← Int.cast_natCast,
      Int.natAbs_of_nonneg (not_lt.mp hneg)]

theorem numberText_congr {v w : Rat} {n : Int} (hv : IsNearest (v * 10 ^ 4) n)
    (hw : IsNearest (w * 10 ^ 4) n) : numberText w = numberText v := by
  obtain ⟨x, hx, hxvalue, hxshort, -⟩ := numberText_of_nearest hv
  obtain ⟨y, hy, hyvalue, hyshort, -⟩ := numberText_of_nearest hw
  rw [← String.toList_inj, hx, hy, hxshort.unique hyshort (hxvalue.trans hyvalue.symm)]

/-- The text of a number is the short spelling of its nearest ten-thousandth, of two that are as
near the even one, with a minus in front if that is negative. It is read back as that decimal, which
has the same text, and no number that rounds to another decimal does. -/
theorem numberText_canonical (v : Rat) :
    ∃ n : Int, IsNearest (v * 10 ^ 4) n ∧
      (∃ x : Spelling, (numberText v).toList = Decimal.sign (decide (n < 0)) x.text ∧
        x.value = n.natAbs / 10 ^ 4 ∧ x.IsShort ∧ x.placeCount ≤ 4) ∧
      (readDecimal (numberText v).toList).map Scalar.ofReading = .ok ((n : Rat) / 10 ^ 4) ∧
      numberText ((n : Rat) / 10 ^ 4) = numberText v ∧
      ∀ w : Rat, numberText w = numberText v ↔ IsNearest (w * 10 ^ 4) n := by
  have hv := signed_isNearest 4 v
  generalize signed (decide (v < 0)) (units 4 v.abs) = n at hv
  refine ⟨n, hv, numberText_of_nearest hv, read_numberText hv, ?_, fun w => ⟨fun h => ?_, ?_⟩⟩
  · refine numberText_congr hv ?_
    rw [div_mul_cancel₀ _ (by norm_num)]
    exact isNearest_intCast n
  · -- What is read back tells the nearest ten-thousandth of either number.
    have hw := signed_isNearest 4 w
    have hread := read_numberText hw
    rw [h, read_numberText hv, Except.ok.injEq, div_left_inj' (by norm_num), Int.cast_inj] at hread
    rwa [← hread] at hw
  · exact numberText_congr hv

example : numberText (-1 / 100000 : Rat) = "0" := by decide +kernel

end Token
end Choreo
