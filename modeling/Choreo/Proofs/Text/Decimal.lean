import Choreo.Number.Significant
import Choreo.Proofs.Number.Units
import Choreo.Proofs.Text.Spelling
import Mathlib.Data.List.Induction

/-!
Decimal text and the number it is read as.

What is written with a number of places, and shortened then, is a spelling of the same decimal
(`Decimal.trimmed_placed`). A number that is whole in the units of its last significant digit is
written with all its digits, so it is read back as it was (`Decimal.significant_spelling`).
-/

namespace Choreo

/-! ## Spellings read -/

namespace Text

theorem ungrouped_of_not_mem {digit : Char → Bool} {cs : List Char} (h : '_' ∉ cs)
    {prev : Option Char} (hprev : prev ≠ some '_') : ungrouped digit prev cs = some cs := by
  induction cs generalizing prev with
  | nil => rw [ungrouped, if_neg hprev]
  | cons c cs ih =>
    obtain ⟨hc, hcs⟩ := not_or.mp (mt List.mem_cons.mpr h)
    have hprev' : some c ≠ some '_' := by simpa using Ne.symm hc
    have hrest := ih hcs hprev'
    rw [ungrouped, if_neg (Ne.symm hc), hrest, if_neg (by simp [hprev])]
    rfl

theorem lowered_ne_of_isDigit {c : Char} (hc : isDigit c = true) : lowered c ≠ 'n' := by
  have hupper : ¬(c.val ≥ 'A'.val ∧ c.val ≤ 'Z'.val) := by
    have h := of_isDigit (p := fun n => !(65 ≤ n && n ≤ 90)) (by decide +kernel) hc
    rw [Bool.not_eq_true', Bool.and_eq_false_iff, decide_eq_false_iff_not,
      decide_eq_false_iff_not] at h
    rintro ⟨hlow, hhigh⟩
    exact h.elim (· hlow) (· hhigh)
  have hself : lowered c = c := dif_neg hupper
  rw [hself]
  rintro rfl
  exact absurd hc (by decide)

/-- What a decimal is made of, and a percentage. -/
def IsPlain (cs : List Char) : Prop := ∀ c ∈ cs, isDigit c = true ∨ c = '.' ∨ c = '%'

section
variable {cs : List Char}

theorem IsPlain.not_mem (h : IsPlain cs) {c : Char} (hdigit : isDigit c = false)
    (hpoint : c ≠ '.') (hpercent : c ≠ '%') : c ∉ cs := by
  intro hmem
  rcases h c hmem with hc | hc | hc
  · rw [hdigit] at hc
    cases hc
  · exact hpoint hc
  · exact hpercent hc

/-- Every special word has an `n`. -/
theorem IsPlain.word_ne (h : IsPlain cs) {word : String}
    (hword : word ∈ ["inf", "infinity", "nan"]) : String.ofList (cs.map lowered) ≠ word := by
  have hn : ∀ word ∈ ["inf", "infinity", "nan"], 'n' ∈ word.toList := by simp
  rintro rfl
  have hmem := hn _ hword
  rw [String.toList_ofList] at hmem
  obtain ⟨c, hc, hlow⟩ := List.mem_map.mp hmem
  rcases h c hc with hdigit | rfl | rfl
  · exact lowered_ne_of_isDigit hdigit hlow
  · exact absurd hlow (by decide)
  · exact absurd hlow (by decide)

/-- Margins, signs and underscores are none of what is plain, so plain text with a sign in front is
read as it stands. -/
theorem IsPlain.readDecimal_sign (h : IsPlain cs) (negative : Bool) :
    readDecimal (Decimal.sign negative cs) =
      match readUnsigned? negative cs with
      | some r => .ok r
      | none => .error (.notReal (String.ofList (Decimal.sign negative cs))) := by
  have hplain : ∀ c ∈ cs, isMargin c = false := by
    intro c hc
    rcases h c hc with hdigit | rfl | rfl
    · exact isMargin_of_isDigit hdigit
    · decide
    · decide
  have hmargin : ∀ c ∈ Decimal.sign negative cs, isMargin c = false := by
    cases negative
    · exact hplain
    · exact List.forall_mem_cons.mpr ⟨by decide, hplain⟩
  have hsign : splitSign (Decimal.sign negative cs) = (negative, cs) := by
    cases negative
    · show splitSign cs = (false, cs)
      unfold splitSign
      split
      · exact absurd List.mem_cons_self (h.not_mem (by decide) (by decide) (by decide))
      · exact absurd List.mem_cons_self (h.not_mem (by decide) (by decide) (by decide))
      · rfl
    · rfl
  have hungrouped : ungrouped isDigit none cs = some cs :=
    ungrouped_of_not_mem (h.not_mem (by decide) (by decide) (by decide)) nofun
  cases hread : readUnsigned? negative cs <;>
    simp only [readDecimal, stripWhere_eq_self hmargin, hsign, hungrouped, Option.bind_some, hread]

theorem IsPlain.readDecimal_eq (h : IsPlain cs) :
    readDecimal cs =
      match readUnsigned? false cs with
      | some r => .ok r
      | none => .error (.notReal (String.ofList cs)) :=
  h.readDecimal_sign false

theorem IsPlain.readUnsigned?_eq (h : IsPlain cs) {m places : Nat} {rest : List Char}
    (hopening : openingDecimal? cs = some (m, places, rest)) {negative : Bool} :
    readUnsigned? negative cs =
      if rest = [] then some (.finite negative m (-(places : Int)))
      else
        match openingExponent? rest with
        | some (e, []) => some (.finite negative m (e - places))
        | _ => none := by
  have hinf : String.ofList (cs.map lowered) ≠ "inf" := h.word_ne (by simp)
  have hinfinity : String.ofList (cs.map lowered) ≠ "infinity" := h.word_ne (by simp)
  have hnan : String.ofList (cs.map lowered) ≠ "nan" := h.word_ne (by simp)
  simp only [readUnsigned?, if_neg (not_or.mpr ⟨hinf, hinfinity⟩), if_neg hnan, hopening]
  cases rest <;> rfl

end

theorem Spelling.isPlain_text (x : Spelling) : IsPlain x.text :=
  fun _ hc => (x.of_mem_text hc).imp_right .inl

/-- A decimal is read as it is spelled, with the sign in front of it. -/
theorem Spelling.readDecimal_sign (x : Spelling) (negative : Bool) :
    readDecimal (Decimal.sign negative x.text) =
      .ok (.finite negative x.digits (-(x.placeCount : Int))) := by
  have hplain := x.isPlain_text
  have hopening : openingDecimal? x.text = some (x.digits, x.placeCount, []) := by
    have h : openingDecimal? (x.text ++ []) = some (x.digits, x.placeCount, []) :=
      x.openingDecimal?_text nofun
    rwa [List.append_nil] at h
  rw [hplain.readDecimal_sign, hplain.readUnsigned?_eq hopening, if_pos rfl]

theorem Spelling.readDecimal_text (x : Spelling) :
    readDecimal x.text = .ok (.finite false x.digits (-(x.placeCount : Int))) :=
  x.readDecimal_sign false

/-- Nothing can be left out of a short spelling: no nought in front of other digits, none at the end
of the places, and no point that nothing follows. -/
structure Spelling.IsShort (x : Spelling) : Prop where
  whole : x.whole.length = 1 ∨ x.whole ≠ [] ∧ x.whole.head? ≠ some 0
  places : ∀ ds ∈ x.places, ds ≠ [] ∧ ds.getLast? ≠ some 0

end Text

namespace Decimal
open Text

/-! ## Digits -/

theorem digits_eq (n : Nat) :
    digits n = if n < 10 then [n.digitChar] else digits (n / 10) ++ [(n % 10).digitChar] :=
  Nat.toDigits_eq_if (by decide)

/-- A number has as many digits as it takes powers of ten to exceed it. -/
theorem digits_bounds {n : Nat} (hn : 0 < n) :
    ∃ k, (digits n).length = k + 1 ∧ 10 ^ k ≤ n ∧ n < 10 ^ (k + 1) := by
  induction n using Nat.strongRecOn with
  | _ n ih =>
    rw [digits_eq]
    split
    · next hsmall => exact ⟨0, rfl, hn, hsmall⟩
    · next hlarge =>
      obtain ⟨k, hlength, hlow, hhigh⟩ := ih (n / 10) (by omega) (by omega)
      refine ⟨k + 1, ?_, ?_, ?_⟩
      · rw [List.length_append, hlength, List.length_singleton]
      · rw [Nat.pow_succ]
        omega
      · rw [Nat.pow_succ]
        omega

theorem exists_digitText (n : Nat) :
    ∃ ds : List (Fin 10), digits n = digitText ds ∧ ds ≠ [] ∧
      numeral 10 (ds.map Fin.val) = n ∧ (0 < n → ds.head? ≠ some 0) := by
  induction n using Nat.strongRecOn with
  | _ n ih =>
    rw [digits_eq]
    split
    · next hsmall =>
      refine ⟨[⟨n, hsmall⟩], rfl, by simp, by simp [numeral], fun hn hhead => ?_⟩
      exact hn.ne' (congrArg Fin.val (Option.some.inj hhead))
    · next hlarge =>
      obtain ⟨ds, htext, hne, hvalue, hhead⟩ := ih (n / 10) (by omega)
      let last : Fin 10 := ⟨n % 10, Nat.mod_lt n (by decide)⟩
      refine ⟨ds ++ [last], ?_, by simp, ?_, fun _ => ?_⟩
      · rw [htext, digitText, digitText, List.map_append]
        rfl
      · have hlast : numeral 10 ((ds ++ [last]).map Fin.val) =
            numeral 10 (ds.map Fin.val) * 10 + n % 10 := by
          simp [numeral, last]
        rw [hlast, hvalue]
        omega
      · rw [List.head?_append_of_ne_nil _ hne]
        exact hhead (by omega)

theorem numeral_replicate_zero (k : Nat) (ds : List (Fin 10)) :
    numeral 10 ((List.replicate k 0 ++ ds).map Fin.val) = numeral 10 (ds.map Fin.val) := by
  induction k with
  | zero => rfl
  | succ k ih =>
    rw [List.replicate_succ, List.cons_append, List.map_cons, ← ih]
    rfl

/-- Digits in front of the point and behind it. Those in front are no more than needed. -/
theorem placed_eq {places : Nat} (hp : 0 < places) (n : Nat) :
    ∃ ws ps : List (Fin 10), placed places n = digitText ws ++ '.' :: digitText ps ∧
      (ws.length = 1 ∨ ws ≠ [] ∧ ws.head? ≠ some 0) ∧
      ps.length = places ∧ numeral 10 ((ws ++ ps).map Fin.val) = n := by
  obtain ⟨ds, htext, hne, hvalue, hhead⟩ := exists_digitText n
  let all := List.replicate (places + 1 - ds.length) 0 ++ ds
  have hlength : places + 1 ≤ all.length := by
    rw [List.length_append, List.length_replicate]
    omega
  have hpadded : padded (places + 1) (digits n) = digitText all := by
    rw [padded, htext, digitText, List.length_map, digitText, List.map_append, List.map_replicate]
    rfl
  refine ⟨all.take (all.length - places), all.drop (all.length - places), ?_, ?_, ?_, ?_⟩
  · rw [placed, if_neg hp.ne', hpadded]
    simp only [digitText, List.length_map, List.map_take, List.map_drop]
  · by_cases hlong : places + 1 < ds.length
    · have hall : all = ds := by
        show List.replicate (places + 1 - ds.length) 0 ++ ds = ds
        rw [Nat.sub_eq_zero_of_le hlong.le, List.replicate_zero, List.nil_append]
      have hpos : 0 < n := by
        rcases Nat.eq_zero_or_pos n with rfl | hpos
        · have hone := congrArg List.length htext
          rw [digitText, List.length_map, show (digits 0).length = 1 from rfl] at hone
          omega
        · exact hpos
      rw [hall, List.head?_take, if_neg (by omega)]
      refine .inr ⟨List.ne_nil_of_length_pos ?_, hhead hpos⟩
      rw [List.length_take]
      omega
    · refine .inl ?_
      have hshort : all.length = places + 1 := by
        rw [List.length_append, List.length_replicate]
        omega
      rw [List.length_take, hshort]
      omega
  · rw [List.length_drop]
    omega
  · rw [List.take_append_drop, numeral_replicate_zero, hvalue]

/-! ## Short spellings -/


theorem eq_zero_of_digitChar {d : Fin 10} (h : Nat.digitChar d = '0') : d = 0 := by
  revert d
  decide

theorem digitChar_ne_point (d : Fin 10) : Nat.digitChar d ≠ '.' := by
  revert d
  decide

theorem dropRight_concat (c d : Char) (cs : List Char) :
    dropRight c (cs ++ [d]) = if d = c then dropRight c cs else cs ++ [d] := by
  rw [dropRight, List.reverse_append, List.reverse_singleton, List.singleton_append,
    List.dropWhile_cons]
  by_cases h : d = c
  · subst h
    simp [dropRight]
  · simp [h]

theorem placesValue_concat_zero (ps : List (Fin 10)) :
    placesValue (ps ++ [0]) = placesValue ps := by
  induction ps with
  | nil => simp [placesValue]
  | cons d ps ih => rw [List.cons_append, placesValue, placesValue, ih]

/-- Noughts at the end of the places are worth nothing. -/
theorem dropRight_zero (ws ps : List (Fin 10)) :
    ∃ qs, dropRight '0' (digitText ws ++ '.' :: digitText ps) =
        digitText ws ++ '.' :: digitText qs ∧ placesValue qs = placesValue ps ∧
      qs.length ≤ ps.length ∧ qs.getLast? ≠ some 0 := by
  induction ps using List.reverseRecOn with
  | nil => exact ⟨[], dropRight_concat '0' '.' (digitText ws), rfl, le_rfl, nofun⟩
  | append_singleton ps d ih =>
    have hsplit : digitText ws ++ '.' :: digitText (ps ++ [d]) =
        (digitText ws ++ '.' :: digitText ps) ++ [Nat.digitChar d] := by
      simp [digitText]
    rw [hsplit, dropRight_concat]
    split
    · next hzero =>
      obtain rfl := eq_zero_of_digitChar hzero
      obtain ⟨qs, htext, hvalue, hlength, hlast⟩ := ih
      rw [List.length_append, List.length_singleton]
      exact ⟨qs, htext, hvalue.trans (placesValue_concat_zero ps).symm, by omega, hlast⟩
    · next hne =>
      refine ⟨ps ++ [d], hsplit.symm, rfl, le_rfl, fun hlast => hne ?_⟩
      rw [List.getLast?_concat] at hlast
      rw [Option.some.inj hlast]
      rfl

theorem dropRight_point (ws : List (Fin 10)) : dropRight '.' (digitText ws) = digitText ws := by
  induction ws using List.reverseRecOn with
  | nil => rfl
  | append_singleton ws d _ =>
    rw [digitText, List.map_append]
    exact (dropRight_concat ..).trans (if_neg (digitChar_ne_point d))

theorem trimmed_places {ws : List (Fin 10)} (hws : ws.length = 1 ∨ ws ≠ [] ∧ ws.head? ≠ some 0)
    (ps : List (Fin 10)) :
    ∃ x : Spelling, trimmed (digitText ws ++ '.' :: digitText ps) = x.text ∧
      x.value = wholeValue ws + placesValue ps ∧ x.IsShort ∧ x.placeCount ≤ ps.length := by
  obtain ⟨qs, htext, hvalue, hlength, hlast⟩ := dropRight_zero ws ps
  rw [trimmed, if_pos (by simp), htext, ← hvalue]
  cases qs using List.reverseRecOn with
  | nil =>
    have hne : ws ≠ [] := by
      rcases hws with hone | ⟨hne, -⟩
      · exact List.ne_nil_of_length_pos (hone ▸ Nat.one_pos)
      · exact hne
    refine ⟨⟨ws, none, by simpa using hne⟩, ?_, rfl, ⟨hws, nofun⟩, Nat.zero_le _⟩
    rw [show digitText [] = [] from rfl, dropRight_concat, if_pos rfl, dropRight_point]
    exact (List.append_nil _).symm
  | append_singleton qs d =>
    have hplaces : ∀ ds ∈ some (qs ++ [d]), ds ≠ [] ∧ ds.getLast? ≠ some 0 := by
      rintro _ ⟨⟩
      exact ⟨by simp, hlast⟩
    refine ⟨⟨ws, some (qs ++ [d]), by simp⟩, ?_, rfl, ⟨hws, hplaces⟩, hlength⟩
    have hsplit : digitText ws ++ '.' :: digitText (qs ++ [d]) =
        (digitText ws ++ '.' :: digitText qs) ++ [Nat.digitChar d] := by
      simp [digitText]
    rw [hsplit, dropRight_concat, if_neg (digitChar_ne_point d), ← hsplit]
    rfl

/-- A number that is written with places is worth what it was when it is shortened. -/
theorem trimmed_placed {places : Nat} (hp : 0 < places) (n : Nat) :
    ∃ x : Spelling, trimmed (placed places n) = x.text ∧ x.value = n / 10 ^ places ∧
      x.IsShort ∧ x.placeCount ≤ places := by
  obtain ⟨ws, ps, htext, hws, hlength, hdigits⟩ := placed_eq hp n
  obtain ⟨x, hx, hvalue, hshort, hcount⟩ := trimmed_places hws ps
  refine ⟨x, htext ▸ hx, ?_, hshort, hlength ▸ hcount⟩
  rw [hvalue, ← hdigits, ← hlength, numeral_append, numeral_eq_wholeValue]

/-! ## Significant digits -/

theorem leadingExponent_spec {num den : Nat} (hnum : 0 < num) (hden : 0 < den) :
    (10 : Rat) ^ leadingExponent num den ≤ num / den ∧
      (num : Rat) / den < (10 : Rat) ^ (leadingExponent num den + 1) := by
  have hbounds : ∀ {n : Nat}, 0 < n →
      ((10 : Nat) : Rat) ^ (((digits n).length - 1 : Nat) : Int) ≤ n ∧
        (n : Rat) < ((10 : Nat) : Rat) ^ ((((digits n).length - 1 : Nat) : Int) + 1) := by
    intro n hn
    obtain ⟨k, hlength, hlow, hhigh⟩ := digits_bounds hn
    rw [hlength, Nat.add_sub_cancel, ← Nat.cast_succ, zpow_natCast, zpow_natCast]
    exact ⟨by exact_mod_cast hlow, by exact_mod_cast hhigh⟩
  have h := Rounding.leading_spec (by decide) hden (hbounds hnum) (hbounds hden)
  obtain ⟨k, hk, -⟩ := digits_bounds hnum
  obtain ⟨l, hl, -⟩ := digits_bounds hden
  simp only [hk, hl, Nat.add_sub_cancel, Nat.cast_ofNat] at h
  simpa only [leadingExponent, reaches, hk, hl, decide_eq_true_eq, Nat.cast_succ,
    add_sub_add_right_eq_sub] using h

/-- A positive number below a hundred thousand that is whole in the units of its sixth digit is
written as it is. -/
theorem significant_of_whole {q : Rat} (hq : 0 < q) {k : Nat} {e : Int}
    (he : e = leadingExponent q.num.natAbs q.den) (hlow : -4 ≤ e) (hhigh : e ≤ 4)
    (hk : (k : Rat) = q / (10 : Rat) ^ (e - 5)) :
    ∃ x : Spelling, significant (.finite false q) = x.text ∧ x.value = q := by
  have hnum : 0 < q.num.natAbs := Int.natAbs_pos.mpr (Rat.num_pos.mpr hq).ne'
  have hquotient : (q.num.natAbs : Rat) / q.den = q := by
    rw [← Int.cast_natCast, Int.natAbs_of_nonneg (Rat.num_pos.mpr hq).le, Rat.num_div_den]
  have hlead := (leadingExponent_spec hnum q.den_pos).2
  rw [hquotient, ← he] at hlead
  have hunit : (0 : Rat) < (10 : Rat) ^ (e - 5) := zpow_pos (by norm_num) _
  have hunits : unitsAt q.num.natAbs q.den (e - 5) = k := by
    have hinUnits := Rounding.inUnits (show 0 < 10 by decide) q.num.natAbs q.den (e - 5)
    rw [hquotient, Nat.cast_ofNat, ← hk] at hinUnits
    exact Rounding.halfEvenDiv_of_whole (Rounding.unitDen_pos (by decide) q.den_pos _) hinUnits
  -- Nothing is carried to a seventh digit, as the number is below the next power of ten.
  have hbelow : k ≠ Nat.pow 10 6 := by
    have hlt : (k : Rat) < 10 ^ 6 := by
      have hexponent : ((6 : Nat) : Int) + (e - 5) = e + 1 := by omega
      rw [hk, div_lt_iff₀ hunit, ← zpow_natCast, ← zpow_add₀ (by norm_num), hexponent]
      exact hlead
    have hlt : k < 10 ^ 6 := by exact_mod_cast hlt
    exact hlt.ne
  have hplaces : ((5 - e).toNat : Int) = 5 - e := Int.toNat_of_nonneg (by omega)
  obtain ⟨x, htext, hvalue, -⟩ := trimmed_placed (show 0 < (5 - e).toNat by omega) k
  refine ⟨x, ?_, ?_⟩
  · have hdigits : leadingDigits 6 q.num.natAbs q.den = (k, e) := by
      simp only [leadingDigits, ← he]
      rw [show e - ((6 - 1 : Nat) : Int) = e - 5 from rfl, hunits, if_neg hbelow]
    rw [significant, if_neg (Rat.num_pos.mpr hq).ne', hdigits]
    simp only
    rw [if_pos ⟨hlow, by omega⟩]
    exact htext
  · rw [hvalue, hk, ← zpow_natCast, hplaces, div_div, ← zpow_add₀ (by norm_num)]
    simp

/-- A share of one in units of four places is written as it is. -/
theorem significant_spelling {n : Nat} (hn : n ≤ 10 ^ 4) :
    ∃ x : Spelling, significant (.finite false (mkRat n (Nat.pow 10 4))) = x.text ∧
      x.value = n / 10 ^ 4 := by
  have hq : mkRat n (Nat.pow 10 4) = (n : Rat) / 10 ^ 4 := by
    rw [Rat.mkRat_eq_div]
    norm_num
  rw [hq]
  rcases Nat.eq_zero_or_pos n with rfl | hpos
  · refine ⟨⟨[0], none, by simp⟩, ?_, by simp [Spelling.value, wholeValue, placesValue]⟩
    simp [significant, sign, Spelling.text, digitText]
  · generalize hvalue : (n : Rat) / 10 ^ 4 = q
    have hlimit : (n : Rat) ≤ 10 ^ 4 := by exact_mod_cast hn
    have hq : 0 < q := by
      rw [← hvalue]
      positivity
    have hlead := leadingExponent_spec (Int.natAbs_pos.mpr (Rat.num_pos.mpr hq).ne') q.den_pos
    rw [← Int.cast_natCast, Int.natAbs_of_nonneg (Rat.num_pos.mpr hq).le, Rat.num_div_den] at hlead
    generalize he : leadingExponent q.num.natAbs q.den = e at hlead
    have hlow : -4 ≤ e := by
      have hle : (10 : Rat) ^ (-4 : Int) ≤ q := by
        rw [← hvalue, le_div_iff₀ (by norm_num)]
        norm_num
        exact_mod_cast hpos
      have hlt := (zpow_lt_zpow_iff_right₀ (by norm_num)).mp (hle.trans_lt hlead.2)
      omega
    have hhigh : e ≤ 0 := by
      have hle : q ≤ (10 : Rat) ^ (0 : Int) := by
        rw [← hvalue, div_le_iff₀ (by norm_num), zpow_zero, one_mul]
        exact hlimit
      exact (zpow_le_zpow_iff_right₀ (by norm_num)).mp (hlead.1.trans hle)
    refine significant_of_whole hq he.symm hlow (by omega) (k := n * 10 ^ (1 - e).toNat) ?_
    have hexponent : ((1 - e).toNat : Int) = 1 - e := Int.toNat_of_nonneg (by omega)
    rw [← hvalue]
    push_cast
    rw [← zpow_natCast, hexponent, div_div, div_eq_mul_inv, ← zpow_natCast,
      ← zpow_add₀ (by norm_num), ← zpow_neg]
    congr 2
    push_cast
    ring

end Decimal
end Choreo
