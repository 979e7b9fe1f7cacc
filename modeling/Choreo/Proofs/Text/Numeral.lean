import Choreo.Text.Numeral
import Mathlib.Algebra.Group.Nat.Defs
import Mathlib.Data.List.Basic
import Mathlib.Data.List.TakeWhile
import Mathlib.Tactic.SplitIfs

/-!
Numerals that are digits throughout.

Digits of any script are neither blanks nor signs, so a text of nothing else is read as the number
it spells, unless it is too long (`readWhole_digits`). A number is bounded by its digits
(`numeral_digits_lt`, `openingDecimal?_lt`).
-/

namespace Choreo
namespace Text

theorem exists_of_digit? {c : Char} {d : Nat} (h : digit? c = some d) :
    ∃ z ∈ noughts, c.toNat = z + d ∧ d < 10 := by
  rw [digit?, Option.map_eq_some_iff] at h
  obtain ⟨z, hz, rfl⟩ := h
  have hrange := List.find?_some hz
  rw [Bool.and_eq_true, decide_eq_true_iff, decide_eq_true_iff] at hrange
  exact ⟨z, List.mem_of_find?_eq_some hz, by omega, by omega⟩

/-- What holds of the ten numbers from each nought on holds of the digits. -/
theorem of_isDigit {p : Nat → Bool} (h : ∀ z ∈ noughts, ∀ d < 10, p (z + d) = true) {c : Char}
    (hc : isDigit c = true) : p c.toNat = true := by
  obtain ⟨d, hd⟩ := Option.isSome_iff_exists.mp hc
  obtain ⟨z, hz, heq, hlt⟩ := exists_of_digit? hd
  rw [heq]
  exact h z hz d hlt

theorem isBlank_of_isDigit {c : Char} (hc : isDigit c = true) : isBlank c = false := by
  have h := of_isDigit (p := fun n => !inRanges blankRanges n) (by decide +kernel) hc
  rwa [Bool.not_eq_true'] at h

theorem isMargin_of_isDigit {c : Char} (hc : isDigit c = true) : isMargin c = false := by
  rw [isMargin, isBlank_of_isDigit hc, Bool.false_and]

theorem decimal_of_isDigit {c : Char} (hc : isDigit c = true) :
    (hexDigit? c).filter (· < 10) = digit? c := by
  obtain ⟨d, hd⟩ := Option.isSome_iff_exists.mp hc
  obtain ⟨z, -, -, hlt⟩ := exists_of_digit? hd
  rw [hexDigit?, hd]
  exact Option.filter_eq_some_iff.mpr ⟨rfl, decide_eq_true hlt⟩

theorem hexDigit?_lt {c : Char} {d : Nat} (h : hexDigit? c = some d) : d < 16 := by
  unfold hexDigit? at h
  split at h
  · next d' hd =>
    obtain ⟨z, -, -, hlt⟩ := exists_of_digit? hd
    cases h
    omega
  · split_ifs at h with hsmall hlarge
    · have hc : c.toNat ≤ 102 := hsmall.2
      have ha : 'a'.toNat = 97 := rfl
      cases h
      omega
    · have hc : c.toNat ≤ 70 := hlarge.2
      have ha : 'A'.toNat = 65 := rfl
      cases h
      omega

/-- Every digit of a base makes a number longer by one place at most. -/
theorem foldl_numeral_lt {base : Nat} {ds : List Nat} (h : ∀ d ∈ ds, d < base) (n : Nat) :
    ds.foldl (fun n d => n * base + d) n < (n + 1) * base ^ ds.length := by
  induction ds generalizing n with
  | nil => simp
  | cons d ds ih =>
    have hd := h d List.mem_cons_self
    calc (d :: ds).foldl (fun n d => n * base + d) n
        = ds.foldl (fun n d => n * base + d) (n * base + d) := rfl
      _ < (n * base + d + 1) * base ^ ds.length :=
        ih (fun e he => h e (List.mem_cons_of_mem d he)) _
      _ ≤ (n + 1) * base * base ^ ds.length := by
        refine Nat.mul_le_mul_right _ ?_
        rw [Nat.add_mul]
        omega
      _ = (n + 1) * base ^ (d :: ds).length := by
        rw [List.length_cons, Nat.pow_succ, Nat.mul_assoc, Nat.mul_comm base]

/-- A decimal numeral is smaller than a power of ten with as many noughts as it has digits. -/
theorem numeral_digits_lt (ds : List Char) :
    numeral 10 (ds.filterMap digit?) < 10 ^ ds.length := by
  have hvalues : ∀ d ∈ ds.filterMap digit?, d < 10 := by
    intro d hd
    obtain ⟨c, -, hc⟩ := List.mem_filterMap.mp hd
    obtain ⟨z, -, -, hlt⟩ := exists_of_digit? hc
    exact hlt
  have hlength : (ds.filterMap digit?).length ≤ ds.length := List.length_filterMap_le _ _
  calc numeral 10 (ds.filterMap digit?)
      < (0 + 1) * 10 ^ (ds.filterMap digit?).length := foldl_numeral_lt hvalues 0
    _ ≤ 10 ^ ds.length := by
      rw [Nat.zero_add, Nat.one_mul]
      exact Nat.pow_le_pow_right (by decide) hlength

/-- So is the number a decimal opens with, its places counted as digits. -/
theorem openingDecimal?_lt {cs rest : List Char} {m places : Nat}
    (h : openingDecimal? cs = some (m, places, rest)) : m < 10 ^ cs.length := by
  have hsplit := congrArg List.length (List.takeWhile_append_dropWhile (p := isDigit) (l := cs))
  rw [List.length_append] at hsplit
  have hbound : ∀ after : List Char, after.length ≤ (cs.dropWhile isDigit).length →
      numeral 10 ((cs.takeWhile isDigit ++ after).filterMap digit?) < 10 ^ cs.length := by
    intro after hle
    refine (numeral_digits_lt _).trans_le (Nat.pow_le_pow_right (by decide) ?_)
    rw [List.length_append]
    omega
  unfold openingDecimal? at h
  dsimp only at h
  generalize cs.dropWhile isDigit = tail at h hbound
  split at h
  · next r =>
    split_ifs at h
    cases h
    exact hbound _ ((List.takeWhile_sublist isDigit).length_le.trans (Nat.le_succ _))
  · split_ifs at h
    cases h
    exact hbound _ (Nat.zero_le _)

section
variable {ds : List Char}

theorem stripWhere_eq_self {p : Char → Bool} (h : ∀ c ∈ ds, p c = false) :
    stripWhere p ds = ds := by
  have hdrop : ∀ {cs : List Char}, (∀ c ∈ cs, p c = false) → cs.dropWhile p = cs := by
    intro cs hcs
    cases cs with
    | nil => rfl
    | cons c cs =>
      rw [List.dropWhile_cons_of_neg]
      rw [hcs c List.mem_cons_self]
      exact Bool.false_ne_true
  rw [stripWhere, hdrop h, hdrop fun c hc => h c (List.mem_reverse.mp hc), List.reverse_reverse]

theorem splitSign_digits (h : ∀ c ∈ ds, isDigit c = true) : splitSign ds = (false, ds) := by
  unfold splitSign
  split
  · exact absurd (h '-' List.mem_cons_self) (by decide)
  · exact absurd (h '+' List.mem_cons_self) (by decide)
  · rfl

theorem dropMarker_decimal (cs : List Char) : dropMarker 10 cs = cs := by
  unfold dropMarker
  split
  · rfl
  · rfl

theorem ungrouped_digits {p : Char → Bool} (hdash : p '_' = false) {prev : Option Char}
    (hprev : prev ≠ some '_') (h : ∀ c ∈ ds, p c = true) : ungrouped p prev ds = some ds := by
  induction ds generalizing prev with
  | nil => rw [ungrouped, if_neg hprev]
  | cons c ds ih =>
    have hc : c ≠ '_' := by
      rintro rfl
      rw [h '_' List.mem_cons_self] at hdash
      cases hdash
    have hsome : some c ≠ some '_' := by simpa using hc
    have hrest := ih hsome fun d hd => h d (List.mem_cons_of_mem c hd)
    rw [ungrouped, if_neg hc, hrest, if_neg]
    · rfl
    · simp [hprev]

/-- A text of digits is read as the number it spells, unless it is too long. -/
theorem readWhole_digits (hne : ds ≠ []) (h : ∀ c ∈ ds, isDigit c = true) :
    readWhole 10 ds =
      if NumberFault.digitLimit < ds.length then .error (.tooManyDigits ds.length)
      else .ok (numeral 10 (ds.filterMap digit?) : Nat) := by
  have hvalue : ∀ c ∈ ds, ((hexDigit? c).filter (· < 10)).isSome = true := by
    intro c hc
    rw [decimal_of_isDigit (h c hc)]
    exact h c hc
  have hpart : ∀ c ∈ ds, (((hexDigit? c).filter (· < 10)).isSome || c == '_') = true := by
    intro c hc
    rw [hvalue c hc, Bool.true_or]
  have hstrip := stripWhere_eq_self fun c hc => isMargin_of_isDigit (h c hc)
  have hdash : ((hexDigit? '_').filter (· < 10)).isSome = false := by decide
  have hrun := List.takeWhile_eq_self_iff.mpr hpart
  have hrest := List.dropWhile_eq_nil_iff.mpr hpart
  have hnone : none ≠ some '_' := nofun
  have hungrouped := ungrouped_digits hdash hnone hvalue
  have hmap : ds.filterMap (fun c => (hexDigit? c).filter (· < 10)) = ds.filterMap digit? :=
    List.filterMap_congr fun c hc => decimal_of_isDigit (h c hc)
  have hempty : ds.isEmpty = false := List.isEmpty_eq_false_iff.mpr hne
  unfold readWhole
  simp only [hstrip, splitSign_digits h, dropMarker_decimal, hrun, hrest, hungrouped, hmap, hempty]
  by_cases hlong : NumberFault.digitLimit < ds.length
  · rw [if_pos ⟨trivial, hlong⟩, if_pos hlong]
  · rw [if_neg fun hboth => hlong hboth.2, if_neg hlong, if_neg (by simp)]
    rfl

end

end Text
end Choreo
