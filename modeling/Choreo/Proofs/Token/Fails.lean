import Choreo.Proofs.Number.Nearest
import Choreo.Proofs.Text.Numeral
import Choreo.Token.Value

/-!
Tokens that fail.

Most tokens carry a number, if only nought. A token fails for the digits it ends with: they are too
many to be read, or they spell a number beyond the largest double (`fails_iff`).
-/

namespace Choreo
namespace Token

/-! ## The parts of a token -/

/-- The digits a token ends with, behind a hyphen and perhaps before a line end. -/
structure EndsIn (token ds : List Char) : Prop where
  behind : ∃ front, dropLineEnd (withoutMinus token) = front ++ '-' :: ds
  nonempty : ds ≠ []
  digits : ∀ c ∈ ds, Text.isDigit c = true

theorem scaledDigits?_eq_some {token ds : List Char} :
    scaledDigits? (withoutMinus token) = some ds ↔ EndsIn token ds := by
  have hdash : ¬Text.isDigit '-' = true := by decide
  unfold scaledDigits?
  dsimp only
  generalize hcs : (dropLineEnd (withoutMinus token)).reverse = cs
  have hcs : dropLineEnd (withoutMinus token) = cs.reverse := by rw [← hcs, List.reverse_reverse]
  have hsplit : cs.takeWhile Text.isDigit ++ cs.drop (cs.takeWhile Text.isDigit).length = cs := by
    have hprefix := List.prefix_iff_eq_append.mp (List.takeWhile_prefix (l := cs) Text.isDigit)
    exact hprefix
  constructor
  · intro h
    split_ifs at h with hends
    rw [Bool.and_eq_true, Bool.not_eq_true', List.isEmpty_eq_false_iff, beq_iff_eq] at hends
    obtain ⟨hne, hhead⟩ := hends
    obtain ⟨front, hfront⟩ := List.head?_eq_some_iff.mp hhead
    cases h
    rw [hfront] at hsplit
    refine ⟨⟨front.reverse, ?_⟩, by simpa using hne, fun c hc => ?_⟩
    · rw [hcs]
      conv_lhs => rw [← hsplit]
      rw [List.reverse_append, List.reverse_cons, List.append_assoc, List.singleton_append]
    · exact List.mem_takeWhile_imp (List.mem_reverse.mp hc)
  · rintro ⟨⟨front, hbehind⟩, hne, hdigits⟩
    have hrun : cs = ds.reverse ++ '-' :: front.reverse := by
      rw [← List.reverse_reverse cs, ← hcs, hbehind]
      simp
    have htake : cs.takeWhile Text.isDigit = ds.reverse := by
      rw [hrun, List.takeWhile_append_of_pos fun c hc => hdigits c (List.mem_reverse.mp hc),
        List.takeWhile_cons_of_neg hdash, List.append_nil]
    rw [htake, hrun, List.drop_left]
    simp [hne]

theorem bracketed?_eq_some {cs body : List Char} :
    bracketed? cs = some body ↔ cs = '[' :: (body ++ [']']) ∧ '\n' ∉ body := by
  unfold bracketed?
  constructor
  · intro h
    split at h
    · next rest =>
      split at h
      · next inner hrest =>
        split_ifs at h with hline
        cases h
        have hrest : rest = inner.reverse ++ [']'] := by
          rw [← List.reverse_reverse rest, hrest, List.reverse_cons]
        refine ⟨by rw [hrest], fun hmem => hline ?_⟩
        rw [List.contains_iff_mem]
        exact List.mem_reverse.mp hmem
      · cases h
    · cases h
  · rintro ⟨rfl, hline⟩
    simp [hline]

/-- An arbitrary value stands in brackets at the end of its token, perhaps before a line end. -/
theorem exists_of_payload? {cs payload : List Char} (h : payload? cs = some payload) :
    ∃ stem, dropLineEnd cs = stem ++ '[' :: (payload ++ [']']) := by
  unfold payload? at h
  dsimp only at h
  split_ifs at h
  obtain ⟨hbody, -⟩ := Option.filter_eq_some_iff.mp h
  obtain ⟨hdrop, -⟩ := bracketed?_eq_some.mp hbody
  refine ⟨(dropLineEnd cs).take ((dropLineEnd cs).takeWhile isStemChar).length, ?_⟩
  rw [← hdrop, List.take_append_drop]

theorem payload?_of_endsIn {token ds : List Char} (h : EndsIn token ds) :
    payload? (withoutMinus token) = none := by
  obtain ⟨⟨front, hbehind⟩, hne, hdigits⟩ := h
  rw [Option.eq_none_iff_forall_ne_some]
  intro payload hpayload
  obtain ⟨stem, hstem⟩ := exists_of_payload? hpayload
  have hlast : ds.getLast? = some ']' := by
    have h := congrArg List.getLast? (hbehind.symm.trans hstem)
    rw [List.getLast?_append_of_ne_nil _ (List.cons_ne_nil _ _), List.getLast?_cons_of_ne_nil hne,
      List.getLast?_append_of_ne_nil _ (List.cons_ne_nil _ _), ← List.cons_append,
      List.getLast?_concat] at h
    exact h
  exact absurd (hdigits ']' (List.mem_of_getLast? hlast)) (by decide)

/-! ## Values -/

/-- The number of a token is read off the digits it ends with: it animates something, and is none of
the named ones. -/
structure Numbered (token ds : List Char) : Prop where
  unnamed : namedValues.lookup (String.ofList token) = none
  known : property? token ≠ none
  digits : EndsIn token ds

/-- The number a token ends with, with the sign in front of it. -/
def spelled (token ds : List Char) : Int :=
  let n : Int := Text.numeral 10 (ds.filterMap Text.digit?)
  if isNegative token then -n else n

section
variable {token ds : List Char}

theorem value_of_numbered {α : Type} [Scalar α] (h : Numbered token ds) :
    (value token : Except NumberFault (Quantity α)) =
      if NumberFault.digitLimit < ds.length then .error (.tooManyDigits ds.length)
      else .ok (.whole (spelled token ds)) := by
  obtain ⟨unnamed, known, digits⟩ := h
  have hknown : (property? token).isNone = false := by
    rw [Option.isNone_eq_false_iff]
    exact Option.isSome_iff_ne_none.mpr known
  unfold value
  rw [unnamed]
  dsimp only
  rw [payload?_of_endsIn digits]
  dsimp only
  rw [hknown, if_neg Bool.false_ne_true, scaledDigits?_eq_some.mpr digits]
  dsimp only
  rw [Text.readWhole_digits digits.nonempty digits.digits, spelled]
  split_ifs <;> rfl

/-- The constants among the named tokens are in range. -/
theorem toReal_quantity {q : Rat} (hlow : -2500 ≤ q) (hhigh : q ≤ 2500) :
    ∃ x : Float, (quantity q : Quantity Float).toReal = .ok x := by
  unfold quantity
  split_ifs with hwhole
  · have hnum : (q.num : Rat) = q := Rat.den_eq_one_iff q |>.mp hwhole
    have hpow : (2500 : Rat) < 2 ^ (12 : Int) := by norm_num
    have hsmall : |(q.num : Rat)| < Binary64.overflowBound := by
      rw [hnum]
      exact (abs_le.mpr ⟨hlow, hhigh⟩).trans_lt (hpow.trans (Binary64.lt_overflowBound (by decide)))
    refine ⟨Binary64.ofRat q.num, ?_⟩
    rw [Quantity.toReal, Quantity.ofWhole_doubles, if_neg (not_le.mpr hsmall)]
  · exact ⟨_, rfl⟩

theorem toReal_zero : ∃ x : Float, (Quantity.whole 0 : Quantity Float).toReal = .ok x :=
  toReal_quantity (q := 0) (by norm_num) (by norm_num)

theorem toReal_payloadValue (negative : Bool) (payload : List Char) :
    ∃ x : Float, (payloadValue negative payload).toReal = .ok x := by
  unfold payloadValue
  split
  · exact toReal_zero
  · dsimp only
    split_ifs <;> exact ⟨_, rfl⟩

/-- Any other token carries a number, and one in range. -/
theorem value_of_not_numbered (h : ¬∃ ds, Numbered token ds) :
    ∃ q : Quantity Float, value token = .ok q ∧ ∃ x, q.toReal = .ok x := by
  unfold value
  split
  · next q hnamed =>
    have hsmall : ∀ entry ∈ namedValues, -2500 ≤ entry.2 ∧ entry.2 ≤ 2500 := by decide +kernel
    obtain ⟨before, after, hentry, -⟩ := List.lookup_eq_some_iff.mp hnamed
    obtain ⟨hlow, hhigh⟩ := hsmall (_, q) (hentry ▸ List.mem_append_right _ List.mem_cons_self)
    exact ⟨_, rfl, toReal_quantity hlow hhigh⟩
  · next hnamed =>
    dsimp only
    split
    · exact ⟨_, rfl, toReal_payloadValue _ _⟩
    · by_cases hknown : (property? token).isNone = true
      · rw [if_pos hknown]
        exact ⟨_, rfl, toReal_zero⟩
      · rw [if_neg hknown]
        split
        · exact ⟨_, rfl, toReal_zero⟩
        · next ds hdigits =>
          rw [Option.isNone_iff_eq_none] at hknown
          exact absurd ⟨ds, hnamed, hknown, scaledDigits?_eq_some.mp hdigits⟩ h

theorem describe?_eq_error_iff {α : Type} [Scalar α] {e : NumberFault} :
    (describe? token : Except NumberFault (Option (Descriptor α))) = .error e ↔
      ∃ p, property? token = some p ∧ p.measure ≠ .color ∧
        (value token).bind Quantity.toReal = (.error e : Except NumberFault α) := by
  unfold describe?
  cases property? token with
  | none => simp
  | some p =>
    by_cases hcolor : p.measure = .color
    · simp [hcolor]
    · cases (value token : Except NumberFault (Quantity α)) with
      | error e' => simp [hcolor, bind, Except.bind]
      | ok q =>
        cases hreal : q.toReal <;> simp [hcolor, hreal, bind, Except.bind, pure, Except.pure]

theorem Numbered.unique {ds' : List Char} (h : Numbered token ds) (h' : Numbered token ds') :
    ds = ds' := by
  have hds := scaledDigits?_eq_some.mpr h.digits
  rw [scaledDigits?_eq_some.mpr h'.digits] at hds
  exact (Option.some.inj hds).symm

theorem Numbered.only (h : Numbered token ds) {p : List Char → Prop} :
    (∃ ds', Numbered token ds' ∧ p ds') ↔ p ds :=
  ⟨fun ⟨_, hds', hp⟩ => h.unique hds' ▸ hp, fun hp => ⟨ds, h, hp⟩⟩

section
variable (token : List Char) (e : NumberFault)

theorem value_error_iff :
    (value token : Except NumberFault (Quantity Float)) = .error e ↔
      ∃ ds, Numbered token ds ∧ NumberFault.digitLimit < ds.length ∧
        e = .tooManyDigits ds.length := by
  by_cases hnumbered : ∃ ds, Numbered token ds
  · obtain ⟨ds, hds⟩ := hnumbered
    rw [value_of_numbered hds, hds.only]
    split_ifs with hlong
    · simp [hlong, eq_comm]
    · simp [hlong]
  · obtain ⟨q, hq, -⟩ := value_of_not_numbered hnumbered
    rw [hq]
    exact iff_of_false nofun fun ⟨ds, hds, _⟩ => hnumbered ⟨ds, hds⟩

theorem describe?_error_iff :
    (describe? token : Except NumberFault (Option (Descriptor Float))) = .error e ↔
      ∃ p ds, property? token = some p ∧ p.measure ≠ .color ∧ Numbered token ds ∧
        if NumberFault.digitLimit < ds.length then e = .tooManyDigits ds.length
        else Binary64.overflowBound ≤ |(spelled token ds : Rat)| ∧ e = .overflow := by
  rw [describe?_eq_error_iff]
  refine exists_congr fun p => ?_
  rw [exists_and_left, exists_and_left]
  by_cases hnumbered : ∃ ds, Numbered token ds
  · obtain ⟨ds, hds⟩ := hnumbered
    rw [value_of_numbered hds, hds.only]
    split_ifs with hlong
    · simp [Except.bind, eq_comm]
    · simp only [Except.bind, Quantity.toReal, Quantity.ofWhole_doubles]
      split_ifs with hbound <;> simp [hbound, eq_comm]
  · obtain ⟨q, hq, x, hx⟩ := value_of_not_numbered hnumbered
    have hnever : ∀ {p : List Char → Prop}, ¬∃ ds, Numbered token ds ∧ p ds :=
      fun ⟨ds, hds, _⟩ => hnumbered ⟨ds, hds⟩
    rw [hq]
    simp [Except.bind, hx, hnever]

end

/-- A token fails for its number only: because the numeral is too long, or because the number it
spells is beyond the largest double. The value is kept as a whole number, so the second is met only
where it becomes a number of the arithmetic. -/
theorem fails_iff (token : List Char) :
    (∀ e, (value token : Except NumberFault (Quantity Float)) = .error e ↔
      ∃ ds, Numbered token ds ∧ NumberFault.digitLimit < ds.length ∧
        e = .tooManyDigits ds.length) ∧
    ∀ e, (describe? token : Except NumberFault (Option (Descriptor Float))) = .error e ↔
      ∃ p ds, property? token = some p ∧ p.measure ≠ .color ∧ Numbered token ds ∧
        if NumberFault.digitLimit < ds.length then e = .tooManyDigits ds.length
        else Binary64.overflowBound ≤ |(spelled token ds : Rat)| ∧ e = .overflow :=
  ⟨value_error_iff token, describe?_error_iff token⟩

end

/-! ## Margins of many digits -/

theorem lookup_eq_none {β : Type} {entries : List (String × β)} {cs : List Char}
    (h : ∀ entry ∈ entries, entry.1.toList ≠ cs) : entries.lookup (String.ofList cs) = none := by
  rw [List.lookup_eq_none_iff]
  intro entry hentry
  rw [bne_iff_ne]
  intro heq
  exact h entry hentry (by rw [← heq, String.toList_ofList])

/-- `mt-` and a digit again and again. -/
def margin (digit : Char) (count : Nat) : List Char :=
  'm' :: 't' :: '-' :: List.replicate count digit

theorem property?_margin (digit : Char) (count : Nat) :
    property? (margin digit count) = some ⟨"marginTop", .px⟩ := by
  unfold margin
  generalize List.replicate count digit = rest
  have hminus : withoutMinus ('m' :: 't' :: '-' :: rest) = 'm' :: 't' :: '-' :: rest := rfl
  have hbare : bare.lookup (String.ofList ('m' :: 't' :: '-' :: rest)) = none :=
    lookup_eq_none (by simp [bare])
  have hmatch : longestMatch? ('m' :: 't' :: '-' :: rest) =
      some ("mt-", ⟨"marginTop", .px⟩) := by
    simp [longestMatch?, table, after?]
  rw [property?, hminus]
  simp only [hbare, hmatch]
  rfl

theorem numbered_margin {digit : Char} {count : Nat} (hdigit : Text.isDigit digit = true)
    (hcount : count ≠ 0) : Numbered (margin digit count) (List.replicate count digit) where
  unnamed := lookup_eq_none (by simp [margin, namedValues])
  known := by simp [property?_margin]
  digits := by
    have hline : digit ≠ '\n' := by
      rintro rfl
      exact absurd hdigit (by decide)
    refine ⟨⟨['m', 't'], ?_⟩, by simp [hcount], by simp [hdigit]⟩
    show dropLineEnd (margin digit count) = margin digit count
    rw [dropLineEnd, if_neg]
    simp [margin, List.getLast?_cons, List.getLast?_replicate, hcount, hline]

/-- A margin of one digit too many has no value, and one just beyond the largest double no
descriptor. -/
theorem margin_fails :
    (value (margin '1' 4301) : Except NumberFault (Quantity Float)) = .error (.tooManyDigits 4301) ∧
      (describe? (margin '9' 309) : Except NumberFault (Option (Descriptor Float))) =
        .error .overflow := by
  constructor
  · rw [value_of_numbered (numbered_margin (by decide) (by decide)), List.length_replicate]
    rfl
  · have hspelled : spelled (margin '9' 309) (List.replicate 309 '9') = 10 ^ 309 - 1 := by
      decide +kernel
    have hlarge : Binary64.overflowBound ≤ |((10 ^ 309 - 1 : Int) : Rat)| := by
      have hpow : (2 ^ 1024 : Int) ≤ |10 ^ 309 - 1| := by decide +kernel
      calc Binary64.overflowBound ≤ (2 : Rat) ^ ((1024 : Nat) : Int) := Binary64.overflowBound_lt.le
        _ = ((2 ^ 1024 : Int) : Rat) := by rw [zpow_natCast, Int.cast_pow, Int.cast_ofNat]
        _ ≤ (|10 ^ 309 - 1| : Int) := Int.cast_le.mpr hpow
        _ = |((10 ^ 309 - 1 : Int) : Rat)| := Int.cast_abs
    refine describe?_eq_error_iff.mpr ⟨_, property?_margin _ _, by decide, ?_⟩
    rw [value_of_numbered (numbered_margin (by decide) (by decide)), List.length_replicate,
      if_neg (by decide)]
    rw [← hspelled] at hlarge
    generalize spelled _ _ = n at hlarge ⊢
    show Quantity.ofWhole n = _
    rw [Quantity.ofWhole_doubles, if_pos hlarge]

end Token
end Choreo
