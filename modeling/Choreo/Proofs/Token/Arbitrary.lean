import Choreo.Proofs.Token.Fails

/-!
Tokens with an arbitrary value.

A beginning of the table and a payload in brackets make a token that animates what the beginning
stands for, whatever the payload is; behind `border-` it is a width only if the payload opens with a
number (`property?_arbitrary`). The number of the token is that of the payload (`value_arbitrary`).
-/

namespace Choreo
namespace Token

/-- A minus, if there is to be one. -/
def minus (negative : Bool) : List Char := if negative then ['-'] else []

/-- The token of a beginning and a payload in brackets, with a minus in front if there is to be
one. -/
def arbitrary (negative : Bool) (start : String) (payload : List Char) : List Char :=
  minus negative ++ (start.toList ++ '[' :: (payload ++ [']']))

section
variable {start : String} {p : Property} {payload : List Char}

/-- Every beginning of the table is the stem of a token with an arbitrary value. -/
theorem stem_of_mem_table (h : (start, p) ∈ table) :
    (∀ c ∈ start.toList, isStemChar c = true) ∧ 2 ≤ start.toList.length ∧
      start.toList.getLast? = some '-' ∧ start.toList.head? ≠ some '-' := by
  have hstem : ∀ entry ∈ table, entry.1.toList.all isStemChar = true := by decide +kernel
  have hshape : ∀ entry ∈ table, 2 ≤ entry.1.toList.length ∧
      entry.1.toList.getLast? = some '-' ∧ entry.1.toList.head? ≠ some '-' := by decide +kernel
  exact ⟨List.all_eq_true.mp (hstem _ h), hshape _ h⟩

theorem isNegative_minus (negative : Bool) {cs : List Char} (h : cs.head? ≠ some '-') :
    isNegative (minus negative ++ cs) = negative := by
  cases negative with
  | true => rfl
  | false => exact beq_eq_false_iff_ne.mpr h

theorem withoutMinus_minus (negative : Bool) {cs : List Char} (h : cs.head? ≠ some '-') :
    withoutMinus (minus negative ++ cs) = cs := by
  cases negative with
  | true => rfl
  | false =>
    show withoutMinus cs = cs
    unfold withoutMinus
    split
    · exact absurd rfl h
    · rfl

/-- The token without its minus does not open with another one. -/
theorem head?_arbitrary (h : (start, p) ∈ table) :
    (start.toList ++ '[' :: (payload ++ [']'])).head? ≠ some '-' := by
  obtain ⟨-, hlong, -, hhead⟩ := stem_of_mem_table h
  rwa [List.head?_append_of_ne_nil]
  rintro hnil
  rw [hnil] at hlong
  exact absurd hlong (by decide)

theorem withoutMinus_arbitrary (h : (start, p) ∈ table) (negative : Bool) :
    withoutMinus (arbitrary negative start payload) = start.toList ++ '[' :: (payload ++ [']']) :=
  withoutMinus_minus negative (head?_arbitrary h)

theorem isNegative_arbitrary (h : (start, p) ∈ table) (negative : Bool) :
    isNegative (arbitrary negative start payload) = negative :=
  isNegative_minus negative (head?_arbitrary h)

theorem dropLineEnd_bracketed (cs : List Char) :
    dropLineEnd (cs ++ '[' :: (payload ++ [']'])) = cs ++ '[' :: (payload ++ [']']) := by
  rw [dropLineEnd, if_neg]
  simp [List.getLast?_cons]

/-! ## Values -/

theorem payload?_arbitrary (h : (start, p) ∈ table) (negative : Bool) (hne : payload ≠ [])
    (hline : '\n' ∉ payload) :
    payload? (withoutMinus (arbitrary negative start payload)) = some payload := by
  obtain ⟨hstem, hlong, hlast, -⟩ := stem_of_mem_table h
  have htake : (start.toList ++ '[' :: (payload ++ [']'])).takeWhile isStemChar = start.toList := by
    have hopen : ¬isStemChar '[' = true := by decide
    rw [List.takeWhile_append_of_pos hstem, List.takeWhile_cons_of_neg hopen, List.append_nil]
  have hbody : bracketed? ('[' :: (payload ++ [']'])) = some payload :=
    bracketed?_eq_some.mpr ⟨rfl, hline⟩
  have hshape : ¬(start.toList.length < 2 ∨ start.toList.getLast? ≠ some '-') :=
    not_or.mpr ⟨not_lt.mpr hlong, not_not.mpr hlast⟩
  rw [withoutMinus_arbitrary h, payload?, dropLineEnd_bracketed, htake, if_neg hshape,
    List.drop_left, hbody]
  simp [hne]

/-- No table of names has a text with a bracket. -/
theorem lookup_arbitrary {β : Type} {entries : List (String × β)}
    (h : ∀ entry ∈ entries, '[' ∉ entry.1.toList) (stem rest : List Char) :
    entries.lookup (String.ofList (stem ++ '[' :: rest)) = none := by
  refine lookup_eq_none fun entry hentry htext => h entry hentry ?_
  rw [htext]
  simp

theorem value_arbitrary {α : Type} [Scalar α] (h : (start, p) ∈ table) (negative : Bool)
    (hne : payload ≠ []) (hline : '\n' ∉ payload) :
    (value (arbitrary negative start payload) : Except NumberFault (Quantity α)) =
      .ok (payloadValue negative payload) := by
  have hopen : ∀ entry ∈ namedValues, '[' ∉ entry.1.toList := by decide +kernel
  have hunnamed : namedValues.lookup (String.ofList (arbitrary negative start payload)) = none := by
    rw [arbitrary, ← List.append_assoc]
    exact lookup_arbitrary hopen _ _
  unfold value
  rw [hunnamed]
  dsimp only
  rw [payload?_arbitrary h negative hne hline, isNegative_arbitrary h]

/-! ## Properties -/

/-- A beginning without a bracket does not reach into a payload. -/
theorem isSome_after?_bracketed {beginning : String} (h : '[' ∉ beginning.toList)
    (cs rest : List Char) :
    (after? beginning (cs ++ '[' :: rest)).isSome = (after? beginning cs).isSome := by
  unfold after?
  generalize beginning.toList = bs at h
  induction bs generalizing cs with
  | nil => rfl
  | cons b bs ih =>
    obtain ⟨hb, hbs⟩ := not_or.mp (mt List.mem_cons.mpr h)
    cases cs with
    | nil =>
      have hne : (b == '[') = false := beq_eq_false_iff_ne.mpr (Ne.symm hb)
      simp [List.isPrefixOf?, hne]
    | cons c cs =>
      rw [List.cons_append, List.isPrefixOf?, List.isPrefixOf?]
      split
      · exact ih cs hbs
      · rfl

theorem longestMatch?_bracketed (cs rest : List Char) :
    longestMatch? (cs ++ '[' :: rest) = longestMatch? cs := by
  have hopen : ∀ entry ∈ table, '[' ∉ entry.1.toList := by decide +kernel
  refine congrArg (List.foldl _ none) (List.filter_congr fun entry hentry => ?_)
  exact isSome_after?_bracketed (hopen entry hentry) cs rest

/-- What stands in brackets behind `border-` is a width if it opens with a number. -/
theorem isBorderWidth_bracketed {c : Char} {cs : List Char}
    (hopens : withoutMinus payload = c :: cs) (hc : Text.isDigit c = true ∨ c = '.')
    (hline : '\n' ∉ payload) :
    isBorderWidth ('[' :: (payload ++ [']'])) = true := by
  have hbody : bracketed? ('[' :: (payload ++ [']'])) = some payload :=
    bracketed?_eq_some.mpr ⟨rfl, hline⟩
  have hend : dropLineEnd ('[' :: (payload ++ [']'])) = '[' :: (payload ++ [']']) :=
    dropLineEnd_bracketed []
  rw [isBorderWidth, hend, hbody, Option.map_some, hopens]
  rcases hc with hdigit | rfl
  · simp [hdigit]
  · simp

/-- A token with an arbitrary value animates what its beginning stands for in the table. Two
beginnings look at what follows them: brackets are no size of text, and a width of a border only if
they open with a number. -/
theorem property?_arbitrary (h : (start, p) ∈ table) (negative : Bool)
    (hborder : start = "border-" → isBorderWidth ('[' :: (payload ++ [']'])) = true) :
    property? (arbitrary negative start payload) = some p := by
  have hopen : ∀ entry ∈ bare, '[' ∉ entry.1.toList := by decide +kernel
  have hlongest : ∀ entry ∈ table, longestMatch? entry.1.toList = some entry := by decide +kernel
  have hsize : fontSizes.contains (String.ofList ('[' :: (payload ++ [']']))) = false := by
    have hsizes : ∀ size ∈ fontSizes, '[' ∉ size.toList := by decide +kernel
    rw [List.contains_eq_mem, decide_eq_false_iff_not]
    intro hmem
    refine hsizes _ hmem ?_
    rw [String.toList_ofList]
    exact List.mem_cons_self
  unfold property?
  rw [withoutMinus_arbitrary h]
  simp only [lookup_arbitrary hopen, longestMatch?_bracketed, hlongest _ h, Option.map_some,
    ← String.length_toList, List.drop_left, hsize, Bool.false_eq_true, and_false, if_false]
  rw [if_neg]
  rintro ⟨hstart, hwidth⟩
  exact hwidth (hborder hstart)

end

end Token
end Choreo
