import Choreo.Number.Scalar
import Choreo.Proofs.Text.Numeral
import Mathlib.Data.Nat.Digits.Defs
import Mathlib.Tactic.Ring

/-!
Decimals as they are spelled.

A decimal may be spelled with noughts in front, and its point may stand first, last or be left out.
Whatever comes behind it, if that is no digit and no second point, the decimal a text opens with is
the one that is spelled (`Spelling.openingDecimal?_text`), and it is read as what it is worth
(`Spelling.ofReading_digits`).
-/

namespace Choreo
namespace Text

/-! ## Digits -/

/-- Plain digits. -/
def digitText (ds : List (Fin 10)) : List Char := ds.map fun d : Fin 10 => Nat.digitChar d

/-- What digits in front of a point are worth. -/
def wholeValue (ds : List (Fin 10)) : Nat := Nat.ofDigits 10 (ds.reverse.map Fin.val)

/-- What digits behind a point are worth. A digit is worth a tenth of what it is worth one place
before. -/
def placesValue : List (Fin 10) → Rat
  | [] => 0
  | d :: ds => ((d : Nat) + placesValue ds) / 10

theorem digit?_digitChar (d : Fin 10) : digit? (Nat.digitChar d) = some (d : Nat) := by
  revert d
  decide +kernel

theorem isDigit_of_mem_digitText {ds : List (Fin 10)} {c : Char} (h : c ∈ digitText ds) :
    isDigit c = true := by
  obtain ⟨d, -, rfl⟩ := List.mem_map.mp h
  rw [isDigit, digit?_digitChar]
  rfl

theorem filterMap_digitText (ds : List (Fin 10)) :
    (digitText ds).filterMap digit? = ds.map Fin.val := by
  rw [digitText, List.filterMap_map, ← List.filterMap_eq_map]
  exact List.filterMap_congr fun d _ => digit?_digitChar d

/-- A run of digits ends where no digit follows. -/
theorem takeWhile_digits {cs rest : List Char} (hcs : ∀ c ∈ cs, isDigit c = true)
    (hrest : ∀ c ∈ rest.head?, isDigit c = false) :
    (cs ++ rest).takeWhile isDigit = cs ∧ (cs ++ rest).dropWhile isDigit = rest := by
  have hstop : rest.takeWhile isDigit = [] ∧ rest.dropWhile isDigit = rest := by
    cases rest with
    | nil => exact ⟨rfl, rfl⟩
    | cons c rest =>
      have hc := hrest c rfl
      rw [List.takeWhile_cons, List.dropWhile_cons, hc]
      exact ⟨rfl, rfl⟩
  rw [List.takeWhile_append_of_pos hcs, List.dropWhile_append_of_pos hcs, hstop.1, hstop.2,
    List.append_nil]
  exact ⟨rfl, rfl⟩

theorem takeWhile_digitText (ds : List (Fin 10)) {rest : List Char}
    (hrest : ∀ c ∈ rest.head?, isDigit c = false) :
    (digitText ds ++ rest).takeWhile isDigit = digitText ds ∧
      (digitText ds ++ rest).dropWhile isDigit = rest :=
  takeWhile_digits (fun _ hc => isDigit_of_mem_digitText hc) hrest

theorem numeral_eq_wholeValue (ds : List (Fin 10)) :
    numeral 10 (ds.map Fin.val) = wholeValue ds := by
  rw [wholeValue, Nat.ofDigits_eq_foldr, List.map_reverse, List.foldr_reverse, numeral]
  exact List.foldl_ext _ _ _ fun n d _ => by rw [Nat.cast_id, Nat.mul_comm, Nat.add_comm]

/-- Digits one after another: those behind count as places of those in front. -/
theorem numeral_append (ws ps : List (Fin 10)) :
    (numeral 10 ((ws ++ ps).map Fin.val) : Rat) / 10 ^ ps.length =
      numeral 10 (ws.map Fin.val) + placesValue ps := by
  induction ps generalizing ws with
  | nil => simp [placesValue]
  | cons d ps ih =>
    have hsplit : ws ++ d :: ps = (ws ++ [d]) ++ ps := by simp
    have hlast : (numeral 10 ((ws ++ [d]).map Fin.val) : Rat) =
        numeral 10 (ws.map Fin.val) * 10 + (d : Nat) := by
      simp [numeral]
    have hrest := ih (ws ++ [d])
    rw [hlast] at hrest
    rw [hsplit, List.length_cons, pow_succ, ← div_div, hrest, placesValue]
    ring

/-! ## Spellings -/

/-- A decimal as it may be spelled: digits, and perhaps a point with or without digits behind it.
There is a digit somewhere. -/
structure Spelling where
  whole : List (Fin 10)
  /-- The digits behind the point, if there is a point. -/
  places : Option (List (Fin 10))
  spelled : whole ++ places.getD [] ≠ []

namespace Spelling

def text (x : Spelling) : List Char :=
  digitText x.whole ++
    match x.places with
    | none => []
    | some ds => '.' :: digitText ds

/-- What a decimal is worth. -/
def value (x : Spelling) : Rat := wholeValue x.whole + placesValue (x.places.getD [])

/-- All digits of a decimal as one number. -/
def digits (x : Spelling) : Nat := numeral 10 ((x.whole ++ x.places.getD []).map Fin.val)

/-- How many of the digits are places. -/
def placeCount (x : Spelling) : Nat := (x.places.getD []).length

theorem openingDecimal?_text (x : Spelling) {rest : List Char}
    (hrest : ∀ c ∈ rest.head?, isDigit c = false ∧ c ≠ '.') :
    openingDecimal? (x.text ++ rest) = some (x.digits, x.placeCount, rest) := by
  obtain ⟨ws, places, hspelled⟩ := x
  have hstop : ∀ c ∈ rest.head?, isDigit c = false := fun c hc => (hrest c hc).1
  have hvalues : ∀ ps, (digitText ws ++ digitText ps).filterMap digit? =
      (ws ++ ps).map Fin.val := by
    intro ps
    rw [List.filterMap_append, filterMap_digitText, filterMap_digitText, List.map_append]
  cases places with
  | none =>
    obtain ⟨htake, hdrop⟩ := takeWhile_digitText ws hstop
    -- Without a point behind the digits the reader takes its last case, which `simp` sees by this.
    have hpoint : ∀ r, rest ≠ '.' :: r := fun r h => (hrest '.' (by rw [h]; rfl)).2 rfl
    have hne : ws ≠ [] := by simpa using hspelled
    simp only [openingDecimal?, text, List.append_nil, htake, hdrop, filterMap_digitText]
    simp [digits, placeCount, hne]
  | some ps =>
    have hpoint : ∀ c ∈ ('.' :: (digitText ps ++ rest)).head?, isDigit c = false := by
      rintro c ⟨⟩
      decide
    obtain ⟨htake, hdrop⟩ := takeWhile_digitText ws hpoint
    obtain ⟨htake', hdrop'⟩ := takeWhile_digitText ps hstop
    have hne : (ws ++ ps).map Fin.val ≠ [] := mt List.map_eq_nil_iff.mp hspelled
    simp only [openingDecimal?, text, List.append_assoc, List.cons_append, htake, hdrop, htake',
      hdrop', hvalues, List.isEmpty_eq_false_iff.mpr hne]
    simp [digits, placeCount, digitText]

/-- A decimal is made of digits and points. -/
theorem of_mem_text (x : Spelling) {c : Char} (hc : c ∈ x.text) : isDigit c = true ∨ c = '.' := by
  rcases List.mem_append.mp hc with hwhole | hrest
  · exact .inl (isDigit_of_mem_digitText hwhole)
  · cases hplaces : x.places with
    | none =>
      rw [hplaces] at hrest
      cases hrest
    | some ds =>
      rw [hplaces] at hrest
      rcases List.mem_cons.mp hrest with hpoint | hdigit
      · exact .inr hpoint
      · exact .inl (isDigit_of_mem_digitText hdigit)

theorem text_ne_nil (x : Spelling) : x.text ≠ [] := by
  obtain ⟨ws, places, hspelled⟩ := x
  cases places with
  | none => simpa [text, digitText] using hspelled
  | some ds => simp [text]

/-- A decimal is read as what it is worth. -/
theorem ofReading_digits (x : Spelling) :
    (Scalar.ofReading (.finite false x.digits (-(x.placeCount : Int))) : Rat) = x.value := by
  have hread : (Scalar.ofReading (.finite false x.digits (-(x.placeCount : Int))) : Rat) =
      (x.digits : Rat) / 10 ^ x.placeCount := by
    show Exact.decimal false x.digits (-(x.placeCount : Int)) = _
    unfold Exact.decimal
    simp only [Bool.false_eq_true, if_false, neg_neg, Int.toNat_natCast]
    split_ifs with hneg
    · simp [Rat.mkRat_eq_div]
    · have hzero : x.placeCount = 0 := by omega
      simp [hzero, Rat.mkRat_eq_div]
  rw [hread, digits, placeCount, numeral_append, numeral_eq_wholeValue, value]

end Spelling

end Text
end Choreo
