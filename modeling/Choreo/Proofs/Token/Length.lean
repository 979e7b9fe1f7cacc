import Choreo.Proofs.Number.Rational
import Choreo.Proofs.Text.Spelling
import Choreo.Proofs.Token.Arbitrary

/-!
Lengths of any size.

An arbitrary value is carried in the token's own scale and turned into the measure of its property
afterwards. In exact arithmetic the two steps undo one another: whatever decimal is spelled in
pixels comes out as that many pixels, and rems as sixteen pixels each. A minus may stand in front of
the token or in the brackets, and two of them cancel (`lengths_survive`).
-/

namespace Choreo
namespace Token

open Text (Spelling)

/-- A number with a minus, if there is to be one. -/
def signed (negative : Bool) (q : Rat) : Rat := if negative then -q else q

/-- What may stand behind the number of an arbitrary value. -/
def units : List String := ["", "px", "rem", "%"]

/-- What one of a unit is worth in the token's scale. -/
def unitScale (u : String) : Rat := if u = "px" then 1 / 4 else if u = "rem" then 4 else 1

/-- What one of a token's scale is worth in a measure. -/
def measureScale : Measure → Rat
  | .px => 4
  | .rem => 1 / 4
  | .percent => 1 / 100
  | _ => 1

/-- The payload of a decimal and a unit, with a minus in front if there is to be one. -/
def amount (negative : Bool) (x : Spelling) (u : String) : List Char :=
  minus negative ++ (x.text ++ u.toList)

/-- In exact arithmetic a token animates a property, carries a number, and stands for a number in
the measure of the property. -/
structure Says (token : List Char) (p : Property) (carried meant : Rat) : Prop where
  described : describe? token = .ok (some ⟨p, carried, token⟩)
  measured : (⟨p, carried, token⟩ : Descriptor Rat).inMeasure = .ok meant

section
variable {u : String} (x : Spelling)

/-! ## Payloads -/

theorem exists_text_eq_cons : ∃ c cs, x.text ++ u.toList = c :: cs ∧
    (Text.isDigit c = true ∨ c = '.') := by
  obtain ⟨c, cs, hcons⟩ := List.exists_cons_of_ne_nil x.text_ne_nil
  refine ⟨c, cs ++ u.toList, by rw [hcons, List.cons_append], x.of_mem_text ?_⟩
  rw [hcons]
  exact List.mem_cons_self

theorem head?_decimal : (x.text ++ u.toList).head? ≠ some '-' := by
  obtain ⟨c, cs, hcons, hc⟩ := exists_text_eq_cons (u := u) x
  rw [hcons, List.head?_cons, Ne, Option.some_inj]
  rintro rfl
  exact absurd hc (by decide)

theorem amount_ne_nil (negative : Bool) : amount negative x u ≠ [] :=
  List.append_ne_nil_of_right_ne_nil _ (List.append_ne_nil_of_left_ne_nil x.text_ne_nil _)

theorem newline_notMem_amount (hu : u ∈ units) (negative : Bool) : '\n' ∉ amount negative x u := by
  have hunit : ∀ u ∈ units, '\n' ∉ u.toList := by decide +kernel
  have hdecimal : '\n' ∉ x.text := fun h => absurd (x.of_mem_text h) (by decide)
  have hminus : '\n' ∉ minus negative := by cases negative <;> decide
  simp only [amount, List.mem_append, hminus, hdecimal, hunit u hu, or_self, not_false_iff]

theorem isBorderWidth_amount (hu : u ∈ units) (negative : Bool) :
    isBorderWidth ('[' :: (amount negative x u ++ [']'])) = true := by
  obtain ⟨c, cs, hcons, hc⟩ := exists_text_eq_cons (u := u) x
  have hopens : withoutMinus (amount negative x u) = c :: cs := by
    rw [amount, withoutMinus_minus negative (head?_decimal x), hcons]
  exact isBorderWidth_bracketed hopens hc (newline_notMem_amount x hu negative)

/-- A payload is worth its decimal in its unit. A minus in front of the token and one in the payload
cancel each other. -/
theorem payloadValue_amount (hu : u ∈ units) (outer inner : Bool) :
    payloadValue outer (amount inner x u) =
      .real (signed (outer != inner) (unitScale u * x.value)) := by
  have hopens : ∀ u ∈ units, u.toList.head?.all (fun c => !Text.isDigit c && c != '.') = true ∧
      Text.strip u.toList = u.toList := by decide +kernel
  obtain ⟨hrest, hstrip⟩ := hopens u hu
  have hdecimal : Text.openingDecimal? (x.text ++ u.toList) =
      some (x.digits, x.placeCount, u.toList) := by
    refine x.openingDecimal?_text fun c hc => ?_
    simpa [hc] using (Option.all_eq_true _ _).mp hrest c hc
  unfold payloadValue
  rw [amount, withoutMinus_minus inner (head?_decimal x), hdecimal,
    isNegative_minus inner (head?_decimal x)]
  simp only [x.ofReading_digits, hstrip, String.toList_inj, unitScale, signed]
  have hfour : (Scalar.ofInt 4 : Rat) = 4 := rfl
  rw [hfour]
  split_ifs <;> congr 1 <;> ring

/-! ## Tokens -/

theorem inMeasure_rat (d : Descriptor Rat) :
    d.inMeasure = .ok (measureScale d.property.measure * d.value) := by
  obtain ⟨⟨name, measure⟩, q, token⟩ := d
  cases measure with
  | px => exact congrArg Except.ok (mul_comm q 4)
  | rem => exact congrArg Except.ok (mul_comm q (1 / 4))
  | percent => exact congrArg Except.ok ((div_eq_mul_one_div q 100).trans (mul_comm q (1 / 100)))
  | em | deg | color | number => exact congrArg Except.ok (one_mul q).symm

/-- The token of a beginning, a decimal and a unit says what the table, the decimal and the unit
say. -/
theorem says_amount {start : String} {p : Property} (h : (start, p) ∈ table)
    (hplain : p.measure ≠ .color) (hu : u ∈ units) (outer inner : Bool) :
    Says (arbitrary outer start (amount inner x u)) p
      (signed (outer != inner) (unitScale u * x.value))
      (signed (outer != inner) (measureScale p.measure * (unitScale u * x.value))) where
  described := by
    rw [describe?, property?_arbitrary h outer fun _ => isBorderWidth_amount x hu inner,
      value_arbitrary h outer (amount_ne_nil x inner) (newline_notMem_amount x hu inner),
      payloadValue_amount x hu]
    simp only [if_neg hplain]
    rfl
  measured := by
    rw [inMeasure_rat]
    simp only [signed]
    split_ifs <;> simp

theorem says_decimal {start : String} {p : Property} (h : (start, p) ∈ table)
    (hplain : p.measure ≠ .color) (hu : u ∈ units) {carried meant : Rat}
    (hcarried : unitScale u * x.value = carried)
    (hmeant : measureScale p.measure * carried = meant) :
    Says (arbitrary false start (x.text ++ u.toList)) p carried meant := by
  subst hcarried hmeant
  exact says_amount x h hplain hu false false

end

/-! ## The law -/

/-- Behind every beginning of lengths a decimal in pixels stands for that many pixels and one in
rems for sixteen times as many, and behind `leading-` for a sixteenth as many rems and for as many.
A minus in front and one in the brackets say the same, and both together nothing. A length in pixels
is written back as its decimal, but for the channels of a filter, which are written as functions. -/
theorem lengths_survive (x : Spelling) :
    (∀ start p, (start, p) ∈ table → p.measure = .px →
      Says (arbitrary false start (x.text ++ "px".toList)) p (x.value / 4) x.value ∧
      Says (arbitrary false start (x.text ++ "rem".toList)) p (4 * x.value) (16 * x.value)) ∧
    (Says (arbitrary false "leading-" (x.text ++ "rem".toList)) ⟨"lineHeight", .rem⟩
        (4 * x.value) x.value ∧
      Says (arbitrary false "leading-" (x.text ++ "px".toList)) ⟨"lineHeight", .rem⟩
        (x.value / 4) (x.value / 16)) ∧
    (∀ start p, (start, p) ∈ table → p.measure ≠ .color → ∀ u ∈ units, ∃ carried meant,
      Says (arbitrary false start (x.text ++ u.toList)) p carried meant ∧
      Says (arbitrary true start (x.text ++ u.toList)) p (-carried) (-meant) ∧
      Says (arbitrary false start ('-' :: (x.text ++ u.toList))) p (-carried) (-meant) ∧
      Says (arbitrary true start ('-' :: (x.text ++ u.toList))) p carried meant) ∧
    ∀ start p, (start, p) ∈ table → p.measure = .px → p.name ≠ "filter" →
      ∃ d : Descriptor Rat, ∃ y,
        describe? (arbitrary false start (x.text ++ "px".toList)) = .ok (some d) ∧
        d.inMeasure = .ok y ∧
        serialize d.property.name d.property.measure y d.token = numberText x.value ++ "px" := by
  have hpx : "px" ∈ units := by decide
  have hrem : "rem" ∈ units := by decide
  have hpixels : unitScale "px" * x.value = x.value / 4 := by
    rw [show unitScale "px" = 1 / 4 by decide +kernel]
    ring
  have hrems : unitScale "rem" * x.value = 4 * x.value := by
    rw [show unitScale "rem" = 4 by decide +kernel]
  have hplain : ∀ {p : Property}, p.measure = .px → p.measure ≠ .color := by
    rintro p hmeasure
    rw [hmeasure]
    decide
  have hlength : ∀ {start : String} {p : Property}, (start, p) ∈ table → p.measure = .px →
      Says (arbitrary false start (x.text ++ "px".toList)) p (x.value / 4) x.value := by
    intro start p h hmeasure
    refine says_decimal x h (hplain hmeasure) hpx hpixels ?_
    rw [hmeasure, measureScale]
    ring
  have hleading : ("leading-", ⟨"lineHeight", .rem⟩) ∈ table := by decide +kernel
  refine ⟨fun start p h hmeasure => ⟨hlength h hmeasure, ?_⟩, ⟨?_, ?_⟩,
    fun start p h hcolor u hu => ?_, fun start p h hmeasure hfilter => ?_⟩
  · refine says_decimal x h (hplain hmeasure) hrem hrems ?_
    rw [hmeasure, measureScale]
    ring
  · refine says_decimal x hleading (by decide) hrem hrems ?_
    rw [measureScale]
    ring
  · refine says_decimal x hleading (by decide) hpx hpixels ?_
    rw [measureScale]
    ring
  · have hsays := says_amount x h hcolor hu
    exact ⟨_, _, hsays false false, hsays true false, hsays false true, hsays true true⟩
  · obtain ⟨hdescribed, hmeasured⟩ := hlength h hmeasure
    refine ⟨_, _, hdescribed, hmeasured, ?_⟩
    rw [serialize, if_neg hfilter, hmeasure]
    rfl

/-- Three and a half, with a nought in front. -/
def threeAndHalf : Spelling := ⟨[0, 3], some [5], by decide⟩

/-- Of three and a half, a border in pixels, a line in pixels and a scale with two minuses. -/
theorem lengths_survive_threeAndHalf :
    Says "border-[03.5px]".toList ⟨"borderWidth", .px⟩ (7 / 8) (7 / 2) ∧
      Says "leading-[03.5px]".toList ⟨"lineHeight", .rem⟩ (7 / 8) (7 / 32) ∧
      (∃ carried meant, Says "scale-[03.5%]".toList ⟨"scale", .percent⟩ carried meant ∧
        Says "-scale-[-03.5%]".toList ⟨"scale", .percent⟩ carried meant) ∧
      ∃ d : Descriptor Rat, ∃ y, describe? "border-[03.5px]".toList = .ok (some d) ∧
        d.inMeasure = .ok y ∧
        serialize d.property.name d.property.measure y d.token = "3.5px" := by
  have hborder : ("border-", ⟨"borderWidth", .px⟩) ∈ table := by decide +kernel
  have hscale : ("scale-", ⟨"scale", .percent⟩) ∈ table := by decide +kernel
  have hvalue : threeAndHalf.value = 7 / 2 := by decide +kernel
  have hcarried : threeAndHalf.value / 4 = 7 / 8 := by decide +kernel
  have hmeant : threeAndHalf.value / 16 = 7 / 32 := by decide +kernel
  have htext : numberText threeAndHalf.value ++ "px" = "3.5px" := by decide +kernel
  obtain ⟨hpixels, ⟨-, hleading⟩, hsigned, hwritten⟩ := lengths_survive threeAndHalf
  have hwidth := (hpixels _ _ hborder rfl).1
  rw [hcarried, hvalue] at hwidth
  rw [hcarried, hmeant] at hleading
  have hwritten := hwritten _ _ hborder rfl (by decide)
  rw [htext] at hwritten
  obtain ⟨carried, meant, hplain, -, -, hboth⟩ :=
    hsigned _ _ hscale (by decide) "%" (by decide)
  exact ⟨hwidth, hleading, ⟨carried, meant, hplain, hboth⟩, hwritten⟩

end Token
end Choreo
