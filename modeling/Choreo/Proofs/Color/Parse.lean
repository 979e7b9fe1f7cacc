import Choreo.Color.Parse
import Choreo.Proofs.Color.Notation
import Choreo.Token.Color

/-!
Which colors cannot be read.

A text that is no color is transparent (`parseText_of_not_describes`), and no strict notation fails.
Only the loose functional notation does, where a channel is beyond the largest double and the ones
before it are fit to be read (`parseText_error_iff`). A number is written out to be read, which
fails where it is too long (`parse_error_iff`). A token fails for the text in its brackets only
(`color?_error_iff`).
-/

namespace Choreo
namespace Color

/-! ## Outcomes -/

/-- A computation that overflows in one case, gives a result in another, and fails otherwise in all
others. -/
def Settles {β : Type} (high good : Prop) (x : Except NumberFault β) : Prop :=
  (high ∧ x = .error .overflow) ∨ (¬high ∧ good ∧ ∃ b, x = .ok b) ∨
    (¬high ∧ ¬good ∧ ∃ e, e ≠ .overflow ∧ x = .error e)

section
variable {β γ : Type} {high good high' good' : Prop} {x : Except NumberFault β}

/-- What comes first decides, unless it gives a result. -/
theorem Settles.bind {f : β → Except NumberFault γ} (hx : Settles high good x)
    (hf : ∀ b, Settles high' good' (f b)) :
    Settles (high ∨ (good ∧ high')) (good ∧ good') (x >>= f) := by
  rcases hx with ⟨hhigh, rfl⟩ | ⟨hhigh, hgood, b, rfl⟩ | ⟨hhigh, hgood, e, he, rfl⟩
  · exact .inl ⟨.inl hhigh, rfl⟩
  · rcases hf b with ⟨hhigh', h⟩ | ⟨hhigh', hgood', c, h⟩ | ⟨hhigh', hgood', e, he, h⟩
    · exact .inl ⟨.inr ⟨hgood, hhigh'⟩, h⟩
    · exact .inr (.inl ⟨by simp [hhigh, hhigh'], ⟨hgood, hgood'⟩, c, h⟩)
    · exact .inr (.inr ⟨by simp [hhigh, hhigh'], fun h => hgood' h.2, e, he, h⟩)
  · exact .inr (.inr ⟨by simp [hhigh, hgood], fun h => hgood h.1, e, he, rfl⟩)

theorem Settles.of_iff (hx : Settles high good x) (hhigh : high ↔ high') (hgood : good ↔ good') :
    Settles high' good' x := by
  rwa [propext hhigh, propext hgood] at hx

theorem Settles.ok (b : β) : Settles False True (.ok b : Except NumberFault β) :=
  .inr (.inl ⟨not_false, trivial, b, rfl⟩)

end

/-! ## Parts of the loose functional notation -/

/-- A part that says a number beyond the largest double. -/
def Overlarge (part : List Char) : Prop :=
  ∃ r, Text.readDecimal part = .ok r ∧ Binary64.exceedsDoubles r

/-- A part that says a number of which a channel can be made. -/
def Fit (part : List Char) : Prop :=
  ∃ r, Text.readDecimal part = .ok r ∧ r ≠ .nan ∧ ¬Binary64.exceedsDoubles r

/-- The first of some parts that is no channel is beyond the largest double. -/
def Overruns : List (List Char) → Prop
  | [] => False
  | part :: rest => Overlarge part ∨ Fit part ∧ Overruns rest

/-- The parts of a text in the loose functional notation. -/
def looseParts? (s : List Char) : Option (List (List Char)) :=
  (functionalBody? (Text.strip s)).map functionalParts

/-- A text whose channels overrun the doubles. -/
def Overflows (s : List Char) : Prop :=
  ∃ r g b rest, looseParts? s = some (r :: g :: b :: rest) ∧ Overruns [r, g, b]

theorem readDecimal_error {part : List Char} {e : NumberFault}
    (h : Text.readDecimal part = .error e) : e ≠ .overflow := by
  unfold Text.readDecimal at h
  generalize Text.splitSign (Text.stripWhere Text.isMargin part) = parts at h
  dsimp only at h
  split at h
  · cases h
  · cases h
    nofun

theorem readChannel_settles (part : List Char) :
    Settles (Overlarge part) (Fit part) (readChannel Float part) := by
  cases hread : Text.readDecimal part with
  | error e =>
    have hchannel : readChannel Float part = .error e := by
      rw [readChannel, readReal, hread]
      rfl
    exact .inr (.inr ⟨by simp [Overlarge, hread], by simp [Fit, hread], e, readDecimal_error hread,
      hchannel⟩)
  | ok r =>
    have hchannel : readChannel Float part = Scalar.truncate (Binary64.ofReading r) := by
      rw [readChannel, readReal, hread]
      rfl
    have hlarge : Binary64.exceedsDoubles r ↔ Overlarge part := by simp [Overlarge, hread]
    have hfit : (r ≠ .nan ∧ ¬Binary64.exceedsDoubles r) ↔ Fit part := by simp [Fit, hread]
    have hinfinite := Binary64.ofReading_infinite_iff r
    have hnan := Binary64.ofReading_nan_iff r
    have hexact : ∀ x, Exact.ofFloat (Binary64.ofReading r) = x →
        Scalar.exact (Binary64.ofReading r) = x := fun _ h => h
    refine Settles.of_iff ?_ hlarge hfit
    rw [hchannel, Scalar.truncate]
    cases hvalue : Exact.ofFloat (Binary64.ofReading r) with
    | infinite s =>
      rw [hexact _ hvalue]
      exact .inl ⟨hinfinite.mp ⟨s, hvalue⟩, rfl⟩
    | nan =>
      have hwithin : ¬Binary64.exceedsDoubles r := hinfinite.not.mp (by simp [hvalue])
      rw [hexact _ hvalue]
      exact .inr (.inr ⟨hwithin, fun h => h.1 (hnan.mp hvalue), .nanToWhole, by simp, rfl⟩)
    | finite s q =>
      have hwithin : ¬Binary64.exceedsDoubles r := hinfinite.not.mp (by simp [hvalue])
      have hnumber : r ≠ .nan := hnan.not.mp (by simp [hvalue])
      rw [hexact _ hvalue]
      exact .inr (.inl ⟨hwithin, ⟨hnumber, hwithin⟩, _, rfl⟩)

/-- A percent sign at the end makes an opacity a percentage. -/
def withoutPercent (part : List Char) : List Char :=
  if part.getLast? = some '%' then part.dropLast else part

/-- A part that says an opacity. -/
def Opacity (part : List Char) : Prop := ∃ r, Text.readDecimal (withoutPercent part) = .ok r

theorem readReal_settles (part : List Char) :
    Settles False (∃ r, Text.readDecimal part = .ok r)
      (readReal part : Except NumberFault Float) := by
  unfold readReal
  cases hread : Text.readDecimal part with
  | error e => exact .inr (.inr ⟨not_false, nofun, e, readDecimal_error hread, rfl⟩)
  | ok r => exact .inr (.inl ⟨not_false, ⟨r, rfl⟩, _, rfl⟩)

/-- A percent sign is looked for at the end. -/
theorem readAlpha_eq {α : Type} [Scalar α] (part : List Char) :
    (readAlpha part : Except NumberFault α) =
      if part.getLast? = some '%' then (readReal part.dropLast).map (· / Scalar.ofInt 100)
      else readReal part := by
  unfold readAlpha
  split
  · next ds hpart =>
    obtain rfl : part = ds.reverse ++ ['%'] := by
      rw [← List.reverse_reverse part, hpart, List.reverse_cons]
    rw [if_pos List.getLast?_concat, List.dropLast_concat]
  · next hpart =>
    have hlast : part.getLast? ≠ some '%' := by
      rw [← List.head?_reverse]
      intro hhead
      obtain ⟨ds, hds⟩ := List.head?_eq_some_iff.mp hhead
      exact hpart ds hds
    rw [if_neg hlast]

theorem readAlpha_settles (part : List Char) :
    Settles False (Opacity part) (readAlpha part : Except NumberFault Float) := by
  rw [readAlpha_eq]
  unfold Opacity withoutPercent
  split
  · rcases readReal_settles part.dropLast with ⟨⟨⟩, -⟩ | ⟨-, hread, x, hx⟩ | ⟨-, hread, e, he, hx⟩
    · exact .inr (.inl ⟨not_false, hread, _, by rw [hx]; rfl⟩)
    · exact .inr (.inr ⟨not_false, hread, e, he, by rw [hx]; rfl⟩)
  · exact readReal_settles part

/-- Three channels and perhaps an opacity, all fit to be read. -/
def Legible (r g b : List Char) (rest : List (List Char)) : Prop :=
  Fit r ∧ Fit g ∧ Fit b ∧ ∀ part ∈ rest.head?, Opacity part

theorem ofParts_settles (r g b : List Char) (rest : List (List Char)) :
    Settles (Overruns [r, g, b]) (Legible r g b rest)
      (ofParts r g b rest : Except NumberFault (Color Float)) := by
  refine (readChannel_settles r).bind fun r' => (readChannel_settles g).bind fun g' =>
    (readChannel_settles b).bind fun b' => ?_
  cases rest with
  | nil => exact (Settles.ok _).of_iff Iff.rfl (by simp)
  | cons a rest =>
    have halpha := (readAlpha_settles a).bind fun x : Float =>
      Settles.ok (Color.mk (.whole r') (.whole g') (.whole b') (.real x))
    exact halpha.of_iff (by simp [Overruns]) (by simp)

theorem ofChannels_doubles {c : Option Channels} (h : Modest c) :
    ∃ color : Color Float, ofChannels c = .ok color := by
  cases c with
  | none => exact ⟨_, rfl⟩
  | some c =>
    cases c with
    | three r g b => exact ⟨_, rfl⟩
    | four r g b a =>
      obtain ⟨n, rfl, hn⟩ := h
      have hbound : |mkRat n 255| < Binary64.overflowBound := by
        have hn := digits_le hn le_rfl
        rw [Rat.mkRat_eq_div, Int.cast_natCast, abs_of_nonneg (by positivity)]
        calc (n : Rat) / (255 : Nat) ≤ n := div_le_self (Nat.cast_nonneg n) (by norm_num)
          _ ≤ 2 ^ (316 : Int) := hn
          _ < Binary64.overflowBound := Binary64.lt_overflowBound (by decide)
      have hquotient : ∃ q : Quantity Float, (Quantity.whole n).dividedBy 255 = .ok q := by
        unfold Quantity.dividedBy
        dsimp only
        split
        · next s hexact =>
          exact absurd (Binary64.ofRat_infinite_iff.mp ⟨s, hexact⟩) (not_le.mpr hbound)
        · exact ⟨_, rfl⟩
      obtain ⟨q, hq⟩ := hquotient
      exact ⟨⟨.whole r, .whole g, .whole b, q⟩, by rw [ofChannels, hq]; rfl⟩

/-! ## Texts -/

/-- A text that describes a color: in the loose functional notation, if it has three parts in that,
and else in a strict one. -/
inductive Describes (s : List Char) : Prop where
  | loose {r g b : List Char} {rest : List (List Char)}
      (parts : looseParts? s = some (r :: g :: b :: rest)) (legible : Legible r g b rest)
  | strict {c : Channels}
      (parts : ∀ r g b rest, looseParts? s ≠ some (r :: g :: b :: rest))
      (channels : channels? Float (Text.strip s) = .ok (some c))

theorem orTransparent_error {e : NumberFault} (he : e ≠ .overflow) :
    orTransparent (.error e) = .ok (transparent : Color Float) := by
  cases e with
  | overflow => exact absurd rfl he
  | _ => rfl

/-- What a text is read as: a color it describes, no color at all, or a fault. -/
theorem parseText_cases (s : List Char) :
    (Overflows s ∧ (parseText s : Except _ (Color Float)) = .error .overflow) ∨
      (¬Overflows s ∧ ∃ c : Color Float, parseText s = .ok c ∧
        (¬Describes s → c = transparent)) := by
  have hbody : ∀ {cs : List Char}, cs.isEmpty = true ∨ cs = "transparent".toList →
      functionalBody? cs = none := by
    rintro cs (hempty | rfl)
    · rw [List.isEmpty_iff.mp hempty]
      rfl
    · decide
  unfold parseText
  dsimp only
  split_ifs with hnone
  · refine .inr ⟨?_, transparent, rfl, fun _ => rfl⟩
    rintro ⟨r, g, b, rest, hparts, -⟩
    rw [looseParts?, hbody hnone] at hparts
    cases hparts
  · split
    · next r g b rest hparts =>
      have hparts : looseParts? s = some (r :: g :: b :: rest) := hparts
      have hwithin : ¬Overruns [r, g, b] → ¬Overflows s := by
        rintro hwithin ⟨r', g', b', rest', hparts', hover⟩
        rw [hparts, Option.some.injEq] at hparts'
        cases hparts'
        exact hwithin hover
      rcases ofParts_settles r g b rest with
        ⟨hover, h⟩ | ⟨hnot, hlegible, c, h⟩ | ⟨hnot, -, e, he, h⟩
      · exact .inl ⟨⟨r, g, b, rest, hparts, hover⟩, by rw [h]; rfl⟩
      · refine .inr ⟨hwithin hnot, c, by rw [h]; rfl, fun hnone => ?_⟩
        exact absurd (.loose hparts hlegible) hnone
      · exact .inr ⟨hwithin hnot, transparent, by rw [h, orTransparent_error he], fun _ => rfl⟩
    · next hparts =>
      have hparts : ∀ r g b rest, looseParts? s ≠ some (r :: g :: b :: rest) := hparts
      obtain ⟨c, hc, hmodest⟩ := channels?_doubles (Text.strip s)
      obtain ⟨color, hcolor⟩ := ofChannels_doubles hmodest
      refine .inr ⟨fun ⟨r, g, b, rest, h, _⟩ => hparts r g b rest h, color, ?_, fun hnone => ?_⟩
      · rw [hc]
        show orTransparent (ofChannels c) = _
        rw [hcolor]
        rfl
      · cases c with
        | none => exact (Except.ok.inj hcolor).symm
        | some c => exact absurd (.strict hparts hc) hnone

/-- A text fails where its channels overrun the doubles. -/
theorem parseText_error_iff {s : List Char} {e : NumberFault} :
    (parseText s : Except _ (Color Float)) = .error e ↔ Overflows s ∧ e = .overflow := by
  rcases parseText_cases s with ⟨hover, h⟩ | ⟨hwithin, c, h, -⟩
  · rw [h]
    simp [hover, eq_comm]
  · rw [h]
    simp [hwithin]

theorem parseText_of_not_describes {s : List Char} (hover : ¬Overflows s) (hnone : ¬Describes s) :
    parseText s = .ok (transparent : Color Float) := by
  rcases parseText_cases s with ⟨hover', -⟩ | ⟨-, c, h, hc⟩
  · exact absurd hover' hover
  · rw [h, hc hnone]

/-! ## Values -/

/-- Values that no color is read from, and what they fail with. -/
inductive Unreadable : Value Float → NumberFault → Prop where
  | text {s : String} (overflows : Overflows s.toList) : Unreadable (.text s) .overflow
  | number {n : Int} (long : NumberFault.digitLimit < (toString n.natAbs).length) :
    Unreadable (.number (.whole n)) .tooLong

theorem text_error_iff {q : Quantity Float} {e : NumberFault} :
    q.text = .error e ↔ ∃ n : Int, q = .whole n ∧
      NumberFault.digitLimit < (toString n.natAbs).length ∧ e = .tooLong := by
  cases q with
  | real x => simp [Quantity.text]
  | whole n =>
    have hwhole : (Quantity.whole n : Quantity Float).text = .error e ↔
        NumberFault.digitLimit < (toString n.natAbs).length ∧ e = .tooLong := by
      unfold Quantity.text
      dsimp only
      split_ifs with hlong
      · exact ⟨fun h => ⟨hlong, (Except.error.inj h).symm⟩, fun h => by rw [h.2]⟩
      · exact iff_of_false nofun fun h => hlong h.1
    rw [hwhole]
    simp

/-- Reading a color off a value fails in two ways. -/
theorem parse_error_iff (v : Value Float) (e : NumberFault) :
    (parse v : Except _ (Color Float)) = .error e ↔ Unreadable v e := by
  cases v with
  | none => exact iff_of_false nofun nofun
  | flag b => exact iff_of_false nofun nofun
  | number q =>
    have hnumber : (parse (.number q) : Except _ (Color Float)) = .error e ↔ q.text = .error e := by
      unfold parse
      cases h : q.text <;> simp [Except.map, h]
    rw [hnumber, text_error_iff]
    constructor
    · rintro ⟨n, rfl, hlong, rfl⟩
      exact .number hlong
    · rintro ⟨⟩
      exact ⟨_, rfl, ‹_›, rfl⟩
  | text s =>
    show parseText s.toList = _ ↔ _
    rw [parseText_error_iff]
    constructor
    · rintro ⟨hover, rfl⟩
      exact .text hover
    · rintro ⟨⟩
      exact ⟨‹_›, rfl⟩
  | tuple xs =>
    have htuple : ∃ c : Color Float, parse (.tuple xs) = .ok c := by
      unfold parse
      split
      · exact ⟨_, rfl⟩
      · exact ⟨_, rfl⟩
      · next h => cases h
      · next h => cases h
      · exact ⟨_, rfl⟩
    obtain ⟨c, hc⟩ := htuple
    rw [hc]
    exact iff_of_false nofun nofun

/-! ## Names -/

theorem readWhole_error {base : Nat} {cs : List Char} {e : NumberFault}
    (h : Text.readWhole base cs = .error e) : e ≠ .overflow := by
  unfold Text.readWhole at h
  dsimp only at h
  split at h
  · cases h
    nofun
  · split_ifs at h
    · cases h
      nofun
    · cases h
      nofun

theorem hexChannels_ne_overflow (cs : List Char) : hexChannels cs ≠ .error .overflow := by
  unfold hexChannels
  dsimp only
  generalize cs.dropWhile (· == '#') = digits
  cases hr : Text.readWhole 16 (digits.take 2) with
  | error e =>
    intro h
    exact readWhole_error hr (Except.error.inj h)
  | ok r =>
    cases hg : Text.readWhole 16 ((digits.drop 2).take 2) with
    | error e =>
      intro h
      exact readWhole_error hg (Except.error.inj h)
    | ok g =>
      cases hb : Text.readWhole 16 ((digits.drop 4).take 2) with
      | error e =>
        intro h
        exact readWhole_error hb (Except.error.inj h)
      | ok b => nofun

theorem ofHexText_ne_overflow (s : String) :
    (ofHexText s : Except _ (Color Float)) ≠ .error (.number .overflow) := by
  unfold ofHexText
  split
  · nofun
  · next e he =>
    intro h
    cases h
    exact hexChannels_ne_overflow s.toList he

theorem resolveOpaque_overflow_iff (palette : Palette) (cs : List Char) :
    (resolveOpaque palette cs : Except _ (Color Float)) = .error (.number .overflow) ↔
      isBracketed cs = true ∧ Overflows (withBlanks ((cs.drop 1).dropLast)) := by
  unfold resolveOpaque
  dsimp only
  split_ifs with hbrackets hnone
  · have htext := parseText_error_iff (s := withBlanks ((cs.drop 1).dropLast)) (e := .overflow)
    rw [and_iff_left rfl] at htext
    rw [and_iff_right hbrackets, ← htext]
    cases (parseText (withBlanks ((cs.drop 1).dropLast)) : Except _ (Color Float)) <;>
      simp [Except.mapError]
  · exact iff_of_false nofun fun h => hbrackets h.1
  · refine iff_of_false ?_ fun h => hbrackets h.1
    split
    · exact ofHexText_ne_overflow _
    · split
      · exact ofHexText_ne_overflow _
      · nofun

section
variable {cs : List Char}

theorem not_isBracketed (h : cs.head? ≠ some '[') : isBracketed cs = false := by
  rw [isBracketed, beq_eq_false_iff_ne.mpr h, Bool.false_and]

/-- A name with an opacity is not in brackets. -/
theorem not_isBracketed_front (h : cs.head? ≠ some '[') :
    isBracketed (cs.takeWhile (· != '/')) = false := by
  refine not_isBracketed ?_
  rw [List.head?_takeWhile]
  intro hfront
  exact h (Option.filter_eq_some_iff.mp hfront).1

end

/-- A name fails where the text in its brackets overruns the doubles. -/
theorem resolve_overflow_iff (palette : Palette) (s : String) :
    (resolve palette s : Except _ (Color Float)) = .error (.number .overflow) ↔
      isBracketed s.toList = true ∧ Overflows (withBlanks ((s.toList.drop 1).dropLast)) := by
  unfold resolve
  dsimp only
  generalize s.toList = cs
  split_ifs with hslash
  · rw [Bool.and_eq_true, bne_iff_ne] at hslash
    refine iff_of_false ?_ fun h => by simp [not_isBracketed hslash.2] at h
    have hopaque := (resolveOpaque_overflow_iff palette (cs.takeWhile (· != '/'))).not.mpr
      fun h => by simp [not_isBracketed_front hslash.2] at h
    cases hpercent : Text.readDecimal ((cs.dropWhile (· != '/')).drop 1) with
    | error e =>
      rw [readReal, hpercent]
      intro h
      exact readDecimal_error hpercent (ColorFault.number.inj (Except.error.inj h))
    | ok r =>
      rw [readReal, hpercent]
      cases hcolor : (resolveOpaque palette (cs.takeWhile (· != '/')) : Except _ (Color Float)) with
      | error e =>
        intro h
        exact hopaque (hcolor.trans h)
      | ok c => nofun
  · exact resolveOpaque_overflow_iff palette cs

end Color

/-! ## Tokens -/

namespace Token

/-- The text in the brackets of a color token, with its blanks. -/
def Bracketed (token text : List Char) : Prop :=
  ∃ name, (colorStarts.findSome? fun start => after? start token) = some name ∧
    Color.isBracketed name = true ∧ text = Color.withBlanks ((name.drop 1).dropLast)

/-- A color token fails where the text in its brackets overruns the doubles. -/
theorem color?_error_iff {token : List Char} {e : NumberFault} :
    (color? token : Except _ (Option (Color Float))) = .error e ↔
      ∃ text, Bracketed token text ∧ Color.Overflows text ∧ e = .overflow := by
  unfold color? Bracketed
  cases hname : colorStarts.findSome? fun start => after? start token with
  | none => simp
  | some name =>
    have hresolve := Color.resolve_overflow_iff Palette.standard (String.ofList name)
    rw [String.toList_ofList] at hresolve
    dsimp only
    constructor
    · intro h
      split at h
      · cases h
      · next hoverflow =>
        obtain ⟨hbrackets, hover⟩ := hresolve.mp hoverflow
        exact ⟨_, ⟨name, rfl, hbrackets, rfl⟩, hover, (Except.error.inj h).symm⟩
      · cases h
    · rintro ⟨_, ⟨name', hname', hbrackets, rfl⟩, hover, rfl⟩
      cases hname'
      rw [hresolve.mpr ⟨hbrackets, hover⟩]

end Token
end Choreo
