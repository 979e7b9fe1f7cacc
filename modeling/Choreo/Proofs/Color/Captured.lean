import Choreo.Proofs.Color.Functional
import Choreo.Proofs.Color.Parse

/-!
Strict notations that the loose one captures.

A text is tried in the loose functional notation first, and that has lower case only. So a strict
notation of three channels is read as it says unless it opens with `rgb(`, in lower case. Then its
channels are taken for numbers: percentages are none, so the color is transparent, and a whole
number is read through a double (`Color.parse_strict`).
-/

namespace Choreo

theorem forall₂_of_mapM {α β : Type} {f : α → Option β} {xs : List α} {ys : List β}
    (h : xs.mapM f = some ys) : List.Forall₂ (fun x y => f x = some y) xs ys := by
  induction xs generalizing ys with
  | nil =>
    cases h
    exact .nil
  | cons x xs ih =>
    rw [List.mapM_cons] at h
    simp only [bind, Option.bind_eq_some_iff] at h
    obtain ⟨y, hy, rest, hrest, heq⟩ := h
    cases heq
    exact .cons hy (ih hrest)

theorem three_of_mapM {α β : Type} {f : α → Option β} {xs : List α} {l m n : β}
    (h : xs.mapM f = some [l, m, n]) :
    ∃ a b c, xs = [a, b, c] ∧ f a = some l ∧ f b = some m ∧ f c = some n := by
  have h := forall₂_of_mapM h
  cases h with
  | cons ha h =>
    cases h with
    | cons hb h =>
      cases h with
      | cons hc h =>
        cases h
        exact ⟨_, _, _, rfl, ha, hb, hc⟩

theorem exists_of_forall₂ {α β : Type} {R : α → β → Prop} {xs : List α} {ys : List β}
    (h : List.Forall₂ R xs ys) {x : α} (hx : x ∈ xs) : ∃ y, R x y := by
  induction h with
  | nil => cases hx
  | cons hy _ ih =>
    rcases List.mem_cons.mp hx with rfl | hx
    · exact ⟨_, hy⟩
    · exact ih hx

namespace Color
open Text

/-! ## Letters -/

theorem toLower_letter {c : Char} (h : c.val ≥ 'A'.val ∧ c.val ≤ 'Z'.val) :
    97 ≤ c.toLower.toNat ∧ c.toLower.toNat ≤ 122 := by
  have hlow : 65 ≤ c.val.toNat := h.1
  have hhigh : c.val.toNat ≤ 90 := h.2
  have hstep : ('a'.val - 'A'.val).toNat = 32 := rfl
  have hval : c.toLower.val = c.val + ('a'.val - 'A'.val) := congrArg Char.val (dif_pos h)
  have hcode : c.toLower.toNat = c.val.toNat + 32 := by
    show c.toLower.val.toNat = c.val.toNat + 32
    rw [hval, UInt32.toNat_add]
    omega
  omega

/-- Only letters are lowered, and to letters. -/
theorem lower_eq_self {c : Char} (h : ¬(97 ≤ (lower c).toNat ∧ (lower c).toNat ≤ 122)) :
    lower c = c := by
  unfold lower at h ⊢
  split at h
  · exact absurd (by decide) h
  · next hkelvin =>
    rw [if_neg hkelvin]
    by_cases hupper : c.val ≥ 'A'.val ∧ c.val ≤ 'Z'.val
    · exact absurd (toLower_letter hupper) h
    · exact dif_neg hupper

theorem not_letter_of_isDigit {c : Char} (hc : isDigit c = true) :
    ¬(97 ≤ c.toNat ∧ c.toNat ≤ 122) := by
  have h := of_isDigit (p := fun n => !(97 ≤ n && n ≤ 122)) (by decide +kernel) hc
  rw [Bool.not_eq_true', Bool.and_eq_false_iff, decide_eq_false_iff_not,
    decide_eq_false_iff_not] at h
  exact fun hletter => h.elim (· hletter.1) (· hletter.2)

/-- A parenthesis is a parenthesis in either case. -/
theorem mem_map_lower_iff {cs : List Char} : '(' ∈ cs.map lower ↔ '(' ∈ cs := by
  constructor
  · intro h
    obtain ⟨c, hc, hlower⟩ := List.mem_map.mp h
    have hself : lower c = c := lower_eq_self (by rw [hlower]; decide)
    exact (hself.symm.trans hlower) ▸ hc
  · intro h
    exact List.mem_map.mpr ⟨'(', h, by decide⟩

/-! ## Arguments -/

section
variable {function : String} {cs body : List Char} {args : List (List Char)}

theorem arguments?_eq_some (h : arguments? function cs = some args) :
    ∃ body, cs = (function ++ "(").toList ++ body ++ [')'] ∧
      args = (body.splitOn ',').map strip := by
  unfold arguments? at h
  split at h
  · next body hcall =>
    obtain ⟨call, hopened, hreverse⟩ := Option.map_eq_some_iff.mp hcall
    cases h
    have hcs := List.isPrefixOf?_eq_some_iff_append_eq.mp hopened
    have hcall : call = body.reverse ++ [')'] := by
      rw [← List.reverse_reverse call, hreverse, List.reverse_cons]
    refine ⟨body.reverse, ?_, rfl⟩
    rw [← hcs, hcall, List.append_assoc]
  · cases h

theorem mem_intercalate {c : Char} {texts : List (List Char)} (h : c ∈ [','].intercalate texts) :
    c = ',' ∨ ∃ text ∈ texts, c ∈ text := by
  induction texts with
  | nil => cases h
  | cons text texts ih =>
    cases texts with
    | nil =>
      rw [List.intercalate_singleton] at h
      exact .inr ⟨text, List.mem_cons_self, h⟩
    | cons next texts =>
      rw [List.intercalate_cons_cons, List.append_assoc, List.mem_append,
        List.singleton_append, List.mem_cons] at h
      rcases h with htext | hcomma | hrest
      · exact .inr ⟨text, List.mem_cons_self, htext⟩
      · exact .inl hcomma
      · rcases ih hrest with hcomma | ⟨other, hother, hc⟩
        · exact .inl hcomma
        · exact .inr ⟨other, List.mem_cons_of_mem _ hother, hc⟩

/-- Between the parentheses there are arguments, commas and blanks. -/
theorem mem_body {c : Char} (hc : c ∈ body) :
    c = ',' ∨ isBlank c = true ∨ ∃ arg ∈ (body.splitOn ',').map strip, c ∈ arg := by
  have hjoin : [','].intercalate (body.splitOn ',') = body := List.intercalate_splitOn ','
  rw [← hjoin] at hc
  rcases mem_intercalate hc with rfl | ⟨piece, hpiece, hmem⟩
  · exact .inl rfl
  · obtain ⟨front, back, hcs, hfront, hback⟩ := exists_stripWhere isBlank piece
    rw [hcs, List.append_assoc, List.mem_append, List.mem_append] at hmem
    rcases hmem with hmem | hmem | hmem
    · exact .inr (.inl (hfront c hmem))
    · exact .inr (.inr ⟨strip piece, List.mem_map_of_mem hpiece, hmem⟩)
    · exact .inr (.inl (hback c hmem))

/-- Arguments without separators in them are the parts of the loose notation. -/
theorem functionalParts_arguments
    (hargs : ∀ arg ∈ (body.splitOn ',').map strip, arg ≠ [] ∧ ∀ c ∈ arg, isSeparator c = false) :
    functionalParts body = (body.splitOn ',').map strip := by
  have hcomma : isSeparator ',' = true := rfl
  have hblank : ∀ c, isBlank c = true → isSeparator c = true := by
    intro c hc
    rw [isSeparator, hc]
    rfl
  have hsplit : pieces isSeparator body = ((body.splitOn ',').map strip).flatMap
      (pieces isSeparator) := by
    rw [List.flatMap_map]
    simp only [strip, pieces_stripWhere hblank]
    rw [← pieces_intercalate hcomma, List.intercalate_splitOn]
  have hwords : ∀ {args : List (List Char)},
      (∀ arg ∈ args, arg ≠ [] ∧ ∀ c ∈ arg, isSeparator c = false) →
      args.flatMap (pieces isSeparator) = args := by
    intro args hargs
    induction args with
    | nil => rfl
    | cons arg args ih =>
      obtain ⟨hne, hword⟩ := hargs arg List.mem_cons_self
      rw [List.flatMap_cons, pieces_word hword hne,
        ih fun other hother => hargs other (List.mem_cons_of_mem _ hother)]
      rfl
  exact hsplit.trans (hwords hargs)

end

/-! ## Numbers -/

section
variable {cs : List Char} {n : Nat}

theorem whole?_eq_some (h : whole? cs = some n) :
    cs ≠ [] ∧ (∀ c ∈ cs, isDigit c = true) ∧ numeral 10 (cs.filterMap digit?) = n := by
  unfold whole? at h
  split_ifs at h with hempty
  obtain ⟨ds, hds, hvalue⟩ := Option.map_eq_some_iff.mp h
  refine ⟨fun hnil => hempty (List.isEmpty_iff.mpr hnil), ?_, ?_⟩
  · intro c hc
    obtain ⟨d, hd⟩ := exists_of_forall₂ (forall₂_of_mapM hds) hc
    exact Option.isSome_iff_exists.mpr ⟨d, hd⟩
  · rw [filterMap_of_mapM hds, hvalue]

theorem percent?_eq_some (h : percent? cs = some n) :
    ∃ ds, cs = ds ++ ['%'] ∧ whole? ds = some n := by
  unfold percent? at h
  split at h
  · next ds hreverse =>
    refine ⟨ds.reverse, ?_, h⟩
    rw [← List.reverse_reverse cs, hreverse, List.reverse_cons]
  · cases h

theorem isPlain_of_whole? (h : whole? cs = some n) : IsPlain cs :=
  fun c hc => .inl ((whole?_eq_some h).2.1 c hc)

theorem isPlain_of_percent? (h : percent? cs = some n) : IsPlain cs := by
  obtain ⟨ds, rfl, hwhole⟩ := percent?_eq_some h
  intro c hc
  rcases List.mem_append.mp hc with hc | hc
  · exact isPlain_of_whole? hwhole c hc
  · exact .inr (.inr (List.mem_singleton.mp hc))

theorem openingDecimal?_plain {cs : List Char} {m places : Nat}
    (h : openingDecimal? cs = some (m, places, [])) : ∀ c ∈ cs, isDigit c = true ∨ c = '.' := by
  unfold openingDecimal? at h
  dsimp only at h
  rw [← List.takeWhile_append_dropWhile (p := isDigit) (l := cs)]
  intro c hc
  rcases List.mem_append.mp hc with hwhole | hrest
  · exact .inl (List.mem_takeWhile_imp hwhole)
  · split at h
    · next r hr =>
      split_ifs at h
      rw [Option.some.injEq, Prod.mk.injEq, Prod.mk.injEq] at h
      rw [hr] at hrest
      rcases List.mem_cons.mp hrest with hpoint | hplace
      · exact .inr hpoint
      · exact .inl (List.dropWhile_eq_nil_iff.mp h.2.2 c hplace)
    · split_ifs at h
      rw [Option.some.injEq, Prod.mk.injEq, Prod.mk.injEq] at h
      have hnil : cs.dropWhile isDigit = [] := h.2.2
      rw [hnil] at hrest
      cases hrest

theorem decimal?_reading {x : Float} (h : decimal? cs = some x) :
    ∃ m places : Nat, openingDecimal? cs = some (m, places, []) ∧
      x = Binary64.ofReading (.finite false m (-(places : Int))) := by
  unfold decimal? at h
  split at h
  · next m places _ hopening =>
    cases h
    exact ⟨m, places, hopening, rfl⟩
  · cases h

theorem decimal?_eq_some {x : Float} (h : decimal? cs = some x) :
    ∀ c ∈ cs, isDigit c = true ∨ c = '.' := by
  obtain ⟨m, places, hopening, -⟩ := decimal?_reading h
  exact openingDecimal?_plain hopening

theorem fraction?_parts {x : Float} (h : fraction? cs = some x) :
    ∃ ds y, cs = ds ++ ['%'] ∧ decimal? ds = some y ∧ x = y / Scalar.ofInt 100 := by
  unfold fraction? at h
  split at h
  · next ds hreverse =>
    obtain ⟨y, hy, rfl⟩ := Option.map_eq_some_iff.mp h
    refine ⟨ds.reverse, y, ?_, hy, rfl⟩
    rw [← List.reverse_reverse cs, hreverse, List.reverse_cons]
  · cases h

theorem fraction?_eq_some {x : Float} (h : fraction? cs = some x) : IsPlain cs := by
  obtain ⟨ds, y, rfl, hy, -⟩ := fraction?_parts h
  intro c hc
  rcases List.mem_append.mp hc with hc | hc
  · exact (decimal?_eq_some hy c hc).imp_right .inl
  · exact .inr (.inr (List.mem_singleton.mp hc))

theorem hueArguments?_parts {args : List (List Char)} {h a b : Float}
    (hargs : hueArguments? (some args) = some (h, a, b)) :
    ∃ u v w x, args = [u, v, w] ∧ decimal? u = some x ∧ h = x / Scalar.ofInt 360 ∧
      fraction? v = some a ∧ fraction? w = some b := by
  unfold hueArguments? at hargs
  split at hargs
  · next u v w hsome =>
    cases hsome
    simp only [bind, Option.bind_eq_some_iff] at hargs
    obtain ⟨x, hx, y, hy, z, hz, heq⟩ := hargs
    cases heq
    exact ⟨u, v, w, x, rfl, hx, rfl, hy, hz⟩
  · cases hargs

theorem hueArguments?_eq_some {args : List (List Char)} {h a b : Float}
    (hargs : hueArguments? (some args) = some (h, a, b)) : ∀ arg ∈ args, IsPlain arg := by
  obtain ⟨u, v, w, x, rfl, hx, -, hv, hw⟩ := hueArguments?_parts hargs
  simp only [List.forall_mem_cons, List.not_mem_nil, false_imp_iff, forall_const, and_true]
  exact ⟨fun c hc => (decimal?_eq_some hx c hc).imp_right .inl, fraction?_eq_some hv,
    fraction?_eq_some hw⟩

end

/-! ## Strict notations -/

/-- How a text came by three channels: by a word or hexadecimal digits, by whole numbers, by
percentages or by a hue. -/
inductive Strict (cs : List Char) (r g b : Int) : Prop where
  | word (plain : '(' ∉ cs)
  | whole {args : List (List Char)} {l m n : Nat}
      (call : arguments? "rgb" (cs.map lower) = some args)
      (channels : args.mapM whole? = some [l, m, n]) (red : r = l) (green : g = m) (blue : b = n)
  | percent {args : List (List Char)} {l m n : Nat}
      (call : arguments? "rgb" (cs.map lower) = some args)
      (channels : args.mapM percent? = some [l, m, n])
  | hue {function : String} {args : List (List Char)} (hue : function ∈ ["hsl", "hsv", "hsb"])
      (call : arguments? function (cs.map lower) = some args)
      (plain : ∀ arg ∈ args, IsPlain arg)

section
variable {cs : List Char} {r g b : Int}

theorem not_mem_of_ofName? {c : Channels} (h : ofName? cs = some c) : '(' ∉ cs := by
  have hnames : ∀ entry ∈ named, '(' ∉ entry.1.toList := by decide +kernel
  obtain ⟨rgb, hlookup, -⟩ := Option.map_eq_some_iff.mp h
  obtain ⟨front, rest, hsplit, -⟩ := List.lookup_eq_some_iff.mp hlookup
  have hname := hnames (String.ofList cs, rgb) (by rw [hsplit]; simp)
  rwa [String.toList_ofList] at hname

theorem not_mem_of_ofHex? {c : Channels} (h : ofHex? cs = some c) : '(' ∉ cs := by
  intro hmem
  have hnone : (if '('.toNat < 128 then hexDigit? '(' else none) = none := by decide
  cases hdigits : hexDigits? cs with
  | none =>
    unfold ofHex? at h
    rw [hdigits] at h
    cases h
  | some ds =>
    obtain ⟨d, hd⟩ := exists_of_forall₂ (forall₂_of_mapM hdigits) hmem
    rw [hnone] at hd
    cases hd

theorem strict_of_ofWholeCall? (h : ofWholeCall? (cs.map lower) = some (.three r g b)) :
    Strict cs r g b := by
  unfold ofWholeCall? at h
  split at h
  · next hchannels =>
    obtain ⟨args, hcall, hargs⟩ := Option.bind_eq_some_iff.mp hchannels
    cases h
    exact .whole hcall hargs rfl rfl rfl
  · cases h
  · cases h

theorem strict_of_ofComputedCall?
    (h : ofComputedCall? Float (cs.map lower) = .ok (some (.three r g b))) : Strict cs r g b := by
  have hhue : ∀ {args : Option (List (List Char))} {x y z : Float},
      hueArguments? args = some (x, y, z) → ∃ l, args = some l ∧ ∀ arg ∈ l, IsPlain arg := by
    intro args x y z hargs
    cases args with
    | none => cases hargs
    | some l => exact ⟨l, rfl, hueArguments?_eq_some hargs⟩
  unfold ofComputedCall? at h
  dsimp only at h
  split at h
  · next l m n hchannels =>
    obtain ⟨args, hcall, hargs⟩ := Option.bind_eq_some_iff.mp hchannels
    exact .percent hcall hargs
  · split at h
    · next hlight =>
      obtain ⟨args, hcall, hplain⟩ := hhue hlight
      exact .hue (by simp) hcall hplain
    · split at h
      · next hbright =>
        obtain ⟨args, hcall, hplain⟩ := hhue hbright
        rcases Option.or_eq_some_iff.mp hcall with hcall | ⟨-, hcall⟩
        · exact .hue (by simp) hcall hplain
        · exact .hue (by simp) hcall hplain
      · cases h

theorem strict_of_channels? (h : channels? Float cs = .ok (some (.three r g b))) :
    Strict cs r g b := by
  unfold channels? at h
  dsimp only at h
  split at h
  · cases h
  · split at h
    · next c hdirect =>
      cases h
      split at hdirect
      · next ds hcs =>
        refine .word fun hmem => ?_
        rw [← mem_map_lower_iff, hcs, List.mem_cons] at hmem
        rcases hmem with hmem | hmem
        · exact absurd hmem (by decide)
        · exact not_mem_of_ofHex? hdirect hmem
      · rcases Option.or_eq_some_iff.mp hdirect with hname | ⟨-, hcall⟩
        · exact .word fun hmem => not_mem_of_ofName? hname (mem_map_lower_iff.mpr hmem)
        · exact strict_of_ofWholeCall? hcall
    · exact strict_of_ofComputedCall? h

end

/-! ## Reading -/

section
variable {cs : List Char} {n : Nat}

theorem openingDecimal?_digits (hne : cs ≠ []) (hdigits : ∀ c ∈ cs, isDigit c = true)
    {rest : List Char} (hrest : ∀ c ∈ rest.head?, isDigit c = false ∧ c ≠ '.') :
    openingDecimal? (cs ++ rest) = some (numeral 10 (cs.filterMap digit?), 0, rest) := by
  obtain ⟨htake, hdrop⟩ := takeWhile_digits hdigits fun c hc => (hrest c hc).1
  have hpoint : ∀ r, rest ≠ '.' :: r := fun r h => (hrest '.' (by rw [h]; rfl)).2 rfl
  have hfull : (cs.filterMap digit?).isEmpty = false := by
    obtain ⟨c, cs, rfl⟩ := List.exists_cons_of_ne_nil hne
    obtain ⟨d, hd⟩ := Option.isSome_iff_exists.mp (hdigits c List.mem_cons_self)
    rw [List.filterMap_cons_some hd]
    rfl
  simp only [openingDecimal?, htake, hdrop]
  simp [hfull]

theorem ofReading_whole (n : Nat) :
    Binary64.ofReading (.finite false n 0) = Binary64.ofRat (n : Int) := by
  rw [Binary64.ofReading, if_neg Bool.false_ne_true, Binary64.ofDecimal]
  rcases Nat.eq_zero_or_pos n with rfl | hpos
  · rw [if_pos rfl, Nat.cast_zero, Int.cast_zero, Binary64.ofRat_zero]
  · have hlog : ¬(n.log2 : Int) + 3 * 0 < -1200 := by omega
    have hcast : ((n : Int) : Rat) = (n : Rat) := Int.cast_natCast n
    rw [Binary64.ofRat_of_pos (by rw [hcast]; exact Nat.cast_pos.mpr hpos), if_neg hpos.ne',
      if_neg (by decide), if_neg hlog, if_neg (by decide), Rat.num_intCast, Rat.den_intCast,
      Int.natAbs_natCast]
    exact congrArg (Binary64.ofQuotient · 1) (Nat.mul_one n)

/-- Digits, and perhaps a point with more of them, are a decimal numeral as they stand. -/
theorem readDecimal_of_opening {m places : Nat} (h : openingDecimal? cs = some (m, places, [])) :
    readDecimal cs = .ok (.finite false m (-(places : Int))) := by
  have hplain : IsPlain cs := fun c hc => (openingDecimal?_plain h c hc).imp_right .inl
  rw [hplain.readDecimal_eq, hplain.readUnsigned?_eq h, if_pos rfl]

theorem readDecimal_whole (h : whole? cs = some n) : readDecimal cs = .ok (.finite false n 0) := by
  obtain ⟨hne, hdigits, hvalue⟩ := whole?_eq_some h
  have hopening : openingDecimal? (cs ++ []) = some (numeral 10 (cs.filterMap digit?), 0, []) :=
    openingDecimal?_digits hne hdigits nofun
  rw [List.append_nil, hvalue] at hopening
  exact readDecimal_of_opening hopening

/-- A whole number is read through the nearest double. -/
theorem readChannel_whole (h : whole? cs = some n) :
    readChannel Float cs = Scalar.truncate (Scalar.ofInt n : Float) := by
  have hdouble : Binary64.ofReading (.finite false n 0) = Binary64.ofRat (n : Int) :=
    ofReading_whole n
  rw [readChannel, readReal, readDecimal_whole h]
  exact congrArg Scalar.truncate hdouble

/-- A percentage is no number. -/
theorem readChannel_percent (h : percent? cs = some n) :
    ∃ text, readChannel Float cs = .error (.notReal text) := by
  obtain ⟨ds, rfl, hwhole⟩ := percent?_eq_some h
  obtain ⟨hne, hdigits, -⟩ := whole?_eq_some hwhole
  have hplain := isPlain_of_percent? h
  have hpercent : ∀ c ∈ ['%'].head?, isDigit c = false ∧ c ≠ '.' := by
    rintro c ⟨⟩
    decide
  have hopening := openingDecimal?_digits hne hdigits hpercent
  have hread : readDecimal (ds ++ ['%']) = .error (.notReal (String.ofList (ds ++ ['%']))) := by
    rw [hplain.readDecimal_eq, hplain.readUnsigned?_eq hopening, if_neg (by simp)]
    rfl
  rw [readChannel, readReal, hread]
  exact ⟨_, rfl⟩

end

/-! ## Calls -/

section
variable {function : String} {cs body : List Char} {args : List (List Char)}

theorem not_mem_body {c : Char} (hc : isSeparator c = false)
    (hargs : ∀ arg ∈ (body.splitOn ',').map strip, c ∉ arg) : c ∉ body := by
  intro hmem
  rcases mem_body hmem with rfl | hblank | ⟨arg, harg, hmem⟩
  · cases hc
  · rw [isSeparator, hblank] at hc
    cases hc
  · exact hargs arg harg hmem

theorem mem_intercalate_of_mem {texts : List (List Char)} {text : List Char} (htext : text ∈ texts)
    {c : Char} (hc : c ∈ text) : c ∈ [','].intercalate texts := by
  induction texts with
  | nil => cases htext
  | cons first texts ih =>
    cases texts with
    | nil =>
      rw [List.intercalate_singleton]
      exact List.mem_singleton.mp htext ▸ hc
    | cons next texts =>
      rw [List.intercalate_cons_cons, List.append_assoc, List.mem_append]
      rcases List.mem_cons.mp htext with rfl | htext
      · exact .inl hc
      · exact .inr (List.mem_append_right _ (ih htext))

theorem mem_body_of_mem {arg : List Char} (harg : arg ∈ (body.splitOn ',').map strip) {c : Char}
    (hc : c ∈ arg) : c ∈ body := by
  obtain ⟨piece, hpiece, rfl⟩ := List.mem_map.mp harg
  obtain ⟨front, back, hcs, -, -⟩ := exists_stripWhere isBlank piece
  have hmem : c ∈ piece := by
    rw [hcs]
    exact List.mem_append_left _ (List.mem_append_right _ hc)
  have hjoin : [','].intercalate (body.splitOn ',') = body := List.intercalate_splitOn ','
  rw [← hjoin]
  exact mem_intercalate_of_mem hpiece hmem

theorem not_letter_of_isBlank {c : Char} (hc : isBlank c = true) :
    ¬(97 ≤ c.toNat ∧ c.toNat ≤ 122) := by
  have hletters : ∀ n < 26, inRanges blankRanges (97 + n) = false := by decide
  rintro ⟨hlow, hhigh⟩
  have hnot := hletters (c.toNat - 97) (by omega)
  rw [Nat.add_sub_cancel' hlow] at hnot
  rw [isBlank, hnot] at hc
  cases hc

theorem not_letter_of_mem_body (hplain : ∀ arg ∈ (body.splitOn ',').map strip, IsPlain arg)
    {c : Char} (hc : c ∈ body) : ¬(97 ≤ c.toNat ∧ c.toNat ≤ 122) := by
  rcases mem_body hc with rfl | hblank | ⟨arg, harg, hmem⟩
  · decide
  · exact not_letter_of_isBlank hblank
  · rcases hplain arg harg c hmem with hdigit | rfl | rfl
    · exact not_letter_of_isDigit hdigit
    · decide
    · decide

/-- Behind the name, a call of plain arguments has no letters and no parenthesis but the last. -/
theorem call_plain (hlength : function.toList.length = 3)
    (hcall : arguments? function (cs.map lower) = some args) (hplain : ∀ arg ∈ args, IsPlain arg) :
    '(' ∉ cs.drop 4 := by
  obtain ⟨body, hcs, rfl⟩ := arguments?_eq_some hcall
  have hbody : '(' ∉ body := not_mem_body rfl fun arg harg =>
    (hplain arg harg).not_mem (by decide) (by decide) (by decide)
  have hopening : (function ++ "(").toList.length = 4 := by
    rw [String.toList_append, List.length_append, hlength]
    rfl
  rw [← mem_map_lower_iff, List.map_drop, hcs, List.append_assoc, List.drop_left' hopening]
  simp [hbody]

/-- Between lower-case parentheses stand the arguments themselves. -/
theorem call_eq (hopened : "rgb(".toList <+: cs)
    (hcall : arguments? "rgb" (cs.map lower) = some args) (hplain : ∀ arg ∈ args, IsPlain arg) :
    ∃ body, cs = "rgb(".toList ++ body ++ [')'] ∧ args = (body.splitOn ',').map strip ∧
      ')' ∉ body := by
  obtain ⟨body, hcs, rfl⟩ := arguments?_eq_some hcall
  obtain ⟨rest, rfl⟩ := hopened
  refine ⟨body, ?_, rfl, not_mem_body rfl fun arg harg =>
    (hplain arg harg).not_mem (by decide) (by decide) (by decide)⟩
  have hopening : "rgb(".toList.map lower = ("rgb" ++ "(").toList := by decide
  rw [List.map_append, hopening, List.append_assoc, List.append_cancel_left_eq] at hcs
  -- Only letters are lowered, and there are none behind the name.
  have hself : ∀ c ∈ rest, lower c = c := by
    intro c hc
    have hmem : lower c ∈ body ++ [')'] := hcs ▸ List.mem_map_of_mem hc
    refine lower_eq_self ?_
    rcases List.mem_append.mp hmem with hmem | hmem
    · exact not_letter_of_mem_body hplain hmem
    · rw [List.mem_singleton.mp hmem]
      decide
  have hsame : rest.map lower = rest := (List.map_congr_left hself).trans (List.map_id rest)
  rw [List.append_assoc, ← hcs, hsame]

/-- A call of three arguments in lower case is read by them, as the loose notation does. -/
theorem parse_call {s : String} {x y z : List Char} (hopened : "rgb(".toList <+: s.toList)
    (hcall : arguments? "rgb" (s.toList.map lower) = some [x, y, z])
    (hargs : ∀ arg ∈ [x, y, z], arg ≠ [] ∧ IsPlain arg) :
    (parse (.text s) : Except NumberFault (Color Float)) = orTransparent (ofParts x y z []) ∧
      ('%' ∈ s.toList ↔ ∃ arg ∈ [x, y, z], '%' ∈ arg) := by
  obtain ⟨body, hs, hsplit, hclose⟩ := call_eq hopened hcall fun arg harg => (hargs arg harg).2
  have hparts : functionalParts body = [x, y, z] := by
    rw [hsplit]
    refine functionalParts_arguments fun arg harg => ?_
    rw [← hsplit] at harg
    exact ⟨(hargs arg harg).1, isSeparator_of_isPlain (hargs arg harg).2⟩
  constructor
  · rw [parse, hs]
    exact parseText_call (by simp [loosePrefixes]) hclose hparts
  · have hmem : '%' ∈ s.toList ↔ '%' ∈ body := by
      rw [hs]
      simp
    rw [hmem]
    constructor
    · intro hbody
      by_contra hnone
      refine not_mem_body (c := '%') rfl (fun arg harg hc => hnone ⟨arg, ?_, hc⟩) hbody
      exact hsplit ▸ harg
    · rintro ⟨arg, harg, hc⟩
      exact mem_body_of_mem (hsplit ▸ harg) hc

end

/-! ## Texts -/

section
variable {cs : List Char} {r g b : Int}

theorem length_of_channels? {c : Channels} (h : channels? Float cs = .ok (some c)) :
    cs.length ≤ notationLimit := by
  unfold channels? at h
  split at h
  · cases h
  · next hlimit => exact not_lt.mp hlimit

/-- What the strict notations alone can read is read by them. -/
theorem parseText_strict (hstrip : strip cs = cs) (hbody : functionalBody? cs = none)
    (h : channels? Float cs = .ok (some (.three r g b))) :
    parseText cs = .ok (opaqueOf r g b : Color Float) := by
  have hnone : ¬(cs.isEmpty = true ∨ cs = "transparent".toList) := by
    have hempty : channels? Float [] = .ok none := rfl
    have hword : channels? Float "transparent".toList = .ok none := by decide +kernel
    rintro (hnil | rfl)
    · rw [List.isEmpty_iff.mp hnil, hempty] at h
      cases h
    · rw [hword] at h
      cases h
  rw [parseText, hstrip]
  simp only [if_neg hnone, hbody, Option.map_none, h]
  rfl

/-- What a whole number is read as: the whole part of the nearest double. -/
def ReadAs (n m : Int) : Prop :=
  Scalar.truncate (Scalar.ofInt n : Float) = .ok m ∧ (n.natAbs ≤ 2 ^ 53 → m = n)

/-- A whole number of at most fifty-three bits is a double as it is. -/
theorem truncate_ofInt {n : Nat} (hn : n ≤ 2 ^ 53) :
    Scalar.truncate (Scalar.ofInt n : Float) = .ok (n : Int) := by
  have hpow : 2 ^ 53 = 9007199254740992 := by norm_num
  have hexact : Scalar.exact (Scalar.ofInt n : Float) = .finite (decide ((n : Int) < 0)) n :=
    Binary64.exact_ofRat_whole (hpow ▸ hn)
  have hsign : decide ((n : Int) < 0) = false := decide_eq_false (by omega)
  rw [Scalar.truncate, hexact, hsign]
  have hfloor : (n : Rat).floor = n := by rw [← Int.cast_natCast, Rat.floor_intCast]
  show Except.ok ((n : Rat).floor.toNat : Int) = _
  rw [hfloor, Int.toNat_natCast]

theorem exists_readAs {arg : List Char} {n : Nat} (h : whole? arg = some n)
    (hlength : arg.length ≤ 95) : ∃ m, ReadAs n m := by
  have hwithin : Binary64.Within 317 (Binary64.ofRat (n : Int)) := by
    rw [← ofReading_whole, ← Int.neg_zero, ← Int.natCast_zero]
    exact Binary64.within_ofReading (by decide) (by decide) (digits_le (whole?_lt h) hlength)
  obtain ⟨m, hm, -⟩ := Binary64.truncate_within hwithin
  refine ⟨m, hm, fun hsmall => ?_⟩
  exact Except.ok.inj (hm.symm.trans (truncate_ofInt hsmall))

/-- A call of plain arguments is none of the loose notation, unless it opens as one. -/
theorem Strict.not_mem (h : Strict cs r g b) : '(' ∉ cs.drop 4 := by
  have hlength : ∀ function ∈ ["hsl", "hsv", "hsb"], function.toList.length = 3 := by decide
  cases h with
  | word hplain => exact fun hmem => hplain (List.mem_of_mem_drop hmem)
  | whole hcall hargs =>
    refine call_plain rfl hcall fun arg harg => ?_
    obtain ⟨n, hn⟩ := exists_of_forall₂ (forall₂_of_mapM hargs) harg
    exact isPlain_of_whole? hn
  | percent hcall hargs =>
    refine call_plain rfl hcall fun arg harg => ?_
    obtain ⟨n, hn⟩ := exists_of_forall₂ (forall₂_of_mapM hargs) harg
    exact isPlain_of_percent? hn
  | hue hfunction hcall hplain => exact call_plain (hlength _ hfunction) hcall hplain

theorem not_prefix_of_hue {function : String} {args : List (List Char)}
    (hfunction : function ∈ ["hsl", "hsv", "hsb"])
    (hcall : arguments? function (cs.map lower) = some args) : ¬"rgb(".toList <+: cs := by
  rintro ⟨rest, rfl⟩
  obtain ⟨body, hcs, -⟩ := arguments?_eq_some hcall
  have hhead := congrArg List.head? hcs
  rcases List.mem_cons.mp hfunction with rfl | hfunction
  · cases hhead
  · rcases List.mem_pair.mp hfunction with rfl | rfl
    · cases hhead
    · cases hhead

theorem parse_whole {s : String} {args : List (List Char)} {l m n : Nat}
    (hopened : "rgb(".toList <+: s.toList) (hlimit : s.toList.length ≤ notationLimit)
    (hcall : arguments? "rgb" (s.toList.map lower) = some args)
    (hargs : args.mapM whole? = some [l, m, n]) :
    '%' ∉ s.toList ∧ ∃ r' g' b', ReadAs l r' ∧ ReadAs m g' ∧ ReadAs n b' ∧
      parse (.text s) = .ok (opaqueOf r' g' b' : Color Float) := by
  obtain ⟨x, y, z, rfl, hx, hy, hz⟩ := three_of_mapM hargs
  have hwhole : ∀ arg ∈ [x, y, z], ∃ n, whole? arg = some n :=
    fun arg harg => exists_of_forall₂ (forall₂_of_mapM hargs) harg
  have hplain : ∀ arg ∈ [x, y, z], arg ≠ [] ∧ IsPlain arg := by
    intro arg harg
    obtain ⟨n, hn⟩ := hwhole arg harg
    exact ⟨(whole?_eq_some hn).1, isPlain_of_whole? hn⟩
  -- A text of a hundred characters holds no number that is beyond all doubles.
  have hshort := length_argument_le_of_short ((List.length_map lower).trans_le hlimit) (by decide)
    hcall
  obtain ⟨hparse, hpercent⟩ := parse_call hopened hcall hplain
  constructor
  · intro hmem
    obtain ⟨arg, harg, hc⟩ := hpercent.mp hmem
    obtain ⟨n, hn⟩ := hwhole arg harg
    exact absurd ((whole?_eq_some hn).2.1 '%' hc) (by decide)
  · obtain ⟨r', hr⟩ := exists_readAs hx (hshort x (by simp))
    obtain ⟨g', hg⟩ := exists_readAs hy (hshort y (by simp))
    obtain ⟨b', hb⟩ := exists_readAs hz (hshort z (by simp))
    refine ⟨r', g', b', hr, hg, hb, ?_⟩
    rw [hparse, ofParts, readChannel_whole hx, readChannel_whole hy, readChannel_whole hz, hr.1,
      hg.1, hb.1]
    rfl

theorem parse_percent {s : String} {args : List (List Char)} {l m n : Nat}
    (hopened : "rgb(".toList <+: s.toList)
    (hcall : arguments? "rgb" (s.toList.map lower) = some args)
    (hargs : args.mapM percent? = some [l, m, n]) :
    '%' ∈ s.toList ∧ parse (.text s) = .ok (transparent : Color Float) := by
  obtain ⟨x, y, z, rfl, hx, -, -⟩ := three_of_mapM hargs
  have hplain : ∀ arg ∈ [x, y, z], arg ≠ [] ∧ IsPlain arg := by
    intro arg harg
    obtain ⟨n, hn⟩ := exists_of_forall₂ (forall₂_of_mapM hargs) harg
    obtain ⟨ds, rfl, -⟩ := percent?_eq_some hn
    exact ⟨by simp, isPlain_of_percent? hn⟩
  obtain ⟨hparse, hpercent⟩ := parse_call hopened hcall hplain
  obtain ⟨text, hread⟩ := readChannel_percent hx
  constructor
  · obtain ⟨ds, rfl, -⟩ := percent?_eq_some hx
    exact hpercent.mpr ⟨_, List.mem_cons_self, by simp⟩
  · rw [hparse, ofParts, hread]
    rfl

/-- A strict notation of three channels is read as it says, unless it opens with `rgb(` in lower
case. Then percentages make it transparent, and whole numbers are read through doubles. -/
theorem parse_strict {s : String} (hstrip : strip s.toList = s.toList)
    (h : channels? Float s.toList = .ok (some (.three r g b))) :
    (¬"rgb(".toList <+: s.toList → parse (.text s) = .ok (opaqueOf r g b : Color Float)) ∧
      ("rgb(".toList <+: s.toList →
        ('%' ∈ s.toList → parse (.text s) = .ok (transparent : Color Float)) ∧
        ('%' ∉ s.toList → ∃ r' g' b', ReadAs r r' ∧ ReadAs g g' ∧ ReadAs b b' ∧
          parse (.text s) = .ok (opaqueOf r' g' b' : Color Float))) := by
  have hstrict := strict_of_channels? h
  constructor
  · intro hopened
    exact parseText_strict hstrip (functionalBody?_of_not_opened hopened hstrict.not_mem) h
  · intro hopened
    cases hstrict with
    | word hplain => exact absurd (hopened.subset (by decide)) hplain
    | hue hfunction hcall _ => exact absurd hopened (not_prefix_of_hue hfunction hcall)
    | whole hcall hargs hr hg hb =>
      obtain ⟨hnone, hparse⟩ := parse_whole hopened (length_of_channels? h) hcall hargs
      subst hr hg hb
      exact ⟨fun hmem => absurd hmem hnone, fun _ => hparse⟩
    | percent hcall hargs =>
      obtain ⟨hmem, hparse⟩ := parse_percent hopened hcall hargs
      exact ⟨fun _ => hparse, fun hnone => absurd hmem hnone⟩

theorem parse_strict_upper :
    parse (.text "RGB(10%, 20%, 30%)") = .ok (opaqueOf 26 51 77 : Color Float) := by
  have h : channels? Float "RGB(10%, 20%, 30%)".toList = .ok (some (.three 26 51 77)) := by
    decide +kernel
  exact (parse_strict (by decide) h).1 (by decide)

/-- Percentages are no numbers to the loose notation, which has them first. -/
theorem percentages_captured :
    channels? Float "rgb(10%,20%,30%)".toList = .ok (some (.three 26 51 77)) ∧
      parse (.text "rgb(10%,20%,30%)") = .ok (transparent : Color Float) := by
  decide +kernel

end

end Color
end Choreo
