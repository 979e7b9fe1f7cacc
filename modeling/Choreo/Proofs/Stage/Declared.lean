import Choreo.Proofs.Stage.Current
import Choreo.Proofs.Token.Unknown

/-!
What the classes of a target declare.

Without a host the current value of a target that nothing was applied to is read off its classes,
from the last to the first. The last class with a key tells what the key holds, so a job to that
very class starts where it ends and moves nothing. Only a class after it that cannot be read is in
the way: it fails the job, although it says nothing about the key (`Job.declared_agree`).
-/

namespace Choreo
variable {α : Type} [Scalar α]

/-! ## Class tokens -/

namespace Token
variable {token : List Char}

theorem after?_of_longestMatch? {cs : List Char} {entry : String × Property}
    (h : longestMatch? cs = some entry) : entry ∈ table ∧ (after? entry.1 cs).isSome = true :=
  (foldl_longest_mem _ h).elim (fun hentry => List.mem_filter.mp hentry) nofun

/-- A token that animates a gradient stop is one that sets it, but for a minus in front. -/
theorem isGradientStop_of_property? {p : Property} (h : property? token = some p)
    (hstop : Stage.stopStart? p.name ≠ none) : isGradientStop (withoutMinus token) = true := by
  unfold property? at h
  dsimp only at h
  split at h
  · next q hbare =>
    have hplain : ∀ entry ∈ bare, Stage.stopStart? entry.2.name = none := by decide +kernel
    obtain ⟨before, after, hbare, -⟩ := List.lookup_eq_some_iff.mp hbare
    obtain rfl := Option.some.inj h
    exact absurd (hplain (_, q) (hbare ▸ List.mem_append_right _ List.mem_cons_self)) hstop
  · obtain ⟨entry, hentry, hp⟩ := Option.map_eq_some_iff.mp h
    obtain ⟨hmem, hafter⟩ := after?_of_longestMatch? hentry
    split_ifs at hp
    · cases hp
      exact absurd rfl hstop
    · cases hp
      exact absurd rfl hstop
    · cases hp
      have hstops : ∀ entry ∈ table, Stage.stopStart? entry.2.name ≠ none →
          entry.1 ∈ gradientStops := by decide +kernel
      exact List.any_eq_true.mpr ⟨entry.1, hstops entry hmem hstop, hafter⟩

/-- A token with a minus in front names no color. -/
theorem withoutMinus_of_color? {c : Color α} (h : color? token = .ok (some c)) :
    withoutMinus token = token := by
  unfold withoutMinus
  split
  · next rest =>
    have hnone : (colorStarts.findSome? fun start => after? start ('-' :: rest)) = none := by
      rw [List.findSome?_eq_none_iff]
      have hhead : ∀ start ∈ colorStarts, start.toList ≠ [] ∧ start.toList.head? ≠ some '-' := by
        decide +kernel
      intro start hstart
      obtain ⟨hne, hhead⟩ := hhead start hstart
      obtain ⟨c, cs, hcons⟩ := List.exists_cons_of_ne_nil hne
      rw [hcons, List.head?_cons, Ne, Option.some_inj] at hhead
      rw [after?, hcons, List.isPrefixOf?, beq_eq_false_iff_ne.mpr hhead]
      rfl
    rw [color?, hnone] at h
    cases h
  · rfl

/-- What a class token that cannot be read fails with. -/
def fault? (α : Type) [Scalar α] (token : String) : Option NumberFault :=
  match (describe? token.toList : Except NumberFault (Option (Descriptor α))) with
  | .error e => some e
  | .ok _ => none

end Token

namespace Stage
variable {s : Stage α} {t : Target α} {key token : String} {v : Value α}

/-- A class with another key says nothing, if it can be read. -/
theorem valueFromClass_other
    (hother : ∀ d : Token.Descriptor α, Token.describe? token.toList = .ok (some d) →
      Token.key d.property.name token.toList ≠ key) :
    (valueFromClass key token : Except NumberFault (Option (Value α))) =
      (Token.fault? α token).elim (.ok none) .error := by
  unfold valueFromClass Token.fault?
  cases h : (Token.describe? token.toList : Except NumberFault (Option (Token.Descriptor α))) with
  | error e => rfl
  | ok described =>
    cases described with
    | none => rfl
    | some d =>
      show (if _ then _ else _) = _
      rw [if_pos (hother d h), ite_self]
      rfl

/-- The classes are read from the last on, until one says something or cannot be read. -/
theorem go_append {later earlier : List String}
    (hlater : ∀ x ∈ later, (valueFromClass key x : Except NumberFault (Option (Value α))) =
      (Token.fault? α x).elim (.ok none) .error)
    (hvalue : valueFromClass key token = .ok (some v)) :
    valueFromClasses.go key (later ++ token :: earlier) =
      (later.findSome? (Token.fault? α)).elim (.ok v) .error := by
  induction later with
  | nil =>
    rw [List.nil_append, valueFromClasses.go, hvalue]
    rfl
  | cons x later ih =>
    rw [List.cons_append, valueFromClasses.go, hlater x List.mem_cons_self, List.findSome?_cons,
      ih fun y hy => hlater y (List.mem_cons_of_mem x hy)]
    cases Token.fault? α x <;> rfl

/-! ## Current values -/

/-- A class of a target, and the classes after it. No host is there to be asked and nothing was
applied to the target, and none of the later classes has the key as well. -/
structure Declares (s : Stage α) (t : Target α) (token key : String) (later : List String) :
    Prop where
  offline : s.environment = none
  registered : s.target? t.id = some t
  untouched : t.applied = []
  classes : ∃ earlier, t.classes = earlier ++ token :: later
  last : ∀ x ∈ later, ∀ d : Token.Descriptor α, Token.describe? x.toList = .ok (some d) →
    Token.key d.property.name x.toList ≠ key

variable {later : List String}

theorem Declares.read (h : s.Declares t token key later)
    (hvalue : valueFromClass key token = .ok (some v)) :
    s.read t.id key = (later.reverse.findSome? (Token.fault? α)).elim (.ok v) .error := by
  obtain ⟨earlier, hclasses⟩ := h.classes
  have hlater : ∀ x ∈ later.reverse,
      (valueFromClass key x : Except NumberFault (Option (Value α))) =
        (Token.fault? α x).elim (.ok none) .error :=
    fun x hx => valueFromClass_other (h.last x (List.mem_reverse.mp hx))
  simp only [Stage.read, h.offline, h.registered, valueFromClasses, hclasses, List.reverse_append,
    List.reverse_cons, List.append_assoc, List.singleton_append]
  exact go_append hlater hvalue

theorem Declares.currentColor (h : s.Declares t token key later) {c : Color α}
    (hvalue : valueFromClass key token = .ok (some (.ofColor c))) :
    s.currentColor t key = (later.reverse.findSome? (Token.fault? α)).elim (.ok c) .error := by
  unfold Stage.currentColor
  simp only [h.untouched, List.lookup_nil, h.read hvalue]
  cases later.reverse.findSome? (Token.fault? α) <;> rfl

theorem Declares.currentNumber (h : s.Declares t token key later) {x : α}
    (hvalue : valueFromClass key token = .ok (some (.real x))) :
    s.currentNumber t key = (later.reverse.findSome? (Token.fault? α)).elim (.ok x) .error := by
  unfold Stage.currentNumber
  simp only [h.untouched, List.lookup_nil, h.read hvalue]
  cases later.reverse.findSome? (Token.fault? α) <;> rfl

end Stage

/-! ## Jobs -/

namespace Job
variable {s : Stage α} {t : Target α} {d : Token.Descriptor α} {token : String}
  {later : List String}

/-- A token that sets no gradient stop, and names a color if it is to, animates no gradient stop
either: one with a minus in front, that would, names no color. -/
theorem stopStart?_eq_none (hd : Token.describe? token.toList = .ok (some d))
    (hstop : Token.isGradientStop token.toList = false)
    (hcolor : d.property.measure = .color →
      ∃ c : Color α, Token.color? token.toList = .ok (some c)) :
    Stage.stopStart? d.property.name = none := by
  have hproperty := (Token.property?_of_describe? hd).1
  have hmeasure : ∀ p ∈ Token.properties, Stage.stopStart? p.name ≠ none → p.measure = .color := by
    decide +kernel
  by_contra hsome
  obtain ⟨c, hc⟩ := hcolor (hmeasure _ (Token.property?_mem hproperty) hsome)
  have hgradient := Token.isGradientStop_of_property? hproperty hsome
  rw [Token.withoutMinus_of_color? hc, hstop] at hgradient
  cases hgradient

/-- The job to a declared class runs from what the class says to the same, unless a later class
cannot be read. -/
theorem ofDescriptor_declared (hd : Token.describe? token.toList = .ok (some d))
    (h : s.Declares t token (Token.key d.property.name token.toList) later)
    (hstop : Token.isGradientStop token.toList = false)
    (hcolor : d.property.measure = .color →
      ∃ c : Color α, Token.color? token.toList = .ok (some c)) :
    ∃ j, j.span.start = j.span.stop ∧
      ofDescriptor s t d none = (later.reverse.findSome? (Token.fault? α)).elim (.ok j) .error := by
  obtain ⟨hproperty, htoken⟩ := Token.property?_of_describe? hd
  have hkey := (Token.key_spelled (Token.property?_mem hproperty) token.toList).1
  have hnone := stopStart?_eq_none hd hstop hcolor
  by_cases hc : d.property.measure = .color
  · obtain ⟨c, hnamed⟩ := hcolor hc
    have hvalue : Stage.valueFromClass (Token.key d.property.name token.toList) token =
        .ok (some (Value.ofColor c)) := by
      simp only [Stage.valueFromClass, hd, hnamed]
      simp [bind, Except.bind, hnone, hc, pure, Except.pure]
    have hgoal : tokenColor token.toList = .ok c := congrArg (Except.map _) hnamed
    refine ⟨⟨d.property, Token.key d.property.name token.toList, .colors c c, token.toList⟩, rfl,
      ?_⟩
    rw [ofDescriptor_color hc, startColor, htoken, hgoal, Stage.current]
    simp only [if_neg hkey, if_true, hnone, h.currentColor hvalue]
    cases later.reverse.findSome? (Token.fault? α) <;> rfl
  · obtain ⟨x, hx⟩ := Token.inMeasure_ok d
    have hvalue : Stage.valueFromClass (Token.key d.property.name token.toList) token =
        .ok (some (Value.real x)) := by
      simp only [Stage.valueFromClass, hd]
      simp [bind, Except.bind, hnone, hc, hx, pure, Except.pure]
    refine ⟨⟨d.property, Token.key d.property.name token.toList, .numbers (.real x) (.real x),
      token.toList⟩, rfl, ?_⟩
    rw [ofDescriptor_number hc, startNumber, htoken, hx, Stage.current]
    simp only [if_neg hkey, if_neg hc, h.currentNumber hvalue]
    cases later.reverse.findSome? (Token.fault? α) <;> rfl

theorem build_singleton_error {e : NumberFault}
    (hd : Token.describe? token.toList = .ok (some d)) (hj : ofDescriptor s t d none = .error e) :
    build s t [token] [] = .error e := by
  rw [build, hd]
  show (ofDescriptor s t d none).map some >>= _ = _
  rw [hj]
  rfl

/-- A job to the last class with a key, on a target that nothing was applied to, runs from what the
class declares to the same, so it moves nothing. If classes after it cannot be read then the last of
these fails the job. -/
theorem declared_agree (hd : Token.describe? token.toList = .ok (some d))
    (h : s.Declares t token (Token.key d.property.name token.toList) later)
    (hstop : Token.isGradientStop token.toList = false)
    (hcolor : d.property.measure = .color →
      ∃ c : Color α, Token.color? token.toList = .ok (some c)) :
    match later.reverse.findSome? (Token.fault? α) with
    | none => ∃ j, build s t [token] [] = .ok [j] ∧ j.Serves d ∧ j.span.start = j.span.stop
    | some e => build s t [token] [] = .error e := by
  obtain ⟨j, hsame, hj⟩ := ofDescriptor_declared hd h hstop hcolor
  cases hfault : later.reverse.findSome? (Token.fault? α) with
  | none =>
    rw [hfault] at hj
    exact ⟨j, build_singleton hd hj, serves_of_ofDescriptor hj, hsame⟩
  | some e =>
    rw [hfault] at hj
    exact build_singleton_error hd hj

/-- A box that is red in the end: it was blue before, and a width comes after. -/
def redBox : Target Rat :=
  { id := "box", classes := ["bg-blue-500", "bg-red-500", "w-4"],
    declared := ["bg-blue-500", "bg-red-500", "w-4"], applied := [] }

def redStage : Stage Rat :=
  { targets := [redBox], names := [("box", 0)], environment := none, hasSink := true }

theorem declared_agree_red :
    redStage.Declares redBox "bg-red-500" "backgroundColor" ["w-4"] ∧
      ∃ j, build redStage redBox ["bg-red-500"] [] = .ok [j] ∧ j.span.start = j.span.stop := by
  have hproperty : Token.property? "bg-red-500".toList = some ⟨"backgroundColor", .color⟩ := by
    decide +kernel
  have hwidth : Token.property? "w-4".toList = some ⟨"width", .px⟩ := by decide +kernel
  have hd : Token.describe? "bg-red-500".toList =
      .ok (some ⟨⟨"backgroundColor", .color⟩, (Scalar.zero : Rat), "bg-red-500".toList⟩) := by
    rw [Token.describe?, hproperty]
    rfl
  have hnamed : Token.color? "bg-red-500".toList =
      .ok (some (Color.opaqueOf 239 68 68 : Color Rat)) := by decide +kernel
  have hreadable : ["w-4"].reverse.findSome? (Token.fault? Rat) = none := by decide +kernel
  have hdeclares : redStage.Declares redBox "bg-red-500" "backgroundColor" ["w-4"] :=
    { offline := rfl
      registered := rfl
      untouched := rfl
      classes := ⟨["bg-blue-500"], rfl⟩
      last := by
        rintro x hx d hd'
        obtain rfl := List.mem_singleton.mp hx
        rw [← Option.some.inj (hwidth.symm.trans (Token.property?_of_describe? hd').1)]
        decide +kernel }
  have hagree := declared_agree hd hdeclares (by decide +kernel) fun _ => ⟨_, hnamed⟩
  rw [hreadable] at hagree
  obtain ⟨j, hbuild, -, hsame⟩ := hagree
  exact ⟨hdeclares, j, hbuild, hsame⟩

/-- A margin of more digits than can be read. -/
def longMargin : String := String.ofList (Token.margin '1' 4301)

/-- A box that is ten wide, with a margin too long to be read. -/
def crowdedBox : Target Float :=
  { id := "box", classes := ["w-10", longMargin], declared := ["w-10", longMargin], applied := [] }

def crowdedStage : Stage Float :=
  { targets := [crowdedBox], names := [("box", 0)], environment := none, hasSink := true }

theorem fault?_longMargin : Token.fault? Float longMargin = some (.tooManyDigits 4301) := by
  have hnumbered : Token.Numbered (Token.margin '1' 4301) (List.replicate 4301 '1') :=
    Token.numbered_margin (by decide) (by decide)
  have hfails : (Token.describe? longMargin.toList :
      Except NumberFault (Option (Token.Descriptor Float))) = .error (.tooManyDigits 4301) := by
    rw [longMargin, String.toList_ofList, Token.describe?_error_iff]
    refine ⟨_, _, Token.property?_margin _ _, by decide, hnumbered, ?_⟩
    rw [List.length_replicate, if_pos (by decide)]
  rw [Token.fault?, hfails]

/-- The box declares its width last and keeps nothing else, and yet it has no job to that width. -/
theorem longMargin_fails :
    crowdedStage.Declares crowdedBox "w-10" "width" [longMargin] ∧
      Token.describe? "w-10".toList = .ok (some tenWide) ∧
      Token.key tenWide.property.name "w-10".toList = "width" ∧
      tenWide.property.measure ≠ .color ∧ Token.isGradientStop "w-10".toList = false ∧
      build crowdedStage crowdedBox ["w-10"] [] = .error (.tooManyDigits 4301) := by
  have hdeclares : crowdedStage.Declares crowdedBox "w-10" "width" [longMargin] :=
    { offline := rfl
      registered := rfl
      untouched := rfl
      classes := ⟨[], rfl⟩
      last := by
        rintro x hx d hd
        have hproperty := (Token.property?_of_describe? hd).1
        rw [List.mem_singleton.mp hx, longMargin, String.toList_ofList,
          Token.property?_margin] at hproperty
        rw [← Option.some.inj hproperty]
        exact (by decide : "marginTop" ≠ "width") }
  have hplain : tenWide.property.measure ≠ .color := by decide
  obtain ⟨j, -, hj⟩ := ofDescriptor_declared describe?_tenWide hdeclares (by decide +kernel)
    fun hcolor => absurd hcolor hplain
  rw [List.reverse_singleton, List.findSome?_singleton, fault?_longMargin] at hj
  exact ⟨hdeclares, describe?_tenWide, by decide +kernel, hplain, by decide +kernel,
    build_singleton_error describe?_tenWide hj⟩

end Job

end Choreo
