import Choreo.Proofs.Color.Parse
import Choreo.Proofs.Token.Fails
import Choreo.Stage.Current

/-!
Reading a current value.

A current value is a color where one is asked for and a number where not, whatever a target has
retained, the host reports and the classes declare. It fails only for a value out of range that it
comes across on its way, and for no other reason (`current_resolves`).
-/

namespace Choreo

/-! ## What a computation fails with -/

section
variable {ε β γ : Type}

/-- A computation that fails with certain faults only. -/
def FailsOnly (p : ε → Prop) (x : Except ε β) : Prop := ∀ e, x = .error e → p e

variable {p : ε → Prop} {x : Except ε β}

theorem FailsOnly.ok (b : β) : FailsOnly p (.ok b : Except ε β) := nofun

theorem FailsOnly.bind {f : β → Except ε γ} (hx : FailsOnly p x)
    (hf : ∀ b, x = .ok b → FailsOnly p (f b)) : FailsOnly p (x >>= f) := by
  intro e h
  cases hresult : x with
  | error e' =>
    rw [hresult] at h
    cases h
    exact hx e hresult
  | ok b =>
    rw [hresult] at h
    exact hf b hresult e h

theorem FailsOnly.map (f : β → γ) (hx : FailsOnly p x) : FailsOnly p (x.map f) := by
  intro e h
  cases hresult : x with
  | error e' =>
    rw [hresult] at h
    cases h
    exact hx e hresult
  | ok b =>
    rw [hresult] at h
    cases h

end

/-! ## Class tokens -/

namespace Token

/-- Class tokens that cannot be read, and what they fail with. -/
inductive Unreadable (token : List Char) : NumberFault → Prop where
  | long {p : Property} {ds : List Char} (known : property? token = some p)
    (plain : p.measure ≠ .color) (numbered : Numbered token ds)
    (long : NumberFault.digitLimit < ds.length) : Unreadable token (.tooManyDigits ds.length)
  | large {p : Property} {ds : List Char} (known : property? token = some p)
    (plain : p.measure ≠ .color) (numbered : Numbered token ds)
    (large : Binary64.overflowBound ≤ |(spelled token ds : Rat)|) : Unreadable token .overflow
  | color {text : List Char} (bracketed : Bracketed token text)
    (overflows : Color.Overflows text) : Unreadable token .overflow

variable {token : List Char}

theorem describe?_failsOnly :
    FailsOnly (Unreadable token)
      (describe? token : Except NumberFault (Option (Descriptor Float))) := by
  intro e h
  obtain ⟨p, ds, known, plain, numbered, hfault⟩ := (describe?_error_iff token e).mp h
  split_ifs at hfault with hlong
  · rw [hfault]
    exact .long known plain numbered hlong
  · rw [hfault.2]
    exact .large known plain numbered hfault.1

theorem color?_failsOnly :
    FailsOnly (Unreadable token) (color? token : Except NumberFault (Option (Color Float))) := by
  intro e h
  obtain ⟨text, bracketed, overflows, rfl⟩ := color?_error_iff.mp h
  exact .color bracketed overflows

theorem inMeasure_ok {α : Type} [Scalar α] (d : Descriptor α) : ∃ x, d.inMeasure = .ok x := by
  unfold Descriptor.inMeasure inMeasure
  split <;> exact ⟨_, rfl⟩

end Token

namespace Stage

theorem valueFromClass_failsOnly (key token : String) :
    FailsOnly (Token.Unreadable token.toList)
      (valueFromClass key token : Except NumberFault (Option (Value Float))) := by
  refine Token.describe?_failsOnly.bind fun described _ => ?_
  cases described with
  | none => exact .ok _
  | some d =>
    dsimp only
    split_ifs
    · exact .ok _
    · exact .ok _
    · exact Token.color?_failsOnly.bind fun c _ => .ok _
    · obtain ⟨x, hx⟩ := Token.inMeasure_ok d
      rw [hx]
      exact .ok _

theorem valueFromClasses_go_failsOnly (key : String) (tokens : List String) :
    FailsOnly (fun e => ∃ token ∈ tokens, Token.Unreadable token.toList e)
      (valueFromClasses.go key tokens : Except NumberFault (Value Float)) := by
  induction tokens with
  | nil => exact .ok _
  | cons token rest ih =>
    refine FailsOnly.bind (fun e h => ?_) fun found _ => ?_
    · exact ⟨token, List.mem_cons_self, valueFromClass_failsOnly key token e h⟩
    · cases found with
      | some v => exact .ok _
      | none =>
        intro e h
        obtain ⟨token', hmem, hfails⟩ := ih e h
        exact ⟨token', List.mem_cons_of_mem token hmem, hfails⟩

theorem valueFromClasses_failsOnly (classes : List String) (key : String) :
    FailsOnly (fun e => ∃ token ∈ classes, Token.Unreadable token.toList e)
      (valueFromClasses classes key : Except NumberFault (Value Float)) := by
  intro e h
  obtain ⟨token, hmem, hfails⟩ := valueFromClasses_go_failsOnly key classes.reverse e h
  exact ⟨token, List.mem_reverse.mp hmem, hfails⟩

/-! ## Values -/

/-- Values that no number is made of, and what they fail with. A whole number fits no double, and a
tuple is too long to be written out. -/
inductive Unfit : Value Float → NumberFault → Prop where
  | large {n : Int} (large : Binary64.overflowBound ≤ |(n : Rat)|) :
    Unfit (.number (.whole n)) .overflow
  | long {xs : List (Quantity Float)} {n : Int} (member : .whole n ∈ xs)
    (long : NumberFault.digitLimit < (toString n.natAbs).length) : Unfit (.tuple xs) .tooLong

theorem texts_error_iff {xs : List (Quantity Float)} {e : NumberFault} :
    xs.mapM Quantity.text = .error e ↔
      (∃ n : Int, .whole n ∈ xs ∧ NumberFault.digitLimit < (toString n.natAbs).length) ∧
        e = .tooLong := by
  induction xs with
  | nil => exact iff_of_false nofun fun ⟨⟨n, hn, _⟩, _⟩ => List.not_mem_nil hn
  | cons x xs ih =>
    rw [List.mapM_cons]
    cases htext : x.text with
    | error e' =>
      obtain ⟨n, rfl, hlong, rfl⟩ := Color.text_error_iff.mp htext
      constructor
      · rintro ⟨⟩
        exact ⟨⟨n, List.mem_cons_self, hlong⟩, rfl⟩
      · rintro ⟨-, rfl⟩
        rfl
    | ok s =>
      have hshort : ∀ n : Int, x = .whole n →
          ¬NumberFault.digitLimit < (toString n.natAbs).length := by
        rintro n rfl hlong
        have h := Color.text_error_iff.mpr ⟨n, rfl, hlong, rfl⟩
        rw [htext] at h
        cases h
      have hrest : (∃ n : Int, .whole n ∈ x :: xs ∧
            NumberFault.digitLimit < (toString n.natAbs).length) ↔
          ∃ n : Int, .whole n ∈ xs ∧ NumberFault.digitLimit < (toString n.natAbs).length := by
        refine exists_congr fun n => and_congr_left fun hlong => ?_
        rw [List.mem_cons, or_iff_right]
        exact fun h => hshort n h.symm hlong
      rw [hrest, ← ih]
      cases hxs : xs.mapM Quantity.text <;> simp [bind, Except.bind, pure, Except.pure]

theorem toNumber?_error_iff (v : Value Float) (e : NumberFault) :
    (toNumber? v : Except _ (Option Float)) = .error e ↔ Unfit v e := by
  constructor
  · intro h
    cases v with
    | none => cases h
    | flag b => cases h
    | text s => cases h
    | number q =>
      cases q with
      | real x => cases h
      | whole n =>
        rw [toNumber?, Quantity.toReal, Quantity.ofWhole_doubles] at h
        split_ifs at h with hlarge
        · cases h
          exact .large hlarge
        · cases h
    | tuple xs =>
      rw [toNumber?] at h
      cases htexts : xs.mapM Quantity.text with
      | ok texts =>
        rw [htexts] at h
        cases h
      | error e' =>
        rw [htexts] at h
        cases h
        obtain ⟨⟨n, hmem, hlong⟩, rfl⟩ := texts_error_iff.mp htexts
        exact .long hmem hlong
  · rintro (hlarge | ⟨hmem, hlong⟩)
    · rw [toNumber?, Quantity.toReal, Quantity.ofWhole_doubles, if_pos hlarge]
      rfl
    · rw [toNumber?, texts_error_iff.mpr ⟨⟨_, hmem, hlong⟩, rfl⟩]
      rfl

/-! ## Current values -/

section
variable (s : Stage Float) (t : Target Float)

/-- What a current value comes across that is out of range: a value retained for the target, one
read for its id, a class token of what the id names, or one of the target that sets a gradient
stop. -/
inductive Culprit (measure : Measure) (e : NumberFault) : Prop where
  | retained {key : String} {v : Value Float} (retained : t.applied.lookup key = some v)
    (fails : if measure = .color then Color.Unreadable v e else Unfit v e)
  | read {key : String} {v : Value Float} (read : s.read t.id key = .ok v)
    (fails : if measure = .color then Color.Unreadable v e else Unfit v e)
  | declared {t' : Target Float} {token : String} (offline : s.environment = none)
    (target : s.target? t.id = some t') (member : token ∈ t'.classes)
    (fails : Token.Unreadable token.toList e)
  | stop {token : String} {text : List Char} (colored : measure = .color)
    (member : token ∈ t.classes) (bracketed : Token.Bracketed token.toList text)
    (overflows : Color.Overflows text) (fault : e = .overflow)

theorem read_failsOnly (measure : Measure) (key : String) :
    FailsOnly (s.Culprit t measure) (s.read t.id key) := by
  unfold read
  split
  · exact .ok _
  · next offline =>
    split
    · exact .ok _
    · next t' target =>
      intro e h
      obtain ⟨token, member, fails⟩ := valueFromClasses_failsOnly t'.classes key e h
      exact .declared offline target member fails

theorem currentNumber_failsOnly {measure : Measure} (plain : measure ≠ .color) (key : String) :
    FailsOnly (s.Culprit t measure) (s.currentNumber t key) := by
  have hvalue : ∀ {v e}, toNumber? v = (.error e : Except _ (Option Float)) →
      if measure = .color then Color.Unreadable v e else Unfit v e := by
    intro v e h
    rw [if_neg plain]
    exact (toNumber?_error_iff v e).mp h
  unfold currentNumber
  extract_lets unlessRetained
  have hunless : ∀ applied, FailsOnly (s.Culprit t measure) (unlessRetained applied) := by
    intro applied
    unfold unlessRetained
    split
    · exact .ok _
    · refine (read_failsOnly s t measure key).bind fun v hv => ?_
      refine FailsOnly.bind (fun e h => .read hv (hvalue h)) fun x _ => ?_
      split <;> exact .ok _
  split
  · next v hv => exact FailsOnly.bind (fun e h => .retained hv (hvalue h)) fun x _ => hunless x
  · exact hunless none

theorem unreadable_of_parse {v : Value Float} {e : NumberFault}
    (h : (Color.parse v : Except _ (Color Float)) = .error e) :
    if Measure.color = .color then Color.Unreadable v e else Unfit v e := by
  rw [if_pos rfl]
  exact (Color.parse_error_iff v e).mp h

theorem currentColor_failsOnly (key : String) :
    FailsOnly (s.Culprit t .color) (s.currentColor t key) := by
  unfold currentColor
  split
  · next v hv => exact fun e h => .retained hv (unreadable_of_parse h)
  · refine (read_failsOnly s t .color key).bind fun v hv => ?_
    split
    · exact .ok _
    · exact fun e h => .read hv (unreadable_of_parse h)

theorem currentStop_failsOnly (property start : String) :
    FailsOnly (s.Culprit t .color) (s.currentStop t property start) := by
  unfold currentStop
  extract_lets unlessDeclared unlessRetained
  have hdeclared : ∀ declared, FailsOnly (s.Culprit t .color) (unlessDeclared declared) := by
    intro declared
    unfold unlessDeclared
    split
    · exact .ok _
    · exact currentColor_failsOnly s t _
  have hretained : ∀ applied, FailsOnly (s.Culprit t .color) (unlessRetained applied) := by
    intro applied
    unfold unlessRetained
    split
    · exact .ok _
    · split
      · next token htoken =>
        refine FailsOnly.bind (fun e h => ?_) fun declared _ => hdeclared declared
        obtain ⟨text, bracketed, overflows, fault⟩ := Token.color?_error_iff.mp h
        exact .stop rfl (List.mem_of_find?_eq_some htoken) bracketed overflows fault
      · exact hdeclared none
  split
  · exact hretained none
  · next v _ hv =>
    refine FailsOnly.bind (FailsOnly.map some fun e h => ?_) fun applied _ => hretained applied
    exact .retained hv (unreadable_of_parse h)
  · exact hretained none

end

/-- A color is read off every value but those out of range, and a text that describes none is
transparent. A current value is a color where one is asked for and a number where not, unless
something out of range is in its way. -/
theorem current_resolves (s : Stage Float) (t : Target Float) (property : String)
    (measure : Measure) (key : String) :
    (∀ v e, (Color.parse v : Except NumberFault (Color Float)) = .error e ↔
      Color.Unreadable v e) ∧
    (∀ text : String, ¬Color.Overflows text.toList → ¬Color.Describes text.toList →
      (Color.parse (.text text) : Except NumberFault (Color Float)) = .ok Color.transparent) ∧
    match s.current t property measure key with
    | .ok (.number _) => measure ≠ .color
    | .ok (.color _) => measure = .color
    | .error e => s.Culprit t measure e := by
  refine ⟨Color.parse_error_iff, fun text hover hnone => ?_, ?_⟩
  · exact Color.parseText_of_not_describes hover hnone
  · unfold current
    dsimp only
    generalize (if key = "" then property else key) = key
    by_cases colored : measure = .color
    · subst colored
      rw [if_pos rfl]
      cases stopStart? property with
      | none =>
        dsimp only
        cases h : s.currentColor t key with
        | error e => exact currentColor_failsOnly s t key e h
        | ok c => rfl
      | some start =>
        dsimp only
        cases h : s.currentStop t property start with
        | error e => exact currentStop_failsOnly s t property start e h
        | ok c => rfl
    · rw [if_neg colored]
      cases h : s.currentNumber t key with
      | error e => exact currentNumber_failsOnly s t colored key e h
      | ok x => exact colored

theorem current_resolves_misspelled :
    (¬Color.Overflows "not-a-color".toList ∧ ¬Color.Describes "not-a-color".toList) ∧
      (Color.parse (.text "not-a-color") : Except NumberFault (Color Float)) =
        .ok Color.transparent := by
  have hloose : Color.looseParts? "not-a-color".toList = none := by decide +kernel
  have hstrict : Color.channels? Float (Text.strip "not-a-color".toList) = .ok none := by
    rfl
  have hover : ¬Color.Overflows "not-a-color".toList := by
    rintro ⟨r, g, b, rest, hparts, -⟩
    rw [hloose] at hparts
    cases hparts
  have hnone : ¬Color.Describes "not-a-color".toList := by
    rintro (⟨hparts, -⟩ | ⟨-, hchannels⟩)
    · rw [hloose] at hparts
      cases hparts
    · rw [hstrict] at hchannels
      cases hchannels
  have htext := (current_resolves (.empty none false) (.ofClasses "box" "") "color" .color "").2.1
  exact ⟨⟨hover, hnone⟩, htext "not-a-color" hover hnone⟩

/-- A text whose red is infinite fails to be read, and with it the current color. -/
theorem infinite_red_fails :
    (Color.parse (.text "rgb(inf,0,0)") : Except NumberFault (Color Float)) = .error .overflow ∧
      (Stage.empty none false).current
          { id := "box", classes := [], declared := [],
            applied := [("color", .text "rgb(inf,0,0)")] }
          "color" .color "" = (.error .overflow : Except NumberFault (Current Float)) := by
  have hinfinite : Color.Overflows "rgb(inf,0,0)".toList :=
    ⟨"inf".toList, "0".toList, "0".toList, [], by decide +kernel,
      .inl ⟨.infinite false, by decide +kernel, trivial⟩⟩
  have hparse := (Color.parse_error_iff _ _).mpr (.text hinfinite)
  refine ⟨hparse, ?_⟩
  have hstop : stopStart? "color" = none := by decide
  rw [current, if_pos rfl, if_pos rfl, hstop]
  show (Color.parse (.text "rgb(inf,0,0)") : Except _ (Color Float)).map Current.color = _
  rw [hparse]
  rfl

end Stage
end Choreo
