import Choreo.Proofs.Number.Rational
import Choreo.Proofs.Stage.Reset
import Choreo.Proofs.Token.Key
import Choreo.Stage.Job

/-!
What a target retains, and where its jobs start and end.

A property is kept under a key, and the key tells what is kept there: a color under the keys of
colors, and a number of the arithmetic under those of the other properties. A job that is built
without an explicit start reads its key back, and so it starts at the very value that was kept
(`Job.start_of_retained`). At the end of its way a job leaves what its token says, and of several
jobs with a key the last (`Job.applyAll_one`).
-/

namespace Choreo
variable {α C : Type}

/-! ## Results -/

section
variable {β γ ε : Type} {x : Except ε β} {c : γ}

theorem bind_eq_ok {f : β → Except ε γ} : (x >>= f) = .ok c ↔ ∃ b, x = .ok b ∧ f b = .ok c := by
  cases x <;> simp [bind, Except.bind]

theorem map_eq_ok {f : β → γ} : x.map f = .ok c ↔ ∃ b, x = .ok b ∧ f b = c := by
  cases x <;> simp [Except.map]

end

theorem World.apply_stage (w : World α C) (h : Handle) (key : String) (value : Value α)
    (property text : String) :
    (w.apply h key value property text).stage =
      w.stage.modify h fun t => { t with applied := assign key value t.applied } := by
  unfold apply
  split
  · next hnone =>
    simp only [Stage.modify]
    rw [List.modify_eq_self (List.getElem?_eq_none_iff.mp hnone)]
  · rw [emit_stage]
    rfl

/-! ## Values -/

/-- A value of the kind that is kept under a key. Text is kept under a key of its own. -/
def Value.Fits (key : String) (v : Value α) : Prop :=
  if key ∈ Token.colorKeys then ∃ c, v = .ofColor c else key ≠ "textContent" → ∃ x, v = .real x

theorem Value.ofColor_inj {c c' : Color α} (h : ofColor c = ofColor c') : c = c' := by
  obtain ⟨r, g, b, a⟩ := c
  obtain ⟨r', g', b', a'⟩ := c'
  cases h
  rfl

/-- What is read back as it was kept: a gradient stop that cannot be seen is not. -/
def Value.Stays [Scalar α] (key : String) (v : Value α) : Prop :=
  Stage.stopStart? key = Option.none ∨ ∃ c, v = .ofColor c ∧ Stage.isVisible c = true

namespace Span

def start : Span α → Value α
  | .numbers a _ => .number a
  | .colors a _ => .ofColor a

def stop : Span α → Value α
  | .numbers _ b => .number b
  | .colors _ b => .ofColor b

def isColors : Span α → Bool
  | .numbers _ _ => false
  | .colors _ _ => true

end Span

variable [Scalar α]

namespace Token

/-- What a descriptor sends its key to: a color, or a number in the measure of the property. -/
def Descriptor.goal (d : Descriptor α) : Except NumberFault (Value α) :=
  if d.property.measure = .color then (Job.tokenColor d.token).map .ofColor
  else d.inMeasure.map .real

theorem Descriptor.goal_cases {d : Descriptor α} {goal : Value α} (h : d.goal = .ok goal) :
    (d.property.measure = .color ∧ ∃ c, Job.tokenColor d.token = .ok c ∧ goal = .ofColor c) ∨
      (d.property.measure ≠ .color ∧ ∃ x, d.inMeasure = .ok x ∧ goal = .real x) := by
  unfold Descriptor.goal at h
  split at h
  · next hc =>
    obtain ⟨c, hcolor, rfl⟩ := map_eq_ok.mp h
    exact .inl ⟨hc, c, hcolor, rfl⟩
  · next hc =>
    obtain ⟨x, hx, rfl⟩ := map_eq_ok.mp h
    exact .inr ⟨hc, x, hx, rfl⟩

/-- What a token sends a key to, if it animates the key and can be read. -/
def goal? (key token : String) : Option (Value α) :=
  match (describe? token.toList : Except NumberFault (Option (Descriptor α))) with
  | .ok (some d) => if Token.key d.property.name d.token = key then d.goal.toOption else none
  | _ => none

theorem exists_of_goal? {key token : String} {goal : Value α} (h : goal? key token = some goal) :
    ∃ d : Descriptor α, describe? token.toList = .ok (some d) ∧
      Token.key d.property.name d.token = key ∧ d.goal = .ok goal := by
  unfold goal? at h
  split at h
  · next d hd =>
    split at h
    · next hkey =>
      rcases hgoal : d.goal with e | g
      · rw [hgoal] at h
        cases h
      · rw [hgoal] at h
        cases h
        exact ⟨d, hd, hkey, hgoal⟩
    · cases h
  · cases h

/-- A goal is of the kind of its key. -/
theorem fits_of_goal? {key token : String} {goal : Value α} (h : goal? key token = some goal) :
    goal.Fits key := by
  obtain ⟨d, hd, rfl, hgoal⟩ := exists_of_goal? h
  have hp := (property_of_describe? hd).1
  rcases d.goal_cases hgoal with ⟨hc, c, -, rfl⟩ | ⟨hc, x, -, rfl⟩
  · rw [Value.Fits, if_pos ((key_mem_colorKeys_iff hp d.token).mpr hc)]
    exact ⟨c, rfl⟩
  · rw [Value.Fits, if_neg (mt (key_mem_colorKeys_iff hp d.token).mp hc)]
    exact fun _ => ⟨x, rfl⟩

/-- What tokens send a key to: what the last of them that animates the key says. -/
def lastGoal? (key : String) : List String → Option (Value α)
  | [] => none
  | token :: rest => (lastGoal? key rest).or (goal? key token)

theorem fits_of_lastGoal? {key : String} {tokens : List String} {goal : Value α}
    (h : lastGoal? key tokens = some goal) : goal.Fits key := by
  induction tokens with
  | nil => cases h
  | cons token rest ih =>
    rcases Option.or_eq_some_iff.mp h with hrest | ⟨-, htoken⟩
    · exact ih hrest
    · exact fits_of_goal? htoken

end Token

/-! ## Reading back -/

namespace Stage

omit [Scalar α] in
theorem stopStart?_key (property : String) (token : List Char) :
    stopStart? (Token.key property token) = stopStart? property := by
  rcases Token.key_cases property token with ⟨hkey, -⟩ | ⟨rfl, hkey⟩ | ⟨rfl, hkey⟩
  · rw [hkey]
  · have hneither : ∀ k ∈ ["translateX", "translateY"],
        stopStart? k = stopStart? "translate" := by decide
    exact hneither _ hkey
  · have hneither : ∀ k ∈ ["brightness", "blur"],
        stopStart? k = stopStart? "filter" := by decide
    exact hneither _ hkey

variable {s : Stage α} {t : Target α} {property key : String} {measure : Measure}

theorem current_of_real (hmeasure : measure ≠ .color) (hkey : key ≠ "") {x : α}
    (h : t.applied.lookup key = some (.real x)) :
    s.current t property measure key = .ok (.number x) := by
  have hnumber : s.currentNumber t key = .ok x := by
    simp only [currentNumber, h]
    rfl
  simp only [current, if_neg hkey, if_neg hmeasure, hnumber]
  rfl

theorem current_of_color (hkey : key ≠ "") (hstop : stopStart? property = none) {c : Color α}
    (h : t.applied.lookup key = some (.ofColor c)) :
    s.current t property .color key = .ok (.color c) := by
  have hcolor : s.currentColor t key = .ok c := by
    simp only [currentColor, h]
    rfl
  simp only [current, if_neg hkey, if_true, hstop, hcolor]
  rfl

theorem current_of_stop {start : String} (hstop : stopStart? property = some start) {c : Color α}
    (hvisible : isVisible c = true) (h : t.applied.lookup property = some (.ofColor c)) :
    s.current t property .color key = .ok (.color c) := by
  have hcolor : s.currentStop t property start = .ok c := by
    simp only [currentStop, h]
    simp only [Value.ofColor, Color.parse, Except.map, bind, Except.bind, visible?, Option.filter,
      hvisible, if_true]
    rfl
  simp only [current, if_true, hstop, hcolor]
  rfl

end Stage

/-! ## Jobs -/

namespace Job

/-- The job is of the kind that its key tells, and leaves at its end what its descriptor says. -/
structure Serves (d : Token.Descriptor α) (j : Job α) : Prop where
  property : j.property = d.property
  token : j.token = d.token
  key : j.key = Token.key d.property.name d.token
  goal : d.goal = .ok j.span.stop
  measure : j.span.isColors = true ↔ d.property.measure = .color

section
variable {s : Stage α} {t : Target α} {d : Token.Descriptor α} {start? : Option String} {j : Job α}

/-- Where a color sets out from. -/
def startColor (s : Stage α) (t : Target α) (d : Token.Descriptor α) :
    Option String → Except NumberFault (Color α)
  | some token => tokenColor token.toList
  | none => do
    match ← s.current t d.property.name .color (Token.key d.property.name d.token) with
    | .color c => return c
    | .number _ => return Color.transparent

/-- Where a number sets out from. -/
def startNumber (s : Stage α) (t : Target α) (d : Token.Descriptor α) :
    Option String → Except NumberFault (Quantity α)
  | some token => do Token.inMeasure (← Token.value token.toList) d.property.measure
  | none => do
    match ← s.current t d.property.name d.property.measure (Token.key d.property.name d.token) with
    | .number x => return .real x
    | .color _ => return .whole 0

theorem ofDescriptor_color (hc : d.property.measure = .color) :
    ofDescriptor s t d start? = do
      let a ← startColor s t d start?
      let b ← tokenColor d.token
      return ⟨d.property, Token.key d.property.name d.token, .colors a b, d.token⟩ := by
  unfold ofDescriptor startColor
  simp only [hc, if_true]
  cases start? with
  | some token => rfl
  | none =>
    rcases s.current t d.property.name .color (Token.key d.property.name d.token) with e | _ | _ <;>
      rfl

theorem ofDescriptor_number (hc : d.property.measure ≠ .color) :
    ofDescriptor s t d start? = do
      let a ← startNumber s t d start?
      let b ← d.inMeasure
      return ⟨d.property, Token.key d.property.name d.token, .numbers a (.real b), d.token⟩ := by
  unfold ofDescriptor startNumber
  simp only [hc, if_false]
  cases start? with
  | some token =>
    cases hv : (Token.value token.toList : Except NumberFault (Quantity α)) with
    | error e => simp only [hv]; rfl
    | ok quantity => simp only [hv]; rfl
  | none =>
    rcases s.current t d.property.name d.property.measure (Token.key d.property.name d.token)
      with e | _ | _ <;> rfl

theorem serves_of_ofDescriptor (h : ofDescriptor s t d start? = .ok j) : j.Serves d := by
  by_cases hc : d.property.measure = .color
  · rw [ofDescriptor_color hc] at h
    obtain ⟨a, -, h⟩ := bind_eq_ok.mp h
    obtain ⟨b, hb, h⟩ := bind_eq_ok.mp h
    cases h
    refine ⟨rfl, rfl, rfl, ?_, iff_of_true rfl hc⟩
    rw [Token.Descriptor.goal, if_pos hc, hb]
    rfl
  · rw [ofDescriptor_number hc] at h
    obtain ⟨a, -, h⟩ := bind_eq_ok.mp h
    obtain ⟨b, hb, h⟩ := bind_eq_ok.mp h
    cases h
    refine ⟨rfl, rfl, rfl, ?_, iff_of_false Bool.false_ne_true hc⟩
    rw [Token.Descriptor.goal, if_neg hc, hb]
    rfl

theorem current_retained (hp : d.property ∈ Token.properties) {c : Color α}
    (hv : t.applied.lookup (Token.key d.property.name d.token) = some (.ofColor c))
    (hstays : (Value.ofColor c).Stays (Token.key d.property.name d.token)) :
    s.current t d.property.name .color (Token.key d.property.name d.token) = .ok (.color c) := by
  rcases hstop : Stage.stopStart? d.property.name with _ | start
  · exact Stage.current_of_color (Token.key_spelled hp d.token).1 hstop hv
  · -- A gradient stop is looked up under the name of its property, which is its key.
    rcases Token.key_cases d.property.name d.token with ⟨hkey, -⟩ | ⟨hname, -⟩ | ⟨hname, -⟩
    · rcases hstays with hnone | ⟨c', heq, hvisible⟩
      · rw [Stage.stopStart?_key, hstop] at hnone
        cases hnone
      · obtain rfl := Value.ofColor_inj heq
        rw [hkey] at hv ⊢
        exact Stage.current_of_stop hstop hvisible hv
    · rw [hname] at hstop
      cases hstop
    · rw [hname] at hstop
      cases hstop

theorem startColor_retained (hp : d.property ∈ Token.properties) {c : Color α}
    (hv : t.applied.lookup (Token.key d.property.name d.token) = some (.ofColor c))
    (hstays : (Value.ofColor c).Stays (Token.key d.property.name d.token)) :
    startColor s t d none = .ok c := by
  simp only [startColor, current_retained hp hv hstays]
  rfl

theorem startNumber_retained (hp : d.property ∈ Token.properties)
    (hc : d.property.measure ≠ .color) {x : α}
    (hv : t.applied.lookup (Token.key d.property.name d.token) = some (.real x)) :
    startNumber s t d none = .ok (.real x) := by
  simp only [startNumber, Stage.current_of_real hc (Token.key_spelled hp d.token).1 hv]
  rfl

/-- A job without an explicit start sets out from what its key retains. -/
theorem start_of_retained (hp : d.property ∈ Token.properties) {v goal : Value α}
    (hv : t.applied.lookup (Token.key d.property.name d.token) = some v)
    (hfits : v.Fits (Token.key d.property.name d.token))
    (hstays : v.Stays (Token.key d.property.name d.token)) (hgoal : d.goal = .ok goal) :
    ∃ j, ofDescriptor s t d none = .ok j ∧ j.span.start = v := by
  rcases d.goal_cases hgoal with ⟨hc, b, hb, -⟩ | ⟨hc, b, hb, -⟩
  · rw [Value.Fits, if_pos ((Token.key_mem_colorKeys_iff hp d.token).mpr hc)] at hfits
    obtain ⟨c, rfl⟩ := hfits
    rw [ofDescriptor_color hc, startColor_retained hp hv hstays, hb]
    exact ⟨_, rfl, rfl⟩
  · rw [Value.Fits, if_neg (mt (Token.key_mem_colorKeys_iff hp d.token).mp hc)] at hfits
    obtain ⟨x, rfl⟩ := hfits (Token.key_spelled hp d.token).2
    rw [ofDescriptor_number hc, startNumber_retained hp hc hv, hb]
    exact ⟨_, rfl, rfl⟩

/-! ## Lists of jobs -/

/-- A token that animates nothing is skipped, and any other makes a job. -/
theorem build_cons {token : String} {rest start : List String} {jobs : List (Job α)}
    (h : build s t (token :: rest) start = .ok jobs) :
    ((Token.describe? token.toList : Except NumberFault (Option (Token.Descriptor α))) = .ok none ∧
        build s t rest (start.drop 1) = .ok jobs) ∨
      ∃ (d : Token.Descriptor α) (j : Job α) (others : List (Job α)),
        Token.describe? token.toList = .ok (some d) ∧ ofDescriptor s t d start.head? = .ok j ∧
        build s t rest (start.drop 1) = .ok others ∧ jobs = j :: others := by
  unfold build at h
  obtain ⟨described, hdescribed, h⟩ := bind_eq_ok.mp h
  cases described with
  | none =>
    obtain ⟨job?, hjob, h⟩ := bind_eq_ok.mp h
    obtain ⟨others, hothers, h⟩ := bind_eq_ok.mp h
    cases hjob
    cases h
    exact .inl ⟨hdescribed, hothers⟩
  | some d =>
    obtain ⟨job?, hjob, h⟩ := bind_eq_ok.mp h
    obtain ⟨others, hothers, h⟩ := bind_eq_ok.mp h
    rcases hj : ofDescriptor s t d start.head? with e | j
    · rw [hj] at hjob
      cases hjob
    · rw [hj] at hjob
      cases hjob
      cases h
      exact .inr ⟨d, j, others, hdescribed, hj, hothers, rfl⟩

theorem build_singleton {token : String}
    (hd : (Token.describe? token.toList : Except NumberFault (Option (Token.Descriptor α))) =
      .ok (some d))
    (hj : ofDescriptor s t d none = .ok j) : build s t [token] [] = .ok [j] := by
  unfold build
  refine bind_eq_ok.mpr ⟨some d, hd, bind_eq_ok.mpr ⟨some j, ?_, rfl⟩⟩
  rw [List.head?_nil, hj]
  rfl

/-- Every job is that of a descriptor. Without a start state none has an explicit start. -/
theorem exists_of_mem_build {goals start : List String} {jobs : List (Job α)}
    (h : build s t goals start = .ok jobs) (hj : j ∈ jobs) :
    ∃ (d : Token.Descriptor α) (start? : Option String), d.property ∈ Token.properties ∧
      ofDescriptor s t d start? = .ok j ∧ (start = [] → start? = none) := by
  induction goals generalizing start jobs with
  | nil =>
    cases h
    exact absurd hj List.not_mem_nil
  | cons token rest ih =>
    have hdrop : start = [] → start.drop 1 = [] := by
      rintro rfl
      rfl
    rcases build_cons h with ⟨-, hrest⟩ | ⟨d, first, others, hd, hfirst, hrest, rfl⟩
    · obtain ⟨d, start?, hp, hd, hnone⟩ := ih hrest hj
      exact ⟨d, start?, hp, hd, hnone ∘ hdrop⟩
    · rcases List.mem_cons.mp hj with rfl | hj
      · refine ⟨d, start.head?, (Token.property_of_describe? hd).1, hfirst, ?_⟩
        rintro rfl
        rfl
      · obtain ⟨d, start?, hp, hd, hnone⟩ := ih hrest hj
        exact ⟨d, start?, hp, hd, hnone ∘ hdrop⟩

/-- A token that can be read makes a job. -/
theorem exists_mem_build {goals start : List String} {jobs : List (Job α)}
    (h : build s t goals start = .ok jobs) {key token : String} {goal : Value α}
    (htoken : token ∈ goals) (hgoal : Token.goal? key token = some goal) :
    ∃ j ∈ jobs, j.token = token.toList ∧ j.key = key ∧ j.span.stop = goal := by
  obtain ⟨d, hd, hkey, hgoal⟩ := Token.exists_of_goal? hgoal
  induction goals generalizing start jobs with
  | nil => exact absurd htoken List.not_mem_nil
  | cons other rest ih =>
    rcases build_cons h with ⟨hnone, hrest⟩ | ⟨d', first, others, hd', hfirst, hrest, rfl⟩
    · rcases List.mem_cons.mp htoken with rfl | htoken
      · rw [hd] at hnone
        cases hnone
      · exact ih hrest htoken
    · rcases List.mem_cons.mp htoken with rfl | htoken
      · rw [hd] at hd'
        cases hd'
        have hserves := serves_of_ofDescriptor hfirst
        refine ⟨first, List.mem_cons_self, ?_, hserves.key.trans hkey, ?_⟩
        · rw [hserves.token, (Token.property_of_describe? hd).2]
        · exact Except.ok.inj (hserves.goal.symm.trans hgoal)
      · obtain ⟨j, hj, hmakes⟩ := ih hrest htoken
        exact ⟨j, List.mem_cons_of_mem first hj, hmakes⟩

/-- Without a start state every job sets out from what its key retains. -/
theorem start_of_mem_build {goals : List String} {jobs : List (Job α)}
    (h : build s t goals [] = .ok jobs) (hj : j ∈ jobs) {v : Value α}
    (hv : t.applied.lookup j.key = some v) (hfits : v.Fits j.key) (hstays : v.Stays j.key) :
    j.span.start = v := by
  obtain ⟨d, start?, hp, hd, hnone⟩ := exists_of_mem_build h hj
  obtain rfl := hnone rfl
  have hserves := serves_of_ofDescriptor hd
  rw [hserves.key] at hv hfits hstays
  obtain ⟨j', hj', hstart⟩ := start_of_retained (s := s) hp hv hfits hstays hserves.goal
  rw [hd] at hj'
  cases hj'
  exact hstart

/-- What the last of some jobs with a key leaves at its end. -/
def last? (key : String) : List (Job α) → Option (Value α)
  | [] => none
  | j :: rest => (last? key rest).or (if j.key = key then some j.span.stop else none)

theorem lastGoal?_eq (key : String) {goals start : List String} {jobs : List (Job α)}
    (h : build s t goals start = .ok jobs) : Token.lastGoal? key goals = last? key jobs := by
  induction goals generalizing start jobs with
  | nil =>
    cases h
    rfl
  | cons token rest ih =>
    rcases build_cons h with ⟨hnone, hrest⟩ | ⟨d, first, others, hd, hfirst, hrest, rfl⟩
    · have hgoal : (Token.goal? key token : Option (Value α)) = none := by
        simp only [Token.goal?, hnone]
      rw [Token.lastGoal?, hgoal, Option.or_none, ih hrest]
    · have hserves := serves_of_ofDescriptor hfirst
      have hgoal :
          Token.goal? key token = if first.key = key then some first.span.stop else none := by
        simp only [Token.goal?, hd, hserves.goal, hserves.key]
        rfl
      rw [Token.lastGoal?, hgoal, ih hrest, last?]

end

/-! ## The end of the way -/

/-- The number a job ends at is one of the arithmetic. -/
def EndsReal (j : Job α) : Prop := ∀ a b, j.span = .numbers a b → ∃ x, b = .real x

theorem Serves.endsReal {d : Token.Descriptor α} {j : Job α} (hj : j.Serves d) : j.EndsReal := by
  intro a b hspan
  have hgoal := hj.goal
  rw [hspan] at hgoal
  rcases d.goal_cases hgoal with ⟨hc, -⟩ | ⟨-, x, -, hx⟩
  · rw [← hj.measure, hspan] at hc
    exact absurd hc Bool.false_ne_true
  · exact ⟨x, Value.number.inj hx⟩

/-- What a job gives its key at a progress. -/
theorem valueAt_cases [Analytic α] {j : Job α} {s : Stage α} {t : Target α} {progress : α}
    {x : Value α} {text : String} (h : j.valueAt s t progress = .ok (x, text)) :
    (∃ a b a' b', j.span = .numbers a b ∧ a.toReal = .ok a' ∧ b.toReal = .ok b' ∧
        x = .real (lerp a' b' progress)) ∨
      ∃ a b c, j.span = .colors a b ∧ Color.mix a b progress = .ok c ∧ x = .ofColor c := by
  unfold valueAt at h
  rcases hspan : j.span with ⟨a, b⟩ | ⟨a, b⟩
  · simp only [hspan] at h
    obtain ⟨a', ha, h⟩ := bind_eq_ok.mp h
    obtain ⟨b', hb, h⟩ := bind_eq_ok.mp h
    refine .inl ⟨a, b, a', b', rfl, ha, hb, ?_⟩
    split at h
    · obtain ⟨shift, -, h⟩ := bind_eq_ok.mp h
      cases h
      rfl
    · cases h
      rfl
  · simp only [hspan] at h
    obtain ⟨c, hc, h⟩ := bind_eq_ok.mp h
    obtain ⟨css, -, h⟩ := bind_eq_ok.mp h
    cases h
    exact .inr ⟨a, b, c, rfl, hc, rfl⟩

theorem lerp_one (a b : Rat) : lerp a b Scalar.one = b := by
  have hone : (Scalar.one : Rat) = 1 := rfl
  rw [lerp, hone, mul_one, add_sub_cancel]

section
variable [Analytic Rat] {h : Handle} {w v : World Rat C}

theorem mix_one (a b : Color Rat) : Color.mix a b Scalar.one = .ok b := by
  have hzero : ¬(Scalar.one : Rat) ≤ Scalar.zero := by decide
  have hone : (Scalar.one : Rat) ≤ Scalar.one := le_refl _
  unfold Color.mix
  simp only [if_neg hzero, if_pos hone]
  rfl

theorem valueAt_one {j : Job Rat} (hj : j.EndsReal) {s : Stage Rat} {t : Target Rat} {x : Value Rat}
    {text : String} (hvalue : j.valueAt s t Scalar.one = .ok (x, text)) : x = j.span.stop := by
  rcases valueAt_cases hvalue with ⟨a, b, a', b', hspan, -, hb, rfl⟩ | ⟨a, b, c, hspan, hc, rfl⟩
  · obtain ⟨y, rfl⟩ := hj a b hspan
    obtain rfl := Except.ok.inj hb
    rw [lerp_one, hspan]
    rfl
  · rw [mix_one] at hc
    obtain rfl := Except.ok.inj hc
    rw [hspan]
    rfl

/-- A target keeps under each key where the last job with the key ends, and the rest as it was. -/
theorem applyAll_one {jobs : List (Job Rat)} (hjobs : ∀ j ∈ jobs, j.EndsReal)
    (happly : applyAll h Scalar.one jobs w = (.ok (), v)) {t' : Target Rat}
    (ht' : v.stage.targets[h]? = some t') :
    ∃ t, w.stage.targets[h]? = some t ∧
      ∀ key, t'.applied.lookup key = (last? key jobs).or (t.applied.lookup key) := by
  induction jobs generalizing w with
  | nil =>
    cases happly
    exact ⟨t', ht', fun _ => rfl⟩
  | cons j rest ih =>
    rw [applyAll] at happly
    rcases ht : w.stage.targets[h]? with _ | t
    · simp only [ht] at happly
      cases happly
      rw [ht] at ht'
      cases ht'
    · simp only [ht] at happly
      rcases hvalue : j.valueAt w.stage t Scalar.one with e | ⟨x, text⟩
      · simp only [hvalue] at happly
        cases happly
      · simp only [hvalue] at happly
        obtain rfl := valueAt_one (hjobs j List.mem_cons_self) hvalue
        obtain ⟨t₁, ht₁, hlookup⟩ := ih (fun j hj => hjobs j (List.mem_cons_of_mem _ hj)) happly
        obtain rfl : { t with applied := assign j.key j.span.stop t.applied } = t₁ := by
          rw [World.apply_stage, Stage.modify, List.getElem?_modify_eq, ht] at ht₁
          exact Option.some.inj ht₁
        -- The jobs after the first see its value in place of the one from before.
        refine ⟨t, rfl, fun key => ?_⟩
        rw [hlookup, lookup_assign, last?, Option.or_assoc]
        by_cases hkey : key = j.key
        · rw [if_pos hkey, if_pos hkey.symm]
          rfl
        · rw [if_neg hkey, if_neg (Ne.symm hkey)]
          rfl

end
end Job
end Choreo
