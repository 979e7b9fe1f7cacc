import Choreo.Flow.Animation
import Choreo.Proofs.Stage.Retained

/-!
Shifts along two axes.

The two axes of a shift are channels of their own, but the sink gets one text for both. A job that
shifts a target writes its own axis with the number it is about to keep and the other one with its
current number, so once the number is kept the text shows both axes as they are
(`Stage.shiftText_assign`). Nothing else an animation does to a target is read back as a shift: a
value under another key is not, and neither is the class that shows a gradient.
-/

namespace Choreo
variable {α C : Type}

namespace Stage

/-- The keys of the two axes. -/
def axes : List String := ["translateX", "translateY"]

/-! ## Targets apart -/

/-- No two targets go by one id. -/
def Distinct (s : Stage α) : Prop := (s.targets.map (·.id)).Nodup

theorem Distinct.eq_of_id {s : Stage α} (hs : s.Distinct) {i j : Handle} {t u : Target α}
    (ht : s.targets[i]? = some t) (hu : s.targets[j]? = some u) (hid : t.id = u.id) : i = j := by
  have hti : (s.targets.map (·.id))[i]? = some t.id := by rw [List.getElem?_map, ht]; rfl
  have huj : (s.targets.map (·.id))[j]? = some t.id := by rw [List.getElem?_map, hu, hid]; rfl
  obtain ⟨hi, -⟩ := List.getElem?_eq_some_iff.mp hti
  exact (List.getElem?_inj hi hs).mp (hti.trans huj.symm)

theorem Distinct.modify {s : Stage α} (hs : s.Distinct) (i : Handle) {f : Target α → Target α}
    (hf : ∀ t, s.targets[i]? = some t → (f t).id = t.id) : (s.modify i f).Distinct := by
  have hids : (s.modify i f).targets.map (·.id) = s.targets.map (·.id) := by
    refine List.ext_getElem? fun j => ?_
    rw [List.getElem?_map, List.getElem?_map, Stage.modify, List.getElem?_modify]
    cases ht : s.targets[j]? with
    | none => rfl
    | some t =>
      by_cases hij : i = j
      · subst hij
        simp [hf t ht]
      · simp [hij]
  rw [Distinct, hids]
  exact hs

/-- In place of a target there is the new one, and all others go by other ids. -/
theorem Distinct.of_mem_modify {s : Stage α} (hs : s.Distinct) {i : Handle} {t t' u : Target α}
    (ht : s.targets[i]? = some t) (hu : u ∈ (s.modify i fun _ => t').targets) :
    u = t' ∨ u ∈ s.targets ∧ u.id ≠ t.id := by
  obtain ⟨j, hj⟩ := List.mem_iff_getElem?.mp hu
  rw [Stage.modify, List.getElem?_modify] at hj
  obtain ⟨v, hv, heq⟩ := Option.map_eq_some_iff.mp hj
  by_cases hij : i = j
  · rw [if_pos hij] at heq
    exact .inl heq.symm
  · rw [if_neg hij] at heq
    obtain rfl : v = u := heq
    refine .inr ⟨List.mem_of_getElem? hv, ?_⟩
    intro hid
    exact hij (hs.eq_of_id ht hv hid.symm)

theorem foldlM_register_ids {entries : List (String × String)} {s s' : Stage α}
    (h : entries.foldlM (fun s (id, classes) => s.register id classes) s = .ok s') :
    s'.targets.map (·.id) = s.targets.map (·.id) ++ entries.map (·.1) := by
  induction entries generalizing s with
  | nil =>
    cases h
    exact (List.append_nil _).symm
  | cons entry entries ih =>
    obtain ⟨id, classes⟩ := entry
    rw [List.foldlM_cons] at h
    obtain ⟨u, hu, h⟩ := bind_eq_ok.mp h
    simp only [register] at hu
    split at hu
    · cases hu
    · cases hu
      rw [ih h]
      simp [Target.ofClasses]

/-- However often an id comes in a view, one target goes by it. -/
theorem distinct_ofView {view : List (String × String)}
    {environment : Option (String → String → Value α)} {hasSink : Bool} {s : Stage α}
    (h : ofView view environment hasSink = .ok s) : s.Distinct := by
  rw [Distinct, foldlM_register_ids h]
  exact nodup_foldl_assign view List.nodup_nil

theorem distinct_resetStage {w : World α C} (hw : w.stage.Distinct) :
    w.resetStage.stage.Distinct := by
  unfold World.resetStage
  generalize w.stage.names = names
  induction names generalizing w with
  | nil => exact hw
  | cons name names ih =>
    have htarget : (w.resetTarget name.2).stage.Distinct := by
      rw [World.resetTarget_stage]
      exact hw.modify name.2 fun _ _ => rfl
    exact ih htarget

/-! ## Keys -/

theorem key_mem_axes_iff {p : Property} (hp : p ∈ Token.properties) (token : List Char) :
    Token.key p.name token ∈ axes ↔ p.name = "translate" := by
  rcases Token.key_cases p.name token with ⟨hkey, hne, -⟩ | ⟨hshift, hkey⟩ | ⟨hfilter, hkey⟩
  · have hname : ∀ p ∈ Token.properties, p.name ∉ axes := by decide +kernel
    rw [hkey]
    exact iff_of_false (hname p hp) hne
  · exact iff_of_true hkey hshift
  · have hneither : ∀ key ∈ ["brightness", "blur"], key ∉ axes := by decide
    refine iff_of_false (hneither _ hkey) ?_
    rw [hfilter]
    decide

variable [Scalar α]

/-! ## Reading classes -/

/-- The class that shows a gradient says nothing of an axis. -/
theorem valueFromClass_gradientClass {key : String} (hkey : key ∈ axes) :
    (valueFromClass key Animation.gradientClass : Except NumberFault (Option (Value α))) =
      .ok none := by
  have hproperty : Token.property? Animation.gradientClass.toList =
      some ⟨"backgroundColor", .color⟩ := by decide +kernel
  have hother : ∀ key ∈ axes,
      Token.key "backgroundColor" Animation.gradientClass.toList ≠ key := by decide +kernel
  have hdescribed : (Token.describe? Animation.gradientClass.toList :
      Except NumberFault (Option (Token.Descriptor α))) =
        .ok (some ⟨⟨"backgroundColor", .color⟩, Scalar.zero, Animation.gradientClass.toList⟩) := by
    simp only [Token.describe?, hproperty, if_true]
  have hstop : ¬(stopStart? "backgroundColor").isSome = true := by decide
  rw [valueFromClass, hdescribed]
  simp only [bind, Except.bind, if_neg hstop, if_pos (hother key hkey)]
  rfl

theorem valueFromClasses_gradientClass {key : String} (hkey : key ∈ axes) (classes : List String) :
    (valueFromClasses (classes ++ [Animation.gradientClass]) key : Except NumberFault (Value α)) =
      valueFromClasses classes key := by
  simp only [valueFromClasses, List.reverse_append, List.reverse_singleton, List.singleton_append,
    valueFromClasses.go, valueFromClass_gradientClass hkey]
  rfl

theorem read_of_environment_eq_none {s : Stage α} (h : s.environment = none) (id key : String) :
    s.read id key =
      ((s.target? id).map fun t => valueFromClasses t.classes key).getD (.ok .none) := by
  simp only [read, h]
  cases s.target? id <;> rfl

/-- A change of one target is not read back unless its classes say something new. -/
theorem read_modify {s : Stage α} {i : Handle} {t : Target α} (ht : s.targets[i]? = some t)
    {f : Target α → Target α} {key : String}
    (hf : (valueFromClasses (f t).classes key : Except NumberFault (Value α)) =
      valueFromClasses t.classes key) (id : String) :
    (s.modify i f).read id key = s.read id key := by
  cases henvironment : s.environment with
  | some env => simp only [read, modify, henvironment]
  | none =>
    have henvironment' : (s.modify i f).environment = none := henvironment
    rw [read_of_environment_eq_none henvironment, read_of_environment_eq_none henvironment']
    have hhandle : (s.modify i f).handle? id = s.handle? id := rfl
    rw [target?, target?, hhandle]
    cases s.handle? id with
    | none => rfl
    | some h =>
      rw [Option.bind_some, Option.bind_some, modify, List.getElem?_modify]
      by_cases hi : i = h
      · subst hi
        simp [ht, hf]
      · simp [hi]

/-! ## Shifts -/

/-- The text of a shift that has both axes at their current numbers. -/
def shiftText (s : Stage α) (t : Target α) : Except NumberFault String := do
  let across ← s.currentNumber t "translateX"
  let down ← s.currentNumber t "translateY"
  return Token.numberText across ++ "px " ++ Token.numberText down ++ "px"

theorem exists_of_shiftText {s : Stage α} {t : Target α} {text : String}
    (h : s.shiftText t = .ok text) :
    ∃ x y, s.current t "translate" .px "translateX" = .ok (.number x) ∧
      s.current t "translate" .px "translateY" = .ok (.number y) ∧
      text = Token.numberText x ++ "px " ++ Token.numberText y ++ "px" := by
  obtain ⟨x, hx, h⟩ := bind_eq_ok.mp h
  obtain ⟨y, hy, h⟩ := bind_eq_ok.mp h
  cases h
  refine ⟨x, y, ?_, ?_, rfl⟩
  · exact congrArg (Except.map Current.number) hx
  · exact congrArg (Except.map Current.number) hy

/-- A shift depends on what is kept under the axes and on what is read for them. -/
theorem shiftText_congr {s s' : Stage α} {t t' : Target α} (hid : t'.id = t.id)
    (hkept : ∀ key ∈ axes, t'.applied.lookup key = t.applied.lookup key)
    (hread : ∀ key ∈ axes, s'.read t.id key = s.read t.id key) :
    s'.shiftText t' = s.shiftText t := by
  have hnumber (key : String) (hkey : key ∈ axes) :
      s'.currentNumber t' key = s.currentNumber t key := by
    simp only [currentNumber, hid, hkept key hkey, hread key hkey]
  simp only [shiftText, hnumber "translateX" (by decide), hnumber "translateY" (by decide)]

theorem currentNumber_assign (s : Stage α) (t : Target α) (key : String) (x : α) (other : String) :
    s.currentNumber { t with applied := assign key (.real x) t.applied } other =
      if key = other then .ok x else s.currentNumber t other := by
  simp only [currentNumber, lookup_assign]
  by_cases h : key = other
  · rw [if_pos h, if_pos h.symm]
    rfl
  · rw [if_neg h, if_neg (Ne.symm h)]

/-- Once the number of an axis is kept, the text that was handed over for it has both axes at their
current numbers. -/
theorem shiftText_assign (s : Stage α) (t : Target α) (key : String) (x : α) :
    s.shiftText { t with applied := assign key (.real x) t.applied } =
      Job.translateText s t key x := by
  simp only [shiftText, Job.translateText, currentNumber_assign]
  rfl

end Stage
end Choreo
