import Choreo.Stage.Job
import Mathlib.Data.Set.Basic

/-!
What can be seen of a stage through some ids.

An animation gets at its target through an id, and reads and writes nothing but what that id
reaches. Two worlds agree on a set of ids if nothing that these ids reach, and nothing that no id
reaches, tells them apart: neither the targets nor what was handed to the sink for them. What is
done through an id on both sides keeps such an agreement, and what is done through another id on one
side alone does not touch it.
-/

namespace Choreo
variable {α C : Type}

/-! ## Reading through an id -/

section
variable [Scalar α] {s s' : Stage α} {t : Target α}

/-- Of the stage, the current value of a key of a target depends on what is read for its id. -/
theorem Stage.current_congr (h : ∀ key, s.read t.id key = s'.read t.id key) (property : String)
    (measure : Measure) (key : String) :
    s.current t property measure key = s'.current t property measure key := by
  simp only [current, currentStop, currentColor, currentNumber, h]

theorem Job.build_congr (h : ∀ key, s.read t.id key = s'.read t.id key)
    (goals start : List String) :
    build s t goals start = build s' t goals start := by
  induction goals generalizing start with
  | nil => rfl
  | cons token rest ih =>
    have hcurrent := Stage.current_congr h
    simp only [build, ofDescriptor, hcurrent, ih]

theorem Job.valueAt_congr [Analytic α] (h : ∀ key, s.read t.id key = s'.read t.id key) (j : Job α)
    (progress : α) : j.valueAt s t progress = j.valueAt s' t progress := by
  simp only [valueAt, translateText, Stage.currentNumber, h]

end

/-- Every id that is named reaches a target that goes by it. -/
def Stage.Faithful (s : Stage α) : Prop :=
  ∀ id h, s.handle? id = some h → ∃ t, s.targets[h]? = some t ∧ t.id = id

theorem Stage.Faithful.modify {s : Stage α} (hs : s.Faithful) (i : Handle) {f : Target α → Target α}
    (hf : ∀ t, s.targets[i]? = some t → (f t).id = t.id) : (s.modify i f).Faithful := by
  intro id h hid
  obtain ⟨t, ht, rfl⟩ := hs id h hid
  show ∃ t', (s.targets.modify i f)[h]? = some t' ∧ t'.id = t.id
  rw [List.getElem?_modify, ht]
  by_cases hi : i = h
  · subst hi
    exact ⟨f t, by simp, hf t ht⟩
  · exact ⟨t, by simp [hi], rfl⟩

/-- Whether the event hands the sink a text for a target. -/
def Event.isFor (id : String) : Event α → Bool
  | .apply target _ _ => target == id
  | _ => false

namespace World

/-- What the sink was handed for a target, in order. -/
def handed (id : String) (w : World α C) : List (Event α) := w.events.filter (Event.isFor id)

theorem handed_report (id : String) (w : World α C) (e : Event α) :
    (w.report e).handed id = w.handed id ++ if e.isFor id then [e] else [] := by
  show (e :: w.log).reverse.filter _ = w.log.reverse.filter _ ++ _
  rw [List.reverse_cons, List.filter_append, List.filter_cons]
  rfl

/-! ## Agreement -/

/-- Two worlds with the same names, which some of the ids do not tell apart. A target that an id
outside the set names is out of sight. -/
structure Agree (names : List (String × Handle)) (X : Set String) (w w' : World α C) : Prop where
  names_left : w.stage.names = names
  names_right : w'.stage.names = names
  faithful_left : w.stage.Faithful
  faithful_right : w'.stage.Faithful
  environment : w.stage.environment = w'.stage.environment
  hasSink : w.stage.hasSink = w'.stage.hasSink
  suppressed : w.suppressed = w'.suppressed
  crew : w.crew = w'.crew
  target : ∀ h, (∀ id, names.lookup id = some h → id ∈ X) →
    w.stage.targets[h]? = w'.stage.targets[h]?
  handed : ∀ id ∈ X, w.handed id = w'.handed id

namespace Agree
variable {names : List (String × Handle)} {X Y : Set String} {w w' w'' : World α C}

theorem refl (h : w.stage.Faithful) : Agree w.stage.names X w w :=
  ⟨rfl, rfl, h, h, rfl, rfl, rfl, rfl, fun _ _ => rfl, fun _ _ => rfl⟩

theorem symm (h : Agree names X w w') : Agree names X w' w where
  names_left := h.names_right
  names_right := h.names_left
  faithful_left := h.faithful_right
  faithful_right := h.faithful_left
  environment := h.environment.symm
  hasSink := h.hasSink.symm
  suppressed := h.suppressed.symm
  crew := h.crew.symm
  target := fun i hi => (h.target i hi).symm
  handed := fun id hid => (h.handed id hid).symm

theorem trans (h : Agree names X w w') (h' : Agree names X w' w'') : Agree names X w w'' where
  names_left := h.names_left
  names_right := h'.names_right
  faithful_left := h.faithful_left
  faithful_right := h'.faithful_right
  environment := h.environment.trans h'.environment
  hasSink := h.hasSink.trans h'.hasSink
  suppressed := h.suppressed.trans h'.suppressed
  crew := h.crew.trans h'.crew
  target := fun i hi => (h.target i hi).trans (h'.target i hi)
  handed := fun id hid => (h.handed id hid).trans (h'.handed id hid)

theorem self (h : Agree names X w w') : Agree names Y w w := by
  have hrefl : Agree w.stage.names Y w w := refl h.faithful_left
  rwa [h.names_left] at hrefl

theorem mono (h : Agree names Y w w') (hXY : X ⊆ Y) : Agree names X w w' :=
  { h with
    target := fun i hi => h.target i fun id hid => hXY (hi id hid)
    handed := fun id hid => h.handed id (hXY hid) }

/-- What an id of the set names is in sight. -/
theorem target_of_mem (h : Agree names X w w') {id : String} (hid : id ∈ X) {i : Handle}
    (hi : names.lookup id = some i) :
    ∃ t, w.stage.targets[i]? = some t ∧ w'.stage.targets[i]? = some t ∧ t.id = id := by
  have hnamed : w.stage.handle? id = some i := by rw [Stage.handle?, h.names_left, hi]
  obtain ⟨t, ht, rfl⟩ := h.faithful_left id i hnamed
  refine ⟨t, ht, ?_, rfl⟩
  rw [← h.target i fun id' hid' => ?_, ht]
  -- Another id for the same target would be the id the target goes by.
  have hnamed' : w.stage.handle? id' = some i := by rw [Stage.handle?, h.names_left, hid']
  obtain ⟨t', ht', rfl⟩ := h.faithful_left id' i hnamed'
  obtain rfl : t = t' := Option.some.inj (ht.symm.trans ht')
  exact hid

theorem handle?_eq (h : Agree names X w w') (id : String) :
    w.stage.handle? id = names.lookup id ∧ w'.stage.handle? id = names.lookup id :=
  ⟨by rw [Stage.handle?, h.names_left], by rw [Stage.handle?, h.names_right]⟩

/-- Worlds that no id tells apart agree on all ids together. -/
theorem of_cover (h : ∀ id, ∃ X, id ∈ X ∧ Agree names X w w') : Agree names Set.univ w w' := by
  obtain ⟨X, -, hX⟩ := h ""
  refine { hX with target := fun i _ => ?_, handed := fun id _ => ?_ }
  · by_cases hnamed : ∃ id, names.lookup id = some i
    · obtain ⟨id, hi⟩ := hnamed
      obtain ⟨Y, hid, hY⟩ := h id
      obtain ⟨t, ht, ht', -⟩ := hY.target_of_mem hid hi
      rw [ht, ht']
    · exact hX.target i fun id hi => absurd ⟨id, hi⟩ hnamed
  · obtain ⟨Y, hid, hY⟩ := h id
    exact hY.handed id hid

theorem stage_eq (h : Agree names Set.univ w w') : w.stage = w'.stage := by
  have htargets : w.stage.targets = w'.stage.targets :=
    List.ext_getElem? fun i => h.target i fun _ _ => Set.mem_univ _
  have hnames : w.stage.names = w'.stage.names := h.names_left.trans h.names_right.symm
  have henvironment := h.environment
  have hsink := h.hasSink
  rcases hs : w.stage with ⟨targets, names, environment, hasSink⟩
  rcases hs' : w'.stage with ⟨targets', names', environment', hasSink'⟩
  simp only [hs, hs'] at htargets hnames henvironment hsink
  rw [htargets, hnames, henvironment, hsink]

theorem target?_eq (h : Agree names X w w') {id : String} (hid : id ∈ X) :
    w.stage.target? id = w'.stage.target? id := by
  rw [Stage.target?, Stage.target?, (h.handle?_eq id).1, (h.handle?_eq id).2]
  cases hi : names.lookup id with
  | none => rfl
  | some i =>
    obtain ⟨t, ht, ht', -⟩ := h.target_of_mem hid hi
    rw [Option.bind_some, Option.bind_some, ht, ht']

theorem read [Scalar α] (h : Agree names X w w') {id : String} (hid : id ∈ X) (key : String) :
    w.stage.read id key = w'.stage.read id key := by
  rw [Stage.read, Stage.read, h.environment, h.target?_eq hid]

/-! ## What keeps an agreement -/

theorem report (h : Agree names X w w') (e : Event α) :
    Agree names X (w.report e) (w'.report e) :=
  { h with
    handed := fun id hid => by rw [handed_report, handed_report, h.handed id hid] }

theorem report_right (h : Agree names X w w') {e : Event α} (he : ∀ id ∈ X, e.isFor id = false) :
    Agree names X w (w'.report e) :=
  { h with
    handed := fun id hid => by
      rw [handed_report, he id hid, h.handed id hid]
      exact (List.append_nil _).symm }

theorem emit (h : Agree names X w w') (target property text : String) :
    Agree names X (w.emit target property text) (w'.emit target property text) := by
  unfold World.emit
  rw [h.hasSink]
  split
  · exact h.report _
  · exact h

theorem emit_right (h : Agree names X w w') {target : String} (htarget : target ∉ X)
    (property text : String) : Agree names X w (w'.emit target property text) := by
  unfold World.emit
  split
  · refine h.report_right fun id hid => beq_eq_false_iff_ne.mpr ?_
    rintro rfl
    exact htarget hid
  · exact h

theorem modify (h : Agree names X w w') (i : Handle) {f : Target α → Target α}
    (hf : ∀ t, w.stage.targets[i]? = some t ∨ w'.stage.targets[i]? = some t → (f t).id = t.id) :
    Agree names X { w with stage := w.stage.modify i f }
      { w' with stage := w'.stage.modify i f } :=
  { h with
    faithful_left := h.faithful_left.modify i fun t ht => hf t (.inl ht)
    faithful_right := h.faithful_right.modify i fun t ht => hf t (.inr ht)
    target := fun j hj => by
      show (w.stage.targets.modify i f)[j]? = (w'.stage.targets.modify i f)[j]?
      rw [List.getElem?_modify, List.getElem?_modify, h.target j hj] }

theorem modify_right (h : Agree names X w w') {id : String} (hid : id ∉ X) {i : Handle}
    (hi : names.lookup id = some i) {f : Target α → Target α}
    (hf : ∀ t, w'.stage.targets[i]? = some t → (f t).id = t.id) :
    Agree names X w { w' with stage := w'.stage.modify i f } :=
  { h with
    faithful_right := h.faithful_right.modify i hf
    target := fun j hj => by
      have hne : i ≠ j := by
        rintro rfl
        exact hid (hj id hi)
      show w.stage.targets[j]? = (w'.stage.targets.modify i f)[j]?
      simp [hne, h.target j hj] }

end Agree

/-! ## Doing something through some ids -/

/-- Two worlds in which the same was done through the ids of a set: these do not tell the worlds
apart, and to all others the first looks as it did before. -/
structure Through (names : List (String × Handle)) (X : Set String) (before w w' : World α C) :
    Prop where
  agree : Agree names X w w'
  spared : Agree names Xᶜ before w

namespace Through
variable {names : List (String × Handle)} {X : Set String} {before w w' : World α C}

theorem report (h : Through names X before w w') {e : Event α} (he : ∀ id, e.isFor id = false) :
    Through names X before (w.report e) (w'.report e) :=
  ⟨h.agree.report e, h.spared.report_right fun id _ => he id⟩

theorem emit (h : Through names X before w w') {target : String} (htarget : target ∈ X)
    (property text : String) :
    Through names X before (w.emit target property text) (w'.emit target property text) :=
  ⟨h.agree.emit _ _ _, h.spared.emit_right (fun hc => hc htarget) _ _⟩

theorem modify (h : Through names X before w w') {id : String} (hid : id ∈ X) {i : Handle}
    (hi : names.lookup id = some i) {f : Target α → Target α}
    (hf : ∀ t, w.stage.targets[i]? = some t → (f t).id = t.id) :
    Through names X before { w with stage := w.stage.modify i f }
      { w' with stage := w'.stage.modify i f } := by
  refine ⟨h.agree.modify i fun t ht => hf t ?_, h.spared.modify_right (fun hc => hc hid) hi hf⟩
  obtain ⟨u, hu, hu', -⟩ := h.agree.target_of_mem hid hi
  rcases ht with ht | ht
  · exact ht
  · rwa [hu, ← hu']

theorem retain (h : Through names X before w w') {id : String} (hid : id ∈ X) {i : Handle}
    (hi : names.lookup id = some i) (key : String) (value : Value α) :
    Through names X before (w.retain i key value) (w'.retain i key value) :=
  h.modify hid hi (f := fun t => { t with applied := assign key value t.applied }) fun _ _ => rfl

theorem apply (h : Through names X before w w') {id : String} (hid : id ∈ X) {i : Handle}
    (hi : names.lookup id = some i) (key : String) (value : Value α) (property text : String) :
    Through names X before (w.apply i key value property text)
      (w'.apply i key value property text) := by
  obtain ⟨t, ht, ht', rfl⟩ := h.agree.target_of_mem hid hi
  simp only [World.apply, ht, ht']
  exact (h.retain hid hi key value).emit hid property text

theorem addClass (h : Through names X before w w') {id : String} (hid : id ∈ X) {i : Handle}
    (hi : names.lookup id = some i) (token : String) :
    Through names X before (w.addClass i token) (w'.addClass i token) := by
  obtain ⟨t, ht, ht', rfl⟩ := h.agree.target_of_mem hid hi
  simp only [World.addClass, ht, ht']
  split
  · exact h
  · refine Through.emit (h.modify hid hi fun u hu => ?_) hid _ _
    rw [ht] at hu
    cases hu
    rfl

end Through
end World
end Choreo
