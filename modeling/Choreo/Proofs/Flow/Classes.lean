import Choreo.Proofs.Flow.Later
import Choreo.Proofs.Scheduler.Shown
import Choreo.Proofs.Stage.Named

/-!
What the sink is told of the classes.

The classes of a target change when one is added that it does not have and when a reset restores the
declared ones. Either hands the sink the new list as a text, and nothing else hands it a class text
(`Target.Restyled`). So the classes are the declared ones followed by what was added since the last
reset, and the latest text describes them, however many flows play and whatever the host does beside
them (`Show.Leads.classes_told`).

The host has a channel of its own to the sink, though, and a text it sends there as a class text
does not change the list (`World.apply_class_told`).
-/

namespace Choreo
variable {α C : Type}

/-! ## Histories of a list -/

/-- How the classes of a target become others. With each change goes a text, the new list; here they
stand newest first. -/
inductive Target.Restyled (declared before : List String) : List String → List String → Prop
  | unchanged : Restyled declared before [] before
  | add {texts now : List String} {token : String} : Restyled declared before texts now →
    token ∉ now →
    Restyled declared before (" ".intercalate (now ++ [token]) :: texts) (now ++ [token])
  | restore {texts now : List String} : Restyled declared before texts now → now ≠ declared →
    Restyled declared before (" ".intercalate declared :: texts) declared

namespace Target.Restyled
variable {declared before now later texts texts' : List String}

theorem trans (h : Restyled declared before texts now) (h' : Restyled declared now texts' later) :
    Restyled declared before (texts' ++ texts) later := by
  induction h' with
  | unchanged => exact h
  | add _ hmem ih => exact ih.add hmem
  | restore _ hne ih => exact ih.restore hne

/-- Beside the declared classes there are only those that were added, each once. -/
theorem added (h : Restyled declared declared texts now) :
    ∃ added, now = declared ++ added ∧ added.Nodup ∧ ∀ token ∈ added, token ∉ declared := by
  have hnone : ∃ added, declared = declared ++ added ∧ added.Nodup ∧
      ∀ token ∈ added, token ∉ declared :=
    ⟨[], (List.append_nil _).symm, List.nodup_nil, fun _ h => absurd h List.not_mem_nil⟩
  induction h with
  | unchanged => exact hnone
  | @add _ now token _ hmem ih =>
    obtain ⟨added, rfl, hnodup, hnew⟩ := ih
    obtain ⟨hdeclared, hadded⟩ := not_or.mp (mt List.mem_append.mpr hmem)
    refine ⟨added ++ [token], List.append_assoc .., ?_, ?_⟩
    · refine List.nodup_append.mpr ⟨hnodup, List.pairwise_singleton .., ?_⟩
      intro a ha b hb heq
      obtain rfl : b = token := List.mem_singleton.mp hb
      exact hadded (heq ▸ ha)
    · intro a ha
      rcases List.mem_append.mp ha with ha | ha
      · exact hnew a ha
      · exact List.mem_singleton.mp ha ▸ hdeclared
  | restore => exact hnone

/-- The latest text is the list. Without a text it is what it was. -/
theorem latest (h : Restyled declared before texts now) :
    texts.head?.getD (" ".intercalate before) = " ".intercalate now := by
  cases h <;> rfl

end Target.Restyled

/-- The target `t` became the target `u`, while the sink was handed these class texts. -/
structure Target.Became (t : Target α) (texts : List String) (u : Target α) : Prop where
  id : u.id = t.id
  declared : u.declared = t.declared
  classes : Restyled t.declared t.classes texts u.classes

namespace Target.Became
variable {t u v : Target α} {texts texts' : List String}

theorem trans (h : t.Became texts u) (h' : u.Became texts' v) : t.Became (texts' ++ texts) v where
  id := h'.id.trans h.id
  declared := h'.declared.trans h.declared
  classes := h.classes.trans (h.declared ▸ h'.classes)

theorem asDeclared_eq (h : t.Became texts u) : u.asDeclared = t.asDeclared := by
  simp only [asDeclared, h.id, h.declared]

end Target.Became

/-! ## Deeds -/

/-- The class texts of an id in a list of events. -/
def Event.classTexts (id : String) (es : List (Event α)) : List String :=
  es.filterMap (Event.text? id "class")

namespace Event

theorem classTexts_append (id : String) (es es' : List (Event α)) :
    classTexts id (es ++ es') = classTexts id es ++ classTexts id es' := List.filterMap_append

theorem classTexts_class (id text : String) :
    classTexts id [(.apply id "class" text : Event α)] = [text] := by
  simp [classTexts, text?]

theorem classTexts_eq_nil {id : String} {es : List (Event α)}
    (h : ∀ text, .apply id "class" text ∉ es) : classTexts id es = [] := by
  refine List.filterMap_eq_nil_iff.mpr fun e he => ?_
  cases e with
  | apply target property text =>
    refine if_neg ?_
    rintro ⟨rfl, rfl⟩
    exact h text he
  | _ => rfl

end Event

/-- What became of the targets since an earlier moment. A target that was not there yet began with
its declared classes. -/
structure World.Styled (past w : World α C) : Prop where
  sink : w.stage.hasSink = true
  named : w.stage.EachNamed
  grown : past.stage.targets.length ≤ w.stage.targets.length
  /-- The sink has heard only of targets that are there. -/
  heard : ∀ id text, .apply id "class" text ∈ w.log → id ∈ w.stage.ids
  since : ∃ news, w.log = news ++ past.log ∧
    ∀ (i : Handle) (t : Target α), w.stage.targets[i]? = some t →
      ((past.stage.targets[i]?).getD t.asDeclared).Became (Event.classTexts t.id news) t

theorem Stage.asDeclared_asDeclared (s : Stage α) : s.asDeclared.asDeclared = s.asDeclared := by
  simp only [asDeclared, List.map_map]
  rfl

namespace World
variable {past w w' : World α C}

theorem styled_refl (hsink : w.stage.hasSink = true) (hnamed : w.stage.EachNamed)
    (hheard : ∀ id text, .apply id "class" text ∈ w.log → id ∈ w.stage.ids) : w.Styled w := by
  refine ⟨hsink, hnamed, le_rfl, hheard, [], rfl, ?_⟩
  intro i t ht
  rw [ht]
  exact ⟨rfl, rfl, .unchanged⟩

namespace Styled

theorem now (hw : past.Styled w) : w.Styled w := styled_refl hw.sink hw.named hw.heard

/-- What is done to one target and told of it is nothing to the others. -/
theorem modify (hw : past.Styled w) (es : List (Event α)) {i : Handle} {t u : Target α}
    (ht : w.stage.targets[i]? = some t) (hstage : w'.stage = w.stage.modify i fun _ => u)
    (hlog : w'.log = es ++ w.log) (hes : ∀ e ∈ es, ∃ property text, e = .apply t.id property text)
    (hu : t.Became (Event.classTexts t.id es) u) : past.Styled w' := by
  obtain ⟨hsink, hnamed, hgrown, hheard, news, hnews, hbecame⟩ := hw
  have hids : w'.stage.ids = w.stage.ids := by rw [hstage]; rfl
  refine ⟨by rw [hstage]; exact hsink, ?_, ?_, ?_, es ++ news, ?_, ?_⟩
  · rw [hstage]
    refine hnamed.modify fun v hv => ?_
    obtain rfl := Option.some.inj (ht.symm.trans hv)
    exact hu.id
  · rw [hstage, Stage.modify, List.length_modify]
    exact hgrown
  · intro id text hmem
    rw [hids]
    rw [hlog, List.mem_append] at hmem
    rcases hmem with hmem | hmem
    · obtain ⟨_, _, heq⟩ := hes _ hmem
      cases heq
      exact hnamed.mem_ids ht
    · exact hheard id text hmem
  · rw [hlog, hnews, List.append_assoc]
  · intro j v hv
    rw [hstage, Stage.modify, List.getElem?_modify] at hv
    obtain ⟨v₀, hv₀, heq⟩ := Option.map_eq_some_iff.mp hv
    have hold := hbecame j v₀ hv₀
    rw [Event.classTexts_append]
    by_cases hij : i = j
    · subst hij
      obtain rfl := Option.some.inj (ht.symm.trans hv₀)
      obtain rfl : u = v := by simpa using heq
      rw [hu.asDeclared_eq, hu.id]
      exact hold.trans hu
    · obtain rfl : v₀ = v := by simpa [hij] using heq
      -- Targets share no id, so what was told of one was told of no other.
      have hquiet : Event.classTexts v₀.id es = [] := by
        refine Event.classTexts_eq_nil fun text hmem => ?_
        obtain ⟨_, _, heq⟩ := hes _ hmem
        injection heq with hid
        exact hij (hnamed.distinct.eq_of_id ht hv₀ hid.symm)
      rw [hquiet, List.nil_append]
      exact hold

theorem told (hw : past.Styled w) {i : Handle} {t u : Target α} {property text : String}
    (ht : w.stage.targets[i]? = some t)
    (hu : t.Became (Event.classTexts t.id [(.apply t.id property text : Event α)]) u) :
    past.Styled ({ w with stage := w.stage.modify i fun _ => u }.emit t.id property text) := by
  refine hw.modify [.apply t.id property text] ht (emit_stage ..) ?_ ?_ hu
  · exact congrArg World.log (if_pos hw.sink)
  · intro e he
    exact ⟨property, text, List.mem_singleton.mp he⟩

theorem addClass (hw : past.Styled w) (i : Handle) (token : String) :
    past.Styled (w.addClass i token) := by
  unfold World.addClass
  split
  · exact hw
  · next t ht =>
    split
    · exact hw
    · next hmem =>
      have hnot : token ∉ t.classes := mt List.contains_iff_mem.mpr hmem
      refine hw.told ht ⟨rfl, rfl, ?_⟩
      rw [Event.classTexts_class]
      exact .add .unchanged hnot

theorem resetTarget (hw : past.Styled w) (i : Handle) : past.Styled (w.resetTarget i) := by
  unfold World.resetTarget
  split
  · exact hw
  · next t ht =>
    simp only
    split
    · next heq =>
      refine hw.modify [] ht rfl rfl (by simp) ⟨rfl, rfl, ?_⟩
      rw [← heq]
      exact .unchanged
    · next hne =>
      refine hw.told ht ⟨rfl, rfl, ?_⟩
      rw [Event.classTexts_class]
      exact .restore .unchanged hne

theorem apply (hw : past.Styled w) (i : Handle) (key : String) (value : Value α)
    {property : String} (text : String) (hp : property ≠ "class") :
    past.Styled (w.apply i key value property text) := by
  unfold World.apply
  split
  · exact hw
  · next t ht =>
    have hnone : Event.classTexts t.id [(.apply t.id property text : Event α)] = [] := by
      refine Event.classTexts_eq_nil fun text hmem => ?_
      cases List.mem_singleton.mp hmem
      exact hp rfl
    have hretain : w.stage.modify i (fun t => { t with applied := assign key value t.applied }) =
        w.stage.modify i fun _ => { t with applied := assign key value t.applied } :=
      w.stage.modify_congr ht rfl
    rw [retain, hretain]
    refine hw.told ht ⟨rfl, rfl, ?_⟩
    rw [hnone]
    exact .unchanged

theorem report (hw : past.Styled w) {e : Event α} (he : e.isSilent = true) :
    past.Styled (w.report e) := by
  obtain ⟨hsink, hnamed, hgrown, hheard, news, hnews, hbecame⟩ := hw
  have hsilent (id text : String) : .apply id "class" text ∉ [e] := by
    intro hmem
    rw [← List.mem_singleton.mp hmem] at he
    cases he
  refine ⟨hsink, hnamed, hgrown, ?_, [e] ++ news, congrArg (e :: ·) hnews, ?_⟩
  · intro id text hmem
    rcases List.mem_append.mp (show _ ∈ [e] ++ w.log from hmem) with hmem | hmem
    · exact absurd hmem (hsilent id text)
    · exact hheard id text hmem
  · intro i t ht
    rw [Event.classTexts_append, Event.classTexts_eq_nil (hsilent t.id), List.nil_append]
    exact hbecame i t ht

/-- A new target has its declared classes, and the sink has not heard of it. -/
theorem register (hw : past.Styled w) {id classes : String} {s : Stage α} (hid : id ∉ w.stage.ids)
    (h : w.stage.register id classes = .ok s) : past.Styled { w with stage := s } := by
  obtain ⟨hsink, hnamed, hgrown, hheard, news, hnews, hbecame⟩ := hw
  have hnamed' := hnamed.register hid h
  have hids := Stage.ids_register hid h
  obtain ⟨-, rfl⟩ := Stage.register_eq_ok h
  refine ⟨hsink, hnamed', ?_, ?_, news, hnews, ?_⟩
  · exact hgrown.trans (by simp)
  · intro other text hmem
    rw [hids]
    exact List.mem_append_left _ (hheard other text hmem)
  · intro i t ht
    rw [List.getElem?_append] at ht
    split at ht
    · exact hbecame i t ht
    · next hnew =>
      obtain rfl := List.mem_singleton.mp (List.mem_of_getElem? ht)
      have hpast : past.stage.targets[i]? = none := by
        rw [List.getElem?_eq_none_iff]
        exact hgrown.trans (Nat.not_lt.mp hnew)
      have hunheard : Event.classTexts id news = [] := by
        refine Event.classTexts_eq_nil fun text hmem => hid (hheard id text ?_)
        rw [hnews]
        exact List.mem_append_left _ hmem
      rw [hpast, Option.getD_none, show (Target.ofClasses id classes : Target α).id = id from rfl,
        hunheard]
      exact ⟨rfl, rfl, .unchanged⟩

/-- Since a stage was raised, the sink was told how each target came by its classes. -/
theorem of_declared {s : Stage α} {crew : C} (hd : s.asDeclared = s)
    (hw : (ofStage s crew).Styled w) {i : Handle} {t : Target α}
    (ht : w.stage.targets[i]? = some t) :
    Target.Restyled t.declared t.declared (Event.classTexts t.id w.log) t.classes := by
  obtain ⟨news, hnews, hbecame⟩ := hw.since
  rw [show (ofStage s crew).log = [] from rfl, List.append_nil] at hnews
  obtain ⟨-, hdeclared, hclasses⟩ := hbecame i t ht
  have hstart : ((s.targets[i]?).getD t.asDeclared).classes =
      ((s.targets[i]?).getD t.asDeclared).declared := by
    cases hu : s.targets[i]? with
    | none => rfl
    | some u =>
      have hclasses := congrArg Target.classes (Stage.asDeclared_of_getElem? hd hu)
      exact hclasses.symm
  rw [hnews, hdeclared]
  exact hstart ▸ hclasses

theorem resetStage (hw : past.Styled w) : past.Styled w.resetStage :=
  World.resetStage_of_resetTarget (fun i hu => hu.resetTarget i) hw

end Styled
end World

/-! ## The host -/

/-- Registers no id again, and leaves the class texts to the stage. -/
def HostDeed.IsOrderly (w : World α C) : HostDeed α → Prop
  | register id _ => id ∉ w.stage.ids
  | apply _ _ _ property _ => property ≠ "class"
  | _ => True

theorem HostDeed.IsOrderly.perform {past w : World α C} {d : HostDeed α} (hd : d.IsOrderly w)
    (hw : past.Styled w) : past.Styled (d.perform w) := by
  cases d with
  | register id classes =>
    simp only [HostDeed.perform]
    split
    · next s hs => exact hw.register hd hs
    · exact hw
  | addClass h token => exact hw.addClass h token
  | apply h key value property text => exact hw.apply h key value text hd
  | resetTarget h => exact hw.resetTarget h
  | resetStage => exact hw.resetStage
  | suppress b => exact ⟨hw.sink, hw.named, hw.grown, hw.heard, hw.since⟩

/-! ## Flows -/

section
variable [Scalar α] [Analytic α]

/-- Animates nothing that goes by the name of the classes. -/
def Effect.SparesClasses : Effect α → Prop
  | .animate _ jobs => ∀ j ∈ jobs, j.property.name ≠ "class"
  | _ => True

theorem Show.kept_styled (past : Show α) : Show.Kept past.Styled Effect.SparesClasses where
  withCrew _ hw := ⟨hw.sink, hw.named, hw.grown, hw.heard, hw.since⟩
  report he hw := hw.report he
  showGradient h hw := hw.addClass h Animation.gradientClass
  apply {w h jobs j t progress value text} he hj _ _ hw := hw.apply h j.key value text (he j hj)
  write h text hw := hw.apply h "textContent" (.text text) text (by decide)
  line _ := trivial
  animate _ hjobs := by
    have hnames : ∀ p ∈ Token.properties, p.name ≠ "class" := by decide
    intro j hj
    obtain ⟨d, _, hd, hofDescriptor, -⟩ := Job.exists_of_mem_build hjobs hj
    rw [(Job.serves_of_ofDescriptor hofDescriptor).property]
    exact hnames d.property hd
  type _ _ _ := trivial

/-- On a stage with a sink, the classes of every target are the declared ones and others that were
added, each once, and the latest class text describes them. From one moment to a later one there is
a class text for each change of the list, and for nothing else. A reset restores every target, and
another one after it does nothing. -/
theorem Show.Leads.classes_told {view : List (String × String)}
    {environment : Option (String → String → Value α)} {s : Stage α}
    (hs : Stage.ofView view environment true = .ok s) (crew : Crew α) {ps₁ ps₂ : List (Playback α)}
    {w₁ w₂ : Show α}
    (before : Leads (fun w d => d.IsOrderly w) [] (World.ofStage s crew) ps₁ w₁)
    (after : Leads (fun w d => d.IsOrderly w) ps₁ w₁ ps₂ w₂) :
    (∀ t ∈ w₂.stage.targets,
        (∃ added, t.classes = t.declared ++ added ∧ added.Nodup ∧
          ∀ token ∈ added, token ∉ t.declared) ∧
        (w₂.shown t.id "class").getD (" ".intercalate t.declared) = t.classText) ∧
      (∃ news, w₂.log = news ++ w₁.log ∧
        ∀ (i : Handle) (t : Target α), w₂.stage.targets[i]? = some t →
          ((w₁.stage.targets[i]?).getD t.asDeclared).Became (Event.classTexts t.id news) t) ∧
      (∀ t ∈ w₂.resetStage.stage.targets, t.classes = t.declared ∧ t.applied = []) ∧
        w₂.resetStage.resetStage = w₂.resetStage := by
  obtain ⟨hdeclared, -⟩ := Stage.ofView_spec hs
  have hraised : (World.ofStage s crew).Styled (World.ofStage s crew) :=
    World.styled_refl (Stage.hasSink_ofView hs) (Stage.eachNamed_ofView hs)
      fun _ _ h => absurd h List.not_mem_nil
  obtain ⟨hw₁, hps₁⟩ := before.keeps (kept_styled _) HostDeed.IsOrderly.perform (by simp) hraised
  obtain ⟨hw₂, -⟩ := after.keeps (kept_styled _) HostDeed.IsOrderly.perform hps₁ hw₁
  obtain ⟨hsince, -⟩ := after.keeps (kept_styled w₁) HostDeed.IsOrderly.perform hps₁ hw₁.now
  have hreset : w₂.resetStage.stage = w₂.stage.asDeclared :=
    World.resetStage_stage hw₂.named.namesAll
  refine ⟨?_, hsince.since, ?_, ?_⟩
  · intro t ht
    obtain ⟨i, hi⟩ := List.mem_iff_getElem?.mp ht
    have hrestyled := hw₂.of_declared hdeclared hi
    refine ⟨hrestyled.added, ?_⟩
    rw [World.shown_eq, ← List.head?_filterMap]
    exact hrestyled.latest
  · intro t ht
    rw [hreset] at ht
    obtain ⟨u, -, rfl⟩ := List.mem_map.mp ht
    exact ⟨rfl, rfl⟩
  · refine World.resetStage_of_asDeclared ?_
    rw [hreset, Stage.asDeclared_asDeclared]

theorem Show.Leads.classes_told_box :
    let s : Stage Rat := ⟨[.ofClasses "box" "w-4"], [("box", 0)], none, true⟩
    let p : Playback Rat :=
      .ofFlow (.act (.animate "box" [.text "from-red-500", .number 1] (.named "linear")))
    let begun := p.start (World.ofStage s .empty)
    let w := (begun.2.addClass 0 "glow").resetTarget 0
    w.events.filterMap (Event.text? "box" "class") =
        ["w-4 bg-gradient-to-r", "w-4 bg-gradient-to-r glow", "w-4"] ∧
      (∀ t ∈ w.stage.targets,
        (w.shown t.id "class").getD (" ".intercalate t.declared) = t.classText) ∧
        w.resetStage.resetStage = w.resetStage := by
  intro s p begun w
  have before : Leads (fun w d => d.IsOrderly w) [] (World.ofStage s .empty) [begun.1.2, p]
      begun.2 := .start (.ofFlow _ .here) List.mem_cons_self
  have after : Leads (fun w d => d.IsOrderly w) [begun.1.2, p] begun.2 [begun.1.2, p] w :=
    .host (d := .resetTarget 0) (.host (d := .addClass 0 "glow") .here trivial) trivial
  have hs : Stage.ofView [("box", "w-4")] none true = .ok s := rfl
  obtain ⟨htargets, -, -, htwice⟩ := classes_told hs .empty before after
  refine ⟨by decide +kernel, ?_, htwice⟩
  intro t ht
  exact (htargets t ht).2

end

/-- What the host sends as a class text itself changes no list. -/
theorem World.apply_class_told :
    let s : Stage Rat := ⟨[.ofClasses "box" "w-4"], [("box", 0)], none, true⟩
    let w := (World.ofStage s ()).apply 0 "class" .none "class" "foo"
    w.events = [.apply "box" "class" "foo"] ∧
      w.stage.targets.map Target.classes = s.targets.map Target.classes := by
  decide +kernel

end Choreo
