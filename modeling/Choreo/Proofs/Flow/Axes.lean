import Choreo.Proofs.Flow.Reached
import Choreo.Proofs.Scheduler.Shown
import Choreo.Proofs.Stage.Axes

/-!
The sink sees both axes of a shift.

Animations of the two axes of a target may overlap in any way, and each of their jobs hands the sink
a text for both axes. The latest of these texts has the numbers that are current on the stage, on
both axes, after every step of every flow (`Show.Played.shows_both_axes`): a step of a job on an
axis makes it so, and nothing else that is done to the target since moves an axis.
-/

namespace Choreo
variable {α C : Type}

open Stage (axes)

variable [Scalar α]

/-! ## The invariant -/

/-- Of the texts for the shift of a target that were handed over since `past`, the latest has both
axes at their current numbers. -/
structure World.BothAxes (past : List (Event α)) (w : World α C) : Prop where
  distinct : w.stage.Distinct
  shown : ∃ news, w.log = news ++ past ∧ ∀ t ∈ w.stage.targets, ∀ text,
    news.findSome? (Event.text? t.id "translate") = some text →
      w.stage.hasSink = true ∧ w.stage.shiftText t = .ok text

namespace World.BothAxes
variable {past : List (Event α)} {w : World α C}

theorem of_log_eq (hdistinct : w.stage.Distinct) (hlog : w.log = past) : w.BothAxes past := by
  refine ⟨hdistinct, [], hlog, ?_⟩
  intro t _ text htext
  cases htext

theorem report (hw : w.BothAxes past) {e : Event α} (he : e.isSilent = true) :
    (w.report e).BothAxes past := by
  obtain ⟨news, hlog, hnews⟩ := hw.shown
  refine ⟨hw.distinct, e :: news, congrArg (e :: ·) hlog, ?_⟩
  intro t ht text htext
  have hsilent : Event.text? t.id "translate" e = none := by
    cases e with
    | apply => cases he
    | update | mark | tick | finished | remark => rfl
  rw [List.findSome?_cons, hsilent] at htext
  exact hnews t ht text htext

/-- A target is changed and a text of it handed over. If that is the text of a shift, it is as the
changed target has it; if it is another one, the axes are as they were. -/
theorem change (hw : w.BothAxes past) {i : Handle} {t : Target α}
    (ht : w.stage.targets[i]? = some t) (t' : Target α) (hid : t'.id = t.id)
    (hclasses : ∀ key ∈ axes,
      (Stage.valueFromClasses t'.classes key : Except NumberFault (Value α)) =
        Stage.valueFromClasses t.classes key)
    {property text : String}
    (hshift : property = "translate" → (w.stage.modify i fun _ => t').shiftText t' = .ok text)
    (hother : property ≠ "translate" →
      ∀ key ∈ axes, t'.applied.lookup key = t.applied.lookup key) :
    BothAxes past ({ w with stage := w.stage.modify i fun _ => t' }.emit t.id property text) := by
  obtain ⟨news, hlog, hnews⟩ := hw.shown
  have hread (key : String) (hkey : key ∈ axes) (id : String) :
      (w.stage.modify i fun _ => t').read id key = w.stage.read id key :=
    Stage.read_modify ht (hclasses key hkey) id
  have hdistinct : (w.stage.modify i fun _ => t').Distinct := by
    refine hw.distinct.modify i ?_
    intro u hu
    obtain rfl := Option.some.inj (ht.symm.trans hu)
    exact hid
  -- The texts from before are right still, but for that of the changed target if it was shifted.
  have hbefore (u : Target α) (hu : u ∈ (w.stage.modify i fun _ => t').targets) (old : String)
      (hold : news.findSome? (Event.text? u.id "translate") = some old) :
      w.stage.hasSink = true ∧ ((u = t' → property ≠ "translate") →
        (w.stage.modify i fun _ => t').shiftText u = .ok old) := by
    rcases hw.distinct.of_mem_modify ht hu with rfl | ⟨hu, -⟩
    · rw [hid] at hold
      obtain ⟨hsink, hwas⟩ := hnews t (List.mem_of_getElem? ht) old hold
      refine ⟨hsink, ?_⟩
      intro hstill
      rw [Stage.shiftText_congr hid (hother (hstill rfl)) fun key hkey => hread key hkey _]
      exact hwas
    · obtain ⟨hsink, hwas⟩ := hnews u hu old hold
      refine ⟨hsink, ?_⟩
      intro _
      rw [Stage.shiftText_congr rfl (fun _ _ => rfl) fun key hkey => hread key hkey _]
      exact hwas
  by_cases hsink : w.stage.hasSink = true
  · have hloud : (emit { w with stage := w.stage.modify i fun _ => t' } t.id property text) =
        World.report { w with stage := w.stage.modify i fun _ => t' } (.apply t.id property text) :=
      if_pos hsink
    rw [hloud]
    refine ⟨hdistinct, .apply t.id property text :: news, ?_, ?_⟩
    · exact congrArg (Event.apply t.id property text :: ·) hlog
    · show ∀ u ∈ (w.stage.modify i fun _ => t').targets, _
      intro u hu latest hlatest
      refine ⟨hsink, ?_⟩
      rw [List.findSome?_cons, Event.text?] at hlatest
      by_cases hthis : u.id = t.id ∧ "translate" = property
      · rw [if_pos hthis] at hlatest
        obtain rfl := Option.some.inj hlatest
        rcases hw.distinct.of_mem_modify ht hu with rfl | ⟨-, hne⟩
        · exact hshift hthis.2.symm
        · exact absurd hthis.1 hne
      · rw [if_neg hthis] at hlatest
        refine (hbefore u hu latest hlatest).2 ?_
        rintro rfl hproperty
        exact hthis ⟨hid, hproperty.symm⟩
  · have hquiet : (emit { w with stage := w.stage.modify i fun _ => t' } t.id property text) =
        { w with stage := w.stage.modify i fun _ => t' } := if_neg hsink
    rw [hquiet]
    refine ⟨hdistinct, news, hlog, ?_⟩
    intro u hu latest hlatest
    exact absurd (hbefore u hu latest hlatest).1 hsink

theorem apply (hw : w.BothAxes past) (i : Handle) {key : String} {value : Value α}
    {property text : String}
    (hshift : property = "translate" → ∀ t, w.stage.targets[i]? = some t →
      ∃ x, value = .real x ∧ Job.translateText w.stage t key x = .ok text)
    (hother : property ≠ "translate" → key ∉ axes) :
    (w.apply i key value property text).BothAxes past := by
  unfold World.apply
  split
  · exact hw
  · next t ht =>
    let t' : Target α := { t with applied := assign key value t.applied }
    have hstage : (w.retain i key value).stage = w.stage.modify i fun _ => t' :=
      w.stage.modify_congr ht rfl
    have hretain : w.retain i key value = { w with stage := w.stage.modify i fun _ => t' } := by
      rw [← hstage]
      rfl
    rw [hretain]
    refine hw.change ht t' rfl (fun _ _ => rfl) ?_ ?_
    · intro hproperty
      obtain ⟨x, rfl, htext⟩ := hshift hproperty t ht
      rw [← htext, ← Stage.shiftText_assign]
      exact Stage.shiftText_congr rfl (fun _ _ => rfl) fun _ _ => Stage.read_modify ht rfl t.id
    · intro hproperty other hother'
      rw [lookup_assign, if_neg]
      rintro rfl
      exact hother hproperty hother'

theorem showGradient (hw : w.BothAxes past) (i : Handle) :
    (w.addClass i Animation.gradientClass).BothAxes past := by
  unfold addClass
  split
  · exact hw
  · next t ht =>
    split
    · exact hw
    · have hclass : "class" ≠ "translate" := by decide
      refine hw.change ht { t with classes := t.classes ++ [Animation.gradientClass] } rfl ?_
        (fun h => absurd h hclass) fun _ _ _ => rfl
      intro key hkey
      exact Stage.valueFromClasses_gradientClass hkey t.classes

theorem resetStage (hw : w.BothAxes past) : w.resetStage.BothAxes w.resetStage.log :=
  of_log_eq (Stage.distinct_resetStage hw.distinct) rfl

end World.BothAxes

/-! ## Jobs -/

/-- A job that shifts its target has the key of an axis, and no other job has. -/
structure Job.Axial (j : Job α) : Prop where
  suits : j.Suits
  key : j.key ∈ axes ↔ j.property.name = "translate"

def Effect.Axial : Effect α → Prop
  | .animate _ jobs => ∀ j ∈ jobs, j.Axial
  | _ => True

theorem Job.axial_of_mem_build {s : Stage α} {t : Target α} {goals start : List String}
    {jobs : List (Job α)} (h : build s t goals start = .ok jobs) {j : Job α} (hj : j ∈ jobs) :
    j.Axial := by
  obtain ⟨d, start?, hp, hd, -⟩ := exists_of_mem_build h hj
  have hserves := serves_of_ofDescriptor hd
  refine ⟨suits_of_mem_build h hj, ?_⟩
  rw [hserves.key, hserves.property]
  exact Stage.key_mem_axes_iff hp d.token

section
variable [Analytic α]

/-- A job that shifts gives its axis a number, and a text with that number on it. -/
theorem Job.Axial.shift {j : Job α} (hj : j.Axial) (hproperty : j.property.name = "translate")
    {s : Stage α} {t : Target α} {progress : α} {value : Value α} {text : String}
    (h : j.valueAt s t progress = .ok (value, text)) :
    ∃ x, value = .real x ∧ translateText s t j.key x = .ok text := by
  have hcolor : j.key ∉ Token.colorKeys := by
    have haxes : ∀ key ∈ axes, key ∉ Token.colorKeys := by decide
    exact haxes _ (hj.key.mpr hproperty)
  unfold valueAt at h
  rcases hspan : j.span with ⟨a, b⟩ | ⟨a, b⟩
  · simp only [hspan, if_pos hproperty] at h
    obtain ⟨a', -, h⟩ := bind_eq_ok.mp h
    obtain ⟨b', -, h⟩ := bind_eq_ok.mp h
    obtain ⟨shift, hshift, h⟩ := bind_eq_ok.mp h
    cases h
    exact ⟨_, rfl, hshift⟩
  · refine absurd (hj.suits.mp ?_) hcolor
    rw [hspan]
    rfl

theorem Show.kept_bothAxes (past : List (Event α)) :
    Show.Kept (fun w => w.BothAxes past) Effect.Axial where
  withCrew _ hw := ⟨hw.distinct, hw.shown⟩
  report he hw := hw.report he
  showGradient h hw := hw.showGradient h
  apply {w h jobs j t progress value text} he hj ht hvalue hw := by
    have haxial : j.Axial := he j hj
    refine hw.apply h ?_ ?_
    · intro hproperty u hu
      obtain rfl := Option.some.inj (ht.symm.trans hu)
      exact haxial.shift hproperty hvalue
    · intro hproperty hkey
      exact hproperty (haxial.key.mp hkey)
  write h text hw := by
    have hcontent : "textContent" ≠ "translate" ∧ "textContent" ∉ axes := by decide
    exact hw.apply h (fun hproperty => absurd hproperty hcontent.1) fun _ => hcontent.2
  line _ := trivial
  animate _ hjobs := fun _ hj => Job.axial_of_mem_build hjobs hj
  type _ _ _ := trivial

/-! ## Runs -/

/-- What flows come to on the stage of a view: the playbacks that were come by, the log as it was
when the stage was raised or last reset, and the show as the flows left it. Any of the playbacks may
be started, stepped and closed at any time, with updates suppressed or not. -/
inductive Show.Played (view : List (String × String))
    (environment : Option (String → String → Value α)) (hasSink : Bool) :
    List (Playback α) → List (Event α) → Show α → Prop
  | raised {w : Show α} : Stage.ofView view environment hasSink = .ok w.stage →
    Played view environment hasSink [] w.log w
  | ofFlow {ps past w} (f : Flow α) : Played view environment hasSink ps past w →
    Played view environment hasSink (.ofFlow f :: ps) past w
  | ofSource {ps past w} (s : Source α) : Played view environment hasSink ps past w →
    Played view environment hasSink (⟨(build s w).1, (build s w).2.crew⟩ :: ps)
      (if s.isBound then (build s w).2.log else past) (build s w).2
  | start {ps past w p} : Played view environment hasSink ps past w → p ∈ ps →
    Played view environment hasSink ((p.start w).1.2 :: ps) past (p.start w).2
  | next {ps past w p} (dt : Option α) : Played view environment hasSink ps past w → p ∈ ps →
    Played view environment hasSink ((p.next dt w).1.2 :: ps) past (p.next dt w).2
  | close {ps past w p} : Played view environment hasSink ps past w → p ∈ ps →
    Played view environment hasSink (p.close :: ps) past w
  | suppress {ps past w} (b : Bool) : Played view environment hasSink ps past w →
    Played view environment hasSink ps past { w with suppressed := b }
  | reset {ps past w} : Played view environment hasSink ps past w →
    Played view environment hasSink ps w.resetStage.log w.resetStage

namespace Show.Played
variable {view : List (String × String)} {environment : Option (String → String → Value α)}
  {hasSink : Bool} {ps : List (Playback α)} {past : List (Event α)} {w : Show α}

theorem bothAxes (h : Played view environment hasSink ps past w) :
    w.BothAxes past ∧ ∀ p ∈ ps, p.Within Effect.Axial := by
  induction h with
  | raised hview => exact ⟨.of_log_eq (Stage.distinct_ofView hview) rfl, nofun⟩
  | ofFlow f _ ih => exact ⟨ih.1, List.forall_mem_cons.mpr ⟨Playback.within_ofFlow f, ih.2⟩⟩
  | @ofSource ps past w s _ ih =>
    refine ⟨?_, List.forall_mem_cons.mpr ⟨within_build s w, ih.2⟩⟩
    obtain ⟨flow, _ | _⟩ := s
    · exact ⟨ih.1.distinct, ih.1.shown⟩
    · exact .of_log_eq (Stage.distinct_resetStage ih.1.distinct) rfl
  | @start ps past w p _ hp ih =>
    obtain ⟨hplayback, hshow⟩ := (kept_bothAxes past).start (ih.2 p hp) ih.1
    exact ⟨hshow, List.forall_mem_cons.mpr ⟨hplayback, ih.2⟩⟩
  | @next ps past w p dt _ hp ih =>
    obtain ⟨hplayback, hshow⟩ := (kept_bothAxes past).next (ih.2 p hp) dt ih.1
    exact ⟨hshow, List.forall_mem_cons.mpr ⟨hplayback, ih.2⟩⟩
  | @close ps past w p _ hp ih =>
    exact ⟨ih.1, List.forall_mem_cons.mpr ⟨(ih.2 p hp).close, ih.2⟩⟩
  | suppress b _ ih => exact ⟨⟨ih.1.distinct, ih.1.shown⟩, ih.2⟩
  | reset _ ih => exact ⟨ih.1.resetStage, ih.2⟩

/-- The latest shift of a target that the sink was handed since the last reset has both axes, each
at the number that is current now. -/
theorem shows_both_axes (h : Played view environment hasSink ps past w) :
    ∃ news, w.log = news ++ past ∧ ∀ t ∈ w.stage.targets, ∀ text,
      news.findSome? (Event.text? t.id "translate") = some text →
        ∃ x y, w.stage.current t "translate" .px "translateX" = .ok (.number x) ∧
          w.stage.current t "translate" .px "translateY" = .ok (.number y) ∧
          text = Token.numberText x ++ "px " ++ Token.numberText y ++ "px" := by
  obtain ⟨news, hlog, hnews⟩ := h.bothAxes.1.shown
  refine ⟨news, hlog, ?_⟩
  intro t ht text htext
  exact Stage.exists_of_shiftText (hnews t ht text htext).2

/-- A card that was declared a little down is halfway across when it sets out to go further down. -/
theorem shows_both_axes_card :
    ∃ (ps : List (Playback Rat)) (w : Show Rat),
      Played [("card", "translate-y-2")] none true ps [] w ∧
        w.log.findSome? (Event.text? "card" "translate") = some "8px 20px" ∧
        ∃ t ∈ w.stage.targets, t.id = "card" ∧
          ∃ x y, w.stage.current t "translate" .px "translateX" = .ok (.number x) ∧
            w.stage.current t "translate" .px "translateY" = .ok (.number y) ∧
            "8px 20px" = Token.numberText x ++ "px " ++ Token.numberText y ++ "px" := by
  let across : Flow Rat :=
    .act (.animate "card" [.text "translate-x-4", .number 2] (.named "linear"))
  let down : Flow Rat :=
    .act (.animate "card" [.text "translate-y-8", .number 2] (.named "linear"))
  let card : Show Rat := World.ofStage
    { targets := [.ofClasses "card" "translate-y-2"], names := [("card", 0)], environment := none,
      hasSink := true } .empty
  have hraised : Played [("card", "translate-y-2")] none true [] [] card :=
    .raised (w := card) rfl
  have hacross := (hraised.ofFlow across).start List.mem_cons_self
  have hhalfway := hacross.next (some 1) List.mem_cons_self
  have hdown := (hhalfway.ofFlow down).start List.mem_cons_self
  have hboth := hdown.next (some 1) List.mem_cons_self
  obtain ⟨ps, w, hw, hids, hlatest⟩ : ∃ ps w,
      Played [("card", "translate-y-2")] none true ps [] w ∧
        w.stage.targets.map (·.id) = ["card"] ∧
        w.log.findSome? (Event.text? "card" "translate") = some "8px 20px" :=
    ⟨_, _, hboth, by decide +kernel, by decide +kernel⟩
  have hcard : "card" ∈ w.stage.targets.map (·.id) := by
    rw [hids]
    exact List.mem_cons_self
  obtain ⟨t, ht, hid⟩ := List.mem_map.mp hcard
  obtain ⟨news, hlog, hshown⟩ := shows_both_axes hw
  rw [List.append_nil] at hlog
  refine ⟨ps, w, hw, hlatest, t, ht, hid, ?_⟩
  rw [hlog, ← hid] at hlatest
  exact hshown t ht _ hlatest

end Show.Played
end
end Choreo
