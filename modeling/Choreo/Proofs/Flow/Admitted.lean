import Choreo.Proofs.Flow.Later
import Choreo.Proofs.Stage.Named

/-!
Which ids are reached by name.

A stage refuses the ids that name a part of it, but it looks for them among the parts that all
stages share. The names that no stage lets through to a target are others: all that open with an
underscore. So an id that is admitted is reached by name unless it opens with one
(`Show.Leads.reach_admitted`), and `_x` is admitted and not reached (`Stage.underscore_missed`). The
id itself names the admitted target from then on, whatever flows and host do on the stage.
-/

namespace Choreo
variable {α C : Type}

namespace Stage

/-! ## Names -/

/-- An id names a target that goes by it, and none that was registered later goes by it. -/
def NamesLast (s : Stage α) (id : String) : Prop :=
  ∃ i t, s.handle? id = some i ∧ s.targets[i]? = some t ∧ t.id = id ∧
    ∀ j u, i < j → s.targets[j]? = some u → u.id ≠ id

section
variable {s s' : Stage α} {id other classes : String}

theorem NamesLast.modify (hs : s.NamesLast id) (h : Handle) {f : Target α → Target α}
    (hf : ∀ t, (f t).id = t.id) : (s.modify h f).NamesLast id := by
  have hid : ∀ {j : Handle} {u : Target α}, (s.modify h f).targets[j]? = some u →
      ∃ v, s.targets[j]? = some v ∧ u.id = v.id := by
    intro j u hu
    rw [Stage.modify, List.getElem?_modify] at hu
    obtain ⟨v, hv, rfl⟩ := Option.map_eq_some_iff.mp hu
    refine ⟨v, hv, ?_⟩
    split
    · exact hf v
    · rfl
  obtain ⟨i, t, hi, ht, htid, hlast⟩ := hs
  obtain ⟨t', ht'⟩ : ∃ t', (s.modify h f).targets[i]? = some t' := by
    rw [Stage.modify, List.getElem?_modify, ht]
    exact ⟨_, rfl⟩
  obtain ⟨v, hv, hvid⟩ := hid ht'
  obtain rfl := Option.some.inj (ht.symm.trans hv)
  refine ⟨i, t', hi, ht', hvid.trans htid, ?_⟩
  intro j u hij hu
  obtain ⟨v, hv, huid⟩ := hid hu
  rw [huid]
  exact hlast j v hij hv

/-- A registration names its own target, and takes no name from another. -/
theorem namesLast_register (h : s.register other classes = .ok s')
    (hs : id ≠ other → s.NamesLast id) : s'.NamesLast id := by
  obtain ⟨-, rfl⟩ := register_eq_ok h
  by_cases hid : id = other
  · subst hid
    refine ⟨s.targets.length, .ofClasses id classes, ?_, List.getElem?_concat_length, rfl, ?_⟩
    · rw [handle?, lookup_assign, if_pos rfl]
    · intro j u hj hu
      have hnone : (s.targets ++ [.ofClasses id classes])[j]? = none := by
        rw [List.getElem?_eq_none_iff, List.length_append, List.length_singleton]
        exact hj
      rw [hnone] at hu
      cases hu
  · obtain ⟨i, t, hi, ht, htid, hlast⟩ := hs hid
    have hlt := (List.getElem?_eq_some_iff.mp ht).1
    refine ⟨i, t, ?_, ?_, htid, ?_⟩
    · rw [handle?, lookup_assign, if_neg hid]
      exact hi
    · rw [List.getElem?_append_left hlt]
      exact ht
    · intro j u hij hu
      rw [List.getElem?_append] at hu
      split at hu
      · exact hlast j u hij hu
      · obtain rfl := List.mem_singleton.mp (List.mem_of_getElem? hu)
        exact Ne.symm hid

end

/-! ## What a name reaches -/

theorem isSome_after_underscore (cs : List Char) :
    (Token.after? "_" cs).isSome = true ↔ cs.head? = some '_' := by
  have hstart : "_".toList = ['_'] := rfl
  rw [Token.after?, hstart]
  cases cs with
  | nil => simp [List.isPrefixOf?]
  | cons c cs =>
    rw [List.isPrefixOf?, List.head?_cons, Option.some.injEq]
    by_cases hc : c = '_'
    · subst hc
      simp [List.isPrefixOf?]
    · simp [hc, Ne.symm hc]

/-- An id that is admitted reaches its target by name, unless it opens with an underscore. Then it
reaches a private part of the stage, if it names one, and else nothing. -/
theorem reach_of_not_reserved {id : String} (h : isReserved id = false) :
    reach id =
      if id.toList.head? = some '_' then
        if id ∈ privateNames then .member else .nothing id
      else .target id := by
  have hprivate : ∀ name ∈ privateNames, name.toList.head? = some '_' := by decide
  simp only [isReserved, Bool.or_eq_false_iff] at h
  obtain ⟨⟨hown, hhost⟩, -⟩ := h
  simp only [reach, hown, hhost, Bool.false_or, isSome_after_underscore, List.contains_iff_mem]
  by_cases hmem : id ∈ privateNames
  · rw [if_pos hmem, if_pos (hprivate id hmem), if_pos hmem]
  · rw [if_neg hmem, if_neg hmem]

end Stage

/-! ## Later states -/

section
variable {id : String}

theorem HostDeed.perform_namesLast (d : HostDeed α) {w : World α C} (hw : w.stage.NamesLast id) :
    (d.perform w).stage.NamesLast id := by
  cases d with
  | register other classes =>
    simp only [perform]
    split
    · next s hs => exact Stage.namesLast_register hs fun _ => hw
    · exact hw
  | addClass h token =>
    rw [perform, World.addClass_stage]
    exact hw.modify h fun t => by split <;> rfl
  | apply h key value property text =>
    rw [perform, World.apply_stage]
    exact hw.modify h fun _ => rfl
  | resetTarget h =>
    rw [perform, World.resetTarget_stage]
    exact hw.modify h fun _ => rfl
  | resetStage =>
    refine World.resetStage_of_resetTarget (K := fun w => w.stage.NamesLast id) ?_ hw
    intro w i hw
    rw [World.resetTarget_stage]
    exact hw.modify i fun _ => rfl
  | suppress b => exact hw

variable [Scalar α] [Analytic α]

/-- Which target an id names changes with a registration only. -/
theorem Show.kept_namesLast (id : String) :
    Show.Kept (fun w : Show α => w.stage.NamesLast id) fun _ => True where
  withCrew _ hw := hw
  report _ hw := hw
  showGradient {w} h hw := by
    rw [World.addClass_stage]
    exact hw.modify h fun t => by split <;> rfl
  apply {w h jobs j t progress value text} _ _ _ _ hw := by
    rw [World.apply_stage]
    exact hw.modify h fun _ => rfl
  write {w} h text hw := by
    rw [World.apply_stage]
    exact hw.modify h fun _ => rfl
  line _ := trivial
  animate _ _ := trivial
  type _ _ _ := trivial

/-- Whatever flows and host do once an id was admitted, the id names the target registered last
under it. The name of that target reaches it just if it does not open with an underscore. -/
theorem Show.Leads.reach_admitted {ps₁ ps₂ : List (Playback α)} {w₀ w₁ w₂ : Show α} {s : Stage α}
    {classes : String} (before : Leads (fun _ _ => True) [] w₀ ps₁ w₁)
    (hid : w₁.stage.register id classes = .ok s)
    (after : Leads (fun _ _ => True) ps₁ { w₁ with stage := s } ps₂ w₂) :
    w₂.stage.NamesLast id ∧
      Stage.reach id =
        if id.toList.head? = some '_' then
          if id ∈ Stage.privateNames then .member else .nothing id
        else .target id := by
  have hplaybacks := (before.keeps Show.kept_true (fun _ _ => trivial) (by simp) trivial).2
  have hnames : s.NamesLast id := Stage.namesLast_register hid fun hne => absurd rfl hne
  have hlater := after.keeps (Show.kept_namesLast id) (fun _ => HostDeed.perform_namesLast _)
    hplaybacks hnames
  exact ⟨hlater.1, Stage.reach_of_not_reserved (Stage.register_eq_ok hid).1⟩

theorem Show.Leads.reach_admitted_title :
    let w : Show Rat := World.ofStage (.empty none true) .empty
    let s : Stage Rat := ⟨[.ofClasses "title" ""], [("title", 0)], none, true⟩
    let p : Playback Rat := .ofFlow (.act (.type "title" "Sorted" 1))
    w.stage.register "title" "" = .ok s ∧
      (p.start { w with stage := s }).2.resetStage.stage.NamesLast "title" ∧
        Stage.reach "title" = .target "title" := by
  intro w s p
  have hid : w.stage.register "title" "" = .ok s := rfl
  have before : Leads (fun _ _ => True) [] w [p] w := .ofFlow _ .here
  have after : Leads (fun _ _ => True) [p] { w with stage := s } _
      (p.start { w with stage := s }).2.resetStage :=
    .host (d := .resetStage) (.start .here List.mem_cons_self) trivial
  obtain ⟨hnames, hreach⟩ := reach_admitted before hid after
  exact ⟨hid, hnames, hreach.trans (by decide)⟩

end

/-- An id that opens with an underscore is admitted, and its name reaches nothing. -/
theorem Stage.underscore_missed :
    (Stage.empty none true : Stage Rat).register "_x" "w-4" =
        .ok ⟨[.ofClasses "_x" "w-4"], [("_x", 0)], none, true⟩ ∧
      Stage.reach "_x" = .nothing "_x" :=
  ⟨rfl, by decide⟩

end Choreo
