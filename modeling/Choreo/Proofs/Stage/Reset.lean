import Choreo.Proofs.Stage.Twins

/-!
A reset gives back the declared stage.

A view names every target it declares (`Stage.ofView_spec`), and a reset goes through the names, so
it reaches every target: afterwards the stage is the one that was declared, whatever has been
applied to it since (`World.resetStage_stage`). To the sink a reset hands class texts only.
-/

namespace Choreo
variable {α β C : Type}

/-! ## Tables -/

theorem lookup_assign (key other : String) (b : β) (l : List (String × β)) :
    (assign key b l).lookup other = if other = key then some b else l.lookup other := by
  induction l with
  | nil => by_cases h : other = key <;> simp [assign, h]
  | cons entry l ih =>
    obtain ⟨k, a⟩ := entry
    rw [assign]
    by_cases hk : k = key
    · subst hk
      by_cases h : other = k
      · simp [h]
      · simp [List.lookup_cons, beq_eq_false_iff_ne.mpr h, h]
    · rw [if_neg hk, List.lookup_cons, List.lookup_cons, ih]
      by_cases h : other = key
      · subst h
        simp [beq_eq_false_iff_ne.mpr (Ne.symm hk)]
      · simp [h]

theorem assign_of_not_mem {key : String} {l : List (String × β)} (h : key ∉ l.map (·.1)) (b : β) :
    assign key b l = l ++ [(key, b)] := by
  induction l with
  | nil => rfl
  | cons entry l ih =>
    obtain ⟨k, a⟩ := entry
    rw [List.map_cons, List.mem_cons, not_or] at h
    rw [assign, if_neg (Ne.symm h.1), ih h.2]
    rfl

theorem mem_map_fst_assign {key id : String} {b : β} {l : List (String × β)} :
    id ∈ (assign key b l).map (·.1) ↔ id = key ∨ id ∈ l.map (·.1) := by
  induction l with
  | nil => simp [assign]
  | cons entry l ih =>
    obtain ⟨k, a⟩ := entry
    rw [assign]
    by_cases hk : k = key
    · simp [hk]
    · rw [if_neg hk, List.map_cons, List.mem_cons, ih, List.map_cons, List.mem_cons]
      exact or_left_comm

/-- A table in which no key comes twice stays one. -/
theorem nodup_assign {key : String} {b : β} {l : List (String × β)} (h : (l.map (·.1)).Nodup) :
    ((assign key b l).map (·.1)).Nodup := by
  induction l with
  | nil => simp [assign]
  | cons entry l ih =>
    obtain ⟨k, a⟩ := entry
    rw [List.map_cons, List.nodup_cons] at h
    rw [assign]
    by_cases hk : k = key
    · subst hk
      simpa using h
    · rw [if_neg hk, List.map_cons, List.nodup_cons, mem_map_fst_assign]
      exact ⟨not_or.mpr ⟨hk, h.1⟩, ih h.2⟩

/-! ## Stages of a view -/

namespace Stage

/-- Every target has a name. -/
def NamesAll (s : Stage α) : Prop := ∀ i < s.targets.length, ∃ id, (id, i) ∈ s.names

/-- Stages that were declared alike name their targets alike. -/
theorem NamesAll.of_asDeclared_eq {s t : Stage α} (h : s.asDeclared = t.asDeclared)
    (hn : t.NamesAll) : s.NamesAll := by
  have hnames : s.asDeclared.names = t.asDeclared.names := congrArg Stage.names h
  have hlength : s.targets.length = t.targets.length := by
    have := congrArg (fun s => s.targets.length) h
    simpa [asDeclared] using this
  intro i hi
  obtain ⟨id, hid⟩ := hn i (hlength ▸ hi)
  exact ⟨id, hnames ▸ hid⟩

/-- A new id names its target beside the old ones, and the target has its declared state. -/
theorem register_spec {s s' : Stage α} {id classes : String} (h : s.register id classes = .ok s')
    (hid : id ∉ s.ids) (hd : s.asDeclared = s) (hn : s.NamesAll) :
    s'.ids = s.ids ++ [id] ∧ s'.asDeclared = s' ∧ s'.NamesAll := by
  unfold register at h
  split at h
  · cases h
  · cases h
    have hnames : assign id s.targets.length s.names = s.names ++ [(id, s.targets.length)] :=
      assign_of_not_mem hid _
    refine ⟨?_, ?_, ?_⟩
    · simp [ids, hnames]
    · have ht : s.targets.map Target.asDeclared = s.targets := congrArg Stage.targets hd
      simp only [asDeclared, List.map_append, ht]
      rfl
    · intro i hi
      simp only [hnames, List.mem_append, List.mem_singleton]
      rw [List.length_append, List.length_singleton] at hi
      rcases Nat.lt_succ_iff_lt_or_eq.mp hi with hlt | rfl
      · obtain ⟨name, hname⟩ := hn i hlt
        exact ⟨name, .inl hname⟩
      · exact ⟨id, .inr rfl⟩

theorem foldlM_register_spec {entries : List (String × String)} {s s' : Stage α}
    (hentries : (entries.map (·.1)).Nodup) (hids : ∀ id ∈ entries.map (·.1), id ∉ s.ids)
    (hd : s.asDeclared = s) (hn : s.NamesAll)
    (h : entries.foldlM (fun s (id, classes) => s.register id classes) s = .ok s') :
    s'.asDeclared = s' ∧ s'.NamesAll := by
  induction entries generalizing s with
  | nil =>
    cases h
    exact ⟨hd, hn⟩
  | cons entry entries ih =>
    obtain ⟨id, classes⟩ := entry
    rw [List.map_cons, List.nodup_cons] at hentries
    rw [List.foldlM_cons] at h
    simp only at h
    cases hr : s.register id classes with
    | error e => rw [hr] at h; cases h
    | ok s₁ =>
      rw [hr] at h
      obtain ⟨hids₁, hd₁, hn₁⟩ := register_spec hr (hids id List.mem_cons_self) hd hn
      refine ih hentries.2 (fun name hname => ?_) hd₁ hn₁ h
      rw [hids₁, List.mem_append, List.mem_singleton, not_or]
      exact ⟨hids name (List.mem_cons_of_mem _ hname), fun he => hentries.1 (he ▸ hname)⟩

/-- However often an id comes in a view, it is entered once. -/
theorem nodup_foldl_assign (view : List (String × String)) {entries : List (String × String)}
    (h : (entries.map (·.1)).Nodup) :
    ((view.foldl (fun entries (id, classes) => assign id classes entries) entries).map
      (·.1)).Nodup := by
  induction view generalizing entries with
  | nil => exact h
  | cons entry view ih => exact ih (nodup_assign h)

/-- The stage of a view is in its declared state and has a name for every target. -/
theorem ofView_spec {view : List (String × String)}
    {environment : Option (String → String → Value α)} {hasSink : Bool} {s : Stage α}
    (h : ofView view environment hasSink = .ok s) : s.asDeclared = s ∧ s.NamesAll := by
  have hnil : (([] : List (String × String)).map (·.1)).Nodup := List.nodup_nil
  refine foldlM_register_spec (nodup_foldl_assign view hnil) ?_ rfl ?_ h
  · exact fun _ _ => List.not_mem_nil
  · exact fun i hi => absurd hi (Nat.not_lt_zero i)

/-! ## Resets -/

/-- A change depends only on what it makes of the target it is for. -/
theorem modify_congr (s : Stage α) {i : Handle} {t : Target α} (ht : s.targets[i]? = some t)
    {f g : Target α → Target α} (hfg : f t = g t) : s.modify i f = s.modify i g := by
  simp only [modify, Stage.mk.injEq, and_true]
  refine List.ext_getElem? fun j => ?_
  rw [List.getElem?_modify, List.getElem?_modify]
  by_cases hj : i = j
  · subst hj
    simp [ht, hfg]
  · simp [hj]

theorem modify_eq_self {s : Stage α} {i : Handle} {t : Target α} (ht : s.targets[i]? = some t)
    {f : Target α → Target α} (hf : f t = t) : s.modify i f = s := by
  rw [s.modify_congr ht (g := id) hf, modify, List.modify_id]

/-- On a stage that is as it was declared, every target is as it was declared. -/
theorem asDeclared_of_getElem? {s : Stage α} (hd : s.asDeclared = s) {i : Handle} {t : Target α}
    (ht : s.targets[i]? = some t) : t.asDeclared = t := by
  have hlist : s.targets.map Target.asDeclared = s.targets := congrArg targets hd
  have hi : (s.targets.map Target.asDeclared)[i]? = some t := by rw [hlist, ht]
  rw [List.getElem?_map, ht, Option.map_some, Option.some.injEq] at hi
  exact hi

end Stage

namespace World

@[simp] theorem emit_stage (w : World α C) (target property text : String) :
    (w.emit target property text).stage = w.stage := by
  unfold emit
  split <;> rfl

theorem resetTarget_stage (w : World α C) (i : Handle) :
    (w.resetTarget i).stage = w.stage.modify i Target.asDeclared := by
  unfold resetTarget
  split
  · next hnone =>
    simp only [Stage.modify]
    rw [List.modify_eq_self (List.getElem?_eq_none_iff.mp hnone)]
  · next t ht =>
    simp only
    split
    · exact w.stage.modify_congr ht rfl
    · rw [emit_stage]
      exact w.stage.modify_congr ht rfl

theorem resetTarget_log (w : World α C) (i : Handle) :
    ∃ news, (w.resetTarget i).log = news ++ w.log ∧
      ∀ e ∈ news, ∃ target text, e = .apply target "class" text := by
  have hnone : ∃ news : List (Event α), w.log = news ++ w.log ∧
      ∀ e ∈ news, ∃ target text, e = .apply target "class" text :=
    ⟨[], rfl, fun e he => absurd he List.not_mem_nil⟩
  unfold resetTarget
  split
  · exact hnone
  · next t _ =>
    simp only
    split
    · exact hnone
    · unfold emit
      split
      · refine ⟨[_], rfl, fun e he => ⟨_, _, List.mem_singleton.mp he⟩⟩
      · exact hnone

/-- Going through names resets the targets they name and no other. -/
theorem foldl_resetTarget_stage (names : List (String × Handle)) (w : World α C) :
    (names.foldl (fun w (_, h) => w.resetTarget h) w).stage =
      { w.stage with targets := w.stage.targets.mapIdx fun i t =>
          if i ∈ names.map (·.2) then t.asDeclared else t } := by
  induction names generalizing w with
  | nil =>
    have hid : w.stage.targets.mapIdx (fun _ t => t) = w.stage.targets :=
      List.ext_getElem? fun i => by simp
    simp [hid]
  | cons name names ih =>
    rw [List.foldl_cons, ih, resetTarget_stage]
    simp only [Stage.modify, Stage.mk.injEq, and_true]
    refine List.ext_getElem? fun j => ?_
    rw [List.getElem?_mapIdx, List.getElem?_mapIdx, List.getElem?_modify, List.map_cons]
    cases w.stage.targets[j]? with
    | none => simp
    | some t =>
      by_cases hj : name.2 = j
      · subst hj
        simp [Target.asDeclared]
      · have hmem : j ∈ name.2 :: names.map (·.2) ↔ j ∈ names.map (·.2) := by
          rw [List.mem_cons]
          exact or_iff_right fun h => hj h.symm
        simp only [hj, if_false, hmem]
        rfl

theorem resetStage_stage {w : World α C} (hn : w.stage.NamesAll) :
    w.resetStage.stage = w.stage.asDeclared := by
  unfold resetStage
  rw [foldl_resetTarget_stage]
  simp only [Stage.asDeclared, Stage.mk.injEq, and_true]
  refine List.ext_getElem? fun i => ?_
  rw [List.getElem?_mapIdx, List.getElem?_map]
  cases ht : w.stage.targets[i]? with
  | none => rfl
  | some t =>
    obtain ⟨id, hid⟩ := hn i (List.getElem?_eq_some_iff.mp ht).1
    have hi : i ∈ w.stage.names.map (·.2) := List.mem_map.mpr ⟨_, hid, rfl⟩
    simp [hi]

/-- A reset of a stage that is as it was declared changes nothing and hands the sink nothing. -/
theorem resetStage_of_asDeclared {w : World α C} (hd : w.stage.asDeclared = w.stage) :
    w.resetStage = w := by
  have htarget : ∀ i, w.resetTarget i = w := by
    intro i
    unfold resetTarget
    split
    · rfl
    · next t ht =>
      have ht' : { t with applied := [], classes := t.declared } = t :=
        Stage.asDeclared_of_getElem? hd ht
      have hclasses : t.classes = t.declared := congrArg Target.classes ht'.symm
      simp only [if_pos hclasses, ht', Stage.modify_eq_self ht]
  unfold resetStage
  generalize w.stage.names = names
  induction names with
  | nil => rfl
  | cons name names ih => simp only [List.foldl_cons, htarget, ih]

/-- A reset hands the sink class texts and nothing else. -/
theorem resetStage_log (w : World α C) :
    ∃ news, w.resetStage.log = news ++ w.log ∧
      ∀ e ∈ news, ∃ target text, e = .apply target "class" text := by
  unfold resetStage
  generalize w.stage.names = names
  induction names generalizing w with
  | nil => exact ⟨[], rfl, fun e he => absurd he List.not_mem_nil⟩
  | cons name names ih =>
    obtain ⟨news, hlog, hnews⟩ := ih (w.resetTarget name.2)
    obtain ⟨first, hfirst, hclass⟩ := resetTarget_log w name.2
    refine ⟨news ++ first, ?_, fun e he => ?_⟩
    · rw [List.foldl_cons, hlog, hfirst, List.append_assoc]
    · rcases List.mem_append.mp he with he | he
      · exact hnews e he
      · exact hclass e he

end World
end Choreo
