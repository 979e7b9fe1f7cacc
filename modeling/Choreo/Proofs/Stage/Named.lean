import Choreo.Proofs.Stage.Axes

/-!
Stages on which every target goes by its own id.

An id that is registered again names the new target only, so the old one has no name left. As long
as that does not happen, the names of a stage are the ids of its targets, each with its own handle
(`Stage.EachNamed`). So it is with the stage of a view (`Stage.eachNamed_ofView`).
-/

namespace Choreo
variable {α C : Type}

namespace Stage

theorem register_eq_ok {s s' : Stage α} {id classes : String}
    (h : s.register id classes = .ok s') :
    isReserved id = false ∧
      s' = { s with
        targets := s.targets ++ [.ofClasses id classes]
        names := assign id s.targets.length s.names } := by
  unfold register at h
  split at h
  · cases h
  · next hfree => exact ⟨Bool.not_eq_true _ ▸ hfree, (Except.ok.inj h).symm⟩

theorem ids_register {s s' : Stage α} {id classes : String} (hid : id ∉ s.ids)
    (h : s.register id classes = .ok s') : s'.ids = s.ids ++ [id] := by
  obtain ⟨-, rfl⟩ := register_eq_ok h
  simp [ids, assign_of_not_mem hid]

/-! ## Stages of a view -/

theorem foldlM_register_induction {K : Stage α → Prop}
    (hK : ∀ {s s' : Stage α} {id classes : String}, id ∉ s.ids → s.register id classes = .ok s' →
      K s → K s')
    {entries : List (String × String)} {s s' : Stage α} (hentries : (entries.map (·.1)).Nodup)
    (hids : ∀ id ∈ entries.map (·.1), id ∉ s.ids) (hs : K s)
    (h : entries.foldlM (fun s (id, classes) => s.register id classes) s = .ok s') : K s' := by
  induction entries generalizing s with
  | nil =>
    cases h
    exact hs
  | cons entry entries ih =>
    obtain ⟨id, classes⟩ := entry
    rw [List.map_cons, List.nodup_cons] at hentries
    rw [List.foldlM_cons] at h
    obtain ⟨u, hu, h⟩ := bind_eq_ok.mp h
    have hid := hids id List.mem_cons_self
    refine ih hentries.2 ?_ (hK hid hu hs) h
    intro name hname
    rw [ids_register hid hu, List.mem_append, List.mem_singleton, not_or]
    refine ⟨hids name (List.mem_cons_of_mem _ hname), ?_⟩
    rintro rfl
    exact hentries.1 hname

/-- However often an id comes in a view, it is registered once, so the stage of a view has what the
registration of new ids keeps. -/
theorem ofView_induction {K : Stage α → Prop} {view : List (String × String)}
    {environment : Option (String → String → Value α)} {hasSink : Bool} {s : Stage α}
    (hempty : K (empty environment hasSink))
    (hK : ∀ {s s' : Stage α} {id classes : String}, id ∉ s.ids → s.register id classes = .ok s' →
      K s → K s')
    (h : ofView view environment hasSink = .ok s) : K s := by
  have hnil : (([] : List (String × String)).map (·.1)).Nodup := List.nodup_nil
  refine foldlM_register_induction hK (nodup_foldl_assign view hnil) ?_ hempty h
  exact fun _ _ => List.not_mem_nil

theorem hasSink_ofView {view : List (String × String)}
    {environment : Option (String → String → Value α)} {hasSink : Bool} {s : Stage α}
    (h : ofView view environment hasSink = .ok s) : s.hasSink = hasSink := by
  refine ofView_induction (K := fun s => s.hasSink = hasSink) rfl ?_ h
  intro s s' id classes _ hs' hs
  obtain ⟨-, rfl⟩ := register_eq_ok hs'
  exact hs

/-! ## Names -/

/-- Every target goes by its own id. -/
structure EachNamed (s : Stage α) : Prop where
  names : s.names = s.targets.mapIdx fun i t => (t.id, i)
  distinct : s.Distinct

namespace EachNamed
variable {s s' : Stage α}

theorem ids (hs : s.EachNamed) : s.ids = s.targets.map (·.id) := by
  rw [Stage.ids, hs.names]
  refine List.ext_getElem? fun i => ?_
  rw [List.getElem?_map, List.getElem?_mapIdx, List.getElem?_map, Option.map_map]
  rfl

theorem mem_ids (hs : s.EachNamed) {i : Handle} {t : Target α} (ht : s.targets[i]? = some t) :
    t.id ∈ s.ids := by
  rw [hs.ids]
  exact List.mem_map_of_mem (List.mem_of_getElem? ht)

theorem namesAll (hs : s.EachNamed) : s.NamesAll := by
  intro i hi
  refine ⟨(s.targets[i]).id, ?_⟩
  rw [hs.names, List.mem_mapIdx]
  exact ⟨i, hi, rfl⟩

theorem modify (hs : s.EachNamed) {i : Handle} {f : Target α → Target α}
    (hf : ∀ t, s.targets[i]? = some t → (f t).id = t.id) : (s.modify i f).EachNamed := by
  refine ⟨?_, hs.distinct.modify i hf⟩
  rw [show (s.modify i f).names = s.names from rfl, hs.names]
  refine List.ext_getElem? fun j => ?_
  rw [List.getElem?_mapIdx, List.getElem?_mapIdx, Stage.modify, List.getElem?_modify]
  cases ht : s.targets[j]? with
  | none => rfl
  | some t =>
    by_cases hij : i = j
    · subst hij
      simp [hf t ht]
    · simp [hij]

theorem register (hs : s.EachNamed) {id classes : String} (hid : id ∉ s.ids)
    (h : s.register id classes = .ok s') : s'.EachNamed := by
  obtain ⟨-, rfl⟩ := register_eq_ok h
  have htargets : id ∉ s.targets.map (·.id) := hs.ids ▸ hid
  refine ⟨?_, ?_⟩
  · rw [assign_of_not_mem hid, List.mapIdx_concat, hs.names]
    rfl
  · rw [Distinct, List.map_append, List.nodup_append]
    refine ⟨hs.distinct, List.pairwise_singleton .., ?_⟩
    intro name hname other hother heq
    obtain rfl : other = id := List.mem_singleton.mp hother
    exact htargets (heq ▸ hname)

end EachNamed

theorem eachNamed_ofView {view : List (String × String)}
    {environment : Option (String → String → Value α)} {hasSink : Bool} {s : Stage α}
    (h : ofView view environment hasSink = .ok s) : s.EachNamed :=
  ofView_induction ⟨rfl, List.nodup_nil⟩ (fun hid hs' hs => hs.register hid hs') h

end Stage
end Choreo
