import Choreo.Proofs.Routine.Independent

/-!
Groups and chains under observation.

A group or a chain of watched tasks is watched itself (`Task.watched_all`, `Task.watched_chain`). If
an observation notices only one task of a group, then it sees the group do what that task does alone
(`Task.see_through_all`). And as groups and chains of tasks that keep to themselves do so too, what
is shown of the two combinations holds all through a tree of them.
-/

namespace Choreo
namespace Task
variable {L δ W V ε : Type} {m : Machine L δ W ε} {see : W → V} {G : Submonoid (Function.End V)}
  {t t' : Task L} {ts us : List (Task L)} {dt : δ} {w w' : W}

theorem Watched.of_alone (ht : t.Watched m see G) (h : t.alone m [dt] w = some t') :
    t'.Watched m see G := by
  obtain ⟨φ, hφ, hdone | ⟨u, hu, hpaused⟩⟩ := (ht.next dt).cases
  · obtain ⟨w', hn, -⟩ := hdone w
    rw [alone, through_of_done hn] at h
    cases h
  · obtain ⟨w', hn, -⟩ := hpaused w
    rw [alone, through_of_paused hn] at h
    cases h
    exact hu

theorem watched_of_mem_alone (hts : ∀ t ∈ ts, t.Watched m see G) (dt : δ) (w : W) :
    ∀ t ∈ ts.filterMap (·.alone m [dt] w), t.Watched m see G := by
  intro t' ht'
  obtain ⟨t, ht, halone⟩ := List.mem_filterMap.mp ht'
  exact (hts t ht).of_alone halone

theorem independent_of_watched (hts : ∀ t ∈ ts, t.Watched m see G) :
    ∀ t ∈ ts, t.Independent m :=
  fun t ht => (hts t ht).independent

theorem see_foldl_next (hts : ∀ t ∈ ts, t.Watched m see G) (dt : δ) :
    ∃ φ ∈ G, ∀ w, see (ts.foldl (fun v t => (t.next m dt v).2) w) = φ (see w) := by
  induction ts with
  | nil => exact ⟨1, G.one_mem, fun w => rfl⟩
  | cons t ts ih =>
    obtain ⟨⟨φ, hφ, hsee⟩, -⟩ := (hts t List.mem_cons_self).next dt
    obtain ⟨ψ, hψ, hrest⟩ := ih fun u hu => hts u (List.mem_cons_of_mem t hu)
    refine ⟨ψ ∘ φ, G.mul_mem hψ hφ, fun w => ?_⟩
    rw [List.foldl_cons, hrest, hsee]
    rfl

/-- A step of a group looks like the step of the only task in it that is noticed. -/
theorem see_foldl_next_append (hts : ∀ u ∈ ts, u.Watched m see ⊥) (ht : t.Watched m see G)
    (hus : ∀ u ∈ us, u.Watched m see ⊥) (dt : δ) (w : W) :
    see ((ts ++ t :: us).foldl (fun v t => (t.next m dt v).2) w) = see (t.next m dt w).2 := by
  have hquiet {vs : List (Task L)} (hvs : ∀ v ∈ vs, v.Watched m see ⊥) (w : W) :
      see (vs.foldl (fun v t => (t.next m dt v).2) w) = see w := by
    obtain ⟨φ, hφ, hsee⟩ := see_foldl_next hvs dt
    rw [hsee, Submonoid.mem_bot.mp hφ]
    rfl
  obtain ⟨⟨φ, -, hsee⟩, -⟩ := ht.next dt
  rw [List.foldl_append, List.foldl_cons, hquiet hus, hsee, hsee, hquiet hts]

/-! ## Groups -/

theorem watches_next_all (hts : ∀ t ∈ ts, t.Watched m see G) (dt : δ) :
    Watches see G (fun t' => ∃ us, (∀ u ∈ us, u.Watched m see G) ∧ t' = .paused (.all us))
      ((Task.paused (.all ts)).next m dt) := by
  obtain ⟨φ, hφ, hsee⟩ := see_foldl_next hts dt
  by_cases hW : Nonempty W
  · obtain ⟨w₀⟩ := hW
    have hnext := next_all_independent (independent_of_watched hts) dt w₀
    have hlive := watched_of_mem_alone hts dt w₀
    generalize ts.filterMap (·.alone m [dt] w₀) = live at hnext hlive
    cases live with
    | nil => exact watches_of_done hφ fun w => ⟨_, hnext w, hsee w⟩
    | cons u us => exact watches_of_paused hφ ⟨u :: us, hlive, rfl⟩ fun w => ⟨_, hnext w, hsee w⟩
  · exact watches_of_done hφ fun w => absurd ⟨w⟩ hW

/-- A group of watched tasks is watched, before it is started and after. -/
theorem watched_all (hts : ∀ t ∈ ts, t.Watched m see G) :
    Watched m see G (.fresh (.all ts)) ∧ Watched m see G (.paused (.all ts)) := by
  let Waiting (t : Task L) := ∃ us, (∀ u ∈ us, u.Watched m see G) ∧ t = .paused (.all us)
  have hstart (us : List (Task L)) (hus : ∀ u ∈ us, u.Watched m see G) :
      Watches see G Waiting ((Task.fresh (.all us)).start m) := by
    cases us with
    | nil => exact watches_of_done G.one_mem fun w => ⟨w, rfl, rfl⟩
    | cons u us => exact watches_of_paused G.one_mem ⟨u :: us, hus, rfl⟩ fun w => ⟨w, rfl, rfl⟩
  have hnext (dt : δ) (t : Task L) (ht : Waiting t) : Watches see G Waiting (t.next m dt) := by
    obtain ⟨us, hus, rfl⟩ := ht
    exact watches_next_all hus dt
  have hP : m.Watched see G fun t =>
      (∃ us, (∀ u ∈ us, u.Watched m see G) ∧ t = .fresh (.all us)) ∨ Waiting t := by
    refine ⟨?_, ?_, ?_⟩
    · rintro t (⟨us, -, rfl⟩ | ⟨us, -, rfl⟩) <;> exact nofun
    · rintro t (⟨us, hus, rfl⟩ | ⟨us, hus, rfl⟩)
      · exact (hstart us hus).imp fun t ht => .inr ht
      · exact watches_of_paused G.one_mem (.inr ⟨us, hus, rfl⟩) fun w => ⟨w, rfl, rfl⟩
    · rintro t dt (⟨us, hus, rfl⟩ | ht)
      · have hfirst := watches_next (t := .fresh (.all us)) nofun dt (hstart us hus) (hnext dt)
        exact hfirst.imp fun t ht => .inr ht
      · exact (hnext dt t ht).imp fun t ht => .inr ht
  exact ⟨⟨_, hP, .inl ⟨ts, hts, rfl⟩⟩, _, hP, .inr ⟨ts, hts, rfl⟩⟩

theorem Watched.see_through_congr (ht : t.Watched m see G) (dts : List δ) (hw : see w = see w') :
    see (t.through m dts w).2 = see (t.through m dts w').2 := by
  obtain ⟨φ, -, hsee⟩ := ht.through dts
  rw [hsee, hsee, hw]

theorem Watched.see_through (ht : t.Watched m see ⊥) (dts : List δ) (w : W) :
    see (t.through m dts w).2 = see w := by
  obtain ⟨φ, hφ, hsee⟩ := ht.through dts
  rw [hsee, Submonoid.mem_bot.mp hφ]
  rfl

/-- An observation that notices one task of a group sees what that task does alone. -/
theorem see_through_all (hts : ∀ u ∈ ts, u.Watched m see ⊥) (ht : t.Watched m see G)
    (hus : ∀ u ∈ us, u.Watched m see ⊥) (dts : List δ) (w : W) :
    see (through m dts (.paused (.all (ts ++ t :: us))) w).2 = see (through m dts t w).2 := by
  induction dts generalizing ts t us w with
  | nil => rfl
  | cons dt dts ih =>
    have hseen := see_foldl_next_append hts ht hus dt w
    have hall : ∀ u ∈ ts ++ t :: us, u.Independent m := by
      intro u hu
      rcases List.mem_append.mp hu with hu | hu
      · exact (hts u hu).independent
      · rcases List.mem_cons.mp hu with rfl | hu
        · exact ht.independent
        · exact (hus u hu).independent
    have hnext := next_all_independent hall dt w w
    generalize (ts ++ t :: us).foldl (fun v t => (t.next m dt v).2) w = v at hseen hnext
    have hbefore := watched_of_mem_alone hts dt w
    have hafter := watched_of_mem_alone hus dt w
    rw [List.filterMap_append] at hnext
    obtain ⟨φ, hφ, hdone | ⟨t', ht', hpaused⟩⟩ := (ht.next dt).cases
    · obtain ⟨w', hn, -⟩ := hdone w
      have halone : t.alone m [dt] w = none := by
        rw [alone, through_of_done hn]
        rfl
      rw [List.filterMap_cons_none halone] at hnext
      rw [through_of_done hn, ← congrArg (fun turn => see turn.2) hn, ← hseen]
      -- The others go on, if there are any, and nothing of it is noticed.
      generalize hlive : ts.filterMap (·.alone m [dt] w) ++ us.filterMap (·.alone m [dt] w) = live
        at hnext
      have hrest : ∀ u ∈ live, u.Watched m see ⊥ := by
        rw [← hlive]
        exact List.forall_mem_append.mpr ⟨hbefore, hafter⟩
      cases live with
      | nil => rw [through_of_done hnext]
      | cons u live =>
        rw [through_of_paused hnext]
        exact (watched_all hrest).2.see_through dts v
    · obtain ⟨w', hn, -⟩ := hpaused w
      have halone : t.alone m [dt] w = some t' := by
        rw [alone, through_of_paused hn]
        rfl
      rw [List.filterMap_cons_some halone] at hnext
      have hwait : (Task.paused (.all (ts ++ t :: us))).next m dt w = ((.ok false,
          .paused (.all (ts.filterMap (·.alone m [dt] w) ++
            t' :: us.filterMap (·.alone m [dt] w)))), v) := by
        rw [hnext]
        cases ts.filterMap (·.alone m [dt] w) <;> rfl
      rw [through_of_paused hwait, through_of_paused hn, ih hbefore ht' hafter]
      refine ht'.see_through_congr dts ?_
      rw [hseen, hn]

/-! ## Chains -/

/-- A chain of watched tasks that waits in the first. -/
def WaitsInChain (m : Machine L δ W ε) (see : W → V) (G : Submonoid (Function.End V))
    (t : Task L) : Prop :=
  ∃ u us, u.Watched m see G ∧ u.Uses m ∧ (∀ v ∈ us, v.Watched m see G) ∧
    t = .paused (.chain (u :: us))

theorem watches_start_chain (hts : ∀ t ∈ ts, t.Watched m see G) :
    Watches see G (WaitsInChain m see G) ((Task.fresh (.chain ts)).start m) := by
  induction ts with
  | nil => exact watches_of_done G.one_mem fun w => ⟨w, rfl, rfl⟩
  | cons t ts ih =>
    have hrest (u) (hu : u ∈ ts) := hts u (List.mem_cons_of_mem t hu)
    obtain ⟨φ, hφ, hdone | ⟨t', ht', hpaused⟩⟩ := (hts t List.mem_cons_self).start.cases
    · have hcall : (Task.fresh (.chain (t :: ts))).start m =
          fun w => (Task.fresh (.chain ts)).start m (t.start m w).2 := by
        funext w
        obtain ⟨w', hs, -⟩ := hdone w
        rw [start_chain_cons, hs]
      rw [hcall]
      refine (ih hrest).comp hφ fun w => ?_
      obtain ⟨w', hs, hsee⟩ := hdone w
      rw [hs, hsee]
    · have huses : t'.Uses m := by
        intro dt w
        obtain ⟨w', hs, -⟩ := hpaused w
        exact (begun_of_start (congrArg Prod.fst hs)).uses m dt w
      refine watches_of_paused hφ ⟨t', ts, ht', huses, hrest, rfl⟩ fun w => ?_
      obtain ⟨w', hs, hsee⟩ := hpaused w
      exact ⟨w', by rw [start_chain_cons, hs], hsee⟩

theorem watches_next_chain (dt : δ) (ht : WaitsInChain m see G t) :
    Watches see G (WaitsInChain m see G) (t.next m dt) := by
  obtain ⟨u, us, hu, huses, hus, rfl⟩ := ht
  obtain ⟨φ, hφ, hdone | ⟨u', hu', hpaused⟩⟩ := (hu.next dt).cases
  · have hcall : (Task.paused (.chain (u :: us))).next m dt =
        fun w => (Task.fresh (.chain us)).start m (u.next m dt w).2 := by
      funext w
      obtain ⟨w', hn, -⟩ := hdone w
      rw [next_chain_cons huses, hn]
    rw [hcall]
    refine (watches_start_chain hus).comp hφ fun w => ?_
    obtain ⟨w', hn, hsee⟩ := hdone w
    rw [hn, hsee]
  · have huses' : u'.Uses m := by
      intro dt' w
      obtain ⟨w', hn, -⟩ := hpaused w
      exact (begun_of_next (congrArg Prod.fst hn)).uses m dt' w
    refine watches_of_paused hφ ⟨u', us, hu', huses', hus, rfl⟩ fun w => ?_
    obtain ⟨w', hn, hsee⟩ := hpaused w
    exact ⟨w', by rw [next_chain_cons huses, hn], hsee⟩

theorem watched_chain (hts : ∀ t ∈ ts, t.Watched m see G) :
    Watched m see G (.fresh (.chain ts)) := by
  refine ⟨fun t => (∃ us, (∀ u ∈ us, u.Watched m see G) ∧ t = .fresh (.chain us)) ∨
    WaitsInChain m see G t, ⟨?_, ?_, ?_⟩, .inl ⟨ts, hts, rfl⟩⟩
  · rintro t (⟨us, -, rfl⟩ | ⟨u, us, -, -, -, rfl⟩) <;> exact nofun
  · rintro t (⟨us, hus, rfl⟩ | ⟨u, us, hu, huses, hus, rfl⟩)
    · exact (watches_start_chain hus).imp fun t ht => .inr ht
    · -- A start goes through a chain the same way whether it waits or not.
      have hsame :
          (Task.paused (.chain (u :: us))).start m = (Task.fresh (.chain (u :: us))).start m := rfl
      have hall : ∀ v ∈ u :: us, v.Watched m see G := List.forall_mem_cons.mpr ⟨hu, hus⟩
      rw [hsame]
      exact (watches_start_chain hall).imp fun t ht => .inr ht
  · rintro t dt (⟨us, hus, rfl⟩ | ht)
    · have hfirst := watches_next (t := .fresh (.chain us)) nofun dt (watches_start_chain hus)
        fun _ => watches_next_chain dt
      exact hfirst.imp fun t ht => .inr ht
    · exact (watches_next_chain dt ht).imp fun t ht => .inr ht

/-! ## Trees of tasks that keep to themselves -/

/-- With nothing to look at, a task that keeps to itself is watched. -/
theorem Independent.watched (ht : t.Independent m) : t.Watched m (fun _ : W => ()) ⊤ := by
  obtain ⟨P, hP, ht⟩ := ht
  have hnone : ∃ φ ∈ (⊤ : Submonoid (Function.End Unit)), ∀ w : W, () = φ () :=
    ⟨1, trivial, fun _ => rfl⟩
  exact ⟨P, ⟨hP.ne_done, fun t ht => ⟨hnone, hP.start t ht⟩,
    fun t dt ht => ⟨hnone, hP.next t dt ht⟩⟩, ht⟩

theorem independent_all (hts : ∀ t ∈ ts, t.Independent m) : Independent m (.fresh (.all ts)) :=
  (watched_all fun t ht => (hts t ht).watched).1.independent

theorem independent_chain (hts : ∀ t ∈ ts, t.Independent m) : Independent m (.fresh (.chain ts)) :=
  (watched_chain fun t ht => (hts t ht).watched).independent

end Task
end Choreo
