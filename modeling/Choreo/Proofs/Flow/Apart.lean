import Choreo.Proofs.Flow.Scope
import Choreo.Proofs.Number.Rational
import Choreo.Proofs.Routine.Branches
import Choreo.Proofs.Stage.Sight
import Mathlib.Order.CompletePartialOrder

/-!
Flows on different targets, in parallel.

A flow gets at targets by the ids it names, and at nothing else: its animations read and write what
these ids reach, whatever else is going on. So flows that name different targets keep out of each
other's way. In parallel each does to its targets what it does alone, and the order in which they
are listed makes no difference (`Flow.all_apart`).
-/

namespace Choreo
variable {α C : Type}

open World (Agree Through)

/-! ## Stages -/

namespace Stage

theorem faithful_empty (environment : Option (String → String → Value α)) (hasSink : Bool) :
    (empty environment hasSink).Faithful := nofun

theorem Faithful.register {s s' : Stage α} {id classes : String} (hs : s.Faithful)
    (h : s.register id classes = .ok s') : s'.Faithful := by
  unfold Stage.register at h
  split at h
  · cases h
  cases h
  intro other i hother
  rw [handle?, lookup_assign] at hother
  split at hother
  · next heq =>
    obtain rfl := Option.some.inj hother
    exact ⟨Target.ofClasses id classes, List.getElem?_concat_length, heq.symm⟩
  · obtain ⟨t, ht, hid⟩ := hs other i hother
    exact ⟨t, (List.getElem?_append_left (List.getElem?_eq_some_iff.mp ht).1).trans ht, hid⟩

theorem Faithful.foldlM_register {entries : List (String × String)} {s s' : Stage α}
    (hs : s.Faithful)
    (h : entries.foldlM (fun s (id, classes) => s.register id classes) s = .ok s') :
    s'.Faithful := by
  induction entries generalizing s with
  | nil =>
    cases h
    exact hs
  | cons entry entries ih =>
    obtain ⟨id, classes⟩ := entry
    rw [List.foldlM_cons] at h
    cases hr : s.register id classes with
    | error reserved =>
      simp only [hr] at h
      cases h
    | ok u =>
      simp only [hr] at h
      exact ih (hs.register hr) h

theorem faithful_ofView {view : List (String × String)}
    {environment : Option (String → String → Value α)} {hasSink : Bool} {s : Stage α}
    (h : ofView view environment hasSink = .ok s) : s.Faithful :=
  (faithful_empty environment hasSink).foldlM_register h

end Stage

/-! ## The scope of some ids -/

/-- An effect on a target that one of the ids names. -/
def Effect.Reaches (names : List (String × Handle)) (X : Set String) : Effect α → Prop
  | .report _ => True
  | .animate h _ => ∃ id ∈ X, names.lookup id = some h
  | .type h _ _ => ∃ id ∈ X, names.lookup id = some h

variable [Scalar α] [Analytic α] {names : List (String × Handle)} {X Y : Set String}

section
variable {before w w' : World α C}

theorem Job.applyAll_through {id : String} (hid : id ∈ X) {i : Handle}
    (hi : names.lookup id = some i) (progress : α) (jobs : List (Job α))
    (h : Through names X before w w') :
    Alike (Through names X before) (Job.applyAll i progress jobs w)
      (Job.applyAll i progress jobs w') := by
  induction jobs generalizing w w' with
  | nil => exact ⟨rfl, h⟩
  | cons j rest ih =>
    obtain ⟨t, ht, ht', rfl⟩ := h.agree.target_of_mem hid hi
    simp only [Job.applyAll, ht, ht', Job.valueAt_congr (h.agree.read hid)]
    split
    · exact ⟨rfl, h⟩
    · exact ih (h.apply hid hi _ _ _ _)

theorem Effect.perform_through {e : Effect α} (he : e.Reaches names X) (progress : α)
    (h : Through names X before w w') :
    AlikeOn (fun r => ∀ e', r = .ok e' → e'.Reaches names X) (Through names X before)
      (e.perform progress w) (e.perform progress w') := by
  cases e with
  | report tag =>
    exact ⟨rfl, fun e' he' => Except.ok.inj he' ▸ trivial, h.report fun _ => rfl⟩
  | animate i jobs =>
    obtain ⟨id, hid, hi⟩ := he
    obtain ⟨r, u, u', hu, hu', hR⟩ := (Job.applyAll_through hid hi progress jobs h).exists_eq
    simp only [Effect.perform, hu, hu']
    cases r with
    | error f => exact ⟨rfl, nofun, hR⟩
    | ok _ => exact ⟨rfl, fun e' he' => Except.ok.inj he' ▸ ⟨id, hid, hi⟩, hR⟩
  | type i content shown =>
    obtain ⟨id, hid, hi⟩ := he
    simp only [Effect.perform]
    split
    · exact ⟨rfl, nofun, h⟩
    · split
      · exact ⟨rfl, fun e' he' => Except.ok.inj he' ▸ ⟨id, hid, hi⟩, h⟩
      · exact ⟨rfl, fun e' he' => Except.ok.inj he' ▸ ⟨id, hid, hi⟩, h.apply hid hi _ _ _ _⟩

end

theorem Show.through_scope (names : List (String × Handle)) (X : Set String) (before : Show α) :
    Show.Scope (Through names X before) (Effect.Reaches names X) (· ∈ X) False where
  suppressed h := h.agree.suppressed.symm
  report he h := h.report fun id => by
    revert he
    cases ‹Event α› <;> simp [Event.isSilent, Event.isFor]
  line _ := trivial
  perform progress he _ h := Effect.perform_through he progress h
  handle? _ h := by rw [(h.agree.handle?_eq _).1, (h.agree.handle?_eq _).2]
  target hid h hi := by
    rw [(h.agree.handle?_eq _).1] at hi
    obtain ⟨t, ht, ht', -⟩ := h.agree.target_of_mem hid hi
    rw [ht, ht']
  showGradient hid h hi _ := by
    rw [(h.agree.handle?_eq _).1] at hi
    exact h.addClass hid hi Animation.gradientClass
  build goals start hid h hi ht := by
    rw [(h.agree.handle?_eq _).1] at hi
    obtain ⟨t, ht', -, rfl⟩ := h.agree.target_of_mem hid hi
    obtain rfl := Option.some.inj (ht.symm.trans ht')
    exact (Job.build_congr (h.agree.read hid) goals start).symm
  animate hid h hi _ _ := ⟨_, hid, (h.agree.handle?_eq _).1 ▸ hi⟩
  type _ hid h hi := ⟨_, hid, (h.agree.handle?_eq _).1 ▸ hi⟩
  crew h := h.agree.crew.symm
  crew_within hn := hn.elim
  withCrew hn := hn.elim
  all hn := hn.elim

/-- A task that reaches targets by some ids only. -/
def Task.Reaches (names : List (String × Handle)) (X : Set String) (t : Task (Leaf α)) : Prop :=
  t.Of (Leaf.Within (Effect.Reaches names X) (· ∈ X) False)

/-- The ids that a task uses own it, and see what they reach. -/
theorem Leaf.machine_separate (names : List (String × Handle)) :
    (machine : Player α).Separate Disjoint (Agree names) (Task.Reaches names) where
  apart_symm h := h.symm
  symm h := h.symm
  trans h h' := h.trans h'
  next {X t w w'} dt ht h := by
    have hthrough : Through names X w w w' := ⟨h, h.self⟩
    have hnext :=
      Task.next_confined (machine_confined (Show.through_scope names X w)) dt ht hthrough
    exact ⟨hnext.same, hnext.answer, hnext.related.agree⟩
  spare {X Y t w} dt ht h hapart _ := by
    have hthrough : Through names X w w w := ⟨h, h.self⟩
    have hnext :=
      Task.next_confined (machine_confined (Show.through_scope names X w)) dt ht hthrough
    exact hnext.related.spared.mono (Set.subset_compl_iff_disjoint_left.mpr hapart)

/-! ## Flows in parallel -/

namespace Flow

omit [Scalar α] [Analytic α] in
theorem toTasks_eq_map (use : String → Leaf α) (fs : List (Flow α)) :
    toTasks use fs = fs.map (toTask use) := by
  induction fs with
  | nil => rfl
  | cons f fs ih => rw [toTasks, ih, List.map_cons]

/-- The ids a flow names as the owner of its task, which is alone in a world. -/
def branch (w : Show α) (f : Flow α) : Branch (Set String) (Leaf α) (Show α) :=
  ⟨{id | id ∈ f.targets}, f.toTask .visit, w⟩

omit [Scalar α] [Analytic α] in
theorem spread_branches {fs : List (Flow α)} {w : Show α} (hw : w.stage.Faithful)
    (hnames : ∀ f ∈ fs, f.nameCount = 0)
    (hapart : fs.Pairwise fun f g => f.targets.Disjoint g.targets) :
    Task.Spread Disjoint (Agree w.stage.names) (Task.Reaches w.stage.names)
      (fs.map (branch w)) w where
  own := by
    intro b hb
    obtain ⟨f, hf, rfl⟩ := List.mem_map.mp hb
    exact toTask_within f (fun _ => id) (.inr (hnames f hf)) fun _ => id
  see := by
    intro b hb
    obtain ⟨f, -, rfl⟩ := List.mem_map.mp hb
    exact Agree.refl hw
  apart := by
    rw [List.pairwise_map]
    exact hapart.imp fun h => Set.disjoint_left.mpr fun id hid => h hid

section
variable {fs fs' : List (Flow α)} {w : Show α} {dts : List (Option α)}

/-- In parallel, flows on different targets leave to each its targets as it leaves them alone. What
no flow names is spared. -/
theorem course_all_apart (hw : w.stage.Faithful) (hnames : ∀ f ∈ fs, f.nameCount = 0)
    (hapart : fs.Pairwise fun f g => f.targets.Disjoint g.targets)
    (hok : ∀ f ∈ fs, ∃ r, ((f.toTask .visit).through Leaf.machine dts w).1 = .ok r)
    (hne : fs ≠ []) :
    ∃ r v, (Task.fresh (all fs).toRoutine).course Leaf.machine dts w = (.ok r, v) ∧
      r.steps? = Task.most (fs.map fun f => (f.toTask .visit).strides? Leaf.machine dts w) ∧
      (∀ f ∈ fs, Agree w.stage.names {id | id ∈ f.targets} v
        ((f.toTask .visit).through Leaf.machine dts w).2) ∧
      Agree w.stage.names {id | ∀ f ∈ fs, id ∉ f.targets} w v := by
  have hholds : ∀ b ∈ fs.map (branch w), b.Holds Leaf.machine dts :=
    List.forall_mem_map.mpr hok
  have hbranches : fs.map (branch w) ≠ [] := fun h => hne (List.map_eq_nil_iff.mp h)
  obtain ⟨r, v, hcourse, hsteps, hsees, hspares⟩ :=
    Task.through_branches (Leaf.machine_separate w.stage.names) dts hbranches
      (spread_branches hw hnames hapart) hholds
  have htasks : (fs.map (branch w)).map Branch.task = toTasks .visit fs := by
    rw [toTasks_eq_map, List.map_map]
    rfl
  rw [htasks] at hcourse
  refine ⟨r, v, ?_, ?_, List.forall_mem_map.mp hsees, hspares _ ?_ (Agree.refl hw)⟩
  · rw [toRoutine, Task.course_all, hcourse]
    rw [toTasks_eq_map]
    exact fun h => hne (List.map_eq_nil_iff.mp h)
  · rw [hsteps, List.map_map]
    rfl
  · refine List.forall_mem_map.mpr fun f hf => ?_
    exact Set.disjoint_left.mpr fun id hid hnone => hnone f hf hid

/-- Flows on different targets do not interact in parallel. Each of them does to its targets what it
does alone, and hands the sink the same texts for them in the same order. In which order the flows
are listed makes no difference: they take as many steps, leave the same stage, and for every target
the sink is handed the same texts in the same order. A target that none of them names is left as it
was, and the sink is handed nothing for it. -/
theorem all_apart (hperm : fs.Perm fs') (hw : w.stage.Faithful) (hnames : ∀ f ∈ fs, f.nameCount = 0)
    (hapart : fs.Pairwise fun f g => f.targets.Disjoint g.targets)
    (hok : ∀ f ∈ fs, ∃ r, ((f.toTask .visit).through Leaf.machine dts w).1 = .ok r) :
    ∃ r r' v v', (Task.fresh (all fs).toRoutine).course Leaf.machine dts w = (.ok r, v) ∧
      (Task.fresh (all fs').toRoutine).course Leaf.machine dts w = (.ok r', v') ∧
      r.steps? = r'.steps? ∧ v.stage = v'.stage ∧ (∀ id, v.handed id = v'.handed id) ∧
      (∀ f ∈ fs, ∀ id ∈ f.targets,
        let alone := ((f.toTask .visit).through Leaf.machine dts w).2
        v.stage.target? id = alone.stage.target? id ∧ v.handed id = alone.handed id) ∧
      ∀ id, (∀ f ∈ fs, id ∉ f.targets) →
        v.stage.target? id = w.stage.target? id ∧ v.handed id = w.handed id := by
  by_cases hne : fs = []
  · subst hne
    obtain rfl := List.nil_perm.mp hperm
    exact ⟨.done 0, .done 0, w, w, rfl, rfl, rfl, rfl, fun _ => rfl, nofun, fun _ _ => ⟨rfl, rfl⟩⟩
  have hmem (f : Flow α) : f ∈ fs' ↔ f ∈ fs := hperm.mem_iff.symm
  have hapart' : fs'.Pairwise fun f g => f.targets.Disjoint g.targets :=
    hperm.pairwise hapart fun h _ hg hf => h hf hg
  obtain ⟨r, v, hcourse, hsteps, halone, hspared⟩ := course_all_apart hw hnames hapart hok hne
  obtain ⟨r', v', hcourse', hsteps', halone', hspared'⟩ := course_all_apart hw
    (fun f hf => hnames f ((hmem f).mp hf)) hapart' (fun f hf => hok f ((hmem f).mp hf))
    (fun h => hne (List.perm_nil.mp (h ▸ hperm)))
  have hagree : Agree w.stage.names Set.univ v v' := by
    refine Agree.of_cover fun id => ?_
    by_cases hid : ∃ f ∈ fs, id ∈ f.targets
    · obtain ⟨f, hf, hid⟩ := hid
      exact ⟨_, hid, (halone f hf).trans (halone' f ((hmem f).mpr hf)).symm⟩
    · have hnone : ∀ f ∈ fs, id ∉ f.targets := fun f hf h => hid ⟨f, hf, h⟩
      refine ⟨{id}, rfl, (hspared.symm.mono ?_).trans (hspared'.mono ?_)⟩
      · exact Set.singleton_subset_iff.mpr hnone
      · exact Set.singleton_subset_iff.mpr fun f hf => hnone f ((hmem f).mp hf)
  refine ⟨r, r', v, v', hcourse, hcourse', ?_, hagree.stage_eq,
    fun id => hagree.handed id (Set.mem_univ id), fun f hf id hid => ?_, fun id hid => ?_⟩
  · rw [hsteps, hsteps', Task.most_perm (hperm.map _)]
  · exact ⟨(halone f hf).target?_eq hid, (halone f hf).handed id hid⟩
  · exact ⟨hspared.symm.target?_eq hid, hspared.symm.handed id hid⟩

end

/-- A fade and, after a pause, a caption, on two of three targets. -/
theorem all_apart_fadeAndCaption :
    let s : Stage Rat :=
      { targets := [.ofClasses "title" "opacity-0", .ofClasses "card" "", .ofClasses "note" "mt-4"]
        names := [("title", 0), ("card", 1), ("note", 2)], environment := none, hasSink := true }
    let fade : Flow Rat :=
      .act (.animate "title" [.text "opacity-100", .number 1] (.named "linear"))
    let caption : Flow Rat := .chain [.act (.wait (1 / 2)), .act (.type "card" "Hi" 1)]
    let run (fs : List (Flow Rat)) := (Task.fresh (all fs).toRoutine).course Leaf.machine
      (List.replicate 4 (some (1 / 2))) (World.ofStage s .empty)
    ∃ v v', run [fade, caption] = (.ok (.done 3), v) ∧ run [caption, fade] = (.ok (.done 3), v') ∧
      v.stage = v'.stage ∧ (∀ id, v.handed id = v'.handed id) ∧ v.handed "note" = [] := by
  intro s fade caption run
  have hview : Stage.ofView [("title", "opacity-0"), ("card", ""), ("note", "mt-4")] none true =
      .ok s := rfl
  have hok : ∀ f ∈ [fade, caption], ∃ r, ((f.toTask .visit).through Leaf.machine
      (List.replicate 4 (some (1 / 2))) (World.ofStage s .empty)).1 = .ok r := by
    refine List.forall_mem_cons.mpr ⟨⟨_, Fate.eq_done_of_map (n := 2) ?_⟩,
      List.forall_mem_singleton.mpr ⟨_, Fate.eq_done_of_map (n := 3) ?_⟩⟩
    · decide +kernel
    · decide +kernel
  have hapart : [fade, caption].Pairwise fun f g => f.targets.Disjoint g.targets :=
    List.pairwise_pair.mpr (by simp [fade, caption, targets, targetsOf])
  obtain ⟨r, r', v, v', hrun, hrun', hsteps, hstage, hhanded, -, hspared⟩ :=
    all_apart (List.Perm.swap caption fade []) (Stage.faithful_ofView hview) (by decide) hapart hok
  have hcount : (run [fade, caption]).1.map Fate.steps? = .ok (some 3) := by decide +kernel
  obtain rfl : r = .done 3 := by
    rw [show run [fade, caption] = (.ok r, v) from hrun] at hcount
    exact Fate.eq_done_of_steps? (Except.ok.inj hcount)
  obtain rfl : r' = .done 3 := Fate.eq_done_of_steps? hsteps.symm
  exact ⟨v, v', hrun, hrun', hstage, hhanded, (hspared "note" (by decide)).2⟩

end Flow
end Choreo
