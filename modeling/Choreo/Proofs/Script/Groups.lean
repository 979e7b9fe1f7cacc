import Choreo.Proofs.Routine.Combined
import Choreo.Proofs.Script.Uneven

/-!
Groups of tasks that take no time.

A chain starts its tasks one after another, so tasks that are done at their start take no step
there. A group starts its tasks in its first step, and a group that is not empty waits for that step
even if all of its tasks are done at their start. Each such group in front of a task costs it one
step (`Task.count_groups`), while the estimate has a group last as long as the longest of its parts,
and so counts nothing for it.
-/

namespace Choreo
variable {L δ W ε : Type}

namespace Task

/-- The tasks are started one after another, and each is done at its start: the first is started in
the one world, and the last leaves the other. -/
def AtOnce (m : Machine L δ W ε) : List (Task L) → W → W → Prop
  | [], w, u => w = u
  | t :: ts, w, u => t ≠ .done ∧ ∃ v, t.start m w = ((.ok true, .done), v) ∧ AtOnce m ts v u

/-- With which step a task is done, if it is, and the world it leaves. -/
def count (m : Machine L δ W ε) (dts : List δ) (t : Task L) (w : W) :
    Except ε (Option Nat) × W :=
  ((course m dts t w).1.map Fate.steps?, (course m dts t w).2)

section
variable {m : Machine L δ W ε} {ts us : List (Task L)} {w u v : W}

theorem atOnce_append :
    AtOnce m (ts ++ us) w v ↔ ∃ u, AtOnce m ts w u ∧ AtOnce m us u v := by
  induction ts generalizing w with
  | nil =>
    constructor
    · intro h
      exact ⟨w, rfl, h⟩
    · rintro ⟨u, rfl, h⟩
      exact h
  | cons t ts ih =>
    constructor
    · rintro ⟨ht, x, hx, h⟩
      obtain ⟨u, hts, hus⟩ := ih.mp h
      exact ⟨u, ⟨ht, x, hx, hts⟩, hus⟩
    · rintro ⟨u, ⟨ht, x, hx, hts⟩, hus⟩
      exact ⟨ht, x, hx, ih.mpr ⟨u, hts, hus⟩⟩

/-- Stepped as a group, tasks that are done at their start are all done with the first step. -/
theorem AtOnce.advanceAll (h : AtOnce m ts w u) (dt : δ) :
    Task.advanceAll m dt ts w = (.ok [], u) := by
  induction ts generalizing w with
  | nil =>
    cases h
    rfl
  | cons t ts ih =>
    obtain ⟨ht, v, hv, hrest⟩ := h
    have hnext : t.next m dt w = ((.ok true, .done), v) := by
      rw [next_eq_start m dt ht, hv]
    rw [advanceAll_cons_next, hnext]
    exact ih hrest

/-- Chained, they are all done at the start of the chain, which goes on to what is behind them. -/
theorem AtOnce.start_chain (h : AtOnce m ts w u) (us : List (Task L)) :
    (Task.fresh (.chain (ts ++ us))).start m w = (Task.fresh (.chain us)).start m u := by
  induction ts generalizing w with
  | nil =>
    cases h
    rfl
  | cons t ts ih =>
    obtain ⟨-, v, hv, hrest⟩ := h
    rw [List.cons_append, start_chain_cons, hv]
    exact ih hrest

theorem AtOnce.course_all (h : AtOnce m ts w u) (hts : ts ≠ []) (dt : δ) (dts : List δ) :
    course m (dt :: dts) (.fresh (.all ts)) w = (.ok (.done 1), u) := by
  rw [Task.course_all hts]
  apply through_of_done
  rw [next_all, h.advanceAll dt]

/-- A chain of one task is done when that task is. -/
theorem count_chain_singleton (m : Machine L δ W ε) (dts : List δ) (t : Task L) (w : W) :
    count m dts (.fresh (.chain [t])) w = count m dts t w := by
  unfold count
  rw [course_chain_cons]
  rcases course m dts t w with ⟨r, u⟩
  rcases r with e | n | t'
  · rfl
  · rfl
  · rfl

/-- Each group in front of a task costs it one step. -/
theorem count_groups {gs : List (List (Task L))} (hgs : ∀ g ∈ gs, g ≠ [])
    (h : AtOnce m gs.flatten w u) {used : List δ} (hused : used.length = gs.length) (dts : List δ)
    (t : Task L) :
    count m (used ++ dts) (.fresh (.chain (gs.map (.fresh <| .all ·) ++ [t]))) w =
      ((count m dts t u).1.map (Option.map (gs.length + ·)), (count m dts t u).2) := by
  induction gs generalizing w used with
  | nil =>
    cases List.length_eq_zero_iff.mp hused
    cases h
    have hnone : (fun n : Option Nat => n.map (0 + ·)) = id := by
      funext n
      cases n with
      | none => rfl
      | some n => exact congrArg some (Nat.zero_add n)
    simp only [List.nil_append, List.map_nil, List.length_nil, count_chain_singleton, hnone,
      Except.map_id, id]
  | cons g gs ih =>
    obtain ⟨dt, used, rfl⟩ := List.exists_cons_of_length_eq_add_one hused
    rw [List.flatten_cons] at h
    obtain ⟨v, hg, hrest⟩ := atOnce_append.mp h
    have hne : g ≠ [] := hgs g List.mem_cons_self
    have hlater := ih (fun g' hg' => hgs g' (List.mem_cons_of_mem g hg')) hrest
      (Nat.succ.inj hused)
    -- The group is done with its step, and in that step the rest of the chain is started.
    rw [List.map_cons, List.cons_append, List.cons_append, count, course_chain_cons,
      hg.course_all hne]
    simp only [List.drop_succ_cons, List.drop_zero, Fate.map_steps?_after]
    obtain ⟨hcount, hworld⟩ := Prod.mk.inj hlater
    rw [hcount, hworld, List.length_cons]
    generalize (count m dts t u).1 = r
    rcases r with e | _ | n
    · rfl
    · rfl
    · refine congrArg (fun k => (Except.ok (some k), _)) ?_
      show 1 + (gs.length + n) = gs.length + 1 + n
      omega

end
end Task

theorem Flow.span_chain_all {fs : List (Flow Rat)} (hzero : ∀ g ∈ fs, g.span = 0) (f : Flow Rat) :
    (Flow.chain [.all fs, f]).span = f.span := by
  have hlongest : (Flow.spans fs).foldr max 0 = 0 := by
    induction fs with
    | nil => rfl
    | cons g fs ih =>
      have hrest := ih fun g' hg' => hzero g' (List.mem_cons_of_mem g hg')
      rw [Flow.spans, List.foldr_cons, hrest, hzero g List.mem_cons_self, max_self]
  simp only [Flow.span, Flow.spans, hlongest, List.sum_cons, List.sum_nil, zero_add, add_zero]

namespace Task

open Script (Expr Makes emptyShow)

/-- What tasks that are done at their start cost a task behind them. Chained with it they cost
nothing. Put in groups, however many, they cost it one step for each group that is not empty: the
task takes the steps that are left after that. The estimate for a group of parts without length, and
a task behind it, is that of the task. -/
theorem groups_cost_steps {m : Machine L δ W ε} {ts : List (Task L)} {w u : W}
    (h : AtOnce m ts w u) (t : Task L) :
    (∀ dts, count m dts (.fresh (.chain (ts ++ [t]))) w = count m dts t u) ∧
    (ts = [] → ∀ dts, count m dts (.fresh (.chain [.fresh (.all ts), t])) w = count m dts t u) ∧
    (ts ≠ [] → ∀ dt dts, count m (dt :: dts) (.fresh (.chain [.fresh (.all ts), t])) w =
      ((count m dts t u).1.map (Option.map (1 + ·)), (count m dts t u).2)) ∧
    (∀ gs : List (List (Task L)), gs.flatten = ts → (∀ g ∈ gs, g ≠ []) →
      ∀ used dts : List δ, used.length = gs.length →
        count m (used ++ dts) (.fresh (.chain (gs.map (.fresh <| .all ·) ++ [t]))) w =
          ((count m dts t u).1.map (Option.map (gs.length + ·)), (count m dts t u).2)) ∧
    ∀ e fs f, Makes e (.chain [.all fs, f]) → (∀ g ∈ fs, g.span = 0) →
      e.taskDuration = .ok f.span := by
  refine ⟨fun dts => ?_, ?_, fun hts dt dts => ?_, ?_, ?_⟩
  · have hcourse : course m dts (.fresh (.chain (ts ++ [t]))) w =
        course m dts (.fresh (.chain [t])) u :=
      course_of_start (h.start_chain [t]) dts
    rw [count, hcourse]
    exact count_chain_singleton m dts t u
  · rintro rfl dts
    cases h
    have hcourse : course m dts (.fresh (.chain [.fresh (.all []), t])) w =
        course m dts (.fresh (.chain [t])) w := by
      refine course_of_start ?_ dts
      rw [start_chain_cons]
      rfl
    rw [count, hcourse]
    exact count_chain_singleton m dts t w
  · have hgs : ∀ g ∈ [ts], g ≠ [] := by
      intro g hg
      rwa [List.mem_singleton.mp hg]
    have hall : AtOnce m [ts].flatten w u := by
      rwa [List.flatten_singleton]
    have hone : [dt].length = [ts].length := rfl
    exact count_groups hgs hall hone dts t
  · rintro gs rfl hgs used dts hused
    exact count_groups hgs h hused dts t
  · intro e fs f he hzero
    rw [he.taskDuration_eq, Flow.span_chain_all hzero]

/-- Three parts without length cost a wait behind them nothing in a chain, and one step in a group:
a wait, a tween, which reports its end, and a chain of nothing. -/
theorem groups_cost_steps_shortParts :
    let ts : List (Task (Leaf Rat)) := Flow.toTasks .visit
      [.act (.wait 0), .act (.tween "x" 0 (.named "linear")), .chain [.act (.wait 0), .all []]]
    let t : Task (Leaf Rat) := .fresh (.leaf (.todo (.wait 1)))
    let w : Show Rat := emptyShow
    AtOnce Leaf.machine ts w (w.report (.update "x" 1)) ∧
      (count Leaf.machine [some 1, some 1] (.fresh (.chain (ts ++ [t]))) w).1 = .ok (some 1) ∧
      (count Leaf.machine [some 1, some 1] (.fresh (.chain [.fresh (.all ts), t])) w).1 =
        .ok (some 2) := by
  intro ts t w
  have hts : AtOnce Leaf.machine ts w (w.report (.update "x" 1)) :=
    ⟨nofun, w, rfl, nofun, w.report (.update "x" 1), rfl, nofun, w.report (.update "x" 1), rfl, rfl⟩
  have hcount : (count Leaf.machine [some 1] t (w.report (.update "x" 1))).1 = .ok (some 1) := by
    decide +kernel
  obtain ⟨hchained, -, hgrouped, -⟩ := groups_cost_steps hts t
  refine ⟨hts, ?_, ?_⟩
  · rw [hchained]
    decide +kernel
  · rw [hgrouped nofun, hcount]
    rfl

/-- A group of a wait for nothing holds a wait of one second up by a step. The estimate counts
nothing for it, and a chain of the two waits takes one step. -/
theorem waitForNothing_costs_a_step :
    let nothing : Task (Leaf Rat) := .fresh (.leaf (.todo (.wait 0)))
    let second : Task (Leaf Rat) := .fresh (.leaf (.todo (.wait 1)))
    let group : Expr := .call (.name "all_of") [.call (.name "wait_for") [.whole 0] []] []
    AtOnce Leaf.machine [nothing] emptyShow emptyShow ∧
      (count Leaf.machine [some 1, some 1] second emptyShow).1 = .ok (some 1) ∧
      (count Leaf.machine [some 1, some 1] (.fresh (.chain [nothing, second]))
        emptyShow).1 = .ok (some 1) ∧
      (count Leaf.machine [some 1, some 1] (.fresh (.chain [.fresh (.all [nothing]), second]))
        emptyShow).1 = .ok (some 2) ∧
      (Expr.call (.name "chain") [group, .call (.name "wait_for") [.whole 1] []] []).taskDuration =
        .ok (1 : Rat) := by
  refine ⟨⟨nofun, _, rfl, rfl⟩, ?_, ?_, ?_, ?_⟩ <;> decide +kernel

end Task
end Choreo
