import Mathlib.Data.List.Basic
import Choreo.Proofs.Routine.Needed
import Choreo.Proofs.Routine.Turns
import Choreo.Proofs.Routine.Watched

/-!
Groups and chains of tasks that keep to themselves.

Tasks that never fail, and for which no world makes a difference to when they pause and finish, are
in a group or a chain as they are alone. So what a combination of them does can be told from what
each does alone: which tasks a step of a group reaches, and how many steps a group and a chain take
(`Task.combined_law_of_independent`).
-/

namespace Choreo
variable {L δ W ε : Type}

/-- A property of tasks that are not done, do not fail in any call, answer the same in every world,
and when they pause leave a task that has the property too. -/
structure Machine.Apart (m : Machine L δ W ε) (P : Task L → Prop) : Prop where
  ne_done : ∀ t, P t → t ≠ .done
  start : ∀ t, P t → (∀ w, (t.start m w).1 = (.ok true, .done)) ∨
    ∃ t', P t' ∧ ∀ w, (t.start m w).1 = (.ok false, t')
  next : ∀ t dt, P t → (∀ w, (t.next m dt w).1 = (.ok true, .done)) ∨
    ∃ t', P t' ∧ ∀ w, (t.next m dt w).1 = (.ok false, t')

namespace Task

/-- The task keeps to itself: nothing another task does to the world makes it pause or finish at
another step, and it never fails. -/
def Independent (m : Machine L δ W ε) (t : Task L) : Prop := ∃ P, m.Apart P ∧ P t

theorem independent_apart (m : Machine L δ W ε) : m.Apart (Independent m) where
  ne_done := fun t ⟨_, hP, ht⟩ => hP.ne_done t ht
  start := fun t ⟨P, hP, ht⟩ =>
    (hP.start t ht).imp_right fun ⟨t', ht', h⟩ => ⟨t', ⟨P, hP, ht'⟩, h⟩
  next := fun t dt ⟨P, hP, ht⟩ =>
    (hP.next t dt ht).imp_right fun ⟨t', ht', h⟩ => ⟨t', ⟨P, hP, ht'⟩, h⟩

/-- Whatever observation watches a task, the task keeps to itself. -/
theorem Watched.independent {V : Type} {m : Machine L δ W ε} {see : W → V}
    {G : Submonoid (Function.End V)} {t : Task L} (ht : t.Watched m see G) : t.Independent m := by
  obtain ⟨P, hP, ht⟩ := ht
  exact ⟨P, ⟨hP.ne_done, fun t ht => (hP.start t ht).2, fun t dt ht => (hP.next t dt ht).2⟩, ht⟩

/-- What is left of the task after some steps, unless it is done. -/
def alone (m : Machine L δ W ε) (dts : List δ) (w : W) (t : Task L) : Option (Task L) :=
  (through m dts t w).1.toOption.bind Fate.left?

/-- The step with which the task is done. -/
def strides? (m : Machine L δ W ε) (dts : List δ) (w : W) (t : Task L) : Option Nat :=
  (through m dts t w).1.toOption.bind Fate.steps?

section
variable {m : Machine L δ W ε} {dt : δ} {t t' : Task L}

theorem through_fst_of_done (h : ∀ w, (t.next m dt w).1 = (.ok true, .done)) (dts : List δ)
    (w : W) :
    through m (dt :: dts) t w = (.ok (.done 1), (t.next m dt w).2) :=
  through_of_done (Prod.ext (h w) rfl) dts

theorem through_fst_of_paused (h : ∀ w, (t.next m dt w).1 = (.ok false, t')) (dts : List δ)
    (w : W) :
    through m (dt :: dts) t w = ((through m dts t' (t.next m dt w).2).1.map (Fate.after 1),
      (through m dts t' (t.next m dt w).2).2) :=
  through_of_paused (Prod.ext (h w) rfl) dts

namespace Independent

theorem ne_done (ht : t.Independent m) : t ≠ .done := (independent_apart m).ne_done t ht

/-- A task that keeps to itself has the same fate in every world. -/
theorem through_eq (ht : t.Independent m) (dts : List δ) :
    ∃ f, ∀ w, (t.through m dts w).1 = .ok f := by
  induction dts generalizing t with
  | nil => exact ⟨.left t, fun _ => rfl⟩
  | cons dt dts ih =>
    rcases (independent_apart m).next t dt ht with h | ⟨t', ht', h⟩
    · exact ⟨.done 1, fun w => by rw [through_fst_of_done h]⟩
    · obtain ⟨f, hf⟩ := ih ht'
      exact ⟨f.after 1, fun w => by rw [through_fst_of_paused h, hf]; rfl⟩

theorem course_eq (ht : t.Independent m) (dts : List δ) :
    ∃ f, ∀ w, (t.course m dts w).1 = .ok f := by
  rcases (independent_apart m).start t ht with h | ⟨t', ht', h⟩
  · exact ⟨.done 0, fun w => by rw [course_of_done (Prod.ext (h w) rfl)]⟩
  · obtain ⟨f, hf⟩ := ht'.through_eq dts
    exact ⟨f, fun w => by rw [course_of_paused (Prod.ext (h w) rfl), hf]⟩

end Independent

theorem alone_of_done (h : ∀ w, (t.next m dt w).1 = (.ok true, .done)) (dts : List δ) (w : W) :
    t.alone m (dt :: dts) w = none := by
  simp only [alone, through_fst_of_done h]
  rfl

namespace Independent

theorem alone_of_paused (ht' : t'.Independent m) (h : ∀ w, (t.next m dt w).1 = (.ok false, t'))
    (dts : List δ) (w : W) : t.alone m (dt :: dts) w = t'.alone m dts w := by
  obtain ⟨f, hf⟩ := ht'.through_eq dts
  simp only [alone, through_fst_of_paused h, hf, Except.map, Except.toOption, Option.bind_some,
    Fate.left?_after]

theorem of_alone (ht : t.Independent m) {dts : List δ} {w : W} (h : t.alone m dts w = some t') :
    t'.Independent m := by
  induction dts generalizing t with
  | nil =>
    cases h
    exact ht
  | cons dt dts ih =>
    rcases (independent_apart m).next t dt ht with hd | ⟨u, hu, hp⟩
    · rw [alone_of_done hd] at h
      cases h
    · rw [hu.alone_of_paused hp] at h
      exact ih hu h

end Independent

/-! ## Groups -/

/-- A step of a group is a step of each of its tasks, in order. -/
theorem advanceAll_independent {ts : List (Task L)} (hts : ∀ t ∈ ts, t.Independent m) (dt : δ)
    (w₀ w : W) :
    advanceAll m dt ts w = (.ok (ts.filterMap (·.alone m [dt] w₀)),
      ts.foldl (fun v t => (t.next m dt v).2) w) := by
  induction ts generalizing w with
  | nil => rfl
  | cons t ts ih =>
    have hrest := ih fun t' ht' => hts t' (List.mem_cons_of_mem t ht')
    rw [advanceAll_cons_next]
    rcases (independent_apart m).next t dt (hts t List.mem_cons_self) with h | ⟨t', ht', h⟩
    · rw [show t.next m dt w = ((.ok true, .done), (t.next m dt w).2) from Prod.ext (h w) rfl]
      simp only [hrest, List.filterMap_cons, alone_of_done h, List.foldl_cons]
    · rw [show t.next m dt w = ((.ok false, t'), (t.next m dt w).2) from Prod.ext (h w) rfl]
      simp only [hrest, List.filterMap_cons, ht'.alone_of_paused h, List.foldl_cons]
      rfl

theorem next_all_independent {ts : List (Task L)} (hts : ∀ t ∈ ts, t.Independent m) (dt : δ)
    (w₀ w : W) :
    (Task.paused (.all ts)).next m dt w =
      (match ts.filterMap (·.alone m [dt] w₀) with
        | [] => (.ok true, .done)
        | live => (.ok false, .paused (.all live)),
        ts.foldl (fun v t => (t.next m dt v).2) w) := by
  rw [next_all, advanceAll_independent hts dt w₀]
  cases ts.filterMap (·.alone m [dt] w₀) <;> rfl

theorem independent_of_mem_alone {ts : List (Task L)} (hts : ∀ t ∈ ts, t.Independent m)
    (dts : List δ) (w : W) : ∀ t ∈ ts.filterMap (·.alone m dts w), t.Independent m := by
  intro t' ht'
  obtain ⟨t, ht, halone⟩ := List.mem_filterMap.mp ht'
  exact (hts t ht).of_alone halone

theorem Independent.throughTurns_eq (ht : t.Independent m) (turns : List (δ × W)) (w : W) :
    throughTurns m turns t = (t.through m (turns.map Prod.fst) w).1 := by
  induction turns generalizing t w with
  | nil => rfl
  | cons turn turns ih =>
    obtain ⟨dt, v⟩ := turn
    rcases (independent_apart m).next t dt ht with h | ⟨t', ht', h⟩
    · rw [throughTurns_of_done (Prod.ext (h v) rfl), List.map_cons, through_fst_of_done h]
    · rw [throughTurns_of_paused (Prod.ext (h v) rfl), List.map_cons, through_fst_of_paused h,
        ih ht']

/-- What has become of a served task that keeps to itself is what becomes of it alone. -/
theorem Independent.through_served {s : Slot L δ W} {dts : List δ} (ht : s.task.Independent m)
    (hs : s.Served m dts) (w : W) : (s.task.through m dts w).1 = .ok s.fate := by
  have hfate := hs.fate_eq
  rw [ht.throughTurns_eq s.turns w] at hfate
  obtain ⟨later, hdts⟩ := hs.given
  rw [← hdts, through_append]
  rcases hr : s.task.through m (s.turns.map Prod.fst) w with ⟨e | n | t', v⟩ <;>
    rw [hr] at hfate
  · cases hfate
  · exact hfate
  · -- It was given all the steps, so none of them comes later.
    have hall := hs.given_of_left (Except.ok.inj hfate).symm
    have hnil : later = [] := List.append_right_eq_self.mp (hdts.trans hall.symm)
    rw [hnil]
    exact hfate

/-- Tasks that keep to themselves take all their rounds without a fault. -/
theorem rounds_of_independent {ss : List (Slot L δ W)}
    (hss : ∀ t ∈ Slot.live ss, t.Independent m) (dts : List δ) (w : W) :
    ∃ ss' v, rounds m dts ss w = (.ok ss', v) := by
  induction dts generalizing ss w with
  | nil => exact ⟨ss, w, rfl⟩
  | cons dt dts ih =>
    have hlive := Slot.advanceAll_live m dt ss w
    rw [advanceAll_independent hss dt w w] at hlive
    rcases hr : oneRound m dt ss w with ⟨_ | ss', u⟩
    · rw [hr] at hlive
      cases hlive
    · rw [hr] at hlive
      have hlive' := Except.ok.inj (congrArg Prod.fst hlive)
      simp only [rounds, hr]
      exact ih (hlive' ▸ independent_of_mem_alone hss [dt] w) u

/-- A group of tasks that keep to themselves has slots in which each is as it is alone. -/
theorem served_of_independent {ts : List (Task L)} (hts : ∀ t ∈ ts, t.Independent m)
    (dts : List δ) (w₀ w : W) :
    ∃ ss v, rounds m dts (ts.map Slot.unused) w = (.ok ss, v) ∧
      Slot.live ss = ts.filterMap (·.alone m dts w₀) ∧
      ss.map (·.fate.steps?) = ts.map (·.strides? m dts w₀) := by
  obtain ⟨ss, v, h⟩ := rounds_of_independent (by rwa [Slot.live_unused]) dts w
  obtain ⟨htask, hserved⟩ := served_of_rounds h
  have hfate : ∀ s ∈ ss, (s.task.through m dts w₀).1 = .ok s.fate := by
    intro s hs
    exact (hts s.task (htask ▸ List.mem_map_of_mem hs)).through_served (hserved s hs) w₀
  refine ⟨ss, v, h, ?_, ?_⟩
  · rw [Slot.live, List.filterMap_map, ← htask, List.filterMap_map]
    refine List.filterMap_congr fun s hs => ?_
    simp only [Function.comp_apply, alone, hfate s hs, Except.toOption, Option.bind_some]
  · rw [← htask, List.map_map]
    refine List.map_congr_left fun s hs => ?_
    simp only [Function.comp_apply, strides?, hfate s hs, Except.toOption, Option.bind_some]

/-- After some steps a group waits for the tasks that these steps leave, if they leave one. -/
theorem course_all_left {ts : List (Task L)} (hts : ∀ t ∈ ts, t.Independent m) (dts : List δ)
    (w₀ w : W) (hlive : ts.filterMap (·.alone m dts w₀) ≠ []) :
    ∃ v, course m dts (.fresh (.all ts)) w =
      (.ok (.left (.paused (.all (ts.filterMap (·.alone m dts w₀))))), v) := by
  obtain ⟨ss, v, h, hleft, -⟩ := served_of_independent hts dts w₀ w
  rw [← hleft] at hlive ⊢
  rw [course_all_rounds, h]
  exact ⟨v, congrArg (fun f => (Except.ok f, v)) (Slot.grouped_of_live hlive)⟩

/-- A task that is given a step is done with the first at the soonest. -/
theorem Independent.strides?_cons_eq (ht : t.Independent m) (dt : δ) (dts : List δ) (w : W) :
    t.strides? m (dt :: dts) w = (t.steps? m (dt :: dts) w).map (max 1) := by
  obtain ⟨f, hf⟩ := ht.course_eq (dt :: dts)
  simp only [strides?, steps?, through_cons_eq_course m dt dts ht.ne_done, hf, Except.map,
    Except.toOption, Option.bind_some, Fate.steps?_stepped]

theorem course_all_steps {ts : List (Task L)} (hts : ∀ t ∈ ts, t.Independent m) (dts : List δ)
    (w₀ w : W) :
    (course m dts (.fresh (.all ts)) w).1.map Fate.steps? =
      .ok (if ts = [] then some 0 else if dts = [] then none
        else (most (ts.map (·.steps? m dts w₀))).map (max 1)) := by
  obtain ⟨ss, v, h, -, hsteps⟩ := served_of_independent hts dts w₀ w
  refine course_all_of_counts h fun hdts => ?_
  obtain ⟨dt, dts, rfl⟩ := List.exists_cons_of_ne_nil hdts
  rw [hsteps, List.map_map]
  exact List.map_congr_left fun t ht => (hts t ht).strides?_cons_eq dt dts w₀

/-! ## Chains -/

/-- How many steps tasks take one after another, each given the steps that are left when those
before it are done. -/
def total (m : Machine L δ W ε) (w : W) : List δ → List (Task L) → Option Nat
  | _, [] => some 0
  | dts, t :: ts => (t.steps? m dts w).bind fun n => (total m w (dts.drop n) ts).map (n + ·)

/-- The world that tasks leave one after another, each given the steps that are left when those
before it are done. A task that is not done is the last. -/
def succession (m : Machine L δ W ε) : List δ → List (Task L) → W → W
  | _, [], w => w
  | dts, t :: ts, w =>
    match t.steps? m dts w with
    | none => (t.course m dts w).2
    | some n => succession m (dts.drop n) ts (t.course m dts w).2

theorem total_eq_none {ts : List (Task L)} (ht : t ∈ ts) {w : W}
    (hnone : ∀ dts, t.steps? m dts w = none) (dts : List δ) : total m w dts ts = none := by
  induction ts generalizing dts with
  | nil => exact absurd ht List.not_mem_nil
  | cons u ts ih =>
    rcases List.mem_cons.mp ht with rfl | ht
    · rw [total, hnone]
      rfl
    · rw [total]
      cases u.steps? m dts w with
      | none => rfl
      | some n =>
        rw [Option.bind_some, ih ht]
        rfl

theorem course_chain_steps {ts : List (Task L)} (hts : ∀ t ∈ ts, t.Independent m) (dts : List δ)
    (w₀ w : W) :
    (course m dts (.fresh (.chain ts)) w).1.map Fate.steps? = .ok (total m w₀ dts ts) ∧
      (course m dts (.fresh (.chain ts)) w).2 = succession m dts ts w := by
  induction ts generalizing dts w with
  | nil => exact ⟨rfl, rfl⟩
  | cons t ts ih =>
    have ht := hts t List.mem_cons_self
    obtain ⟨f, hf⟩ := ht.course_eq dts
    have hsteps (v : W) : t.steps? m dts v = f.steps? := by
      simp only [steps?, hf, Except.toOption, Option.bind_some]
    have hcourse : t.course m dts w = (.ok f, (t.course m dts w).2) := Prod.ext (hf w) rfl
    rw [course_chain_cons, total, succession, hsteps, hsteps, hcourse]
    cases f with
    | left t' => exact ⟨rfl, rfl⟩
    | done n =>
      obtain ⟨hcount, hworld⟩ := ih (fun t' ht' => hts t' (List.mem_cons_of_mem t ht'))
        (dts.drop n) (t.course m dts w).2
      refine ⟨?_, hworld⟩
      simp only
      rw [Fate.map_steps?_after, hcount]
      rfl

/-! ## The law -/

/-- How the two combinations share out steps among tasks that keep to themselves.

As long as a group has a task that is not done, a step of the group is one step of each such task,
in the order of the group, and of no other: each is as it would be had it taken the steps so far
alone. A group of none takes no step; any other takes as many as the task that takes the most, and
at least one.

A chain takes the steps that its tasks take in succession, each of them started in the world in
which the one before it was done and given the steps that were left then. As that is so of the steps
that bring a task just to its end, the next task is started by the last of them.

A task that is never done keeps both from being done. -/
theorem combined_law_of_independent {ts : List (Task L)} (hts : ∀ t ∈ ts, t.Independent m) (w : W) :
    (∀ before, ts.filterMap (·.alone m before w) ≠ [] →
      ∃ v, course m before (.fresh (.all ts)) w =
          (.ok (.left (.paused (.all (ts.filterMap (·.alone m before w))))), v) ∧
        ∀ dt, ((Task.paused (.all (ts.filterMap (·.alone m before w)))).next m dt v).2 =
          (ts.filterMap (·.alone m before w)).foldl (fun v t => (t.next m dt v).2) v) ∧
    (∀ dts, (course m dts (.fresh (.all ts)) w).1.map Fate.steps? =
      .ok (if ts = [] then some 0 else if dts = [] then none
        else (most (ts.map (·.steps? m dts w))).map (max 1))) ∧
    (∀ dts, (course m dts (.fresh (.chain ts)) w).1.map Fate.steps? = .ok (total m w dts ts) ∧
      (course m dts (.fresh (.chain ts)) w).2 = succession m dts ts w) ∧
    ∀ t ∈ ts, (∀ dts, t.steps? m dts w = none) → ∀ dts,
      steps? m dts w (.fresh (.all ts)) = none ∧ steps? m dts w (.fresh (.chain ts)) = none := by
  refine ⟨fun before hlive => ?_, fun dts => course_all_steps hts dts w w,
    fun dts => course_chain_steps hts dts w w, fun t ht hnone dts => ⟨?_, ?_⟩⟩
  · obtain ⟨v, hv⟩ := course_all_left hts before w w hlive
    refine ⟨v, hv, fun dt => ?_⟩
    rw [next_all_independent (independent_of_mem_alone hts before w) dt w v]
  · have hne : ts ≠ [] := List.ne_nil_of_mem ht
    have hmost : most (ts.map (·.steps? m dts w)) = none :=
      most_eq_none (List.mem_map.mpr ⟨t, ht, hnone dts⟩)
    have hsteps := course_all_steps hts dts w w
    rw [if_neg hne, hmost, Option.map_none, ite_self] at hsteps
    exact steps?_of_map hsteps
  · have hsteps := (course_chain_steps hts dts w w).1
    rw [total_eq_none ht hnone] at hsteps
    exact steps?_of_map hsteps

end

/-- Leaves that never fail, and that answer the same in every world, keep to themselves. -/
theorem independent_leaf {m : Machine L δ W ε}
    (hstart : ∀ l, (∀ w, (m.start l w).1 = .finished) ∨ ∃ l', ∀ w, (m.start l w).1 = .paused l')
    (hresume : ∀ l dt, (∀ w, (m.resume l dt w).1 = .finished) ∨
      ∃ l', ∀ w, (m.resume l dt w).1 = .paused l') (l : L) :
    Independent m (.fresh (.leaf l)) := by
  have hleaf {a : W → Signal L ε × W}
      (h : (∀ w, (a w).1 = .finished) ∨ ∃ l', ∀ w, (a w).1 = .paused l') :
      Watches (fun _ : W => ()) ⊤ (fun t => ∃ l', True ∧ t = .paused (.leaf l'))
        fun w => ofLeaf (a w) := by
    refine ⟨⟨1, trivial, fun w => rfl⟩, ?_⟩
    rcases h with h | ⟨l', h⟩
    · refine .inl fun w => ?_
      show (ofLeaf (a w)).1 = _
      rw [show a w = (.finished, (a w).2) from Prod.ext (h w) rfl]
      rfl
    · refine .inr ⟨.paused (.leaf l'), ⟨l', trivial, rfl⟩, fun w => ?_⟩
      show (ofLeaf (a w)).1 = _
      rw [show a w = (.paused l', (a w).2) from Prod.ext (h w) rfl]
      rfl
  have hwatched : Watched m (fun _ : W => ()) ⊤ (.fresh (.leaf l)) :=
    watched_leaf (A := fun _ => True) (fun l _ => hleaf (hstart l))
      (fun l dt _ => hleaf (hresume l dt)) trivial
  exact hwatched.independent

/-! ## Tasks that keep a diary -/

/-- Leaves that take a number of steps each, and write down what they are given. -/
def diary : Machine (String × Nat) Nat (List (String × Option Nat)) Unit where
  start l w := (if l.2 = 0 then .finished else .paused l, w ++ [(l.1, none)])
  resume l dt w := (if l.2 ≤ 1 then .finished else .paused (l.1, l.2 - 1), w ++ [(l.1, some dt)])
  stepped := ()

theorem diary_independent (l : String × Nat) : Independent diary (.fresh (.leaf l)) := by
  refine independent_leaf (fun l => ?_) (fun l dt => ?_) l
  · by_cases h : l.2 = 0
    · exact .inl fun w => if_pos h
    · exact .inr ⟨l, fun w => if_neg h⟩
  · by_cases h : l.2 ≤ 1
    · exact .inl fun w => if_pos h
    · exact .inr ⟨(l.1, l.2 - 1), fun w => if_neg h⟩

/-- The second of three tasks is done at its start. In the group it is given a step all the same,
and in the chain the third task is started in the same step. -/
example :
    let ts : List (Task (String × Nat)) :=
      [.fresh (.leaf ("a", 2)), .fresh (.leaf ("b", 0)), .fresh (.leaf ("c", 1))]
    (∀ t ∈ ts, t.Independent diary) ∧
      (course diary [5, 6, 7] (.fresh (.all ts)) []).1.map Fate.steps? = .ok (some 2) ∧
      (course diary [5, 6, 7] (.fresh (.chain ts)) []).1.map Fate.steps? = .ok (some 3) ∧
      (course diary [5, 6, 7] (.fresh (.chain ts)) []).2 =
        [("a", none), ("a", some 5), ("a", some 6), ("b", none), ("c", none), ("c", some 7)] := by
  intro ts
  have hts : ∀ t ∈ ts, t.Independent diary := by
    intro t ht
    simp only [ts, List.mem_cons, List.not_mem_nil, or_false] at ht
    rcases ht with rfl | rfl | rfl
    · exact diary_independent ("a", 2)
    · exact diary_independent ("b", 0)
    · exact diary_independent ("c", 1)
  obtain ⟨-, hall, hchain, -⟩ := combined_law_of_independent hts []
  obtain ⟨hcount, hworld⟩ := hchain [5, 6, 7]
  exact ⟨hts, (hall [5, 6, 7]).trans rfl, hcount.trans rfl, hworld.trans rfl⟩

end Task
end Choreo
