import Choreo.Proofs.Routine.Course

/-!
What groups and chains do with the steps they are given.

A chain takes the course of its first task, and in the step in which that is done it takes the
course of the others with the steps that are left (`Task.course_chain_cons`). This rests on a task
that has begun using every step it is resumed with, so that the tasks behind it are only started in
that step (`Task.Begun.uses`). A group gives a step to each of its tasks in order and keeps those
that are not done (`Task.advanceAll_cons_next`, `Task.next_all`).

All of that holds whatever the tasks do to each other's world.
-/

namespace Choreo
variable {L S T δ W ε : Type}

/-! ## Using the step -/

namespace Outcome

/-- The outcome of something that uses its step. -/
def Used : Outcome S δ ε → Prop
  | .finished unused => unused = none
  | _ => True

theorem Used.map {o : Outcome S δ ε} (h : o.Used) (f : S → T) : (o.map f).Used := by
  cases o <;> exact h

theorem used_ofSignal (s : Signal S ε) : (ofSignal s : Outcome S δ ε).Used := by
  cases s with
  | paused => trivial
  | finished => rfl
  | failed => trivial

theorem Resumes.used {dt : δ} {resume : S → W → Outcome S δ ε × W} {a b : Outcome S δ ε × W}
    (h : Resumes dt resume a b) : a.1.Used := by
  cases h with
  | paused => trivial
  | finished => rfl
  | failed => trivial

end Outcome

/-- A routine that uses every step it is resumed with. -/
def Routine.Uses (m : Machine L δ W ε) (r : Routine L) : Prop :=
  ∀ dt w, (r.advance m false (some dt) w).1.Used

/-- A task that uses every step. One that finishes before it pauses does not. -/
def Task.Uses (m : Machine L δ W ε) (t : Task L) : Prop :=
  ∀ dt w, (t.advance m (some dt) w).1.Used

section
variable {m : Machine L δ W ε}

theorem Routine.uses_leaf (m : Machine L δ W ε) (l : L) : Routine.Uses m (.leaf l) := by
  intro dt w
  exact (Outcome.used_ofSignal (m.resume l dt w).1).map _

theorem Routine.uses_all (m : Machine L δ W ε) (ts : List (Task L)) :
    Routine.Uses m (.all ts) := by
  intro dt w
  simp only [Routine.advance, Bool.false_and, Bool.false_eq_true, if_false]
  generalize Task.advanceAll m dt ts w = turn
  obtain ⟨r, u⟩ := turn
  rcases r with e | _ | ⟨t, live⟩
  · trivial
  · rfl
  · trivial

/-- A chain whose first task uses the step uses it: the tasks behind are only started. -/
theorem Routine.uses_chain {t : Task L} (ht : t.Uses m) (ts : List (Task L)) :
    Routine.Uses m (.chain (t :: ts)) := by
  intro dt w
  have hused := ht dt w
  simp only [Routine.advance, Task.advanceChain]
  generalize t.advance m (some dt) w = turn at hused ⊢
  obtain ⟨o, u⟩ := turn
  cases o with
  | paused => trivial
  | failed => trivial
  | finished unused =>
    rw [show unused = none from hused]
    exact (Task.advanceChain_resumes m dt ts u).used

theorem Routine.uses_delay (m : Machine L δ W ε) (l : L) (t : Task L) :
    Routine.Uses m (.delay l t) := by
  intro dt w
  have hused := Routine.uses_leaf m l dt w
  simp only [Routine.advance] at hused ⊢
  generalize m.advance false (some dt) l w = turn at hused ⊢
  obtain ⟨o, u⟩ := turn
  cases o with
  | paused => trivial
  | failed => trivial
  | finished unused =>
    rw [show unused = none from hused]
    exact (Task.advance_resumes m dt t u).used.map _

theorem Routine.uses_seq {r : Routine L} (hr : r.Uses m) (rs : List (Routine L)) :
    Routine.Uses m (.seq (r :: rs)) := by
  intro dt w
  have hused := hr dt w
  simp only [Routine.advance, Routine.advanceSeq]
  generalize r.advance m false (some dt) w = turn at hused ⊢
  obtain ⟨o, u⟩ := turn
  cases o with
  | paused => trivial
  | failed => trivial
  | finished unused =>
    rw [show unused = none from hused]
    exact (Routine.advanceSeq_resumes m dt true rs u).used

theorem Task.Uses.ne_done {t : Task L} (h : t.Uses m) (dt : δ) (w : W) : t ≠ .done := by
  rintro rfl
  cases h dt w

theorem Task.uses_paused {r : Routine L} (hr : r.Uses m) : Task.Uses m (.paused r) :=
  fun dt w => (hr dt w).map _

/-! ## What has begun -/

mutual

/-- A routine as an advance leaves it: the part it waits in comes first, and has begun. -/
inductive Routine.Begun : Routine L → Prop
  | leaf (l : L) : Routine.Begun (.leaf l)
  | all (ts : List (Task L)) : Routine.Begun (.all ts)
  | chain {t : Task L} (ht : Task.Begun t) (ts : List (Task L)) : Routine.Begun (.chain (t :: ts))
  | delay (l : L) (t : Task L) : Routine.Begun (.delay l t)
  | seq {r : Routine L} (hr : Routine.Begun r) (rs : List (Routine L)) :
    Routine.Begun (.seq (r :: rs))

/-- A task as an advance leaves it. One that crashed counts: it waits for the step that completes
it. -/
inductive Task.Begun : Task L → Prop
  | paused {r : Routine L} (hr : Routine.Begun r) : Task.Begun (.paused r)
  | crashed : Task.Begun .crashed

end

mutual

theorem Routine.advance_begun (m : Machine L δ W ε) (fresh : Bool) (input : Option δ) :
    ∀ (r : Routine L) (w : W), (r.advance m fresh input w).1.Leaves Routine.Begun
  | .leaf l, w => by
    simp only [Routine.advance]
    cases (m.advance fresh input l w).1 with
    | paused l' => exact .leaf l'
    | finished => trivial
    | failed => trivial
  | .all ts, w => by
    unfold Routine.advance
    split
    · trivial
    · cases input with
      | none => exact Routine.Begun.all ts
      | some dt =>
        simp only
        rcases Task.advanceAll m dt ts w with ⟨_ | _ | ⟨t, live⟩, u⟩
        · trivial
        · trivial
        · exact Routine.Begun.all (t :: live)
  | .chain ts, w => Task.advanceChain_begun m input ts w
  | .delay l t, w => by
    simp only [Routine.advance]
    rcases m.advance fresh input l w with ⟨l' | unused | e, u⟩
    · exact Routine.Begun.delay l' t
    · exact (Task.advance_begun m unused t u).map fun t' ht' => .chain ht' []
    · trivial
  | .seq rs, w => Routine.advanceSeq_begun m fresh input rs w

theorem Task.advance_begun (m : Machine L δ W ε) (input : Option δ) :
    ∀ (t : Task L) (w : W), (t.advance m input w).1.Leaves Task.Begun
  | .fresh r, w => (Routine.advance_begun m true input r w).map fun _ => .paused
  | .paused r, w => (Routine.advance_begun m false input r w).map fun _ => .paused
  | .crashed, w => by
    cases input with
    | none => exact Task.Begun.crashed
    | some dt => trivial
  | .done, w => trivial

theorem Task.advanceChain_begun (m : Machine L δ W ε) (input : Option δ) :
    ∀ (ts : List (Task L)) (w : W), (Task.advanceChain m input ts w).1.Leaves Routine.Begun
  | [], w => trivial
  | t :: ts, w => by
    have ht := Task.advance_begun m input t w
    simp only [Task.advanceChain]
    generalize t.advance m input w = turn at ht ⊢
    rcases turn with ⟨t' | unused | e, u⟩
    · exact Routine.Begun.chain ht ts
    · exact Task.advanceChain_begun m unused ts u
    · trivial

theorem Routine.advanceSeq_begun (m : Machine L δ W ε) (fresh : Bool) (input : Option δ) :
    ∀ (rs : List (Routine L)) (w : W),
      (Routine.advanceSeq m fresh input rs w).1.Leaves Routine.Begun
  | [], w => trivial
  | r :: rs, w => by
    have hr := Routine.advance_begun m fresh input r w
    simp only [Routine.advanceSeq]
    generalize r.advance m fresh input w = turn at hr ⊢
    rcases turn with ⟨r' | unused | e, u⟩
    · exact Routine.Begun.seq hr rs
    · exact Routine.advanceSeq_begun m true unused rs u
    · trivial

end

mutual

theorem Routine.Begun.uses (m : Machine L δ W ε) {r : Routine L} : r.Begun → r.Uses m
  | .leaf l => Routine.uses_leaf m l
  | .all ts => Routine.uses_all m ts
  | .chain ht ts => Routine.uses_chain (ht.uses m) ts
  | .delay l t => Routine.uses_delay m l t
  | .seq hr rs => Routine.uses_seq (hr.uses m) rs

theorem Task.Begun.uses (m : Machine L δ W ε) {t : Task L} : t.Begun → t.Uses m
  | .paused hr => Task.uses_paused (hr.uses m)
  | .crashed => fun _ _ => rfl

end

/-! ## Chains -/

namespace Task

theorem advance_none_used (m : Machine L δ W ε) (t : Task L) (w : W) :
    (t.advance m none w).1.Used := by
  rcases ho : t.advance m none w with ⟨o, u⟩
  cases o with
  | paused => trivial
  | failed => trivial
  | finished unused =>
    cases unused with
    | none => rfl
    | some dt =>
      have hused := (advance_resumes m dt t w).used
      rwa [ho] at hused

theorem begun_of_start {t t' : Task L} {w : W} (h : (t.start m w).1 = (.ok false, t')) :
    t'.Begun := by
  have hleft := advance_begun m none t w
  rw [start_eq] at h
  rw [eq_paused_of_report h] at hleft
  exact hleft

theorem begun_of_next {t t' : Task L} {dt : δ} {w : W} (h : (t.next m dt w).1 = (.ok false, t')) :
    t'.Begun := by
  by_cases ht : t = .done
  · subst ht
    cases h
  · have hleft := advance_begun m (some dt) t w
    rw [next_of_ne_done m dt ht] at h
    rw [eq_paused_of_report h] at hleft
    exact hleft

/-- The start of a chain starts its tasks in turn up to the first that pauses. -/
theorem start_chain_cons (m : Machine L δ W ε) (t : Task L) (ts : List (Task L)) (w : W) :
    (Task.fresh (.chain (t :: ts))).start m w =
      match t.start m w with
      | ((.error e, _), w') => ((.error e, .crashed), w')
      | ((.ok true, _), w') => (Task.fresh (.chain ts)).start m w'
      | ((.ok false, t'), w') => ((.ok false, .paused (.chain (t' :: ts))), w') := by
  have hused := advance_none_used m t w
  rw [start_eq, start_eq]
  simp only [Task.advance, Routine.advance, advanceChain]
  rcases ho : t.advance m none w with ⟨o, u⟩
  rw [ho] at hused
  cases o with
  | failed e => rfl
  | paused t' => rfl
  | finished unused =>
    rw [show unused = none from hused]
    rfl

/-- A step of a chain is a step of the task it waits in, and in the step in which that is done the
others are started. -/
theorem next_chain_cons {t : Task L} (hu : t.Uses m) (ts : List (Task L)) (dt : δ) (w : W) :
    (Task.paused (.chain (t :: ts))).next m dt w =
      match t.next m dt w with
      | ((.error e, _), w') => ((.error e, .crashed), w')
      | ((.ok true, _), w') => (Task.fresh (.chain ts)).start m w'
      | ((.ok false, t'), w') => ((.ok false, .paused (.chain (t' :: ts))), w') := by
  have hused := hu dt w
  rw [next_of_ne_done m dt (hu.ne_done dt w),
    next_of_ne_done m dt (t := .paused (.chain (t :: ts))) nofun]
  simp only [Task.advance, Routine.advance, advanceChain]
  rcases ho : t.advance m (some dt) w with ⟨o, u⟩
  rw [ho] at hused
  cases o with
  | failed e => rfl
  | paused t' => rfl
  | finished unused =>
    rw [show unused = none from hused]
    rfl

/-- A chain that waits in a task gives it every step until it is done, and then starts the others
with the steps that are left. -/
theorem through_chain {t : Task L} (hu : t.Uses m) (ts : List (Task L))
    (dts : List δ) (w : W) :
    through m dts (.paused (.chain (t :: ts))) w =
      match through m dts t w with
      | (.error e, w') => (.error e, w')
      | (.ok (.left t'), w') => (.ok (.left (.paused (.chain (t' :: ts)))), w')
      | (.ok (.done n), w') =>
        ((course m (dts.drop n) (.fresh (.chain ts)) w').1.map (Fate.after n),
          (course m (dts.drop n) (.fresh (.chain ts)) w').2) := by
  -- What is left of the first task uses its steps again, so the induction is on the steps.
  induction dts generalizing t w with
  | nil => rfl
  | cons dt dts ih =>
    have hchain := next_chain_cons hu ts dt w
    rcases hn : t.next m dt w with ⟨⟨r, t'⟩, u⟩
    rw [hn] at hchain
    rcases r with e | _ | _
    · rw [through_of_error hchain, through_of_error hn]
    · have hbegun : t'.Begun := begun_of_next (congrArg Prod.fst hn)
      rw [through_of_paused hchain, through_of_paused hn, ih (hbegun.uses m)]
      rcases through m dts t' u with ⟨r, v⟩
      rcases r with e | n | t''
      · rfl
      · have hn : (Fate.done n : Fate L).after 1 = .done (n + 1) := congrArg _ (Nat.add_comm 1 n)
        simp only [Except.map, hn, List.drop_succ_cons]
        cases (course m (dts.drop n) (.fresh (.chain ts)) v).1 with
        | error e => rfl
        | ok f => simp only [Fate.after_after, Nat.add_comm 1 n]
      · rfl
    · rw [through_of_done hn, through_of_start (s := .fresh (.chain ts)) hchain]
      rfl

theorem course_chain_nil (m : Machine L δ W ε) (dts : List δ) (w : W) :
    course m dts (.fresh (.chain [])) w = (.ok (.done 0), w) := rfl

/-- A chain takes the course of its first task, and when that is done, in the same step, it starts
on the others with the steps that are left. -/
theorem course_chain_cons (m : Machine L δ W ε) (dts : List δ) (t : Task L) (ts : List (Task L))
    (w : W) :
    course m dts (.fresh (.chain (t :: ts))) w =
      match course m dts t w with
      | (.error e, w') => (.error e, w')
      | (.ok (.left t'), w') => (.ok (.left (.paused (.chain (t' :: ts)))), w')
      | (.ok (.done n), w') =>
        ((course m (dts.drop n) (.fresh (.chain ts)) w').1.map (Fate.after n),
          (course m (dts.drop n) (.fresh (.chain ts)) w').2) := by
  have hchain := start_chain_cons m t ts w
  rcases hs : t.start m w with ⟨⟨r, t'⟩, u⟩
  rw [hs] at hchain
  rcases r with e | _ | _
  · rw [course_of_error hchain, course_of_error hs]
  · have hbegun : t'.Begun := begun_of_start (congrArg Prod.fst hs)
    rw [course_of_paused hchain, course_of_paused hs]
    exact through_chain (hbegun.uses m) ts dts u
  · rw [course_of_done hs, course_of_start (s := .fresh (.chain ts)) hchain]
    simp only [List.drop_zero, Fate.after_zero, Except.map_id, id]

/-! ## Groups -/

/-- In a group every task is stepped in order, and those that are not done are kept. -/
theorem advanceAll_cons_next (m : Machine L δ W ε) (dt : δ) (t : Task L) (ts : List (Task L))
    (w : W) :
    advanceAll m dt (t :: ts) w =
      match t.next m dt w with
      | ((.error e, _), w') => (.error e, w')
      | ((.ok true, _), w') => advanceAll m dt ts w'
      | ((.ok false, t'), w') =>
        match advanceAll m dt ts w' with
        | (.error e, w'') => (.error e, w'')
        | (.ok live, w'') => (.ok (t' :: live), w'') := by
  by_cases ht : t = .done
  · rw [ht]
    rfl
  · rw [advanceAll_cons m dt ht, next_of_ne_done m dt ht]
    rcases t.advance m (some dt) w with ⟨o, u⟩
    cases o <;> rfl

/-- A group is done in the step in which the last of its tasks is. -/
theorem next_all (m : Machine L δ W ε) (dt : δ) (ts : List (Task L)) (w : W) :
    (Task.paused (.all ts)).next m dt w =
      match advanceAll m dt ts w with
      | (.error e, w') => ((.error e, .crashed), w')
      | (.ok [], w') => ((.ok true, .done), w')
      | (.ok live, w') => ((.ok false, .paused (.all live)), w') := by
  rw [next_of_ne_done m dt (t := .paused (.all ts)) nofun]
  simp only [Task.advance, Routine.advance, Bool.false_and, Bool.false_eq_true, if_false]
  rcases advanceAll m dt ts w with ⟨r, u⟩
  rcases r with e | _ | ⟨t, live⟩ <;> rfl

/-- The start of a group that is not empty starts none of its tasks. -/
theorem course_all {ts : List (Task L)} (hts : ts ≠ []) (dts : List δ) (w : W) :
    course m dts (.fresh (.all ts)) w = through m dts (.paused (.all ts)) w := by
  cases ts with
  | nil => exact absurd rfl hts
  | cons t ts => rfl

end Task
end
end Choreo
