import Choreo.Proofs.Routine.Related

/-!
Starting a task, and stepping it through several steps.

A task may be started before its first step or by it. That makes no difference to what the step
does: `Task.next_eq_start` holds of every task, and comes from `Routine.advance_resumes`, which says
it of the recursion. So a task that is started and then stepped, and one that is only stepped, take
the same course; the one exception is a task that is done at its start, which still takes a first
step to say so (`Task.through_cons_eq_course`).
-/

namespace Choreo
variable {L S T δ W ε : Type}

/-! ## Started and stepped -/

namespace Outcome

/-- What an advance with a step has to do with the advance that only starts: it resumes what paused,
and what finished leaves the step unused. -/
inductive Resumes (dt : δ) (resume : S → W → Outcome S δ ε × W) :
    Outcome S δ ε × W → Outcome S δ ε × W → Prop
  | paused (s : S) (w : W) : Resumes dt resume (.paused s, w) (resume s w)
  | finished (w : W) : Resumes dt resume (.finished none, w) (.finished (some dt), w)
  | failed (e : ε) (w : W) : Resumes dt resume (.failed e, w) (.failed e, w)

section
variable {dt : δ} {resume : S → W → Outcome S δ ε × W} {resume' : T → W → Outcome T δ ε × W}
  {a b : Outcome S δ ε × W}

theorem Resumes.exists_eq (h : Resumes dt resume a b) :
    (∃ s w, a = (.paused s, w) ∧ b = resume s w) ∨
      (∃ w, a = (.finished none, w) ∧ b = (.finished (some dt), w)) ∨
      ∃ e w, a = (.failed e, w) ∧ b = (.failed e, w) := by
  cases h with
  | paused s w => exact .inl ⟨s, w, rfl, rfl⟩
  | finished w => exact .inr (.inl ⟨w, rfl, rfl⟩)
  | failed e w => exact .inr (.inr ⟨e, w, rfl, rfl⟩)

theorem Resumes.map (f : S → T)
    (hf : ∀ s w, resume' (f s) w = ((resume s w).1.map f, (resume s w).2))
    (h : Resumes dt resume a b) : Resumes dt resume' (a.1.map f, a.2) (b.1.map f, b.2) := by
  cases h with
  | paused s w =>
    rw [← hf s w]
    exact .paused (f s) w
  | finished w => exact .finished w
  | failed e w => exact .failed e w

end
end Outcome

open Outcome (Resumes)

theorem Machine.advance_resumes (m : Machine L δ W ε) (dt : δ) (fresh : Bool) (l : L) (w : W) :
    Resumes dt (m.advance false (some dt)) (m.advance fresh none l w)
      (m.advance fresh (some dt) l w) := by
  cases fresh with
  | false => exact .paused l w
  | true =>
    simp only [Machine.advance, if_true]
    generalize m.start l w = turn
    obtain ⟨s, u⟩ := turn
    cases s with
    | paused l' => exact .paused l' u
    | finished => exact .finished u
    | failed e => exact .failed e u

theorem Routine.advance_chain_singleton (m : Machine L δ W ε) (fresh : Bool) (input : Option δ)
    (t : Task L) (w : W) :
    Routine.advance m fresh input (.chain [t]) w =
      ((t.advance m input w).1.map (fun t' => .chain [t']), (t.advance m input w).2) := by
  simp only [Routine.advance, Task.advanceChain]
  generalize Task.advance m input t w = turn
  obtain ⟨o, u⟩ := turn
  cases o <;> rfl

/- The induction is that of `Routine.advance`. The part that is advanced first is started on the one
side, and started and resumed on the other; what comes after it sees the same world on both. -/
mutual

theorem Routine.advance_resumes (m : Machine L δ W ε) (dt : δ) (fresh : Bool) :
    ∀ (r : Routine L) (w : W),
      Resumes dt (Routine.advance m false (some dt)) (r.advance m fresh none w)
        (r.advance m fresh (some dt) w)
  | .leaf l, w => (m.advance_resumes dt fresh l w).map Routine.leaf fun _ _ => rfl
  | .all ts, w => by
    by_cases hempty : (fresh && ts.isEmpty) = true
    · simp only [Routine.advance, hempty, if_true]
      exact .finished w
    · have hstart : Routine.advance m fresh none (.all ts) w = (.paused (.all ts), w) := by
        simp only [Routine.advance, hempty, Bool.false_eq_true, if_false]
      have hstep : Routine.advance m fresh (some dt) (.all ts) w =
          Routine.advance m false (some dt) (.all ts) w := by
        simp only [Routine.advance, hempty, Bool.false_eq_true, if_false, Bool.false_and]
      rw [hstart, hstep]
      exact .paused (Routine.all ts) w
  | .chain ts, w => Task.advanceChain_resumes m dt ts w
  | .delay l t, w => by
    simp only [Routine.advance]
    obtain ⟨l', u, ha, hb⟩ | ⟨u, ha, hb⟩ | ⟨e, u, ha, hb⟩ :=
      (m.advance_resumes dt fresh l w).exists_eq
    · rw [ha, hb]
      exact .paused (Routine.delay l' t) u
    · -- The leaf was done at once, and the task behind it is the one that is started.
      rw [ha, hb]
      exact (Task.advance_resumes m dt t u).map _ fun t' v =>
        Routine.advance_chain_singleton m false (some dt) t' v
    · rw [ha, hb]
      exact .failed e u
  | .seq rs, w => Routine.advanceSeq_resumes m dt fresh rs w

theorem Task.advance_resumes (m : Machine L δ W ε) (dt : δ) :
    ∀ (t : Task L) (w : W),
      Resumes dt (Task.advance m (some dt)) (t.advance m none w) (t.advance m (some dt) w)
  | .fresh r, w => (Routine.advance_resumes m dt true r w).map Task.paused fun _ _ => rfl
  | .paused r, w => (Routine.advance_resumes m dt false r w).map Task.paused fun _ _ => rfl
  | .crashed, w => .paused Task.crashed w
  | .done, w => .finished w

theorem Task.advanceChain_resumes (m : Machine L δ W ε) (dt : δ) :
    ∀ (ts : List (Task L)) (w : W),
      Resumes dt (Routine.advance m false (some dt)) (Task.advanceChain m none ts w)
        (Task.advanceChain m (some dt) ts w)
  | [], w => .finished w
  | t :: ts, w => by
    simp only [Task.advanceChain]
    obtain ⟨t', u, ha, hb⟩ | ⟨u, ha, hb⟩ | ⟨e, u, ha, hb⟩ :=
      (Task.advance_resumes m dt t w).exists_eq
    · rw [ha, hb]
      exact .paused (Routine.chain (t' :: ts)) u
    · rw [ha, hb]
      exact Task.advanceChain_resumes m dt ts u
    · rw [ha, hb]
      exact .failed e u

theorem Routine.advanceSeq_resumes (m : Machine L δ W ε) (dt : δ) (fresh : Bool) :
    ∀ (rs : List (Routine L)) (w : W),
      Resumes dt (Routine.advance m false (some dt)) (Routine.advanceSeq m fresh none rs w)
        (Routine.advanceSeq m fresh (some dt) rs w)
  | [], w => .finished w
  | r :: rs, w => by
    simp only [Routine.advanceSeq]
    obtain ⟨r', u, ha, hb⟩ | ⟨u, ha, hb⟩ | ⟨e, u, ha, hb⟩ :=
      (Routine.advance_resumes m dt fresh r w).exists_eq
    · rw [ha, hb]
      exact .paused (Routine.seq (r' :: rs)) u
    · rw [ha, hb]
      exact Routine.advanceSeq_resumes m dt true rs u
    · rw [ha, hb]
      exact .failed e u

end

namespace Task
variable {m : Machine L δ W ε} {dt : δ} {t t' : Task L} {w : W}

theorem isDone_of_paused {input : Option δ} (h : (t.advance m input w).1 = .paused t') :
    t'.isDone = false := by
  cases t with
  | fresh r =>
    simp only [Task.advance] at h
    cases hr : (r.advance m true input w).1 with
    | paused r' =>
      rw [hr] at h
      cases h
      rfl
    | finished unused => rw [hr] at h; cases h
    | failed e => rw [hr] at h; cases h
  | paused r =>
    simp only [Task.advance] at h
    cases hr : (r.advance m false input w).1 with
    | paused r' =>
      rw [hr] at h
      cases h
      rfl
    | finished unused => rw [hr] at h; cases h
    | failed e => rw [hr] at h; cases h
  | crashed =>
    cases input with
    | none => cases h; rfl
    | some dt => cases h
  | done => cases h

theorem ne_done_of_isDone (h : t.isDone = false) : t ≠ .done := by
  rintro rfl
  cases h

theorem isDone_next {b : Bool} (h : (t.next m dt w).1.1 = .ok b) :
    (t.next m dt w).1.2.isDone = b := by
  by_cases ht : t = .done
  · subst ht
    cases h
  · rw [next_of_ne_done m dt ht] at h ⊢
    cases ho : (t.advance m (some dt) w).1 with
    | paused t' =>
      rw [ho] at h
      cases h
      exact isDone_of_paused ho
    | finished unused => rw [ho] at h; cases h; rfl
    | failed e => rw [ho] at h; cases h

theorem next_error (ht : t ≠ .done) {e : ε} (h : (t.next m dt w).1.1 = .error e) :
    (t.advance m (some dt) w).1 = .failed e ∧ (t.next m dt w).1.2 = .crashed := by
  rw [next_of_ne_done m dt ht] at h ⊢
  cases ho : (t.advance m (some dt) w).1 with
  | paused t' => rw [ho] at h; cases h
  | finished unused => rw [ho] at h; cases h
  | failed e' =>
    rw [ho] at h
    cases h
    exact ⟨rfl, rfl⟩

theorem eq_paused_of_report {o : Outcome (Task L) δ ε} (h : report o = (.ok false, t')) :
    o = .paused t' := by
  cases o with
  | paused => cases h; rfl
  | finished => cases h
  | failed => cases h

theorem start_eq (m : Machine L δ W ε) (t : Task L) (w : W) :
    t.start m w = (report (t.advance m none w).1, (t.advance m none w).2) := rfl

/-- The first step of a task that is not started starts it, and resumes it if it paused. A task that
is started already goes on from where it is. -/
theorem next_eq_start (m : Machine L δ W ε) (dt : δ) (ht : t ≠ .done) (w : W) :
    t.next m dt w =
      match t.start m w with
      | ((.ok false, t'), w') => t'.next m dt w'
      | turn => turn := by
  rw [next_of_ne_done m dt ht]
  unfold start
  obtain ⟨t', u, ha, hb⟩ | ⟨u, ha, hb⟩ | ⟨e, u, ha, hb⟩ := (advance_resumes m dt t w).exists_eq
  · have ht' : t' ≠ .done := ne_done_of_isDone (isDone_of_paused (congrArg Prod.fst ha))
    rw [ha, hb]
    exact (next_of_ne_done m dt ht' u).symm
  · rw [ha, hb]
    rfl
  · rw [ha, hb]
    rfl

/-- What a call on a task of one leaf comes to, told from what the leaf did. -/
def ofLeaf : Signal L ε × W → (Except ε Bool × Task L) × W
  | (.paused l, w) => ((.ok false, .paused (.leaf l)), w)
  | (.finished, w) => ((.ok true, .done), w)
  | (.failed e, w) => ((.error e, .crashed), w)

theorem start_leaf (m : Machine L δ W ε) (l : L) (w : W) :
    (Task.fresh (.leaf l)).start m w = ofLeaf (m.start l w) := by
  simp only [start, Task.advance, Routine.advance, Machine.advance, if_true]
  rcases m.start l w with ⟨s, u⟩
  cases s <;> rfl

theorem next_leaf (m : Machine L δ W ε) (dt : δ) (l : L) (w : W) :
    (Task.paused (.leaf l)).next m dt w = ofLeaf (m.resume l dt w) := by
  show (report (((Outcome.ofSignal (m.resume l dt w).1).map Routine.leaf).map Task.paused),
    (m.resume l dt w).2) = ofLeaf (m.resume l dt w)
  rcases m.resume l dt w with ⟨s, u⟩
  cases s <;> rfl

end Task

/-! ## Courses -/

/-- What has become of a task: it was done with a step, or it is left as it is. -/
inductive Fate (L : Type) where
  | done (steps : Nat)
  | left (task : Task L)

namespace Fate

/-- The fate of a task seen from some steps before. -/
def after (n : Nat) : Fate L → Fate L
  | done k => done (n + k)
  | left t => left t

/-- The number of the step it was done with. -/
def steps? : Fate L → Option Nat
  | done n => some n
  | left _ => none

/-- What is left of the task. -/
def left? : Fate L → Option (Task L)
  | done _ => none
  | left t => some t

/-- The fate of a task whose start is not told apart from its first step. -/
def stepped : Fate L → Fate L
  | done n => done (max 1 n)
  | left t => left t

@[simp] theorem steps?_after (n : Nat) (f : Fate L) :
    (f.after n).steps? = f.steps?.map (n + ·) := by
  cases f <;> rfl

@[simp] theorem steps?_stepped (f : Fate L) : f.stepped.steps? = f.steps?.map (max 1) := by
  cases f <;> rfl

@[simp] theorem left?_after (n : Nat) (f : Fate L) : (f.after n).left? = f.left? := by
  cases f <;> rfl

theorem after_zero : (after 0 : Fate L → Fate L) = id := by
  funext f
  cases f with
  | done k => exact congrArg done (Nat.zero_add k)
  | left t => rfl

theorem after_after (a b : Nat) (f : Fate L) : (f.after a).after b = f.after (b + a) := by
  cases f with
  | done k => exact congrArg done (Nat.add_assoc b a k).symm
  | left t => rfl

theorem map_steps?_after (n : Nat) (r : Except ε (Fate L)) :
    (r.map (after n)).map steps? = (r.map steps?).map (Option.map (n + ·)) := by
  cases r with
  | error e => rfl
  | ok f => exact congrArg Except.ok (steps?_after n f)

theorem eq_done_of_steps? {f : Fate L} {n : Nat} (h : f.steps? = some n) : f = .done n := by
  cases f with
  | done k => exact congrArg done (Option.some.inj h)
  | left t => cases h

theorem eq_left_of_steps? {f : Fate L} (h : f.steps? = none) : ∃ t, f = .left t := by
  cases f with
  | done k => cases h
  | left t => exact ⟨t, rfl⟩

theorem eq_done_of_map {r : Except ε (Fate L)} {n : Nat}
    (h : r.map steps? = .ok (some n)) : r = .ok (.done n) := by
  cases r with
  | error e => cases h
  | ok f => exact congrArg Except.ok (eq_done_of_steps? (Except.ok.inj h))

theorem stepped_after (n : Nat) (f : Fate L) : (f.after (n + 1)).stepped = f.after (n + 1) := by
  cases f with
  | done k => exact congrArg done (by omega)
  | left t => rfl

end Fate

namespace Task

/-- Gives a task one step after another until it is done. -/
def through (m : Machine L δ W ε) : List δ → Task L → W → Except ε (Fate L) × W
  | [], t, w => (.ok (.left t), w)
  | dt :: dts, t, w =>
    match t.next m dt w with
    | ((.error e, _), w') => (.error e, w')
    | ((.ok true, _), w') => (.ok (.done 1), w')
    | ((.ok false, t'), w') => ((through m dts t' w').1.map (Fate.after 1), (through m dts t' w').2)

/-- Starts a task and gives it one step after another until it is done. A task that is done at its
start takes no step. -/
def course (m : Machine L δ W ε) (dts : List δ) (t : Task L) (w : W) : Except ε (Fate L) × W :=
  match t.start m w with
  | ((.error e, _), w') => (.error e, w')
  | ((.ok true, _), w') => (.ok (.done 0), w')
  | ((.ok false, t'), w') => through m dts t' w'

section
variable {m : Machine L δ W ε} {dt : δ} {t t' : Task L} {w w' : W}

theorem course_of_error {e : ε} (h : t.start m w = ((.error e, t'), w')) (dts : List δ) :
    course m dts t w = (.error e, w') := by
  rw [course, h]

theorem course_of_done (h : t.start m w = ((.ok true, t'), w')) (dts : List δ) :
    course m dts t w = (.ok (.done 0), w') := by
  rw [course, h]

theorem course_of_paused (h : t.start m w = ((.ok false, t'), w')) (dts : List δ) :
    course m dts t w = through m dts t' w' := by
  rw [course, h]

theorem through_of_error {e : ε} (h : t.next m dt w = ((.error e, t'), w')) (dts : List δ) :
    through m (dt :: dts) t w = (.error e, w') := by
  rw [through, h]

theorem through_of_done (h : t.next m dt w = ((.ok true, t'), w')) (dts : List δ) :
    through m (dt :: dts) t w = (.ok (.done 1), w') := by
  rw [through, h]

theorem through_of_paused (h : t.next m dt w = ((.ok false, t'), w')) (dts : List δ) :
    through m (dt :: dts) t w =
      ((through m dts t' w').1.map (Fate.after 1), (through m dts t' w').2) := by
  rw [through, h]

/-- A step that does what the start of another task does begins the course of that task. -/
theorem through_of_start {s : Task L} {v : W} (h : t.next m dt w = s.start m v)
    (dts : List δ) :
    through m (dt :: dts) t w =
      ((course m dts s v).1.map (Fate.after 1), (course m dts s v).2) := by
  rcases hs : s.start m v with ⟨⟨r, t'⟩, u⟩
  rw [hs] at h
  rcases r with e | _ | _
  · rw [through_of_error h, course_of_error hs]
    rfl
  · rw [through_of_paused h, course_of_paused hs]
  · rw [through_of_done h, course_of_done hs]
    rfl

theorem course_of_start {s : Task L} {v : W} (h : t.start m w = s.start m v) (dts : List δ) :
    course m dts t w = course m dts s v := by
  unfold course
  rw [h]

/-- A task that is stepped once is done with a step, and not at its start. -/
theorem through_stepped (m : Machine L δ W ε) (dts : List δ) (t : Task L) (w : W) :
    (through m dts t w).1.map Fate.stepped = (through m dts t w).1 := by
  cases dts with
  | nil => rfl
  | cons dt dts =>
    rcases h : t.next m dt w with ⟨⟨r, t'⟩, w'⟩
    rcases r with e | _ | _
    · rw [through_of_error h]
      rfl
    · rw [through_of_paused h]
      cases (through m dts t' w').1 with
      | error e => rfl
      | ok f => exact congrArg Except.ok (Fate.stepped_after 0 f)
    · rw [through_of_done h]
      rfl

theorem pos_of_through_done {dts : List δ} {n : Nat} (h : (through m dts t w).1 = .ok (.done n)) :
    0 < n := by
  have hs := through_stepped m dts t w
  rw [h] at hs
  have hmax : max 1 n = n := Fate.done.inj (Except.ok.inj hs)
  omega

/-- To be started first makes no difference to a task that is given a step, except that it may be
done before. -/
theorem through_cons_eq_course (m : Machine L δ W ε) (dt : δ) (dts : List δ) (ht : t ≠ .done)
    (w : W) :
    through m (dt :: dts) t w =
      ((course m (dt :: dts) t w).1.map Fate.stepped, (course m (dt :: dts) t w).2) := by
  have hnext := next_eq_start m dt ht w
  rcases hs : t.start m w with ⟨⟨r, t'⟩, u⟩
  rw [hs] at hnext
  rcases r with e | _ | _
  · rw [through_of_error hnext, course_of_error hs]
    rfl
  · rw [course_of_paused hs, through_stepped, through, show t.next m dt w = _ from hnext, ← through]
  · rw [through_of_done hnext, course_of_done hs]
    rfl

/-- A task that is done at the latest with a step, when it is started first, is so when it is
started by its first step. -/
theorem through_replicate_of_course {dt : δ} {k n : Nat} {v : W} (ht : t ≠ .done)
    (h : course m (List.replicate k dt) t w = (.ok (.done n), v)) :
    through m (List.replicate (max 1 k) dt) t w = (.ok (.done (max 1 n)), v) := by
  cases k with
  | zero =>
    have hnext := next_eq_start m dt ht w
    rcases hs : t.start m w with ⟨⟨r, t'⟩, u⟩
    rw [hs] at hnext
    rcases r with e | _ | _
    · rw [course_of_error hs] at h
      cases h
    · rw [course_of_paused hs] at h
      cases h
    · rw [course_of_done hs] at h
      cases h
      exact through_of_done hnext []
  | succ k =>
    have hk : max 1 (k + 1) = k + 1 := by omega
    rw [hk, List.replicate_succ, through_cons_eq_course m dt _ ht, ← List.replicate_succ, h]
    rfl

/-! ## In two worlds -/

variable {W' : Type} {m' : Machine L δ W' ε} {R : W → W' → Prop}

theorem through_related (hm : m.Related m' R) (dts : List δ) (t : Task L) {w : W} {w' : W'}
    (h : R w w') : Alike R (through m dts t w) (through m' dts t w') := by
  induction dts generalizing t w w' with
  | nil => exact ⟨rfl, h⟩
  | cons dt dts ih =>
    obtain ⟨⟨r, t'⟩, u, u', hu, hu', hR⟩ := (next_related hm dt t h).exists_eq
    rcases r with e | _ | _
    · rw [through_of_error hu, through_of_error hu']
      exact ⟨rfl, hR⟩
    · obtain ⟨hfst, hsnd⟩ := ih t' hR
      rw [through_of_paused hu, through_of_paused hu', hfst]
      exact ⟨rfl, hsnd⟩
    · rw [through_of_done hu, through_of_done hu']
      exact ⟨rfl, hR⟩

theorem course_related (hm : m.Related m' R) (dts : List δ) (t : Task L) {w : W} {w' : W'}
    (h : R w w') : Alike R (course m dts t w) (course m' dts t w') := by
  obtain ⟨⟨r, t'⟩, u, u', hu, hu', hR⟩ := (start_related hm t h).exists_eq
  rcases r with e | _ | _
  · rw [course_of_error hu, course_of_error hu']
    exact ⟨rfl, hR⟩
  · rw [course_of_paused hu, course_of_paused hu']
    exact through_related hm dts t' hR
  · rw [course_of_done hu, course_of_done hu']
    exact ⟨rfl, hR⟩

end
end Task
end Choreo
