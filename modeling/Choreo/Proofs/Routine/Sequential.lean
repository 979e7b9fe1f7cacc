import Choreo.Proofs.Routine.Course

/-!
One task after another, in however many layers.

A chain of a chain, a chain of one task, a delay and a sequence of routines all run one task after
another, and each wraps its tasks in layers of its own. `Task.Same` says that no caller can tell two
tasks apart: to every list of calls both answer the same, with the same faults, and leave the same
worlds, whatever else happens to the world between the calls.

Calls are not compared one by one. A bisimulation is a relation of tasks that holds again of what is
left of them after a call (`Task.Bisimulation.same`), and for each of the laws it is the relation of
a layered task to the plain one, at their starts and wherever they can pause.
-/

namespace Choreo
variable {L S S' T T' δ W ε : Type}

/-! ## Tasks that answer the same -/

/-- A call on a task. What has become of the world since the call before comes first; a call without
a step only starts the task. -/
structure Call (δ W : Type) where
  meanwhile : W → W
  step? : Option δ

namespace Task

def answer (m : Machine L δ W ε) (c : Call δ W) (t : Task L) (w : W) :
    (Except ε Bool × Task L) × W :=
  match c.step? with
  | none => t.start m (c.meanwhile w)
  | some dt => t.next m dt (c.meanwhile w)

/-- What a task reports to calls one after another, and the worlds it leaves. -/
def answers (m : Machine L δ W ε) : List (Call δ W) → Task L → W → List (Except ε Bool × W)
  | [], _, _ => []
  | c :: cs, t, w =>
    let ((r, t'), w') := t.answer m c w
    (r, w') :: answers m cs t' w'

/-- No caller can tell the tasks apart. -/
def Same (m : Machine L δ W ε) (t t' : Task L) : Prop :=
  ∀ calls w, t.answers m calls w = t'.answers m calls w

theorem Same.symm {m : Machine L δ W ε} {t t' : Task L} (h : Same m t t') : Same m t' t :=
  fun calls w => (h calls w).symm

theorem Same.trans {m : Machine L δ W ε} {t t' t'' : Task L} (h : Same m t t')
    (h' : Same m t' t'') : Same m t t'' :=
  fun calls w => (h calls w).trans (h' calls w)

end Task

namespace Outcome

/-- Two advances end in the same way and in the same world, and what they leave is related. -/
inductive Matches (R : S → T → Prop) : Outcome S δ ε × W → Outcome T δ ε × W → Prop
  | paused {s : S} {t : T} (h : R s t) (w : W) : Matches R (.paused s, w) (.paused t, w)
  | finished (unused : Option δ) (w : W) : Matches R (.finished unused, w) (.finished unused, w)
  | failed (e : ε) (w : W) : Matches R (.failed e, w) (.failed e, w)

theorem Matches.refl {R : S → S → Prop} (hR : ∀ s, R s s) (a : Outcome S δ ε × W) :
    Matches R a a := by
  obtain ⟨o, w⟩ := a
  cases o with
  | paused s => exact .paused (hR s) w
  | finished unused => exact .finished unused w
  | failed e => exact .failed e w

theorem Matches.map {R : S → T → Prop} {R' : S' → T' → Prop} {f : S → S'} {g : T → T'}
    {a : Outcome S δ ε × W} {b : Outcome T δ ε × W} (h : Matches R a b)
    (hfg : ∀ s t, R s t → R' (f s) (g t)) :
    Matches R' (a.1.map f, a.2) (b.1.map g, b.2) := by
  cases h with
  | paused hst w => exact .paused (hfg _ _ hst) w
  | finished unused w => exact .finished unused w
  | failed e w => exact .failed e w

end Outcome

open Outcome (Matches)

namespace Task

/-- The tasks are equal or related. -/
def OrEqual (R : S → S → Prop) (s t : S) : Prop := s = t ∨ R s t

theorem OrEqual.refl (R : S → S → Prop) (s : S) : OrEqual R s s := .inl rfl

/-- Related tasks end every advance alike, and leave tasks that are equal or related again. A task
that is done is related to no other, since only such a task refuses a step. -/
structure Bisimulation (m : Machine L δ W ε) (R : Task L → Task L → Prop) : Prop where
  done : ∀ t t', R t t' → (t = .done ↔ t' = .done)
  advance : ∀ t t', R t t' → ∀ input w,
    Matches (OrEqual R) (t.advance m input w) (t'.advance m input w)

section
variable {m : Machine L δ W ε} {R : Task L → Task L → Prop} {t t' : Task L}

theorem report_matches {a b : Outcome (Task L) δ ε × W} (h : Matches (OrEqual R) a b) :
    (report a.1).1 = (report b.1).1 ∧ a.2 = b.2 ∧ OrEqual R (report a.1).2 (report b.1).2 := by
  cases h with
  | paused hst w => exact ⟨rfl, rfl, hst⟩
  | finished unused w => exact ⟨rfl, rfl, .inl rfl⟩
  | failed e w => exact ⟨rfl, rfl, .inl rfl⟩

theorem Bisimulation.answer (hR : Bisimulation m R) (h : R t t') (c : Call δ W) (w : W) :
    (t.answer m c w).1.1 = (t'.answer m c w).1.1 ∧ (t.answer m c w).2 = (t'.answer m c w).2 ∧
      OrEqual R (t.answer m c w).1.2 (t'.answer m c w).1.2 := by
  obtain ⟨meanwhile, step?⟩ := c
  cases step? with
  | none => exact report_matches (hR.advance t t' h none (meanwhile w))
  | some dt =>
    by_cases ht : t = .done
    · have ht' : t' = .done := (hR.done t t' h).mp ht
      subst ht ht'
      exact ⟨rfl, rfl, .inl rfl⟩
    · have ht' : t' ≠ .done := fun h' => ht ((hR.done t t' h).mpr h')
      simp only [Task.answer]
      rw [next_of_ne_done m dt ht, next_of_ne_done m dt ht']
      exact report_matches (hR.advance t t' h (some dt) (meanwhile w))

theorem Bisimulation.same (hR : Bisimulation m R) (h : R t t') : Same m t t' := by
  intro calls
  induction calls generalizing t t' with
  | nil => exact fun _ => rfl
  | cons c calls ih =>
    intro w
    obtain ⟨hreply, hworld, hleft⟩ := hR.answer h c w
    simp only [answers]
    rw [hreply, hworld]
    rcases hleft with hleft | hleft
    · rw [hleft]
    · rw [ih hleft]

end

/-! ## A chain of one task -/

variable {m : Machine L δ W ε}

/-- A chain of one task, and the task. -/
inductive Alone : Task L → Task L → Prop
  | fresh {t : Task L} (ht : t ≠ .done) : Alone (.fresh (.chain [t])) t
  | paused {t : Task L} (ht : t ≠ .done) : Alone (.paused (.chain [t])) t

theorem advance_alone (m : Machine L δ W ε) (fresh : Bool) (t : Task L) (input : Option δ) (w : W) :
    Matches (OrEqual Alone)
      (((Routine.chain [t]).advance m fresh input w).1.map Task.paused,
        ((Routine.chain [t]).advance m fresh input w).2)
      (t.advance m input w) := by
  rw [Routine.advance_chain_singleton]
  rcases ho : t.advance m input w with ⟨o, u⟩
  cases o with
  | paused t' =>
    have ht' : t' ≠ .done := ne_done_of_isDone (isDone_of_paused (congrArg Prod.fst ho))
    exact .paused (.inr (.paused ht')) u
  | finished unused => exact .finished unused u
  | failed e => exact .failed e u

theorem alone_bisimulation (m : Machine L δ W ε) : Bisimulation m Alone where
  done t t' h := by
    cases h with
    | fresh ht => exact ⟨nofun, fun h => absurd h ht⟩
    | paused ht => exact ⟨nofun, fun h => absurd h ht⟩
  advance t t' h input w := by
    cases h with
    | fresh => exact advance_alone m true t' input w
    | paused => exact advance_alone m false t' input w

/-- Routines related by `F` when they are fresh, and by `P` when they are paused. -/
inductive Lifted (F P : Routine L → Routine L → Prop) : Task L → Task L → Prop
  | fresh {r r' : Routine L} (h : F r r') : Lifted F P (.fresh r) (.fresh r')
  | paused {r r' : Routine L} (h : P r r') : Lifted F P (.paused r) (.paused r')

theorem lifted_bisimulation {F P : Routine L → Routine L → Prop}
    (hfresh : ∀ r r', F r r' → ∀ input w,
      Matches (OrEqual P) (r.advance m true input w) (r'.advance m true input w))
    (hpaused : ∀ r r', P r r' → ∀ input w,
      Matches (OrEqual P) (r.advance m false input w) (r'.advance m false input w)) :
    Bisimulation m (Lifted F P) := by
  have hlift (r r' : Routine L) (h : OrEqual P r r') :
      OrEqual (Lifted F P) (.paused r) (.paused r') :=
    h.elim (fun h => .inl (congrArg Task.paused h)) fun h => .inr (.paused h)
  constructor
  · intro t t' h
    cases h <;> exact ⟨nofun, nofun⟩
  · intro t t' h input w
    cases h with
    | fresh h => exact (hfresh _ _ h input w).map hlift
    | paused h => exact (hpaused _ _ h input w).map hlift

end Task

/-! ## A delay -/

namespace Routine

/-- A delay that waits in its leaf, and a chain that waits in a task of that leaf. -/
inductive Delayed : Routine L → Routine L → Prop
  | waiting (l : L) (t : Task L) : Delayed (.delay l t) (.chain [.paused (.leaf l), t])

/-- Once the leaf is done, what is left of a delay is the chain of the task behind it. -/
theorem advance_delay (m : Machine L δ W ε) (fresh : Bool) (l : L) (t : Task L) {s : Task L}
    (hs : ∀ input w, s.advance m input w =
      (((m.advance fresh input l w).1.map Routine.leaf).map Task.paused,
        (m.advance fresh input l w).2))
    (input : Option δ) (w : W) :
    Matches (Task.OrEqual Delayed) ((Routine.delay l t).advance m fresh input w)
      ((Routine.chain [s, t]).advance m fresh input w) := by
  simp only [Routine.advance, Task.advanceChain, hs]
  rcases m.advance fresh input l w with ⟨o, u⟩
  cases o with
  | paused l' => exact .paused (.inr (.waiting l' t)) u
  | failed e => exact .failed e u
  | finished unused =>
    simp only [Outcome.map]
    rcases t.advance m unused u with ⟨o, v⟩
    cases o <;> exact Matches.refl (Task.OrEqual.refl Delayed) _

/-! ## A chain within a chain -/

/-- Two lists of tasks, in one of which a chain stands for its tasks. -/
inductive Opened : List (Task L) → List (Task L) → Prop
  | behind (t : Task L) {ts us : List (Task L)} (h : Opened ts us) : Opened (t :: ts) (t :: us)
  | fresh (bs cs : List (Task L)) : Opened (.fresh (.chain bs) :: cs) (bs ++ cs)
  | paused (bs cs : List (Task L)) : Opened (.paused (.chain bs) :: cs) (bs ++ cs)

inductive Nested : Routine L → Routine L → Prop
  | chain {ts us : List (Task L)} (h : Opened ts us) : Nested (.chain ts) (.chain us)

/-- The chain within runs its tasks with what step there is, and what it leaves unused goes to the
tasks behind it, as it would from its last task. -/
theorem advanceChain_within (m : Machine L δ W ε) (cs : List (Task L)) {bs : List (Task L)}
    {t : Task L}
    (ht : ∀ input w, t.advance m input w =
      ((Task.advanceChain m input bs w).1.map Task.paused, (Task.advanceChain m input bs w).2))
    (input : Option δ) (w : W) :
    Matches (Task.OrEqual Nested) (Task.advanceChain m input (t :: cs) w)
      (Task.advanceChain m input (bs ++ cs) w) := by
  rw [Task.advanceChain, ht]
  clear ht
  induction bs generalizing input w with
  | nil => exact Matches.refl (Task.OrEqual.refl Nested) _
  | cons b bs ih =>
    simp only [List.cons_append, Task.advanceChain]
    rcases b.advance m input w with ⟨o, u⟩
    cases o with
    | paused b' => exact .paused (.inr (.chain (.paused (b' :: bs) cs))) u
    | failed e => exact .failed e u
    | finished unused => exact ih unused u

theorem advanceChain_opened (m : Machine L δ W ε) {ts us : List (Task L)} (h : Opened ts us)
    (input : Option δ) (w : W) :
    Matches (Task.OrEqual Nested) (Task.advanceChain m input ts w)
      (Task.advanceChain m input us w) := by
  induction h generalizing input w with
  | behind t h ih =>
    simp only [Task.advanceChain]
    rcases t.advance m input w with ⟨o, u⟩
    cases o with
    | paused t' => exact .paused (.inr (.chain (.behind t' h))) u
    | failed e => exact .failed e u
    | finished unused => exact ih unused u
  | fresh bs cs => exact advanceChain_within m cs (fun _ _ => rfl) input w
  | paused bs cs => exact advanceChain_within m cs (fun _ _ => rfl) input w

theorem opened_append (as bs cs : List (Task L)) :
    Opened (as ++ .fresh (.chain bs) :: cs) (as ++ bs ++ cs) := by
  induction as with
  | nil => exact .fresh bs cs
  | cons a as ih => exact .behind a ih

/-! ## A sequence of routines -/

/-- A sequence that waits in its first part, and a chain that waits in the task of it. -/
inductive Spelled : Routine L → Routine L → Prop
  | waiting (r : Routine L) (rs : List (Routine L)) :
    Spelled (.seq (r :: rs)) (.chain (.paused r :: rs.map Task.fresh))

theorem advanceSeq_fresh (m : Machine L δ W ε) (rs : List (Routine L)) (input : Option δ) (w : W) :
    Matches (Task.OrEqual Spelled) (Routine.advanceSeq m true input rs w)
      (Task.advanceChain m input (rs.map Task.fresh) w) := by
  induction rs generalizing input w with
  | nil => exact .finished input w
  | cons r rs ih =>
    simp only [List.map_cons, Routine.advanceSeq, Task.advanceChain, Task.advance]
    rcases r.advance m true input w with ⟨o, u⟩
    cases o with
    | paused r' => exact .paused (.inr (.waiting r' rs)) u
    | failed e => exact .failed e u
    | finished unused => exact ih unused u

theorem advanceSeq_paused (m : Machine L δ W ε) (r : Routine L) (rs : List (Routine L))
    (input : Option δ) (w : W) :
    Matches (Task.OrEqual Spelled) (Routine.advanceSeq m false input (r :: rs) w)
      (Task.advanceChain m input (.paused r :: rs.map Task.fresh) w) := by
  simp only [Routine.advanceSeq, Task.advanceChain, Task.advance]
  rcases r.advance m false input w with ⟨o, u⟩
  cases o with
  | paused r' => exact .paused (.inr (.waiting r' rs)) u
  | failed e => exact .failed e u
  | finished unused => exact advanceSeq_fresh m rs unused u

end Routine

/-! ## The laws -/

namespace Task

/-- A chain of one task is that task. A task that is done refuses a step, and a chain of it takes
one. -/
theorem same_chain_singleton (m : Machine L δ W ε) {t : Task L} (ht : t ≠ .done) :
    Same m (.fresh (.chain [t])) t :=
  (alone_bisimulation m).same (.fresh ht)

theorem same_delay (m : Machine L δ W ε) (l : L) (t : Task L) :
    Same m (.fresh (.delay l t)) (.fresh (.chain [.fresh (.leaf l), t])) := by
  refine (lifted_bisimulation (P := Routine.Delayed)
    (F := fun r r' => r = .delay l t ∧ r' = .chain [.fresh (.leaf l), t]) ?_ ?_).same
      (.fresh ⟨rfl, rfl⟩)
  · rintro r r' ⟨rfl, rfl⟩ input w
    exact Routine.advance_delay m true l t (fun _ _ => rfl) input w
  · rintro r r' ⟨l, t⟩ input w
    exact Routine.advance_delay m false l t (fun _ _ => rfl) input w

/-- A chain may stand for its tasks anywhere in a chain. -/
theorem same_chain_append (m : Machine L δ W ε) (as bs cs : List (Task L)) :
    Same m (.fresh (.chain (as ++ .fresh (.chain bs) :: cs)))
      (.fresh (.chain (as ++ bs ++ cs))) := by
  refine (lifted_bisimulation (F := Routine.Nested) (P := Routine.Nested) ?_ ?_).same
    (.fresh (.chain (Routine.opened_append as bs cs)))
  · rintro r r' ⟨h⟩ input w
    exact Routine.advanceChain_opened m h input w
  · rintro r r' ⟨h⟩ input w
    exact Routine.advanceChain_opened m h input w

theorem same_seq (m : Machine L δ W ε) (rs : List (Routine L)) :
    Same m (.fresh (.seq rs)) (.fresh (.chain (rs.map Task.fresh))) := by
  refine (lifted_bisimulation (P := Routine.Spelled)
    (F := fun r r' => r = .seq rs ∧ r' = .chain (rs.map Task.fresh)) ?_ ?_).same
      (.fresh ⟨rfl, rfl⟩)
  · rintro r r' ⟨rfl, rfl⟩ input w
    exact Routine.advanceSeq_fresh m rs input w
  · rintro r r' ⟨r, rs⟩ input w
    exact Routine.advanceSeq_paused m r rs input w

/-- One task after another is the same however it is put together. A delay is a chain of its leaf
and its task. Chains are associative, and a chain within a chain stands for its tasks wherever it
is. A chain of fresh routines is their sequence. A chain of one task is that task, and the chain of
none is a unit on either side. -/
theorem sequential_laws (m : Machine L δ W ε) (l : L) (rs : List (Routine L))
    (ss ts us : List (Task L)) (s t u : Task L) {a : Task L} (ha : a ≠ .done) :
    Same m (.fresh (.delay l t)) (.fresh (.chain [.fresh (.leaf l), t])) ∧
    Same m (.fresh (.chain [s, .fresh (.chain [t, u])])) (.fresh (.chain [s, t, u])) ∧
    Same m (.fresh (.chain [.fresh (.chain [s, t]), u])) (.fresh (.chain [s, t, u])) ∧
    Same m (.fresh (.chain (ss ++ .fresh (.chain ts) :: us))) (.fresh (.chain (ss ++ ts ++ us))) ∧
    Same m (.fresh (.chain (rs.map Task.fresh))) (.fresh (.seq rs)) ∧
    Same m (.fresh (.chain [a])) a ∧
    Same m (.fresh (.chain [.fresh (.chain []), a])) a ∧
    Same m (.fresh (.chain [a, .fresh (.chain [])])) a := by
  have halone : Same m (.fresh (.chain [a])) a := same_chain_singleton m ha
  refine ⟨same_delay m l t, ?_, ?_, same_chain_append m ss ts us, (same_seq m rs).symm, halone,
    ?_, ?_⟩
  · exact same_chain_append m [s] [t, u] []
  · exact same_chain_append m [] [s, t] [u]
  · exact (same_chain_append m [] [] [a]).trans halone
  · exact (same_chain_append m [a] [] []).trans halone

/-- Leaves that write down what they are given. After their steps they finish, or they fail with
their name. -/
def fuse : Machine (String × Nat × Bool) Nat (List (String × Option Nat)) String where
  start l w := (burn l, w ++ [(l.1, none)])
  resume l dt w := (burn (l.1, l.2.1 - 1, l.2.2), w ++ [(l.1, some dt)])
  stepped := "stepped"
where
  burn : String × Nat × Bool → Signal (String × Nat × Bool) String
    | (name, 0, fails) => if fails then .failed name else .finished
    | (name, n + 1, fails) => .paused (name, n + 1, fails)

/-- The second of three tasks fails with its first step, which is the second of the chain. The chain
is done with the step after, and refuses the next. -/
theorem sequential_laws_fuse :
    let a : Task (String × Nat × Bool) := .fresh (.leaf ("a", 1, false))
    let b : Task (String × Nat × Bool) := .fresh (.leaf ("b", 1, true))
    let c : Task (String × Nat × Bool) := .fresh (.leaf ("c", 1, false))
    let steps : List (Call Nat (List (String × Option Nat))) := [5, 6, 7, 8].map (⟨id, some ·⟩)
    a ≠ .done ∧
      answers fuse steps (.fresh (.chain [a, .fresh (.chain [b, c])])) [] =
        answers fuse steps (.fresh (.chain [.fresh (.chain [a, b]), c])) [] ∧
      answers fuse steps (.fresh (.chain [.fresh (.chain [a, b]), c])) [] =
        [(.ok false, [("a", none), ("a", some 5), ("b", none)]),
          (.error "b", [("a", none), ("a", some 5), ("b", none), ("b", some 6)]),
          (.ok true, [("a", none), ("a", some 5), ("b", none), ("b", some 6)]),
          (.error "stepped", [("a", none), ("a", some 5), ("b", none), ("b", some 6)])] := by
  intro a b c steps
  obtain ⟨-, hright, hleft, -⟩ :=
    sequential_laws fuse ("a", 1, false) [] [] [] [] a b c (a := a) nofun
  exact ⟨nofun, (hright steps []).trans (hleft steps []).symm, (hleft steps []).trans rfl⟩

end Task
end Choreo
