import Mathlib.Algebra.Group.End
import Mathlib.Algebra.Group.Submonoid.Basic
import Choreo.Proofs.Routine.Course

/-!
Tasks under observation.

An observation looks at some part of the world. A task is watched by it if no world makes a
difference to how its calls end, and if what a call does to the observation can be told from the
observation alone. What the calls may do is a monoid of effects: all there are for a task that may
be what is looked for, and the identity alone for one that the observation does not notice.
-/

namespace Choreo
variable {L δ W V ε : Type}

/-- A call that no world makes fail, and that ends alike in all of them: the task is done, or it
pauses as a task with a property. The observation is changed by one of the effects. -/
def Task.Watches (see : W → V) (G : Submonoid (Function.End V)) (P : Task L → Prop)
    (call : W → (Except ε Bool × Task L) × W) : Prop :=
  (∃ φ ∈ G, ∀ w, see (call w).2 = φ (see w)) ∧
    ((∀ w, (call w).1 = (.ok true, .done)) ∨ ∃ t', P t' ∧ ∀ w, (call w).1 = (.ok false, t'))

/-- A property of tasks whose calls are watched, and which the calls keep. -/
structure Machine.Watched (m : Machine L δ W ε) (see : W → V) (G : Submonoid (Function.End V))
    (P : Task L → Prop) : Prop where
  ne_done : ∀ t, P t → t ≠ .done
  start : ∀ t, P t → Task.Watches see G P (t.start m)
  next : ∀ t dt, P t → Task.Watches see G P (t.next m dt)

namespace Task

/-- The task and what is left of it by any calls are watched. -/
def Watched (m : Machine L δ W ε) (see : W → V) (G : Submonoid (Function.End V)) (t : Task L) :
    Prop :=
  ∃ P, m.Watched see G P ∧ P t

section
variable {m : Machine L δ W ε} {see : W → V} {G : Submonoid (Function.End V)} {P Q : Task L → Prop}
  {call : W → (Except ε Bool × Task L) × W} {t : Task L}

theorem Watches.imp (hPQ : ∀ t, P t → Q t) (h : Watches see G P call) : Watches see G Q call :=
  ⟨h.1, h.2.imp_right fun ⟨t', ht', hcall⟩ => ⟨t', hPQ t' ht', hcall⟩⟩

/-- A watched call ends in one way, and has one effect. -/
theorem Watches.cases (h : Watches see G P call) :
    ∃ φ ∈ G, (∀ w, ∃ w', call w = ((.ok true, .done), w') ∧ see w' = φ (see w)) ∨
      ∃ t', P t' ∧ ∀ w, ∃ w', call w = ((.ok false, t'), w') ∧ see w' = φ (see w) := by
  obtain ⟨⟨φ, hφ, hsee⟩, hdone | ⟨t', ht', hpaused⟩⟩ := h
  · exact ⟨φ, hφ, .inl fun w => ⟨(call w).2, Prod.ext (hdone w) rfl, hsee w⟩⟩
  · exact ⟨φ, hφ, .inr ⟨t', ht', fun w => ⟨(call w).2, Prod.ext (hpaused w) rfl, hsee w⟩⟩⟩

theorem watches_of_done {φ : V → V} (hφ : φ ∈ G)
    (h : ∀ w, ∃ w', call w = ((.ok true, .done), w') ∧ see w' = φ (see w)) :
    Watches see G P call := by
  refine ⟨⟨φ, hφ, fun w => ?_⟩, .inl fun w => ?_⟩
  · obtain ⟨w', hcall, hsee⟩ := h w
    rw [hcall, hsee]
  · obtain ⟨w', hcall, -⟩ := h w
    rw [hcall]

theorem watches_of_paused {φ : V → V} (hφ : φ ∈ G) {t' : Task L} (ht' : P t')
    (h : ∀ w, ∃ w', call w = ((.ok false, t'), w') ∧ see w' = φ (see w)) :
    Watches see G P call := by
  refine ⟨⟨φ, hφ, fun w => ?_⟩, .inr ⟨t', ht', fun w => ?_⟩⟩
  · obtain ⟨w', hcall, hsee⟩ := h w
    rw [hcall, hsee]
  · obtain ⟨w', hcall, -⟩ := h w
    rw [hcall]

theorem Watches.comp {φ : V → V} (hφ : φ ∈ G) {first : W → W}
    (hfirst : ∀ w, see (first w) = φ (see w)) (h : Watches see G P call) :
    Watches see G P fun w => call (first w) := by
  obtain ⟨⟨ψ, hψ, hsee⟩, hends⟩ := h
  refine ⟨⟨ψ ∘ φ, G.mul_mem hψ hφ, fun w => ?_⟩, ?_⟩
  · rw [hsee, hfirst]
    rfl
  · exact hends.imp (fun h w => h (first w)) fun ⟨t', ht', h⟩ => ⟨t', ht', fun w => h (first w)⟩

theorem watched_watched (m : Machine L δ W ε) (see : W → V) (G : Submonoid (Function.End V)) :
    m.Watched see G (Watched m see G) where
  ne_done := fun t ⟨_, hP, ht⟩ => hP.ne_done t ht
  start := fun t ⟨P, hP, ht⟩ => (hP.start t ht).imp fun _ ht' => ⟨P, hP, ht'⟩
  next := fun t dt ⟨P, hP, ht⟩ => (hP.next t dt ht).imp fun _ ht' => ⟨P, hP, ht'⟩

/-- The first step of a task is watched if its start is, and the step of what the start leaves. -/
theorem watches_next (ht : t ≠ .done) (dt : δ) (hstart : Watches see G P (t.start m))
    (hnext : ∀ t', P t' → Watches see G P (t'.next m dt)) : Watches see G P (t.next m dt) := by
  obtain ⟨φ, hφ, hdone | ⟨t', ht', hpaused⟩⟩ := hstart.cases
  · refine watches_of_done hφ fun w => ?_
    obtain ⟨w', hs, hsee⟩ := hdone w
    exact ⟨w', by rw [next_eq_start m dt ht, hs], hsee⟩
  · have hcall : t.next m dt = fun w => t'.next m dt (t.start m w).2 := by
      funext w
      obtain ⟨w', hs, -⟩ := hpaused w
      rw [next_eq_start m dt ht, hs]
    rw [hcall]
    refine (hnext t' ht').comp hφ fun w => ?_
    obtain ⟨w', hs, hsee⟩ := hpaused w
    rw [hs, hsee]

namespace Watched

theorem start (ht : t.Watched m see G) : Watches see G (Watched m see G) (t.start m) :=
  (watched_watched m see G).start t ht

theorem next (ht : t.Watched m see G) (dt : δ) : Watches see G (Watched m see G) (t.next m dt) :=
  (watched_watched m see G).next t dt ht

theorem through (ht : t.Watched m see G) (dts : List δ) :
    ∃ φ ∈ G, ∀ w, see (t.through m dts w).2 = φ (see w) := by
  induction dts generalizing t with
  | nil => exact ⟨1, G.one_mem, fun w => rfl⟩
  | cons dt dts ih =>
    obtain ⟨φ, hφ, hdone | ⟨t', ht', hpaused⟩⟩ := (ht.next dt).cases
    · refine ⟨φ, hφ, fun w => ?_⟩
      obtain ⟨w', hn, hsee⟩ := hdone w
      rw [through_of_done hn, hsee]
    · obtain ⟨ψ, hψ, hrest⟩ := ih ht'
      refine ⟨ψ ∘ φ, G.mul_mem hψ hφ, fun w => ?_⟩
      obtain ⟨w', hn, hsee⟩ := hpaused w
      rw [through_of_paused hn, hrest, hsee]
      rfl

theorem course (ht : t.Watched m see G) (dts : List δ) :
    ∃ φ ∈ G, ∀ w, see (t.course m dts w).2 = φ (see w) := by
  obtain ⟨φ, hφ, hdone | ⟨t', ht', hpaused⟩⟩ := ht.start.cases
  · refine ⟨φ, hφ, fun w => ?_⟩
    obtain ⟨w', hs, hsee⟩ := hdone w
    rw [course_of_done hs, hsee]
  · obtain ⟨ψ, hψ, hrest⟩ := ht'.through dts
    refine ⟨ψ ∘ φ, G.mul_mem hψ hφ, fun w => ?_⟩
    obtain ⟨w', hs, hsee⟩ := hpaused w
    rw [course_of_paused hs, hrest, hsee]
    rfl

theorem see_course (ht : t.Watched m see ⊥) (dts : List δ) (w : W) :
    see (t.course m dts w).2 = see w := by
  obtain ⟨φ, hφ, hsee⟩ := ht.course dts
  rw [hsee, Submonoid.mem_bot.mp hφ]
  rfl

end Watched

/-- Leaves whose calls are watched are watched as tasks: `A` holds of those to be started, and `B`
of those to be resumed. -/
theorem watched_leaf {A B : L → Prop}
    (hstart : ∀ l, A l → Watches see G (fun t => ∃ l', B l' ∧ t = .paused (.leaf l'))
      fun w => ofLeaf (m.start l w))
    (hresume : ∀ l dt, B l → Watches see G (fun t => ∃ l', B l' ∧ t = .paused (.leaf l'))
      fun w => ofLeaf (m.resume l dt w)) {l : L} (hl : A l) :
    Watched m see G (.fresh (.leaf l)) := by
  let Waiting (t : Task L) := ∃ l', B l' ∧ t = .paused (.leaf l')
  have hnext (dt : δ) (t : Task L) (ht : Waiting t) : Watches see G Waiting (t.next m dt) := by
    obtain ⟨l, hl, rfl⟩ := ht
    rw [show (Task.paused (.leaf l)).next m dt = fun w => ofLeaf (m.resume l dt w) from
      funext fun w => next_leaf m dt l w]
    exact hresume l dt hl
  have hfresh (l : L) (hl : A l) : Watches see G Waiting ((Task.fresh (.leaf l)).start m) := by
    rw [show (Task.fresh (.leaf l)).start m = fun w => ofLeaf (m.start l w) from
      funext fun w => start_leaf m l w]
    exact hstart l hl
  refine ⟨fun t => (∃ l, A l ∧ t = .fresh (.leaf l)) ∨ Waiting t, ⟨?_, ?_, ?_⟩, .inl ⟨l, hl, rfl⟩⟩
  · rintro t (⟨l, -, rfl⟩ | ⟨l, -, rfl⟩) <;> exact nofun
  · rintro t (⟨l, hl, rfl⟩ | ⟨l, hl, rfl⟩)
    · exact (hfresh l hl).imp fun t ht => .inr ht
    · exact watches_of_paused G.one_mem (.inr ⟨l, hl, rfl⟩) fun w => ⟨w, rfl, rfl⟩
  · rintro t dt (⟨l, hl, rfl⟩ | ht)
    · have hfirst := watches_next (t := .fresh (.leaf l)) nofun dt (hfresh l hl) (hnext dt)
      exact hfirst.imp fun t ht => .inr ht
    · exact (hnext dt t ht).imp fun t ht => .inr ht

end
end Task
end Choreo
