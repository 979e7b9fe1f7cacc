import Choreo.Proofs.Routine.Course

/-!
Two runs of routines that keep the same time.

Two routines are alike when they have the same shape and their leaves are related. If related leaves
in related worlds pause, finish and leave their steps unused alike, then so do alike routines, as
long as neither run fails: a run that fails is compared no further. Unlike `Task.next_related`,
where both runs answer the same, nothing is asked of the states the leaves are left in but that
they are related again.
-/

namespace Choreo
variable {L S δ W ε : Type}

mutual

/-- Routines of one shape with related leaves. -/
inductive Routine.Like (R : L → L → Prop) : Routine L → Routine L → Prop
  | leaf {l l'} : R l l' → Routine.Like R (.leaf l) (.leaf l')
  | all {ts ts'} : Task.LikeAll R ts ts' → Routine.Like R (.all ts) (.all ts')
  | chain {ts ts'} : Task.LikeAll R ts ts' → Routine.Like R (.chain ts) (.chain ts')
  | delay {l l' t t'} : R l l' → Task.Like R t t' → Routine.Like R (.delay l t) (.delay l' t')
  | seq {rs rs'} : Routine.LikeAll R rs rs' → Routine.Like R (.seq rs) (.seq rs')

inductive Task.Like (R : L → L → Prop) : Task L → Task L → Prop
  | fresh {r r'} : Routine.Like R r r' → Task.Like R (.fresh r) (.fresh r')
  | paused {r r'} : Routine.Like R r r' → Task.Like R (.paused r) (.paused r')
  | crashed : Task.Like R .crashed .crashed
  | done : Task.Like R .done .done

inductive Task.LikeAll (R : L → L → Prop) : List (Task L) → List (Task L) → Prop
  | nil : Task.LikeAll R [] []
  | cons {t t' ts ts'} : Task.Like R t t' → Task.LikeAll R ts ts' →
      Task.LikeAll R (t :: ts) (t' :: ts')

inductive Routine.LikeAll (R : L → L → Prop) : List (Routine L) → List (Routine L) → Prop
  | nil : Routine.LikeAll R [] []
  | cons {r r' rs rs'} : Routine.Like R r r' → Routine.LikeAll R rs rs' →
      Routine.LikeAll R (r :: rs) (r' :: rs')

end

mutual

theorem Routine.Like.refl {R : L → L → Prop} (hR : ∀ l, R l l) : ∀ r, Routine.Like R r r
  | .leaf l => .leaf (hR l)
  | .all ts => .all (Task.LikeAll.refl hR ts)
  | .chain ts => .chain (Task.LikeAll.refl hR ts)
  | .delay l t => .delay (hR l) (Task.Like.refl hR t)
  | .seq rs => .seq (Routine.LikeAll.refl hR rs)

theorem Task.Like.refl {R : L → L → Prop} (hR : ∀ l, R l l) : ∀ t, Task.Like R t t
  | .fresh r => .fresh (Routine.Like.refl hR r)
  | .paused r => .paused (Routine.Like.refl hR r)
  | .crashed => .crashed
  | .done => .done

theorem Task.LikeAll.refl {R : L → L → Prop} (hR : ∀ l, R l l) : ∀ ts, Task.LikeAll R ts ts
  | [] => .nil
  | t :: ts => .cons (Task.Like.refl hR t) (Task.LikeAll.refl hR ts)

theorem Routine.LikeAll.refl {R : L → L → Prop} (hR : ∀ l, R l l) : ∀ rs, Routine.LikeAll R rs rs
  | [] => .nil
  | r :: rs => .cons (Routine.Like.refl hR r) (Routine.LikeAll.refl hR rs)

end

theorem Task.LikeAll.isEmpty_eq {R : L → L → Prop} {ts ts' : List (Task L)}
    (h : Task.LikeAll R ts ts') : ts.isEmpty = ts'.isEmpty := by
  cases h <;> rfl

theorem Task.Like.ne_done {R : L → L → Prop} {t t' : Task L} (h : Task.Like R t t')
    (ht : t ≠ .done) : t' ≠ .done := by
  rintro rfl
  cases h
  exact ht rfl

/-- Two calls on leaves that pause or finish alike, unless one of them failed. -/
inductive Signal.InTime (R : S → S → Prop) (Q : W → W → Prop) :
    Signal S ε × W → Signal S ε × W → Prop
  | paused {s s' w w'} : R s s' → Q w w' → InTime R Q (.paused s, w) (.paused s', w')
  | finished {w w'} : Q w w' → InTime R Q (.finished, w) (.finished, w')
  | failedLeft (e : ε) (w : W) (b) : InTime R Q (.failed e, w) b
  | failedRight (a) (e : ε) (w : W) : InTime R Q a (.failed e, w)

/-- Two signals that pause or finish alike, unless one of them failed. -/
def Signal.Agree (R : S → S → Prop) : Signal S ε → Signal S ε → Prop
  | .paused s, .paused s' => R s s'
  | .finished, .finished => True
  | .failed _, _ => True
  | _, .failed _ => True
  | _, _ => False

/-- Two advances that end alike, unless one of them failed. -/
inductive Outcome.InTime (R : S → S → Prop) (Q : W → W → Prop) :
    Outcome S δ ε × W → Outcome S δ ε × W → Prop
  | paused {s s' w w'} : R s s' → Q w w' → InTime R Q (.paused s, w) (.paused s', w')
  | finished {w w'} (unused : Option δ) : Q w w' →
      InTime R Q (.finished unused, w) (.finished unused, w')
  | failedLeft (e : ε) (w : W) (b) : InTime R Q (.failed e, w) b
  | failedRight (a) (e : ε) (w : W) : InTime R Q a (.failed e, w)

/-- Two calls that report the same and leave tasks that are alike, unless one of them failed. -/
inductive Task.InTime (R : L → L → Prop) (Q : W → W → Prop) :
    (Except ε Bool × Task L) × W → (Except ε Bool × Task L) × W → Prop
  | ok {t t' w w'} (done : Bool) : Task.Like R t t' → Q w w' →
      Task.InTime R Q ((.ok done, t), w) ((.ok done, t'), w')
  | failedLeft (e : ε) (t) (w : W) (b) : Task.InTime R Q ((.error e, t), w) b
  | failedRight (a) (e : ε) (t) (w : W) : Task.InTime R Q a ((.error e, t), w)

/-- Related leaves of a machine keep the same time in related worlds. -/
structure Machine.InTime (m : Machine L δ W ε) (R : L → L → Prop) (Q : W → W → Prop) : Prop where
  start : ∀ {l l' w w'}, R l l' → Q w w' → Signal.InTime R Q (m.start l w) (m.start l' w')
  resume : ∀ {l l' w w'} (dt : δ), R l l' → Q w w' →
    Signal.InTime R Q (m.resume l dt w) (m.resume l' dt w')

section
variable {R : S → S → Prop} {Q : W → W → Prop}

theorem Signal.InTime.exists_eq {a b : Signal S ε × W} (h : Signal.InTime R Q a b) :
    (∃ e w, a = (.failed e, w)) ∨ (∃ e w, b = (.failed e, w)) ∨
      (∃ s s' w w', a = (.paused s, w) ∧ b = (.paused s', w') ∧ R s s' ∧ Q w w') ∨
      ∃ w w', a = (.finished, w) ∧ b = (.finished, w') ∧ Q w w' := by
  cases h with
  | paused hs hw => exact .inr (.inr (.inl ⟨_, _, _, _, rfl, rfl, hs, hw⟩))
  | finished hw => exact .inr (.inr (.inr ⟨_, _, rfl, rfl, hw⟩))
  | failedLeft e w b => exact .inl ⟨e, w, rfl⟩
  | failedRight a e w => exact .inr (.inl ⟨e, w, rfl⟩)

theorem Outcome.InTime.exists_eq {a b : Outcome S δ ε × W} (h : Outcome.InTime R Q a b) :
    (∃ e w, a = (.failed e, w)) ∨ (∃ e w, b = (.failed e, w)) ∨
      (∃ s s' w w', a = (.paused s, w) ∧ b = (.paused s', w') ∧ R s s' ∧ Q w w') ∨
      ∃ unused w w', a = (.finished unused, w) ∧ b = (.finished unused, w') ∧ Q w w' := by
  cases h with
  | paused hs hw => exact .inr (.inr (.inl ⟨_, _, _, _, rfl, rfl, hs, hw⟩))
  | finished unused hw => exact .inr (.inr (.inr ⟨unused, _, _, rfl, rfl, hw⟩))
  | failedLeft e w b => exact .inl ⟨e, w, rfl⟩
  | failedRight a e w => exact .inr (.inl ⟨e, w, rfl⟩)

theorem Outcome.InTime.map {T : Type} {R' : T → T → Prop} {f : S → T}
    (hf : ∀ {s s'}, R s s' → R' (f s) (f s')) {a b : Outcome S δ ε × W}
    (h : Outcome.InTime R Q a b) :
    Outcome.InTime R' Q (a.1.map f, a.2) (b.1.map f, b.2) := by
  cases h with
  | paused hs hw => exact .paused (hf hs) hw
  | finished unused hw => exact .finished unused hw
  | failedLeft e w b => exact .failedLeft e w _
  | failedRight a e w => exact .failedRight _ e w

theorem Signal.InTime.ofSignal {a b : Signal S ε × W} (h : Signal.InTime R Q a b) :
    Outcome.InTime (δ := δ) R Q (Outcome.ofSignal a.1, a.2) (Outcome.ofSignal b.1, b.2) := by
  cases h with
  | paused hs hw => exact .paused hs hw
  | finished hw => exact .finished none hw
  | failedLeft e w b => exact .failedLeft e w _
  | failedRight a e w => exact .failedRight _ e w

end

section
variable {m : Machine L δ W ε} {R : L → L → Prop} {Q : W → W → Prop}

theorem Machine.advance_inTime (hm : m.InTime R Q) (fresh : Bool) (input : Option δ) {l l' : L}
    {w w' : W} (hl : R l l') (hw : Q w w') :
    Outcome.InTime R Q (m.advance fresh input l w) (m.advance fresh input l' w') := by
  cases fresh with
  | false =>
    cases input with
    | none => exact .paused hl hw
    | some dt => exact (hm.resume dt hl hw).ofSignal
  | true =>
    simp only [Machine.advance, if_true]
    rcases (hm.start hl hw).exists_eq with ⟨e, u, ha⟩ | ⟨e, u, hb⟩ |
      ⟨s, s', u, u', ha, hb, hs, hu⟩ | ⟨u, u', ha, hb, hu⟩
    · rw [ha]
      exact .failedLeft e u _
    · rw [hb]
      exact .failedRight _ e u
    · rw [ha, hb]
      cases input with
      | none => exact .paused hs hu
      | some dt => exact (hm.resume dt hs hu).ofSignal
    · rw [ha, hb]
      exact .finished input hu

/- The induction is that of `Routine.advance`. A run that fails ends the comparison; otherwise both
go on the same way, since they answered alike. -/
mutual

theorem Routine.advance_inTime (hm : m.InTime R Q) (fresh : Bool) (input : Option δ) :
    ∀ (r : Routine L) {r' : Routine L} {w w' : W}, Routine.Like R r r' → Q w w' →
      Outcome.InTime (Routine.Like R) Q (r.advance m fresh input w) (r'.advance m fresh input w')
  | .leaf l, _, w, w', .leaf hl, hw => (Machine.advance_inTime hm fresh input hl hw).map .leaf
  | .all ts, _, w, w', .all hts, hw => by
    by_cases hempty : (fresh && ts.isEmpty) = true
    · simp only [Routine.advance, ← hts.isEmpty_eq, hempty, if_true]
      exact .finished input hw
    · simp only [Routine.advance, ← hts.isEmpty_eq, hempty, Bool.false_eq_true, if_false]
      cases input with
      | none => exact .paused (.all hts) hw
      | some dt =>
        rcases Task.advanceAll_inTime hm dt ts hts hw with ⟨e, u, ha⟩ | ⟨e, u, hb⟩ |
          ⟨live, live', u, u', ha, hb, hlive, hu⟩
        · simp only [ha]
          exact .failedLeft e u _
        · simp only [hb]
          exact .failedRight _ e u
        · simp only [ha, hb]
          cases hlive with
          | nil => exact .finished none hu
          | cons ht hlive => exact .paused (.all (.cons ht hlive)) hu
  | .chain ts, _, w, w', .chain hts, hw => Task.advanceChain_inTime hm input ts hts hw
  | .delay l t, _, w, w', .delay hl ht, hw => by
    simp only [Routine.advance]
    rcases (Machine.advance_inTime hm fresh input hl hw).exists_eq with ⟨e, u, ha⟩ | ⟨e, u, hb⟩ |
      ⟨l₁, l₂, u, u', ha, hb, hl', hu⟩ | ⟨unused, u, u', ha, hb, hu⟩
    · rw [ha]
      exact .failedLeft e u _
    · rw [hb]
      exact .failedRight _ e u
    · rw [ha, hb]
      exact .paused (.delay hl' ht) hu
    · rw [ha, hb]
      exact (Task.advance_inTime hm unused t ht hu).map fun ht' => .chain (.cons ht' .nil)
  | .seq rs, _, w, w', .seq hrs, hw => Routine.advanceSeq_inTime hm fresh input rs hrs hw

theorem Task.advance_inTime (hm : m.InTime R Q) (input : Option δ) :
    ∀ (t : Task L) {t' : Task L} {w w' : W}, Task.Like R t t' → Q w w' →
      Outcome.InTime (Task.Like R) Q (t.advance m input w) (t'.advance m input w')
  | .fresh r, _, w, w', .fresh hr, hw => (Routine.advance_inTime hm true input r hr hw).map .paused
  | .paused r, _, w, w', .paused hr, hw =>
    (Routine.advance_inTime hm false input r hr hw).map .paused
  | .crashed, _, w, w', .crashed, hw => by
    cases input with
    | none => exact .paused .crashed hw
    | some dt => exact .finished none hw
  | .done, _, w, w', .done, hw => .finished input hw

theorem Task.advanceAll_inTime (hm : m.InTime R Q) (dt : δ) :
    ∀ (ts : List (Task L)) {ts' : List (Task L)} {w w' : W}, Task.LikeAll R ts ts' → Q w w' →
      (∃ e u, Task.advanceAll m dt ts w = (.error e, u)) ∨
        (∃ e u, Task.advanceAll m dt ts' w' = (.error e, u)) ∨
        ∃ live live' u u', Task.advanceAll m dt ts w = (.ok live, u) ∧
          Task.advanceAll m dt ts' w' = (.ok live', u') ∧ Task.LikeAll R live live' ∧ Q u u'
  | [], _, w, w', .nil, hw => .inr (.inr ⟨[], [], w, w', rfl, rfl, .nil, hw⟩)
  | t :: ts, t' :: ts', w, w', .cons ht hts, hw => by
    by_cases hdone : t = .done
    · subst hdone
      exact .inl ⟨m.stepped, w, rfl⟩
    · have hdone' : t' ≠ .done := ht.ne_done hdone
      rw [Task.advanceAll_cons m dt hdone, Task.advanceAll_cons m dt hdone']
      rcases (Task.advance_inTime hm (some dt) t ht hw).exists_eq with ⟨e, u, ha⟩ | ⟨e, u, hb⟩ |
        ⟨t₁, t₂, u, u', ha, hb, ht', hu⟩ | ⟨unused, u, u', ha, hb, hu⟩
      · rw [ha]
        exact .inl ⟨e, u, rfl⟩
      · rw [hb]
        exact .inr (.inl ⟨e, u, rfl⟩)
      · rw [ha, hb]
        rcases Task.advanceAll_inTime hm dt ts hts hu with ⟨e, v, ha⟩ | ⟨e, v, hb⟩ |
          ⟨live, live', v, v', ha, hb, hlive, hv⟩
        · simp only [ha]
          exact .inl ⟨e, v, rfl⟩
        · simp only [hb]
          exact .inr (.inl ⟨e, v, rfl⟩)
        · simp only [ha, hb]
          exact .inr (.inr ⟨_, _, v, v', rfl, rfl, .cons ht' hlive, hv⟩)
      · rw [ha, hb]
        exact Task.advanceAll_inTime hm dt ts hts hu

theorem Task.advanceChain_inTime (hm : m.InTime R Q) (input : Option δ) :
    ∀ (ts : List (Task L)) {ts' : List (Task L)} {w w' : W}, Task.LikeAll R ts ts' → Q w w' →
      Outcome.InTime (Routine.Like R) Q (Task.advanceChain m input ts w)
        (Task.advanceChain m input ts' w')
  | [], _, w, w', .nil, hw => .finished input hw
  | t :: ts, _, w, w', .cons ht hts, hw => by
    simp only [Task.advanceChain]
    rcases (Task.advance_inTime hm input t ht hw).exists_eq with ⟨e, u, ha⟩ | ⟨e, u, hb⟩ |
      ⟨t₁, t₂, u, u', ha, hb, ht', hu⟩ | ⟨unused, u, u', ha, hb, hu⟩
    · rw [ha]
      exact .failedLeft e u _
    · rw [hb]
      exact .failedRight _ e u
    · rw [ha, hb]
      exact .paused (.chain (.cons ht' hts)) hu
    · rw [ha, hb]
      exact Task.advanceChain_inTime hm unused ts hts hu

theorem Routine.advanceSeq_inTime (hm : m.InTime R Q) (fresh : Bool) (input : Option δ) :
    ∀ (rs : List (Routine L)) {rs' : List (Routine L)} {w w' : W},
      Routine.LikeAll R rs rs' → Q w w' →
      Outcome.InTime (Routine.Like R) Q (Routine.advanceSeq m fresh input rs w)
        (Routine.advanceSeq m fresh input rs' w')
  | [], _, w, w', .nil, hw => .finished input hw
  | r :: rs, _, w, w', .cons hr hrs, hw => by
    simp only [Routine.advanceSeq]
    rcases (Routine.advance_inTime hm fresh input r hr hw).exists_eq with ⟨e, u, ha⟩ |
      ⟨e, u, hb⟩ | ⟨r₁, r₂, u, u', ha, hb, hr', hu⟩ | ⟨unused, u, u', ha, hb, hu⟩
    · rw [ha]
      exact .failedLeft e u _
    · rw [hb]
      exact .failedRight _ e u
    · rw [ha, hb]
      exact .paused (.seq (.cons hr' hrs)) hu
    · rw [ha, hb]
      exact Routine.advanceSeq_inTime hm true unused rs hrs hu

end

/-! ## Calls and courses -/

theorem Task.report_inTime {a b : Outcome (Task L) δ ε × W}
    (h : Outcome.InTime (Task.Like R) Q a b) :
    Task.InTime R Q (Task.report a.1, a.2) (Task.report b.1, b.2) := by
  cases h with
  | paused ht hw => exact .ok false ht hw
  | finished unused hw => exact .ok true .done hw
  | failedLeft e w b => exact .failedLeft e _ w _
  | failedRight a e w => exact .failedRight _ e _ w

theorem Task.start_inTime (hm : m.InTime R Q) {t t' : Task L} {w w' : W} (ht : Task.Like R t t')
    (hw : Q w w') : Task.InTime R Q (t.start m w) (t'.start m w') :=
  Task.report_inTime (Task.advance_inTime hm none t ht hw)

theorem Task.next_inTime (hm : m.InTime R Q) (dt : δ) {t t' : Task L} {w w' : W}
    (ht : Task.Like R t t') (hw : Q w w') : Task.InTime R Q (t.next m dt w) (t'.next m dt w') := by
  by_cases hdone : t = .done
  · subst hdone
    exact .failedLeft m.stepped .done w _
  · rw [next_of_ne_done m dt hdone, next_of_ne_done m dt (ht.ne_done hdone)]
    exact Task.report_inTime (Task.advance_inTime hm (some dt) t ht hw)

/-- Tasks that are alike are done with the same step, unless one of them fails. -/
theorem Task.through_inTime (hm : m.InTime R Q) (dts : List δ) {t t' : Task L} {w w' : W}
    (ht : Task.Like R t t') (hw : Q w w') {f f' : Fate L}
    (hf : (t.through m dts w).1 = .ok f) (hf' : (t'.through m dts w').1 = .ok f') :
    f.steps? = f'.steps? := by
  induction dts generalizing t t' w w' f f' with
  | nil =>
    cases hf
    cases hf'
    rfl
  | cons dt dts ih =>
    have hnext := Task.next_inTime hm dt ht hw
    rcases ha : t.next m dt w with ⟨⟨r, u⟩, v⟩
    rcases hb : t'.next m dt w' with ⟨⟨r', u'⟩, v'⟩
    rw [ha, hb] at hnext
    cases hnext with
    | failedLeft =>
      rw [through_of_error ha] at hf
      cases hf
    | failedRight =>
      rw [through_of_error hb] at hf'
      cases hf'
    | ok done hu hv =>
      cases done with
      | true =>
        rw [through_of_done ha] at hf
        rw [through_of_done hb] at hf'
        cases hf
        cases hf'
        rfl
      | false =>
        rw [through_of_paused ha] at hf
        rw [through_of_paused hb] at hf'
        rcases hx : u.through m dts v with ⟨_ | x, y⟩
        · rw [hx] at hf
          cases hf
        · rcases hx' : u'.through m dts v' with ⟨_ | x', y'⟩
          · rw [hx'] at hf'
            cases hf'
          · rw [hx] at hf
            rw [hx'] at hf'
            cases hf
            cases hf'
            have hsame := ih hu hv (congrArg Prod.fst hx) (congrArg Prod.fst hx')
            rw [Fate.steps?_after, Fate.steps?_after, hsame]

end
end Choreo
