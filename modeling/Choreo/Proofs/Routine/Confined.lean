import Choreo.Routine.Basic

/-!
Routines whose leaves are confined.

Two machines that answer alike on some leaves answer alike on every routine made of such leaves, as
long as the leaves that calls leave are such leaves again. So a property of leaves that calls keep
may say what a leaf can get hold of, and what it cannot reach makes no difference to whole routines:
`Routine.advance_confined` and its companions.
-/

namespace Choreo
variable {L S T δ W W' ε β : Type}

/-! ## What is left -/

namespace Outcome

/-- What is left, if something is, has a property. -/
def Leaves (P : S → Prop) : Outcome S δ ε → Prop
  | .paused s => P s
  | _ => True

theorem Leaves.imp {P Q : S → Prop} (hPQ : ∀ s, P s → Q s) {o : Outcome S δ ε}
    (h : o.Leaves P) : o.Leaves Q := by
  cases o with
  | paused s => exact hPQ s h
  | finished => trivial
  | failed => trivial

theorem Leaves.map {P : S → Prop} {Q : T → Prop} {f : S → T} (hf : ∀ s, P s → Q (f s))
    {o : Outcome S δ ε} (h : o.Leaves P) : (o.map f).Leaves Q := by
  cases o with
  | paused s => exact hf s h
  | finished => trivial
  | failed => trivial

end Outcome

mutual

/-- Every leaf is as `P` says, which is told whether the leaf is fresh. -/
def Routine.Every (P : Bool → L → Prop) (fresh : Bool) : Routine L → Prop
  | .leaf l => P fresh l
  | .all ts => Task.EveryAll P ts
  | .chain ts => Task.EveryAll P ts
  | .delay l t => P fresh l ∧ Task.Every P t
  | .seq rs => Routine.EverySeq P fresh rs

def Task.Every (P : Bool → L → Prop) : Task L → Prop
  | .fresh r => Routine.Every P true r
  | .paused r => Routine.Every P false r
  | .crashed => True
  | .done => True

def Task.EveryAll (P : Bool → L → Prop) : List (Task L) → Prop
  | [] => True
  | t :: ts => Task.Every P t ∧ Task.EveryAll P ts

def Routine.EverySeq (P : Bool → L → Prop) (fresh : Bool) : List (Routine L) → Prop
  | [] => True
  | r :: rs => Routine.Every P fresh r ∧ Routine.EverySeq P true rs

end

mutual

theorem Routine.every_of_forall {P : Bool → L → Prop} (hP : ∀ fresh l, P fresh l) (fresh : Bool) :
    ∀ r : Routine L, r.Every P fresh
  | .leaf l => hP fresh l
  | .all ts => Task.everyAll_of_forall hP ts
  | .chain ts => Task.everyAll_of_forall hP ts
  | .delay l t => ⟨hP fresh l, Task.every_of_forall hP t⟩
  | .seq rs => Routine.everySeq_of_forall hP fresh rs

theorem Task.every_of_forall {P : Bool → L → Prop} (hP : ∀ fresh l, P fresh l) :
    ∀ t : Task L, t.Every P
  | .fresh r => Routine.every_of_forall hP true r
  | .paused r => Routine.every_of_forall hP false r
  | .crashed => trivial
  | .done => trivial

theorem Task.everyAll_of_forall {P : Bool → L → Prop} (hP : ∀ fresh l, P fresh l) :
    ∀ ts : List (Task L), Task.EveryAll P ts
  | [] => trivial
  | t :: ts => ⟨Task.every_of_forall hP t, Task.everyAll_of_forall hP ts⟩

theorem Routine.everySeq_of_forall {P : Bool → L → Prop} (hP : ∀ fresh l, P fresh l)
    (fresh : Bool) : ∀ rs : List (Routine L), Routine.EverySeq P fresh rs
  | [] => trivial
  | r :: rs => ⟨Routine.every_of_forall hP fresh r, Routine.everySeq_of_forall hP true rs⟩

end

/-! ## On two machines -/

/-- Two calls that answer the same, with an answer that has a property, and leave related worlds. -/
structure AlikeOn (Q : β → Prop) (R : W → W' → Prop) (a : β × W) (b : β × W') : Prop where
  same : a.1 = b.1
  answer : Q a.1
  related : R a.2 b.2

theorem AlikeOn.exists_eq {Q : β → Prop} {R : W → W' → Prop} {a : β × W} {b : β × W'}
    (h : AlikeOn Q R a b) : ∃ x w w', a = (x, w) ∧ b = (x, w') ∧ Q x ∧ R w w' :=
  ⟨a.1, a.2, b.2, rfl, by rw [h.same], h.answer, h.related⟩

/-- A leaf that is left by a call is as `P` says. -/
def Signal.Leaves (P : L → Prop) : Signal L ε → Prop
  | .paused l => P l
  | .finished => True
  | .failed _ => True

/-- Calls on the leaves that are as `P` says answer the same on both machines, keep the worlds
related and leave such leaves. -/
structure Machine.Confined (m : Machine L δ W ε) (m' : Machine L δ W' ε) (P : L → Prop)
    (R : W → W' → Prop) : Prop where
  start : ∀ l w w', P l → R w w' → AlikeOn (Signal.Leaves P) R (m.start l w) (m'.start l w')
  resume : ∀ l dt w w', P l → R w w' →
    AlikeOn (Signal.Leaves P) R (m.resume l dt w) (m'.resume l dt w')
  stepped : m.stepped = m'.stepped

/-- Every leaf of a routine is as `P` says. -/
abbrev Routine.Of (P : L → Prop) (fresh : Bool) (r : Routine L) : Prop := r.Every (fun _ => P) fresh

abbrev Task.Of (P : L → Prop) (t : Task L) : Prop := t.Every fun _ => P

abbrev Task.AllOf (P : L → Prop) (ts : List (Task L)) : Prop := Task.EveryAll (fun _ => P) ts

section
variable {m : Machine L δ W ε} {m' : Machine L δ W' ε} {P : L → Prop} {R : W → W' → Prop}

theorem Signal.Leaves.ofSignal {s : Signal L ε} (h : s.Leaves P) :
    (Outcome.ofSignal s : Outcome L δ ε).Leaves P := by
  cases s <;> exact h

theorem Machine.advance_confined (hm : m.Confined m' P R) (fresh : Bool) (input : Option δ) {l : L}
    (hl : P l) {w : W} {w' : W'} (h : R w w') :
    AlikeOn (Outcome.Leaves P) R (m.advance fresh input l w) (m'.advance fresh input l w') := by
  unfold Machine.advance
  cases fresh with
  | false =>
    cases input with
    | none => exact ⟨rfl, hl, h⟩
    | some dt =>
      obtain ⟨s, u, u', hu, hu', hs, hR⟩ := (hm.resume l dt w w' hl h).exists_eq
      simp only [hu, hu', Bool.false_eq_true, if_false]
      exact ⟨rfl, hs.ofSignal, hR⟩
  | true =>
    obtain ⟨s, u, u', hu, hu', hs, hR⟩ := (hm.start l w w' hl h).exists_eq
    simp only [hu, hu', if_true]
    cases s with
    | finished => exact ⟨rfl, trivial, hR⟩
    | failed e => exact ⟨rfl, trivial, hR⟩
    | paused l' =>
      cases input with
      | none => exact ⟨rfl, hs, hR⟩
      | some dt =>
        obtain ⟨s, v, v', hv, hv', hs, hR⟩ := (hm.resume l' dt u u' hs hR).exists_eq
        simp only [hv, hv']
        exact ⟨rfl, hs.ofSignal, hR⟩

/- The induction is that of `Routine.advance`, and the leaves of what is left come from the part
that was advanced and from those that were not reached. -/
mutual

theorem Routine.advance_confined (hm : m.Confined m' P R) (fresh : Bool) (input : Option δ) :
    ∀ (r : Routine L) {w : W} {w' : W'}, r.Of P fresh → R w w' →
      AlikeOn (Outcome.Leaves (Routine.Of P false)) R (r.advance m fresh input w)
        (r.advance m' fresh input w')
  | .leaf l, w, w', hl, h => by
    obtain ⟨o, u, u', hu, hu', ho, hR⟩ := (Machine.advance_confined hm fresh input hl h).exists_eq
    simp only [Routine.advance, hu, hu']
    exact ⟨rfl, ho.map (f := Routine.leaf) fun _ hl' => hl', hR⟩
  | .all ts, w, w', hts, h => by
    simp only [Routine.advance]
    split
    · exact ⟨rfl, trivial, h⟩
    · cases input with
      | none => exact ⟨rfl, hts, h⟩
      | some dt =>
        obtain ⟨o, u, u', hu, hu', ho, hR⟩ := (Task.advanceAll_confined hm dt ts hts h).exists_eq
        simp only [hu, hu']
        rcases o with e | _ | ⟨t, live⟩
        · exact ⟨rfl, trivial, hR⟩
        · exact ⟨rfl, trivial, hR⟩
        · exact ⟨rfl, ho _ rfl, hR⟩
  | .chain ts, w, w', hts, h => by
    simp only [Routine.advance]
    exact Task.advanceChain_confined hm input ts hts h
  | .delay l t, w, w', hr, h => by
    obtain ⟨o, u, u', hu, hu', ho, hR⟩ :=
      (Machine.advance_confined hm fresh input hr.1 h).exists_eq
    simp only [Routine.advance, hu, hu']
    cases o with
    | paused l' => exact ⟨rfl, ⟨ho, hr.2⟩, hR⟩
    | failed e => exact ⟨rfl, trivial, hR⟩
    | finished unused =>
      obtain ⟨o, v, v', hv, hv', ho, hR⟩ := (Task.advance_confined hm unused t hr.2 hR).exists_eq
      simp only [hv, hv']
      exact ⟨rfl, ho.map fun _ ht' => ⟨ht', trivial⟩, hR⟩
  | .seq rs, w, w', hrs, h => by
    simp only [Routine.advance]
    exact Routine.advanceSeq_confined hm fresh input rs hrs h

theorem Task.advance_confined (hm : m.Confined m' P R) (input : Option δ) :
    ∀ (t : Task L) {w : W} {w' : W'}, t.Of P → R w w' →
      AlikeOn (Outcome.Leaves (Task.Of P)) R (t.advance m input w) (t.advance m' input w')
  | .fresh r, w, w', hr, h => by
    obtain ⟨o, u, u', hu, hu', ho, hR⟩ := (Routine.advance_confined hm true input r hr h).exists_eq
    simp only [Task.advance, hu, hu']
    exact ⟨rfl, ho.map (f := Task.paused) fun _ hr' => hr', hR⟩
  | .paused r, w, w', hr, h => by
    obtain ⟨o, u, u', hu, hu', ho, hR⟩ := (Routine.advance_confined hm false input r hr h).exists_eq
    simp only [Task.advance, hu, hu']
    exact ⟨rfl, ho.map (f := Task.paused) fun _ hr' => hr', hR⟩
  | .crashed, w, w', _, h => by
    cases input <;> exact ⟨rfl, trivial, h⟩
  | .done, w, w', _, h => ⟨rfl, trivial, h⟩

theorem Task.advanceAll_confined (hm : m.Confined m' P R) (dt : δ) :
    ∀ (ts : List (Task L)) {w : W} {w' : W'}, Task.AllOf P ts → R w w' →
      AlikeOn (fun r => ∀ live, r = .ok live → Task.AllOf P live) R (Task.advanceAll m dt ts w)
        (Task.advanceAll m' dt ts w')
  | [], w, w', hts, h => ⟨rfl, fun live hlive => Except.ok.inj hlive ▸ hts, h⟩
  | t :: ts, w, w', hts, h => by
    by_cases ht : t = .done
    · subst ht
      simp only [Task.advanceAll, hm.stepped]
      exact ⟨rfl, nofun, h⟩
    · obtain ⟨o, u, u', hu, hu', ho, hR⟩ :=
        (Task.advance_confined hm (some dt) t hts.1 h).exists_eq
      rw [Task.advanceAll_cons m dt ht, Task.advanceAll_cons m' dt ht, hu, hu']
      cases o with
      | failed e => exact ⟨rfl, nofun, hR⟩
      | finished unused => exact Task.advanceAll_confined hm dt ts hts.2 hR
      | paused t' =>
        obtain ⟨r, v, v', hv, hv', hr, hR⟩ := (Task.advanceAll_confined hm dt ts hts.2 hR).exists_eq
        simp only [hv, hv']
        cases r with
        | error e => exact ⟨rfl, nofun, hR⟩
        | ok live =>
          refine ⟨rfl, fun all hall => ?_, hR⟩
          obtain rfl := Except.ok.inj hall
          exact ⟨ho, hr live rfl⟩

theorem Task.advanceChain_confined (hm : m.Confined m' P R) (input : Option δ) :
    ∀ (ts : List (Task L)) {w : W} {w' : W'}, Task.AllOf P ts → R w w' →
      AlikeOn (Outcome.Leaves (Routine.Of P false)) R (Task.advanceChain m input ts w)
        (Task.advanceChain m' input ts w')
  | [], w, w', _, h => ⟨rfl, trivial, h⟩
  | t :: ts, w, w', hts, h => by
    obtain ⟨o, u, u', hu, hu', ho, hR⟩ := (Task.advance_confined hm input t hts.1 h).exists_eq
    simp only [Task.advanceChain, hu, hu']
    cases o with
    | failed e => exact ⟨rfl, trivial, hR⟩
    | finished unused => exact Task.advanceChain_confined hm unused ts hts.2 hR
    | paused t' => exact ⟨rfl, ⟨ho, hts.2⟩, hR⟩

theorem Routine.advanceSeq_confined (hm : m.Confined m' P R) (fresh : Bool) (input : Option δ) :
    ∀ (rs : List (Routine L)) {w : W} {w' : W'}, Routine.EverySeq (fun _ => P) fresh rs → R w w' →
      AlikeOn (Outcome.Leaves (Routine.Of P false)) R (Routine.advanceSeq m fresh input rs w)
        (Routine.advanceSeq m' fresh input rs w')
  | [], w, w', _, h => ⟨rfl, trivial, h⟩
  | r :: rs, w, w', hrs, h => by
    obtain ⟨o, u, u', hu, hu', ho, hR⟩ :=
      (Routine.advance_confined hm fresh input r hrs.1 h).exists_eq
    simp only [Routine.advanceSeq, hu, hu']
    cases o with
    | failed e => exact ⟨rfl, trivial, hR⟩
    | finished unused => exact Routine.advanceSeq_confined hm true unused rs hrs.2 hR
    | paused r' => exact ⟨rfl, ⟨ho, hrs.2⟩, hR⟩

end

/-- What a call on a task leaves of it has leaves that are as `P` says too. -/
def Task.Kept (P : L → Prop) (r : Except ε Bool × Task L) : Prop := r.2.Of P

theorem Outcome.Leaves.report {o : Outcome (Task L) δ ε} (h : o.Leaves (Task.Of P)) :
    Task.Kept P (Task.report o) := by
  cases o with
  | paused t => exact h
  | finished unused => trivial
  | failed e => trivial

theorem Task.start_confined (hm : m.Confined m' P R) {t : Task L} (ht : t.Of P) {w : W} {w' : W'}
    (h : R w w') : AlikeOn (Task.Kept P) R (t.start m w) (t.start m' w') := by
  obtain ⟨o, u, u', hu, hu', ho, hR⟩ := (Task.advance_confined hm none t ht h).exists_eq
  simp only [Task.start, hu, hu']
  exact ⟨rfl, ho.report, hR⟩

theorem Task.next_confined (hm : m.Confined m' P R) (dt : δ) {t : Task L} (ht : t.Of P) {w : W}
    {w' : W'} (h : R w w') : AlikeOn (Task.Kept P) R (t.next m dt w) (t.next m' dt w') := by
  by_cases hdone : t = .done
  · subst hdone
    simp only [Task.next, hm.stepped]
    exact ⟨rfl, trivial, h⟩
  · obtain ⟨o, u, u', hu, hu', ho, hR⟩ := (Task.advance_confined hm (some dt) t ht h).exists_eq
    rw [Task.next_of_ne_done m dt hdone, Task.next_of_ne_done m' dt hdone, hu, hu']
    exact ⟨rfl, ho.report, hR⟩

end
end Choreo
