import Choreo.Routine.Basic

/-!
Counting the steps a routine has left.

Suppose every leaf has a number of steps left, which each step of one size lowers by one, and that
is finished by the last. Then no step is ever split between two parts: whatever ends in a step ends
with all of it, and what comes next begins with the next step. So the steps left of a group are the
most of its tasks, and those of a sequence are the sum: `Routine.advance_counts`.
-/

namespace Choreo
variable {L S T δ W ε : Type}

mutual

/-- The routine ends with the `n`th step from now, if `Q` says so of leaves. It is told whether a
leaf is fresh. -/
def Routine.Lasts (Q : Bool → L → Nat → Prop) (fresh : Bool) : Routine L → Nat → Prop
  | .leaf l, n => Q fresh l n
  | .all ts, n => 0 < n ∧ Task.LastMost Q ts n
  | .chain ts, n => Task.LastInTurn Q ts n
  | .delay l t, n => ∃ a b, Q fresh l a ∧ Task.Lasts Q t b ∧ n = a + b
  | .seq rs, n => Routine.LastInTurn Q fresh rs n

def Task.Lasts (Q : Bool → L → Nat → Prop) : Task L → Nat → Prop
  | .fresh r, n => Routine.Lasts Q true r n
  | .paused r, n => Routine.Lasts Q false r n
  | .crashed, _ => False
  | .done, _ => False

/-- The last of the tasks, of which each has a step left, ends with the `n`th step. -/
def Task.LastMost (Q : Bool → L → Nat → Prop) : List (Task L) → Nat → Prop
  | [], n => n = 0
  | t :: ts, n => ∃ a b, 0 < a ∧ Task.Lasts Q t a ∧ Task.LastMost Q ts b ∧ n = max a b

/-- The tasks end with the `n`th step if each begins after the one before. -/
def Task.LastInTurn (Q : Bool → L → Nat → Prop) : List (Task L) → Nat → Prop
  | [], n => n = 0
  | t :: ts, n => ∃ a b, Task.Lasts Q t a ∧ Task.LastInTurn Q ts b ∧ n = a + b

def Routine.LastInTurn (Q : Bool → L → Nat → Prop) (fresh : Bool) : List (Routine L) → Nat → Prop
  | [], n => n = 0
  | r :: rs, n =>
    ∃ a b, Routine.Lasts Q fresh r a ∧ Routine.LastInTurn Q true rs b ∧ n = a + b

end

/-- Starting a leaf keeps its steps, a step takes one off, and the last one finishes it. -/
structure Machine.CountsDown (m : Machine L δ W ε) (step : δ) (Q : Bool → L → Nat → Prop) :
    Prop where
  pos : ∀ fresh l n, Q fresh l n → 0 < n
  start : ∀ l n w, Q true l n → ∃ l' w', m.start l w = (.paused l', w') ∧ Q false l' n
  last : ∀ l w, Q false l 1 → ∃ w', m.resume l step w = (.finished, w')
  next : ∀ l n w, Q false l (n + 2) →
    ∃ l' w', m.resume l step w = (.paused l', w') ∧ Q false l' (n + 1)

/-- How many steps an input is. -/
def inputCount : Option δ → Nat
  | none => 0
  | some _ => 1

/-- No step, or the step of the one size. -/
def IsStep (step : δ) (input : Option δ) : Prop := input = none ∨ input = some step

/-- How an advance ends of which `n` steps were left: it never fails, and the input comes off the
steps as far as it was used. -/
def Outcome.Counts (P : S → Nat → Prop) (input : Option δ) (n : Nat) : Outcome S δ ε → Prop
  | .paused s => ∃ k, 0 < k ∧ P s k ∧ n = k + inputCount input
  | .finished unused => (unused = none ∨ unused = input) ∧ inputCount input = n + inputCount unused
  | .failed _ => False

section
variable {P : S → Nat → Prop} {input unused : Option δ} {n : Nat}

theorem IsStep.rest {step : δ} (h : IsStep step input) (hu : unused = none ∨ unused = input) :
    IsStep step unused := by
  rcases hu with rfl | rfl
  · exact .inl rfl
  · exact h

namespace Outcome

theorem Counts.map {P' : T → Nat → Prop} {o : Outcome T δ ε} (h : o.Counts P' input n)
    {f : T → S} (hf : ∀ t k, P' t k → P (f t) k) : (o.map f).Counts P input n := by
  cases o with
  | paused t =>
    obtain ⟨k, hk, ht, hn⟩ := h
    exact ⟨k, hk, hf t k ht, hn⟩
  | finished unused => exact h
  | failed e => exact h

theorem counts_unused : (finished input : Outcome S δ ε).Counts P input 0 :=
  ⟨.inr rfl, (Nat.zero_add _).symm⟩

/-- A pause in the first of several parts leaves the others as they are. -/
theorem Counts.before {P' : T → Nat → Prop} {t : T} {s : S} {rest : Nat}
    (h : (paused t : Outcome T δ ε).Counts P' input n) (hs : ∀ k, P' t k → P s (k + rest)) :
    (paused s : Outcome S δ ε).Counts P input (n + rest) := by
  obtain ⟨k, hk, ht, rfl⟩ := h
  exact ⟨k + rest, by omega, hs k ht, by omega⟩

/-- A part that begins with what was left of the input adds to the part before it. -/
theorem Counts.after {P' : T → Nat → Prop} {o : Outcome S δ ε} {first : Nat}
    (hfirst : (finished unused : Outcome T δ ε).Counts P' input first)
    (h : o.Counts P unused n) : o.Counts P input (first + n) := by
  obtain ⟨hu, hcount⟩ := hfirst
  cases o with
  | paused s =>
    obtain ⟨k, hk, hs, hn⟩ := h
    exact ⟨k, hk, hs, by omega⟩
  | finished u =>
    obtain ⟨hu', hn⟩ := h
    refine ⟨?_, by omega⟩
    rcases hu' with rfl | rfl
    · exact .inl rfl
    · exact hu
  | failed e => exact h

end Outcome
end

/-! ## Steps -/

section
variable {m : Machine L δ W ε} {step : δ} {Q : Bool → L → Nat → Prop}

theorem Machine.resume_counts (hm : m.CountsDown step Q) {l : L} {n : Nat} (hl : Q false l n)
    (w : W) :
    (Outcome.ofSignal (m.resume l step w).1 : Outcome L δ ε).Counts (Q false) (some step) n := by
  match n, hm.pos false l n hl with
  | 1, _ =>
    obtain ⟨w', heq⟩ := hm.last l w hl
    rw [heq]
    exact ⟨.inl rfl, rfl⟩
  | n + 2, _ =>
    obtain ⟨l', w', heq, hl'⟩ := hm.next l n w hl
    rw [heq]
    exact ⟨n + 1, by omega, hl', rfl⟩

theorem Machine.advance_counts (hm : m.CountsDown step Q) {fresh : Bool} {input : Option δ}
    (hin : IsStep step input) {l : L} {n : Nat} (hl : Q fresh l n) (w : W) :
    (m.advance fresh input l w).1.Counts (Q false) input n := by
  cases fresh with
  | false =>
    rcases hin with rfl | rfl
    · exact ⟨n, hm.pos false l n hl, hl, rfl⟩
    · exact Machine.resume_counts hm hl w
  | true =>
    obtain ⟨l', w', heq, hl'⟩ := hm.start l n w hl
    unfold Machine.advance
    rw [if_pos rfl, heq]
    rcases hin with rfl | rfl
    · exact ⟨n, hm.pos false l' n hl', hl', rfl⟩
    · exact Machine.resume_counts hm hl' w'

mutual

theorem Routine.advance_counts (hm : m.CountsDown step Q) {fresh : Bool} {input : Option δ}
    (hin : IsStep step input) (r : Routine L) {n : Nat} (hr : r.Lasts Q fresh n) (w : W) :
    (r.advance m fresh input w).1.Counts (Routine.Lasts Q false) input n := by
  cases r with
  | leaf l => exact (Machine.advance_counts hm hin hr w).map fun _ _ h => h
  | all ts =>
    obtain ⟨hn, hts⟩ := hr
    -- A group with a step left is not empty, so it does not finish where it starts.
    have hne : ts.isEmpty = false := by
      cases ts with
      | nil =>
        have hts : n = 0 := hts
        omega
      | cons t ts => rfl
    simp only [Routine.advance]
    rw [hne, Bool.and_false, if_neg Bool.false_ne_true]
    rcases hin with rfl | rfl
    · exact ⟨n, hn, ⟨hn, hts⟩, rfl⟩
    · obtain ⟨live, w', heq, hlive⟩ := Task.advanceAll_counts hm ts hts w
      simp only [heq]
      cases live with
      | nil =>
        have hlive : n - 1 = 0 := hlive
        exact ⟨.inl rfl, by simp only [inputCount]; omega⟩
      | cons t live =>
        have hpos : 0 < n - 1 := by
          obtain ⟨a, b, ha, -, -, hmax⟩ := hlive
          omega
        exact ⟨n - 1, hpos, ⟨hpos, hlive⟩, by simp only [inputCount]; omega⟩
  | chain ts => exact Task.advanceChain_counts hm hin ts hr w
  | delay l t =>
    obtain ⟨a, b, hl, ht, rfl⟩ := hr
    have hl := Machine.advance_counts hm hin hl w
    simp only [Routine.advance]
    split
    · next l' w' heq =>
      rw [heq] at hl
      exact Outcome.Counts.before hl fun k hk => ⟨k, b, hk, ht, rfl⟩
    · next heq =>
      rw [heq] at hl
      exact hl.elim
    · next unused w' heq =>
      rw [heq] at hl
      refine Outcome.Counts.after hl ((Task.advance_counts hm (hin.rest hl.1) t ht w').map ?_)
      exact fun t' k hk => ⟨k, 0, hk, rfl, rfl⟩
  | seq rs => exact Routine.advanceSeq_counts hm hin rs hr w

theorem Task.advance_counts (hm : m.CountsDown step Q) {input : Option δ}
    (hin : IsStep step input) (t : Task L) {n : Nat} (ht : t.Lasts Q n) (w : W) :
    (t.advance m input w).1.Counts (Task.Lasts Q) input n := by
  cases t with
  | fresh r => exact (Routine.advance_counts hm hin r ht w).map fun _ _ h => h
  | paused r => exact (Routine.advance_counts hm hin r ht w).map fun _ _ h => h
  | crashed => exact ht.elim
  | done => exact ht.elim

/-- A step takes one off every task of a group, and those that had only that one left are done. -/
theorem Task.advanceAll_counts (hm : m.CountsDown step Q) (ts : List (Task L)) {n : Nat}
    (hts : Task.LastMost Q ts n) (w : W) :
    ∃ live w', Task.advanceAll m step ts w = (.ok live, w') ∧ Task.LastMost Q live (n - 1) := by
  cases ts with
  | nil =>
    have hts : n = 0 := hts
    exact ⟨[], w, rfl, by rw [hts]; rfl⟩
  | cons t ts =>
    obtain ⟨a, b, ha, ht, hts, rfl⟩ := hts
    have hdone : t ≠ .done := by
      rintro rfl
      exact ht
    have ht := Task.advance_counts hm (.inr rfl) t ht w
    rw [Task.advanceAll_cons m step hdone]
    generalize t.advance m (some step) w = result at ht ⊢
    obtain ⟨o, w'⟩ := result
    obtain ⟨live, w'', heq, hlive⟩ := Task.advanceAll_counts hm ts hts w'
    cases o with
    | failed e => exact ht.elim
    | finished unused =>
      have hcount : 1 = a + inputCount unused := ht.2
      have hmax : max a b - 1 = b - 1 := by omega
      rw [hmax]
      exact ⟨live, w'', heq, hlive⟩
    | paused t' =>
      obtain ⟨k, hk, ht', hcount⟩ := ht
      have hcount : a = k + 1 := hcount
      simp only [heq]
      exact ⟨t' :: live, w'', rfl, k, b - 1, hk, ht', hlive, by omega⟩

theorem Task.advanceChain_counts (hm : m.CountsDown step Q) {input : Option δ}
    (hin : IsStep step input) (ts : List (Task L)) {n : Nat} (hts : Task.LastInTurn Q ts n)
    (w : W) :
    (Task.advanceChain m input ts w).1.Counts (Routine.Lasts Q false) input n := by
  cases ts with
  | nil =>
    have hts : n = 0 := hts
    rw [Task.advanceChain, hts]
    exact Outcome.counts_unused
  | cons t ts =>
    obtain ⟨a, b, ht, hts, rfl⟩ := hts
    have ht := Task.advance_counts hm hin t ht w
    rw [Task.advanceChain]
    split
    · next heq =>
      rw [heq] at ht
      exact ht.elim
    · next unused w' heq =>
      rw [heq] at ht
      exact Outcome.Counts.after ht (Task.advanceChain_counts hm (hin.rest ht.1) ts hts w')
    · next t' w' heq =>
      rw [heq] at ht
      exact Outcome.Counts.before ht fun k hk => ⟨k, b, hk, hts, rfl⟩

theorem Routine.advanceSeq_counts (hm : m.CountsDown step Q) {fresh : Bool} {input : Option δ}
    (hin : IsStep step input) (rs : List (Routine L)) {n : Nat}
    (hrs : Routine.LastInTurn Q fresh rs n) (w : W) :
    (Routine.advanceSeq m fresh input rs w).1.Counts (Routine.Lasts Q false) input n := by
  cases rs with
  | nil =>
    have hrs : n = 0 := hrs
    rw [Routine.advanceSeq, hrs]
    exact Outcome.counts_unused
  | cons r rs =>
    obtain ⟨a, b, hr, hrs, rfl⟩ := hrs
    have hr := Routine.advance_counts hm hin r hr w
    rw [Routine.advanceSeq]
    split
    · next heq =>
      rw [heq] at hr
      exact hr.elim
    · next unused w' heq =>
      rw [heq] at hr
      exact Outcome.Counts.after hr (Routine.advanceSeq_counts hm (hin.rest hr.1) rs hrs w')
    · next r' w' heq =>
      rw [heq] at hr
      exact Outcome.Counts.before hr fun k hk => ⟨k, b, hk, hrs, rfl⟩

end
end

end Choreo
