import Mathlib.Algebra.Order.Ring.Rat
import Mathlib.Tactic.Linarith
import Choreo.Proofs.Routine.Confined

/-!
How much time a routine has left.

Suppose it is known of every leaf how much time it has left, and that a step takes off what it is
worth. Then it is known of routines, up to a slack: whatever is pending when a step ends may lose
the rest of that step, and so may a group whose last task ends with it. `Routine.due` with no slack
is what a routine takes at least, and with the longest step for slack what it takes at most. A step
lowers both by its size, however the leaves are combined: `Routine.advance_within`.
-/

namespace Choreo
variable {L S T δ W ε : Type}

/-! ## What is due -/

mutual

/-- The time a routine has left, if a leaf has `v` left and every leaf and every group may lose up
to `slack` when it ends. -/
def Routine.due (slack : Rat) (v : L → Rat) : Routine L → Rat
  | .leaf l => v l + slack
  | .all ts => Task.dueMost slack v ts + slack
  | .chain ts => Task.dueSum slack v ts
  | .delay l t => v l + slack + Task.due slack v t
  | .seq rs => Routine.dueSum slack v rs

def Task.due (slack : Rat) (v : L → Rat) : Task L → Rat
  | .fresh r => Routine.due slack v r
  | .paused r => Routine.due slack v r
  | .crashed => slack
  | .done => 0

def Task.dueMost (slack : Rat) (v : L → Rat) : List (Task L) → Rat
  | [] => 0
  | t :: ts => max (Task.due slack v t) (Task.dueMost slack v ts)

def Task.dueSum (slack : Rat) (v : L → Rat) : List (Task L) → Rat
  | [] => 0
  | t :: ts => Task.due slack v t + Task.dueSum slack v ts

def Routine.dueSum (slack : Rat) (v : L → Rat) : List (Routine L) → Rat
  | [] => 0
  | r :: rs => Routine.due slack v r + Routine.dueSum slack v rs

end

section
variable {v : L → Rat} {slack : Rat}

theorem Task.dueMost_nonneg (slack : Rat) (v : L → Rat) (ts : List (Task L)) :
    0 ≤ dueMost slack v ts := by
  induction ts with
  | nil => exact le_refl _
  | cons t ts ih => exact le_max_of_le_right ih

mutual

theorem Routine.due_nonneg (hv : ∀ l, 0 ≤ v l) (hs : 0 ≤ slack) (r : Routine L) :
    0 ≤ r.due slack v := by
  cases r with
  | leaf l => exact add_nonneg (hv l) hs
  | all ts => exact add_nonneg (Task.dueMost_nonneg slack v ts) hs
  | chain ts => exact Task.dueSum_nonneg hv hs ts
  | delay l t => exact add_nonneg (add_nonneg (hv l) hs) (Task.due_nonneg hv hs t)
  | seq rs => exact Routine.dueSum_nonneg hv hs rs

theorem Task.due_nonneg (hv : ∀ l, 0 ≤ v l) (hs : 0 ≤ slack) (t : Task L) :
    0 ≤ t.due slack v := by
  cases t with
  | fresh r => exact Routine.due_nonneg hv hs r
  | paused r => exact Routine.due_nonneg hv hs r
  | crashed => exact hs
  | done => exact le_refl _

theorem Task.dueSum_nonneg (hv : ∀ l, 0 ≤ v l) (hs : 0 ≤ slack) (ts : List (Task L)) :
    0 ≤ Task.dueSum slack v ts := by
  cases ts with
  | nil => exact le_refl _
  | cons t ts => exact add_nonneg (Task.due_nonneg hv hs t) (Task.dueSum_nonneg hv hs ts)

theorem Routine.dueSum_nonneg (hv : ∀ l, 0 ≤ v l) (hs : 0 ≤ slack) (rs : List (Routine L)) :
    0 ≤ Routine.dueSum slack v rs := by
  cases rs with
  | nil => exact le_refl _
  | cons r rs => exact add_nonneg (Routine.due_nonneg hv hs r) (Routine.dueSum_nonneg hv hs rs)

end
end

/-! ## What a step takes off -/

/-- The size of a step that may be missing. -/
def worth (size : δ → Rat) : Option δ → Rat
  | none => 0
  | some dt => size dt

/-- The leaves as `P` has them are left `v`: starting one keeps that, and a step takes off its
size. -/
structure Machine.Metered (m : Machine L δ W ε) (size : δ → Rat) (P : Bool → L → Prop)
    (v : L → Rat) : Prop where
  nonneg : ∀ l, 0 ≤ v l
  start : ∀ l w, P true l →
    match (m.start l w).1 with
    | .paused l' => P false l' ∧ v l' = v l
    | .finished => v l = 0
    | .failed _ => True
  resume : ∀ l dt w, P false l → 0 ≤ size dt →
    match (m.resume l dt w).1 with
    | .paused l' => P false l' ∧ v l = v l' + size dt
    | .finished => v l ≤ size dt
    | .failed _ => True

/-- How an advance ends of what was due in `total`. What is due afterwards is less by what was used
of the input: it cannot be less than that without any slack, nor more than that with all of it. -/
def Outcome.Within (size : δ → Rat) (slack : Rat) (P : S → Prop) (due : Rat → S → Rat)
    (input : Option δ) (total : Rat → Rat) : Outcome S δ ε → Prop
  | .paused s => P s ∧ total 0 ≤ due 0 s + worth size input ∧
      due slack s + worth size input ≤ total slack ∧ slack ≤ due slack s
  | .finished unused => (unused = none ∨ unused = input) ∧
      total 0 + worth size unused ≤ worth size input ∧
      worth size input ≤ total slack + worth size unused
  | .failed _ => True

/-- A step, if there is one, that is not negative and no larger than the slack. -/
def Fits (size : δ → Rat) (slack : Rat) (input : Option δ) : Prop :=
  ∀ dt, input = some dt → 0 ≤ size dt ∧ size dt ≤ slack

section
variable {size : δ → Rat} {slack : Rat} {P : S → Prop} {due : Rat → S → Rat} {input : Option δ}
  {total : Rat → Rat}

theorem Fits.nonneg (h : Fits size slack input) : 0 ≤ worth size input := by
  cases input with
  | none => exact le_refl _
  | some dt => exact (h dt rfl).1

theorem Fits.rest (h : Fits size slack input) {unused : Option δ}
    (hu : unused = none ∨ unused = input) : Fits size slack unused := by
  rcases hu with rfl | rfl
  · exact fun _ hdt => nomatch hdt
  · exact h

namespace Outcome

theorem within_map {f : T → S} {o : Outcome T δ ε}
    (h : o.Within size slack (fun t => P (f t)) (fun s t => due s (f t)) input total) :
    (o.map f).Within size slack P due input total := by
  cases o <;> exact h

/-- What is finished at once hands on the input as it is. -/
theorem within_unused (hlow : total 0 = 0) (hhigh : 0 ≤ total slack) :
    (finished input : Outcome S δ ε).Within size slack P due input total := by
  refine ⟨.inr rfl, ?_, ?_⟩
  · linarith
  · linarith

/-- Without a step a pause keeps what is due. -/
theorem within_kept {s : S} (hs : P s) (hdue : ∀ x, due x s = total x)
    (hslack : slack ≤ due slack s) :
    (paused s : Outcome S δ ε).Within size slack P due none total := by
  refine ⟨hs, ?_, ?_, hslack⟩
  · rw [hdue, worth, add_zero]
  · rw [hdue, worth, add_zero]

/-- A pause in the first of several parts leaves the others as they are. -/
theorem Within.before {due' : Rat → T → Rat} {P' : T → Prop} {t : T} {s : S} {rest : Rat → Rat}
    (h : (paused t : Outcome T δ ε).Within size slack P' due' input total)
    (hs : P' t → P s) (hdue : ∀ x, due x s = due' x t + rest x) (hrest : 0 ≤ rest slack) :
    (paused s : Outcome S δ ε).Within size slack P due input fun x => total x + rest x := by
  obtain ⟨ht, hlow, hhigh, hslack⟩ := h
  refine ⟨hs ht, ?_, ?_, ?_⟩
  · rw [hdue]
    linarith
  · rw [hdue]
    linarith
  · rw [hdue]
    linarith

/-- A part that begins with what was left of the input adds to the part before it. -/
theorem Within.after {o : Outcome S δ ε} {unused : Option δ} {P' : T → Prop}
    {due' : Rat → T → Rat} {first : Rat → Rat}
    (hfirst : (finished unused : Outcome T δ ε).Within size slack P' due' input first)
    (h : o.Within size slack P due unused total) :
    o.Within size slack P due input fun x => first x + total x := by
  obtain ⟨hu, hflow, hfhigh⟩ := hfirst
  cases o with
  | paused s =>
    obtain ⟨hs, hlow, hhigh, hslack⟩ := h
    refine ⟨hs, ?_, ?_, hslack⟩
    · linarith
    · linarith
  | finished u =>
    obtain ⟨hu', hlow, hhigh⟩ := h
    refine ⟨?_, ?_, ?_⟩
    · rcases hu' with rfl | rfl
      · exact .inl rfl
      · exact hu
    · linarith
    · linarith
  | failed e => trivial

end Outcome
end

/-! ## Steps -/

section
variable {m : Machine L δ W ε} {size : δ → Rat} {P : Bool → L → Prop} {v : L → Rat} {slack : Rat}

theorem Machine.resume_within (hm : m.Metered size P v) {dt : δ} (hin : Fits size slack (some dt))
    {l : L} (hl : P false l) (w : W) :
    (Outcome.ofSignal (m.resume l dt w).1 : Outcome L δ ε).Within size slack (P false)
      (fun s l => v l + s) (some dt) fun s => v l + s := by
  obtain ⟨hnonneg, hle⟩ := hin dt rfl
  have hr := hm.resume l dt w hl hnonneg
  cases hsig : (m.resume l dt w).1 with
  | paused l' =>
    rw [hsig] at hr
    have hv := hm.nonneg l'
    refine ⟨hr.1, ?_, ?_, ?_⟩
    · simp only [worth]
      linarith [hr.2]
    · simp only [worth]
      linarith [hr.2]
    · linarith
  | finished =>
    rw [hsig] at hr
    have hv := hm.nonneg l
    have hr : v l ≤ size dt := hr
    refine ⟨.inl rfl, ?_, ?_⟩
    · simp only [worth]
      linarith
    · simp only [worth]
      linarith
  | failed e => trivial

theorem Machine.advance_within (hm : m.Metered size P v) (hs : 0 ≤ slack) {fresh : Bool}
    {input : Option δ} (hin : Fits size slack input) {l : L} (hl : P fresh l) (w : W) :
    (m.advance fresh input l w).1.Within size slack (P false) (fun s l => v l + s) input
      fun s => v l + s := by
  cases fresh with
  | false =>
    cases input with
    | none => exact Outcome.within_kept hl (fun _ => rfl) (le_add_of_nonneg_left (hm.nonneg l))
    | some dt => exact Machine.resume_within hm hin hl w
  | true =>
    have hst := hm.start l w hl
    unfold Machine.advance
    rw [if_pos rfl]
    split
    · next l' w' heq =>
      rw [heq] at hst
      cases input with
      | none =>
        refine Outcome.within_kept hst.1 (fun x => ?_) (le_add_of_nonneg_left (hm.nonneg l'))
        rw [hst.2]
      | some dt =>
        have hr := Machine.resume_within hm hin hst.1 w'
        simp only [hst.2] at hr
        exact hr
    · next heq =>
      rw [heq] at hst
      have hst : v l = 0 := hst
      exact Outcome.within_unused (by linarith) (by linarith)
    · trivial

mutual

theorem Routine.advance_within (hm : m.Metered size P v) (hs : 0 ≤ slack) {fresh : Bool}
    {input : Option δ} (hin : Fits size slack input) (r : Routine L) (hr : r.Every P fresh)
    (w : W) :
    (r.advance m fresh input w).1.Within size slack (Routine.Every P false)
      (fun s r => r.due s v) input fun s => r.due s v := by
  cases r with
  | leaf l => exact Outcome.within_map (Machine.advance_within hm hs hin hr w)
  | all ts =>
    simp only [Routine.advance]
    by_cases hempty : (fresh && ts.isEmpty) = true
    · rw [if_pos hempty]
      have hts : ts = [] := List.isEmpty_iff.mp (Bool.and_eq_true_iff.mp hempty).2
      subst hts
      refine Outcome.within_unused ?_ ?_
      · simp [Routine.due, Task.dueMost]
      · simpa [Routine.due, Task.dueMost] using hs
    · rw [if_neg hempty]
      cases input with
      | none =>
        exact Outcome.within_kept hr (fun _ => rfl)
          (le_add_of_nonneg_left (Task.dueMost_nonneg slack v ts))
      | some dt =>
        have hall := Task.advanceAll_within hm hs hin ts hr w
        simp only
        generalize Task.advanceAll m dt ts w = result at hall ⊢
        obtain ⟨r, w'⟩ := result
        rcases r with e | _ | ⟨t, live⟩
        · trivial
        · obtain ⟨-, hlow, -⟩ := hall
          have hmost := Task.dueMost_nonneg slack v ts
          have hle := (hin dt rfl).2
          refine ⟨.inl rfl, ?_, ?_⟩
          · simp only [Task.dueMost] at hlow
            simp only [worth, Routine.due]
            linarith
          · simp only [worth, Routine.due]
            linarith
        · obtain ⟨hlive, hlow, hhigh⟩ := hall
          have hhigh := hhigh (List.cons_ne_nil t live)
          have hmost := Task.dueMost_nonneg slack v (t :: live)
          refine ⟨hlive, ?_, ?_, ?_⟩
          · simp only [worth, Routine.due]
            linarith
          · simp only [worth, Routine.due]
            linarith
          · simp only [Routine.due]
            linarith
  | chain ts => exact Task.advanceChain_within hm hs hin ts hr w
  | delay l t =>
    have hl := Machine.advance_within hm hs hin hr.1 w
    simp only [Routine.advance]
    split
    · next l' w' heq =>
      rw [heq] at hl
      exact Outcome.Within.before hl (fun hl' => ⟨hl', hr.2⟩) (fun _ => rfl)
        (Task.due_nonneg hm.nonneg hs t)
    · trivial
    · next unused w' heq =>
      rw [heq] at hl
      refine Outcome.Within.after hl (Outcome.within_map ?_)
      have ht := Task.advance_within hm hs (hin.rest hl.1) t hr.2 w'
      simpa [Routine.Every, Task.EveryAll, Routine.due, Task.dueSum] using ht
  | seq rs => exact Routine.advanceSeq_within hm hs hin rs hr w

theorem Task.advance_within (hm : m.Metered size P v) (hs : 0 ≤ slack)
    {input : Option δ} (hin : Fits size slack input) (t : Task L) (ht : t.Every P) (w : W) :
    (t.advance m input w).1.Within size slack (Task.Every P) (fun s t => t.due s v) input
      fun s => t.due s v := by
  cases t with
  | fresh r => exact Outcome.within_map (Routine.advance_within hm hs hin r ht w)
  | paused r => exact Outcome.within_map (Routine.advance_within hm hs hin r ht w)
  | crashed =>
    simp only [Task.advance]
    cases input with
    | none => exact Outcome.within_kept trivial (fun _ => rfl) (le_refl _)
    | some dt =>
      have hdt := hin dt rfl
      refine ⟨.inl rfl, ?_, ?_⟩
      · simpa [Task.due, worth] using hdt.1
      · simpa [Task.due, worth] using hdt.2
  | done =>
    simp only [Task.advance]
    exact Outcome.within_unused rfl (le_refl _)

/-- In a group every task loses the same step. A group that is not empty afterwards still has a task
that needed it. -/
theorem Task.advanceAll_within (hm : m.Metered size P v) (hs : 0 ≤ slack) {dt : δ}
    (hin : Fits size slack (some dt)) (ts : List (Task L)) (hts : Task.EveryAll P ts) (w : W) :
    match (Task.advanceAll m dt ts w).1 with
    | .error _ => True
    | .ok live => Task.EveryAll P live ∧
        Task.dueMost 0 v ts ≤ Task.dueMost 0 v live + size dt ∧
        (live ≠ [] → Task.dueMost slack v live + size dt ≤ Task.dueMost slack v ts) := by
  cases ts with
  | nil =>
    rw [Task.advanceAll]
    exact ⟨trivial, by simpa [Task.dueMost] using (hin dt rfl).1, fun hne => absurd rfl hne⟩
  | cons t ts =>
    by_cases hdone : t = .done
    · subst hdone
      trivial
    · have ht := Task.advance_within hm hs hin t hts.1 w
      rw [Task.advanceAll_cons m dt hdone]
      generalize t.advance m (some dt) w = result at ht ⊢
      obtain ⟨o, w'⟩ := result
      have hrest := Task.advanceAll_within hm hs hin ts hts.2 w'
      cases o with
      | failed e => trivial
      | finished unused =>
        obtain ⟨hu, hlow, -⟩ := ht
        have hunused := (hin.rest hu).nonneg
        have hlow : t.due 0 v + worth size unused ≤ size dt := hlow
        simp only
        split
        · trivial
        · next live heq =>
          rw [heq] at hrest
          obtain ⟨hlive, hmlow, hmhigh⟩ := hrest
          refine ⟨hlive, ?_, fun hne => ?_⟩
          · rw [Task.dueMost]
            refine max_le ?_ hmlow
            have hmost := Task.dueMost_nonneg 0 v live
            linarith
          · exact (hmhigh hne).trans (le_max_right _ _)
      | paused t' =>
        obtain ⟨ht', hlow, hhigh, hslack⟩ := ht
        simp only [worth] at hlow hhigh ⊢
        generalize Task.advanceAll m dt ts w' = result at hrest ⊢
        obtain ⟨r, w''⟩ := result
        cases r with
        | error e => trivial
        | ok live =>
          obtain ⟨hlive, hmlow, hmhigh⟩ := hrest
          refine ⟨⟨ht', hlive⟩, ?_, fun _ => ?_⟩
          · rw [Task.dueMost, Task.dueMost, ← max_add_add_right]
            exact max_le_max hlow hmlow
          · rw [Task.dueMost, Task.dueMost, ← max_add_add_right]
            refine max_le (hhigh.trans (le_max_left _ _)) ?_
            -- If no other task is left, the group is held by this one alone.
            by_cases hne : live = []
            · subst hne
              rw [Task.dueMost]
              refine le_trans ?_ (hhigh.trans (le_max_left _ _))
              linarith
            · exact (hmhigh hne).trans (le_max_right _ _)

theorem Task.advanceChain_within (hm : m.Metered size P v) (hs : 0 ≤ slack)
    {input : Option δ} (hin : Fits size slack input) (ts : List (Task L))
    (hts : Task.EveryAll P ts) (w : W) :
    (Task.advanceChain m input ts w).1.Within size slack (Routine.Every P false)
      (fun s r => r.due s v) input fun s => Task.dueSum s v ts := by
  cases ts with
  | nil =>
    rw [Task.advanceChain]
    exact Outcome.within_unused rfl (le_refl _)
  | cons t ts =>
    have ht := Task.advance_within hm hs hin t hts.1 w
    rw [Task.advanceChain]
    split
    · trivial
    · next unused w' heq =>
      rw [heq] at ht
      exact Outcome.Within.after ht (Task.advanceChain_within hm hs (hin.rest ht.1) ts hts.2 w')
    · next t' w' heq =>
      rw [heq] at ht
      exact Outcome.Within.before ht (fun ht' => ⟨ht', hts.2⟩) (fun _ => rfl)
        (Task.dueSum_nonneg hm.nonneg hs ts)

theorem Routine.advanceSeq_within (hm : m.Metered size P v) (hs : 0 ≤ slack) {fresh : Bool}
    {input : Option δ} (hin : Fits size slack input) (rs : List (Routine L))
    (hrs : Routine.EverySeq P fresh rs) (w : W) :
    (Routine.advanceSeq m fresh input rs w).1.Within size slack (Routine.Every P false)
      (fun s r => r.due s v) input fun s => Routine.dueSum s v rs := by
  cases rs with
  | nil =>
    rw [Routine.advanceSeq]
    exact Outcome.within_unused rfl (le_refl _)
  | cons r rs =>
    have hr := Routine.advance_within hm hs hin r hrs.1 w
    rw [Routine.advanceSeq]
    split
    · trivial
    · next unused w' heq =>
      rw [heq] at hr
      exact Outcome.Within.after hr (Routine.advanceSeq_within hm hs (hin.rest hr.1) rs hrs.2 w')
    · next r' w' heq =>
      rw [heq] at hr
      exact Outcome.Within.before hr (fun hr' => ⟨hr', hrs.2⟩) (fun _ => rfl)
        (Routine.dueSum_nonneg hm.nonneg hs rs)

end
end

end Choreo
