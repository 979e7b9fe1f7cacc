import Choreo.Flow.Playback
import Choreo.Proofs.Flow.Leaves
import Choreo.Proofs.Flow.Span
import Choreo.Proofs.Routine.Meter

/-!
Playback in uneven steps.

However the steps come, a plain flow is not done before its span has passed, and it is done at most
one step later for each of its nodes: `Flow.Plain.reports_bounds`. What is lost at the end of a part
is the rest of the step that ended it, which is less than a step.
-/

namespace Choreo

/-! ## What leaves have left -/

namespace Leaf

/-- The leaves of plain flows: actions before they start, and waits and tweens once they run. -/
def Timed : Bool → Leaf Rat → Prop
  | true, l => ∃ a d, l = .todo a ∧ Lasting a d
  | false, l => ∃ elapsed d, Passing l elapsed d

/-- The time such a leaf has left. -/
def left : Leaf Rat → Rat
  | .todo (.wait d) => max d 0
  | .todo (.transition t) => max t.duration 0
  | .todo (.tween _ d _) => max d 0
  | .waiting elapsed d => max (d - elapsed) 0
  | .tweening t => max (t.duration - t.elapsed) 0
  | _ => 0

theorem left_nonneg (l : Leaf Rat) : 0 ≤ l.left := by
  unfold left
  split <;> first | exact le_max_right _ _ | exact le_refl _

theorem Lasting.left_eq {a : Action Rat} {d : Rat} (h : Lasting a d) :
    left (.todo a) = max d 0 := by
  cases h <;> rfl

theorem Passing.left_eq {l : Leaf Rat} {elapsed d : Rat} (h : Passing l elapsed d) :
    l.left = max (d - elapsed) 0 := by
  cases h <;> rfl

variable [Analytic Rat]

theorem machine_metered : (machine : Player Rat).Metered stepSize Timed left where
  nonneg := left_nonneg
  start l w h := by
    obtain ⟨a, d, rfl, ha⟩ := h
    have hsig := start_onTime ha w
    cases hcase : (machine.start (.todo a) w).1 with
    | paused l' =>
      rw [hcase] at hsig
      refine ⟨⟨0, d, hsig.1⟩, ?_⟩
      rw [hsig.1.left_eq, ha.left_eq, sub_zero]
    | finished =>
      rw [hcase] at hsig
      exact ha.left_eq.trans (max_eq_right hsig)
    | failed e => trivial
  resume l dt w h hdt := by
    obtain ⟨elapsed, d, hp⟩ := h
    have hsig := resume_onTime hp dt w
    cases hcase : (machine.resume l dt w).1 with
    | paused l' =>
      rw [hcase] at hsig
      obtain ⟨hp', hlt⟩ := hsig
      refine ⟨⟨_, d, hp'⟩, ?_⟩
      rw [hp'.left_eq, hp.left_eq, max_eq_left (by linarith), max_eq_left (by linarith)]
      linarith
    | finished =>
      rw [hcase] at hsig
      have hsig : d ≤ elapsed + stepSize dt := hsig
      show l.left ≤ stepSize dt
      rw [hp.left_eq]
      exact max_le (by linarith) hdt
    | failed e => trivial

end Leaf

/-! ## What plain flows are due -/

namespace Flow
open Leaf (Timed left)

mutual

theorem Plain.every_timed {f : Flow Rat} (h : f.Plain) (use : String → Leaf Rat) :
    (f.toTask use).Every Timed := by
  cases f with
  | act a =>
    cases a with
    | wait d => exact ⟨_, _, rfl, .wait d⟩
    | transition t => exact ⟨_, _, rfl, .transition t⟩
    | tween tag d easing => exact ⟨_, _, rfl, .tween tag d easing⟩
    | animate | type | mark | ticks | fail => exact h.elim
  | all fs => exact PlainAll.every_timed h .visit
  | chain fs => exact PlainAll.every_timed h .drain
  | delay seconds f =>
    have h : f.Plain := h
    exact ⟨⟨_, _, rfl, .wait seconds⟩, h.every_timed .drain⟩
  | steps | task | named => exact h.elim

theorem PlainAll.every_timed {fs : List (Flow Rat)} (h : PlainAll fs) (use : String → Leaf Rat) :
    Task.EveryAll Timed (toTasks use fs) := by
  cases fs with
  | nil => trivial
  | cons f fs => exact ⟨Plain.every_timed h.1 use, PlainAll.every_timed h.2 use⟩

end

mutual

/-- Without any slack a plain flow is due its span. -/
theorem Plain.due_eq {f : Flow Rat} (h : f.Plain) (use : String → Leaf Rat) :
    (f.toTask use).due 0 left = f.span := by
  cases f with
  | act a =>
    cases a with
    | wait | transition | tween => exact add_zero _
    | animate | type | mark | ticks | fail => exact h.elim
  | all fs => exact (add_zero _).trans (PlainAll.due_eq h .visit).1
  | chain fs => exact (PlainAll.due_eq h .drain).2
  | delay seconds f =>
    have h : f.Plain := h
    rw [toTask, Task.due, Routine.due, Plain.due_eq h, add_zero]
    rfl
  | steps | task | named => exact h.elim

theorem PlainAll.due_eq {fs : List (Flow Rat)} (h : PlainAll fs) (use : String → Leaf Rat) :
    Task.dueMost 0 left (toTasks use fs) = (spans fs).foldr max 0 ∧
      Task.dueSum 0 left (toTasks use fs) = (spans fs).sum := by
  cases fs with
  | nil => exact ⟨rfl, rfl⟩
  | cons f fs =>
    obtain ⟨hmost, hsum⟩ := PlainAll.due_eq h.2 use
    rw [toTasks, Task.dueMost, Task.dueSum, hmost, hsum, Plain.due_eq h.1 use]
    exact ⟨rfl, rfl⟩

end

mutual

/-- A slack for each node is all that a plain flow may be due on top of its span. -/
theorem Plain.due_le {f : Flow Rat} (h : f.Plain) {slack : Rat} (hs : 0 ≤ slack)
    (use : String → Leaf Rat) : (f.toTask use).due slack left ≤ f.span + f.nodes * slack := by
  cases f with
  | act a =>
    cases a with
    | wait | transition | tween =>
      simp only [nodes, Nat.cast_one, one_mul]
      exact le_refl _
    | animate | type | mark | ticks | fail => exact h.elim
  | all fs =>
    have hfs := (PlainAll.due_le h hs .visit).1
    simp only [toTask, Task.due, Routine.due, span, nodes, Nat.cast_add, Nat.cast_one]
    linarith
  | chain fs =>
    have hfs := (PlainAll.due_le h hs .drain).2
    simp only [toTask, Task.due, Routine.due, span, nodes, Nat.cast_add, Nat.cast_one]
    linarith
  | delay seconds f =>
    have h : f.Plain := h
    have hf := Plain.due_le h hs .drain
    simp only [toTask, Task.due, Routine.due, span, nodes, left, Nat.cast_add, Nat.cast_one]
    linarith
  | steps | task | named => exact h.elim

theorem PlainAll.due_le {fs : List (Flow Rat)} (h : PlainAll fs) {slack : Rat} (hs : 0 ≤ slack)
    (use : String → Leaf Rat) :
    Task.dueMost slack left (toTasks use fs) ≤ (spans fs).foldr max 0 + nodesOf fs * slack ∧
      Task.dueSum slack left (toTasks use fs) ≤ (spans fs).sum + nodesOf fs * slack := by
  cases fs with
  | nil => simp [toTasks, Task.dueMost, Task.dueSum, spans, nodesOf]
  | cons f fs =>
    have hf := Plain.due_le h.1 hs use
    obtain ⟨hmost, hsum⟩ := PlainAll.due_le h.2 hs use
    have hnodes : (0 : Rat) ≤ f.nodes * slack := mul_nonneg (Nat.cast_nonneg _) hs
    have hothers : (0 : Rat) ≤ nodesOf fs * slack := mul_nonneg (Nat.cast_nonneg _) hs
    simp only [toTasks, Task.dueMost, Task.dueSum, spans, nodesOf, List.foldr_cons,
      List.sum_cons, Nat.cast_add]
    constructor
    · refine max_le ?_ ?_
      · have hle := le_max_left f.span ((spans fs).foldr max 0)
        linarith
      · have hle := le_max_right f.span ((spans fs).foldr max 0)
        linarith
    · linarith

end

end Flow

/-! ## Playback -/

namespace Playback
variable {α : Type} [Scalar α] [Analytic α]

/-- Stepping the playback through the steps raises nothing, and each call but the last reports that
it is not done. The last reports `done`. -/
def Reports : List α → Bool → Playback α → Show α → Prop
  | [], done, _, _ => done = false
  | dt :: steps, done, p, w =>
    match p.next (some dt) w with
    | ((.ok true, _), _) => steps = [] ∧ done = true
    | ((.ok false, p'), w') => Reports steps done p' w'
    | ((.error _, _), _) => False

instance decidableReports : (steps : List α) → (done : Bool) → (p : Playback α) → (w : Show α) →
    Decidable (p.Reports steps done w)
  | [], done, _, _ => inferInstanceAs (Decidable (done = false))
  | dt :: steps, done, p, w =>
    match h : p.next (some dt) w with
    | ((.ok true, _), _) =>
      decidable_of_iff (steps = [] ∧ done = true) (by simp only [Reports, h])
    | ((.ok false, p'), w') =>
      have := decidableReports steps done p' w'
      decidable_of_iff (p'.Reports steps done w') (by simp only [Reports, h])
    | ((.error _, _), _) => .isFalse (by simp only [Reports, h, not_false_iff])

end Playback

section
variable [Analytic Rat]

theorem Playback.reports_bounds {slack : Rat} (hs : 0 ≤ slack) {steps : List Rat}
    (hsteps : ∀ dt ∈ steps, 0 ≤ dt ∧ dt ≤ slack) {done : Bool} {p : Playback Rat}
    {w : Show Rat} (hp : p.task.Every Leaf.Timed) (hr : p.Reports steps done w) {bound : Rat}
    (hslack : slack ≤ bound) (hdue : p.task.due slack Leaf.left ≤ bound) :
    (done = true → p.task.due 0 Leaf.left ≤ steps.sum) ∧ steps.sum ≤ bound := by
  -- What is due with the slack stays below the bound, and a step takes its size off both.
  induction steps generalizing p w bound with
  | nil =>
    have hr : done = false := hr
    exact ⟨fun hdone => absurd (hr.symm.trans hdone) Bool.noConfusion, hs.trans hslack⟩
  | cons dt steps ih =>
    obtain ⟨hdt, hle⟩ := hsteps dt List.mem_cons_self
    have hfits : Fits Leaf.stepSize slack (some (some dt)) := by
      intro step hstep
      cases hstep
      exact ⟨hdt, hle⟩
    have hwithin := Task.advance_within Leaf.machine_metered hs hfits p.task hp
      { w with crew := p.crew }
    rw [List.sum_cons]
    by_cases hdone : p.task = .done
    · unfold Reports Playback.next Playback.call at hr
      rw [hdone] at hr
      exact hr.elim
    · unfold Reports Playback.next Playback.call at hr
      rw [Task.next_of_ne_done _ _ hdone] at hr
      generalize p.task.advance Leaf.machine (some (some dt)) { w with crew := p.crew } = result
        at hwithin hr
      obtain ⟨o, w'⟩ := result
      cases o with
      | failed e => exact hr.elim
      | finished unused =>
        obtain ⟨rfl, -⟩ := hr
        obtain ⟨hu, hlow, -⟩ := hwithin
        have hunused := (hfits.rest hu).nonneg
        have hlow : p.task.due 0 Leaf.left + worth Leaf.stepSize unused ≤ dt := hlow
        rw [List.sum_nil, add_zero]
        exact ⟨fun _ => by linarith, hle.trans hslack⟩
      | paused t =>
        obtain ⟨ht, hlow, hhigh, hleft⟩ := hwithin
        have hlow : p.task.due 0 Leaf.left ≤ t.due 0 Leaf.left + dt := hlow
        have hhigh : t.due slack Leaf.left + dt ≤ p.task.due slack Leaf.left := hhigh
        have hleft : slack ≤ t.due slack Leaf.left := hleft
        have hslack' : slack ≤ bound - dt := by linarith
        have hdue' : t.due slack Leaf.left ≤ bound - dt := by linarith
        obtain ⟨hlower, hupper⟩ :=
          ih (fun x hx => hsteps x (List.mem_cons_of_mem dt hx)) ht hr hslack' hdue'
        exact ⟨fun hd => by linarith [hlower hd], by linarith⟩

/-- A plain flow that is stepped unevenly is not done before its span has passed, and it is not late
by more than a step for each node. -/
theorem Flow.Plain.reports_bounds {f : Flow Rat} (h : f.Plain) {slack : Rat} (hs : 0 ≤ slack)
    {steps : List Rat} (hsteps : ∀ dt ∈ steps, 0 ≤ dt ∧ dt ≤ slack) {done : Bool} {w : Show Rat}
    (hr : (Playback.ofFlow f).Reports steps done w) :
    (done = true → f.span ≤ steps.sum) ∧ steps.sum ≤ f.span + f.nodes * slack := by
  have hnode : slack ≤ f.span + f.nodes * slack := by
    have hone : (1 : Rat) ≤ f.nodes := by exact_mod_cast f.one_le_nodes
    have hmul := mul_le_mul_of_nonneg_right hone hs
    linarith [f.span_nonneg]
  have hspan : (Playback.ofFlow f).task.due 0 Leaf.left = f.span := h.due_eq .drain
  have hbounds := Playback.reports_bounds hs hsteps (h.every_timed .drain) hr hnode
    (h.due_le hs .drain)
  rw [hspan] at hbounds
  exact hbounds

end

end Choreo
