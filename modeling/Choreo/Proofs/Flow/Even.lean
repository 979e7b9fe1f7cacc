import Mathlib.Tactic.Linarith
import Choreo.Flow.Playback
import Choreo.Proofs.Flow.Leaves
import Choreo.Proofs.Flow.Span
import Choreo.Proofs.Routine.Countdown

/-!
Playback in even steps.

When every duration of a flow is a whole number of steps, the steps of its parts add up and nothing
is lost between them: the flow is done exactly when its span has passed. For a sequence of such
flows this is `Flow.finishesAfter_steps`.
-/

namespace Choreo

/-! ## Leaves -/

namespace Leaf

/-- The steps of size `dt` that a wait has left, of which there is one at least. -/
def Counting (dt : Rat) : Bool → Leaf Rat → Nat → Prop
  | true, l, n => 0 < n ∧ ((∃ d, l = .todo (.wait d) ∧ d = n * dt) ∨
      ∃ t, l = .todo (.transition t) ∧ t.duration = n * dt)
  | false, l, n => 0 < n ∧ ∃ elapsed d, l = .waiting elapsed d ∧ d - elapsed = n * dt

variable {dt : Rat}

/-- A wait of some steps begins with all of them left. -/
theorem wait_counting (hdt : 0 < dt) {elapsed d : Rat} {n : Nat} (hn : 0 < n)
    (h : d - elapsed = n * dt) (w : Show Rat) :
    wait elapsed d w = (.paused (.waiting elapsed d), w) ∧
      Counting dt false (.waiting elapsed d) n := by
  have hpos : (0 : Rat) < n * dt := mul_pos (Nat.cast_pos.mpr hn) hdt
  have hlt : elapsed < d := by linarith
  exact ⟨if_pos hlt, hn, elapsed, d, rfl, h⟩

theorem machine_countsDown [Analytic Rat] (hdt : 0 < dt) :
    (machine : Player Rat).CountsDown (some dt) (Counting dt) where
  pos fresh l n h := by
    cases fresh <;> exact h.1
  start l n w h := by
    obtain ⟨hn, ⟨d, rfl, hd⟩ | ⟨t, rfl, hd⟩⟩ := h
    · obtain ⟨heq, hc⟩ := wait_counting hdt hn ((sub_zero d).trans hd) w
      exact ⟨_, w, (machine_start_todo _ w).trans heq, hc⟩
    · obtain ⟨heq, hc⟩ := wait_counting hdt hn ((sub_zero t.duration).trans hd) w
      exact ⟨_, w, (machine_start_todo _ w).trans heq, hc⟩
  last l w h := by
    obtain ⟨-, elapsed, d, rfl, hd⟩ := h
    rw [Nat.cast_one, one_mul] at hd
    have hpassed : ¬elapsed + dt < d := by linarith
    rw [machine_resume_waiting]
    exact ⟨w, if_neg hpassed⟩
  next l n w h := by
    obtain ⟨-, elapsed, d, rfl, hd⟩ := h
    have hleft : d - (elapsed + dt) = (n + 1 : Nat) * dt := by
      push_cast at hd ⊢
      linarith
    obtain ⟨heq, hc⟩ := wait_counting hdt (Nat.succ_pos n) hleft w
    rw [machine_resume_waiting]
    exact ⟨_, w, heq, hc⟩

end Leaf

/-! ## Flows of whole steps -/

namespace Flow
open Leaf (Counting)

mutual

/-- The flow is made of waits and transitions of whole steps, in parallel, in sequence and behind
delays, and no combination of it is empty. -/
def Aligned (dt : Rat) : Flow Rat → Prop
  | .act (.wait d) => ∃ n : Nat, 0 < n ∧ d = n * dt
  | .act (.transition t) => ∃ n : Nat, 0 < n ∧ t.duration = n * dt
  | .all fs => fs ≠ [] ∧ AlignedAll dt fs
  | .chain fs => fs ≠ [] ∧ AlignedAll dt fs
  | .delay seconds f => (∃ n : Nat, 0 < n ∧ seconds = n * dt) ∧ Aligned dt f
  | _ => False

def AlignedAll (dt : Rat) : List (Flow Rat) → Prop
  | [] => True
  | f :: fs => Aligned dt f ∧ AlignedAll dt fs

end

section
variable {dt : Rat}

theorem Aligned.toTask_eq {f : Flow Rat} (h : f.Aligned dt) (use : String → Leaf Rat) :
    f.toTask use = .fresh f.toRoutine := by
  cases f with
  | act | all | chain | delay => rfl
  | steps | task | named => exact h.elim

mutual

/-- An aligned flow names no task. -/
theorem Aligned.nameCount_eq {f : Flow Rat} (h : f.Aligned dt) : f.nameCount = 0 := by
  cases f with
  | act a => rfl
  | all fs => exact AlignedAll.nameCounts_eq h.2
  | chain fs => exact AlignedAll.nameCounts_eq h.2
  | delay seconds f =>
    have h : f.Aligned dt := h.2
    exact h.nameCount_eq
  | steps | task | named => exact h.elim

theorem AlignedAll.nameCounts_eq {fs : List (Flow Rat)} (h : AlignedAll dt fs) :
    nameCounts fs = 0 := by
  cases fs with
  | nil => rfl
  | cons f fs => rw [nameCounts, Aligned.nameCount_eq h.1, AlignedAll.nameCounts_eq h.2]

end

mutual

/-- An aligned flow has the steps left that make up its span. -/
theorem Aligned.lasts (hdt : 0 < dt) {f : Flow Rat} (h : f.Aligned dt) :
    ∃ n : Nat, 0 < n ∧ f.span = n * dt ∧ f.toRoutine.Lasts (Counting dt) true n := by
  have hspan : ∀ n : Nat, max ((n : Rat) * dt) 0 = n * dt := fun n =>
    max_eq_left (mul_nonneg (Nat.cast_nonneg n) hdt.le)
  cases f with
  | act a =>
    cases a with
    | wait d =>
      obtain ⟨n, hn, rfl⟩ := h
      exact ⟨n, hn, hspan n, hn, .inl ⟨_, rfl, rfl⟩⟩
    | transition t =>
      obtain ⟨n, hn, hd⟩ := h
      refine ⟨n, hn, ?_, hn, .inr ⟨t, rfl, hd⟩⟩
      rw [span, hd]
      exact hspan n
    | tween | animate | type | mark | ticks | fail => exact h.elim
  | all fs =>
    obtain ⟨most, _, hmost, -, hlast, -, hpos⟩ := AlignedAll.lasts hdt h.2 .visit
    exact ⟨most, (hpos h.1).1, hmost, (hpos h.1).1, hlast⟩
  | chain fs =>
    obtain ⟨_, total, -, htotal, -, hlast, hpos⟩ := AlignedAll.lasts hdt h.2 .drain
    exact ⟨total, (hpos h.1).2, htotal, hlast⟩
  | delay seconds f =>
    obtain ⟨⟨a, ha, rfl⟩, hf⟩ := h
    obtain ⟨b, hb, hspanf, hlast⟩ := Aligned.lasts hdt hf
    refine ⟨a + b, by omega, ?_, a, b, ⟨ha, .inl ⟨_, rfl, rfl⟩⟩, ?_, rfl⟩
    · rw [span, hspan, hspanf, Nat.cast_add, add_mul]
    · rw [hf.toTask_eq]
      exact hlast
  | steps | task | named => exact h.elim

theorem AlignedAll.lasts (hdt : 0 < dt) {fs : List (Flow Rat)} (h : AlignedAll dt fs)
    (use : String → Leaf Rat) :
    ∃ most total : Nat, (spans fs).foldr max 0 = most * dt ∧ (spans fs).sum = total * dt ∧
      Task.LastMost (Counting dt) (toTasks use fs) most ∧
      Task.LastInTurn (Counting dt) (toTasks use fs) total ∧ (fs ≠ [] → 0 < most ∧ 0 < total) := by
  cases fs with
  | nil => exact ⟨0, 0, by simp [spans], by simp [spans], rfl, rfl, fun hne => absurd rfl hne⟩
  | cons f fs =>
    obtain ⟨n, hn, hspan, hlast⟩ := Aligned.lasts hdt h.1
    obtain ⟨most, total, hmost, htotal, hlastm, hlastt, -⟩ := AlignedAll.lasts hdt h.2 use
    have htask : (f.toTask use).Lasts (Counting dt) n := by
      rw [h.1.toTask_eq]
      exact hlast
    refine ⟨max n most, n + total, ?_, ?_, ⟨n, most, hn, htask, hlastm, rfl⟩,
      ⟨n, total, htask, hlastt, rfl⟩, fun _ => ⟨by omega, by omega⟩⟩
    · rw [spans, List.foldr_cons, hspan, hmost, Nat.cast_max, max_mul_of_nonneg _ _ hdt.le]
    · rw [spans, List.sum_cons, hspan, htotal, Nat.cast_add, add_mul]

end

theorem toRoutines_lasts (hdt : 0 < dt) {fs : List (Flow Rat)} (h : ∀ f ∈ fs, f.Aligned dt) :
    ∃ n : Nat, (spans fs).sum = n * dt ∧
      Routine.LastInTurn (Counting dt) true (toRoutines fs) n := by
  induction fs with
  | nil => exact ⟨0, by simp [spans], rfl⟩
  | cons f fs ih =>
    have hf := h f List.mem_cons_self
    obtain ⟨a, -, hspan, hlast⟩ := hf.lasts hdt
    obtain ⟨b, hsum, hlasts⟩ := ih fun g hg => h g (List.mem_cons_of_mem f hg)
    refine ⟨a + b, ?_, ?_⟩
    · rw [spans, List.sum_cons, hspan, hsum, Nat.cast_add, add_mul]
    · rw [toRoutines, if_pos hf.nameCount_eq]
      exact ⟨a, b, hlast, hlasts, rfl⟩

end
end Flow

/-! ## Playback -/

namespace Playback
variable {α : Type} [Scalar α] [Analytic α]

/-- Started and then stepped by `dt` each time, the playback is done with the `n`th step and raises
nothing. -/
def FinishesAfter (dt : α) (n : Nat) (p : Playback α) (w : Show α) : Prop :=
  match p.start w with
  | ((.ok true, _), _) => n = 0
  | ((.ok false, p'), w') => (p'.play (some dt) n w').1.1 = .ok (some n)
  | ((.error _, _), _) => False

end Playback

section
variable [Analytic Rat] {dt : Rat}

theorem Playback.play_lasts (hdt : 0 < dt) {n : Nat} (hn : 0 < n) {p : Playback Rat}
    (hp : p.task.Lasts (Leaf.Counting dt) n) (w : Show Rat) :
    (p.play (some dt) n w).1.1 = .ok (some n) := by
  -- Each step leaves one step less, and the task is done with the last.
  induction n generalizing p w with
  | zero => omega
  | succ n ih =>
    have hdone : p.task ≠ .done := by
      intro heq
      rw [heq] at hp
      exact hp
    have hcounts := Task.advance_counts (Leaf.machine_countsDown hdt) (.inr rfl) p.task hp
      { w with crew := p.crew }
    unfold play next call
    rw [Task.next_of_ne_done _ _ hdone]
    generalize p.task.advance Leaf.machine (some (some dt)) { w with crew := p.crew } = result
      at hcounts ⊢
    obtain ⟨o, w'⟩ := result
    cases o with
    | failed e => exact hcounts.elim
    | finished unused =>
      have hcount : 1 = n + 1 + inputCount unused := hcounts.2
      have hn : n = 0 := by omega
      subst hn
      rfl
    | paused t =>
      obtain ⟨k, hk, ht, hcount⟩ := hcounts
      have hcount : n + 1 = k + 1 := hcount
      have hkn : k = n := by omega
      subst hkn
      have hplay := ih hk (p := ⟨t, w'.crew⟩) ht w'
      simp only [Task.report, hplay]
      rfl

/-- A sequence of aligned flows is done exactly when their spans have passed. -/
theorem Flow.finishesAfter_steps (hdt : 0 < dt) {fs : List (Flow Rat)}
    (h : ∀ f ∈ fs, f.Aligned dt) :
    ∃ n : Nat, (spans fs).sum = n * dt ∧
      ∀ w, (Playback.ofFlow (.steps fs)).FinishesAfter dt n w := by
  obtain ⟨n, hsum, hlast⟩ := toRoutines_lasts hdt h
  refine ⟨n, hsum, fun w => ?_⟩
  have hcounts := Task.advance_counts (Leaf.machine_countsDown hdt) (.inl rfl)
    (Playback.ofFlow (.steps fs)).task (n := n) hlast
    { w with crew := (Playback.ofFlow (.steps fs)).crew }
  unfold Playback.FinishesAfter Playback.start Playback.call Task.start
  generalize (Playback.ofFlow (.steps fs)).task.advance Leaf.machine none
    { w with crew := (Playback.ofFlow (.steps fs)).crew } = result at hcounts ⊢
  obtain ⟨o, w'⟩ := result
  cases o with
  | failed e => exact hcounts.elim
  | finished unused =>
    have hcount : 0 = n + inputCount unused := hcounts.2
    show n = 0
    omega
  | paused t =>
    obtain ⟨k, hk, ht, hcount⟩ := hcounts
    have hcount : n = k := hcount
    subst hcount
    exact Playback.play_lasts hdt hk (p := ⟨t, w'.crew⟩) ht w'

end

end Choreo
