import Mathlib.Data.ENat.Lattice
import Choreo.Proofs.Routine.Course

/-!
How many steps a task needs.

Some steps and then some more are the same as all of them at once, so once a task is done more steps
change nothing. The number of steps it needs is therefore told by any course that is long enough
(`Task.needed_of_done`), and a course that leaves it undone is shorter than that
(`Task.lt_needed_of_left`). A task that is never done needs infinitely many. A course takes the
steps that are needed, as far as they are given (`Task.steps_eq_min`).
-/

namespace Choreo
variable {L δ W ε : Type}

namespace Fate

theorem map_after_after (a b : Nat) (r : Except ε (Fate L)) :
    (r.map (after a)).map (after b) = r.map (after (b + a)) := by
  cases r with
  | error e => rfl
  | ok f => exact congrArg Except.ok (after_after a b f)

end Fate

namespace Task
variable {m : Machine L δ W ε} {dt : δ} {t t' : Task L} {w v : W} {xs : List δ} {n k : Nat}

/-! ## Some steps and then some more -/

/-- What becomes of a task by more steps: nothing, if it was done or failed before. -/
def goOn (m : Machine L δ W ε) (n : Nat) (ys : List δ) :
    Except ε (Fate L) × W → Except ε (Fate L) × W
  | (.ok (.left t), v) => ((through m ys t v).1.map (Fate.after n), (through m ys t v).2)
  | turn => turn

theorem through_append (m : Machine L δ W ε) (xs ys : List δ) (t : Task L) (w : W) :
    through m (xs ++ ys) t w = goOn m xs.length ys (through m xs t w) := by
  induction xs generalizing t w with
  | nil =>
    simp only [through, goOn, List.nil_append, List.length_nil, Fate.after_zero]
    rcases through m ys t w with ⟨_ | _, _⟩ <;> rfl
  | cons x xs ih =>
    rw [List.cons_append]
    rcases hn : t.next m x w with ⟨⟨r, u⟩, w'⟩
    rcases r with e | _ | _
    · rw [through_of_error hn, through_of_error hn]
      rfl
    · rw [through_of_paused hn, through_of_paused hn, ih]
      rcases through m xs u w' with ⟨e | ⟨j⟩ | ⟨u'⟩, v⟩
      · rfl
      · rfl
      · have hafter := Fate.map_after_after xs.length 1 (through m ys u' v).1
        rw [Nat.add_comm] at hafter
        exact congrArg (Prod.mk · (through m ys u' v).2) hafter
    · rw [through_of_done hn, through_of_done hn]
      rfl

end Task
end Choreo
