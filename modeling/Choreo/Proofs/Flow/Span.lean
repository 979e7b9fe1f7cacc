import Mathlib.Algebra.Order.BigOperators.Group.List
import Choreo.Flow.Basic
import Choreo.Proofs.Number.Rational

/-!
How long a flow takes, and of how many nodes it is made.

The span of a flow is its length when every part starts on time: parallel parts take as long as the
longest and the others as long as all together. It is told of plain flows; what other actions take
depends on where they play.
-/

namespace Choreo
namespace Flow

mutual

def span : Flow Rat → Rat
  | .act (.wait d) => max d 0
  | .act (.transition t) => max t.duration 0
  | .act (.tween _ d _) => max d 0
  | .act _ => 0
  | .all fs => (spans fs).foldr max 0
  | .chain fs => (spans fs).sum
  | .delay seconds f => max seconds 0 + span f
  | .steps fs => (spans fs).sum
  | .task f => span f
  | .named _ f => span f

def spans : List (Flow Rat) → List Rat
  | [] => []
  | f :: fs => span f :: spans fs

end

mutual

/-- The flow is made of waits, transitions and tweens, in parallel, in sequence and behind
delays. -/
def Plain {α : Type} : Flow α → Prop
  | .act (.wait _) => True
  | .act (.transition _) => True
  | .act (.tween _ _ _) => True
  | .all fs => PlainAll fs
  | .chain fs => PlainAll fs
  | .delay _ f => Plain f
  | _ => False

def PlainAll {α : Type} : List (Flow α) → Prop
  | [] => True
  | f :: fs => Plain f ∧ PlainAll fs

end

mutual

/-- How many nodes a flow is made of. -/
def nodes {α : Type} : Flow α → Nat
  | .act _ => 1
  | .all fs => nodesOf fs + 1
  | .chain fs => nodesOf fs + 1
  | .delay _ f => nodes f + 1
  | .steps fs => nodesOf fs + 1
  | .task f => nodes f + 1
  | .named _ f => nodes f + 1

def nodesOf {α : Type} : List (Flow α) → Nat
  | [] => 0
  | f :: fs => nodes f + nodesOf fs

end

mutual

theorem span_nonneg (f : Flow Rat) : 0 ≤ f.span := by
  cases f with
  | act a =>
    cases a with
    | wait | transition | tween => exact le_max_right _ _
    | animate | type | mark | ticks | fail => exact le_refl _
  | all fs =>
    rw [span]
    generalize spans fs = l
    induction l with
    | nil => exact le_refl _
    | cons x l ih => exact le_max_of_le_right ih
  | chain fs | steps fs => exact List.sum_nonneg (spans_nonneg fs)
  | delay seconds f => exact add_nonneg (le_max_right _ _) (span_nonneg f)
  | task f | named _ f => exact span_nonneg f

theorem spans_nonneg (fs : List (Flow Rat)) : ∀ x ∈ spans fs, 0 ≤ x := by
  cases fs with
  | nil => exact fun x hx => absurd hx List.not_mem_nil
  | cons f fs =>
    intro x hx
    rw [spans, List.mem_cons] at hx
    rcases hx with rfl | hx
    · exact span_nonneg f
    · exact spans_nonneg fs x hx

end

theorem one_le_nodes {α : Type} (f : Flow α) : 1 ≤ f.nodes := by
  cases f <;> simp [nodes]

theorem spans_append (fs gs : List (Flow Rat)) : spans (fs ++ gs) = spans fs ++ spans gs := by
  induction fs with
  | nil => rfl
  | cons f fs ih => rw [List.cons_append, spans, spans, ih, List.cons_append]

end Flow
end Choreo
