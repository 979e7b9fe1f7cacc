import Choreo.Proofs.Flow.Span
import Choreo.Script.Duration

/-!
The flows that expressions make.

A call of one of the library's functions by its name, with numbers for durations, makes a flow when
the script runs. The estimate reads the span of that flow off the expression:
`Makes.taskDuration_eq`.
-/

namespace Choreo
namespace Script

mutual

/-- The expression makes the flow. What a tween reports to and how it is eased are told by name, or
by arguments that are no numbers. -/
inductive Makes : Expr → Flow Rat → Prop where
  | wait {callee a : Expr} {d : Rat} (name : callee.calledName? = some "wait_for")
      (literal : a.literal? = .ok (some d)) : Makes (.call callee [a] []) (.act (.wait d))
  | transition {callee a : Expr} {t : Transition Rat}
      (name : callee.calledName? = some t.kind.name)
      (literal : a.literal? = .ok (some t.duration)) :
      Makes (.call callee [a] []) (.act (.transition t))
  | tween {callee a : Expr} {rest named : List Expr} {tag : String} {d : Rat} {easing : Easing Rat}
      (name : callee.calledName? = some "tween") (literal : a.literal? = .ok (some d))
      (others : ∀ e ∈ rest, e.isStarred = false ∧ e.literal? = .ok (none : Option Rat)) :
      Makes (.call callee (a :: rest) named) (.act (.tween tag d easing))
  | all {callee : Expr} {args : List Expr} {fs : List (Flow Rat)}
      (name : callee.calledName? = some "all_of") (parts : MakeAll args fs) :
      Makes (.call callee args []) (.all fs)
  | chain {callee : Expr} {args : List Expr} {fs : List (Flow Rat)}
      (name : callee.calledName? = some "chain") (parts : MakeAll args fs) :
      Makes (.call callee args []) (.chain fs)
  | delay {callee a e : Expr} {seconds : Rat} {f : Flow Rat}
      (name : callee.calledName? = some "delay") (literal : a.literal? = .ok (some seconds))
      (part : Makes e f) : Makes (.call callee [a, e] []) (.delay seconds f)

/-- The expressions make the flows, one each. -/
inductive MakeAll : List Expr → List (Flow Rat) → Prop where
  | nil : MakeAll [] []
  | cons {e : Expr} {f : Flow Rat} {es : List Expr} {fs : List (Flow Rat)} (first : Makes e f)
      (others : MakeAll es fs) : MakeAll (e :: es) (f :: fs)

end

namespace Expr

theorem isStarred_of_literal? {e : Expr} {d : Rat} (h : e.literal? = .ok (some d)) :
    e.isStarred = false := by
  cases e with
  | starred e => cases h
  | _ => rfl

theorem forall_isStarred_of_literal? {e : Expr} {d : Rat} (h : e.literal? = .ok (some d)) :
    ∀ e' ∈ [e], e'.isStarred = false := by
  intro e' he'
  rw [List.mem_singleton.mp he', isStarred_of_literal? h]

/-- Arguments without a starred one are all plain. -/
theorem filter_isStarred {es : List Expr} (h : ∀ e ∈ es, e.isStarred = false) :
    (es.filter fun e => !e.isStarred) = es := by
  rw [List.filter_eq_self]
  intro e he
  rw [h e he]
  rfl

theorem literalDuration_eq {e : Expr} {d : Rat} (h : e.literal? = .ok (some d)) :
    e.literalDuration = .ok (max d 0) := by
  rw [literalDuration, h]
  exact congrArg Except.ok (Scalar.larger_rat d 0)

theorem firstDuration_cons {a : Expr} {d : Rat} (ha : a.literal? = .ok (some d))
    (es : List Expr) : firstDuration (a :: es) = .ok (max d 0) := by
  rw [firstDuration, ha]
  exact congrArg Except.ok (Scalar.larger_rat d 0)

/-- What is no number is passed over. -/
theorem firstDuration_append {es : List Expr} (hes : ∀ e ∈ es, e.literal? = .ok (none : Option Rat))
    {a : Expr} {d : Rat} (ha : a.literal? = .ok (some d)) :
    firstDuration (es ++ [a]) = .ok (max d 0) := by
  induction es with
  | nil => exact firstDuration_cons ha []
  | cons e es ih =>
    rw [List.cons_append, firstDuration, hes e List.mem_cons_self]
    exact ih fun e' he' => hes e' (List.mem_cons_of_mem e he')

/-- The largest of a list in which no number is negative. -/
theorem longest_eq {xs : List Rat} (hxs : ∀ x ∈ xs, 0 ≤ x) : longest xs = xs.foldr max 0 := by
  have hfold : ∀ (xs : List Rat) (a : Rat), 0 ≤ a → (∀ x ∈ xs, 0 ≤ x) →
      xs.foldl Scalar.larger a = max a (xs.foldr max 0) := by
    intro xs
    induction xs with
    | nil => exact fun a ha _ => (max_eq_left ha).symm
    | cons x xs ih =>
      intro a ha hxs
      rw [List.foldl_cons, Scalar.larger_rat, List.foldr_cons,
        ih _ (le_max_of_le_left ha) fun y hy => hxs y (List.mem_cons_of_mem x hy), max_assoc]
  cases xs with
  | nil => rfl
  | cons x xs =>
    rw [longest, List.foldr_cons]
    exact hfold xs x (hxs x List.mem_cons_self) fun y hy => hxs y (List.mem_cons_of_mem x hy)

end Expr

theorem Makes.isStarred_eq {e : Expr} {f : Flow Rat} (h : Makes e f) : e.isStarred = false := by
  cases h <;> rfl

mutual

theorem Makes.taskDuration_eq {e : Expr} {f : Flow Rat} (h : Makes e f) :
    e.taskDuration = .ok f.span := by
  cases h with
  | wait name literal =>
    rw [Expr.taskDuration, name]
    simp only [Expr.filter_isStarred (Expr.forall_isStarred_of_literal? literal)]
    rw [if_neg (by decide), if_neg (by decide), if_pos (by decide)]
    exact Expr.literalDuration_eq literal
  | @transition _ a t name literal =>
    obtain ⟨kind, d⟩ := t
    rw [Expr.taskDuration, name]
    simp only [Expr.filter_isStarred (Expr.forall_isStarred_of_literal? literal)]
    cases kind <;>
      rw [if_neg (by decide), if_neg (by decide), if_neg (by decide), if_neg (by decide)] <;>
      exact Expr.firstDuration_cons literal []
  | @tween _ a rest _ _ _ _ name literal others =>
    have hplain : ∀ e ∈ a :: rest, e.isStarred = false := by
      intro e he
      rcases List.mem_cons.mp he with rfl | he
      · exact Expr.isStarred_of_literal? literal
      · exact (others e he).1
    rw [Expr.taskDuration, name]
    simp only [Expr.filter_isStarred hplain]
    rw [if_neg (by decide), if_neg (by decide), if_neg (by decide), if_neg (by decide),
      List.reverse_cons]
    exact Expr.firstDuration_append
      (fun e he => (others e (List.mem_reverse.mp he)).2) literal
  | all name parts =>
    rw [Expr.taskDuration, name]
    simp only
    rw [if_pos (by decide), parts.taskDurations_eq]
    exact congrArg Except.ok (Expr.longest_eq (Flow.spans_nonneg _))
  | chain name parts =>
    rw [Expr.taskDuration, name]
    simp only
    rw [if_neg (by decide), if_pos (by decide), parts.taskDurations_eq]
    exact congrArg Except.ok (Scalar.sum_rat _)
  | @delay _ a e _ _ name literal part =>
    have hplain : ∀ e' ∈ [a, e], e'.isStarred = false := by
      intro e' he'
      rcases List.mem_cons.mp he' with rfl | he'
      · exact Expr.isStarred_of_literal? literal
      · rw [List.mem_singleton.mp he', part.isStarred_eq]
    have hsecond : (Expr.secondTask false [a, e] : Except NumberFault Rat) = e.taskDuration := by
      simp only [Expr.secondTask, Expr.isStarred_of_literal? literal, part.isStarred_eq,
        Bool.false_eq_true, if_false, if_true]
    rw [Expr.taskDuration, name]
    simp only [Expr.filter_isStarred hplain, hsecond, part.taskDuration_eq]
    rw [if_neg (by decide), if_neg (by decide), if_neg (by decide), if_pos (by decide),
      if_neg (by simp), Expr.durationAt]
    simp only [List.getElem?_cons_zero, Expr.literalDuration_eq literal]
    rfl

theorem MakeAll.taskDurations_eq {es : List Expr} {fs : List (Flow Rat)} (h : MakeAll es fs) :
    Expr.taskDurations es = .ok (Flow.spans fs) := by
  cases h with
  | nil => rw [Expr.taskDurations, Flow.spans]
  | cons first others =>
    rw [Expr.taskDurations, first.isStarred_eq, first.taskDuration_eq, others.taskDurations_eq]
    rfl

end

mutual

theorem Makes.plain {e : Expr} {f : Flow Rat} (h : Makes e f) : f.Plain := by
  cases h with
  | wait | transition | tween => trivial
  | all _ parts | chain _ parts => exact parts.plain
  | delay _ _ part => exact part.plain

theorem MakeAll.plain {es : List Expr} {fs : List (Flow Rat)} (h : MakeAll es fs) :
    Flow.PlainAll fs := by
  cases h with
  | nil => trivial
  | cons first others => exact ⟨first.plain, others.plain⟩

end

end Script
end Choreo
