import Mathlib.Algebra.Order.Field.Rat
import Mathlib.Tactic.Linarith
import Mathlib.Tactic.Ring
import Choreo.Easing
import Choreo.Proofs.Number.Rational

/-!
The curves over rationals, and their reflections.

`Curve.inCubic_rat` and its like write out where a curve is at a time. A family has three forms, and
each form reflects another (`Easing.families_reflect`): entering is leaving backwards, and the two
halves of in-out are each other's reflection. Each form has constants and a branch of its own, so a
family is looked at form by form, and in-out on both sides of its switch and at the switch.
-/

namespace Choreo
namespace Curve

/-! ## Where the curves are -/

theorem inCubic_rat (t : Rat) : inCubic t = .ok (t * t * t) := rfl

theorem outCubic_rat (t : Rat) : outCubic t = .ok (1 - (1 - t) ^ 3) := rfl

theorem inBack_rat (t : Rat) :
    inBack t = .ok ((1.70158 + 1) * t ^ 3 - 1.70158 * t ^ 2) := rfl

theorem outBack_rat (t : Rat) :
    outBack t = .ok (1 + (1.70158 + 1) * (t - 1) ^ 3 + 1.70158 * (t - 1) ^ 2) := rfl

theorem inBounce_rat (t : Rat) : inBounce t = .ok (1 - bounce (1 - t)) := rfl

theorem outBounce_rat (t : Rat) : outBounce t = .ok (bounce t) := rfl

section
variable {t : Rat}

theorem inOutCubic_rat_of_lt (h : t < 0.5) : inOutCubic t = .ok (4 * t * t * t) := if_pos h

theorem inOutCubic_rat_of_le (h : 0.5 ≤ t) : inOutCubic t = .ok (1 - (-2 * t + 2) ^ 3 / 2) :=
  if_neg (not_lt.mpr h)

theorem inOutBack_rat_of_lt (h : t < 0.5) : inOutBack t =
    .ok ((2 * t) ^ 2 * ((1.70158 * 1.525 + 1) * 2 * t - 1.70158 * 1.525) / 2) := if_pos h

theorem inOutBack_rat_of_le (h : 0.5 ≤ t) : inOutBack t =
    .ok (((2 * t - 2) ^ 2 *
      ((1.70158 * 1.525 + 1) * (t * 2 - 2) + 1.70158 * 1.525) + 2) / 2) :=
  if_neg (not_lt.mpr h)

theorem inOutBounce_rat_of_lt (h : t < 0.5) :
    inOutBounce t = .ok ((1 - bounce (1 - 2 * t)) / 2) := if_pos h

theorem inOutBounce_rat_of_le (h : 0.5 ≤ t) :
    inOutBounce t = .ok ((1 + bounce (2 * t - 1)) / 2) := if_neg (not_lt.mpr h)

end

/-- The ball starts from the ground. -/
theorem bounce_zero : bounce (0 : Rat) = 0 := by decide +kernel

/-! ## Reflections -/

/-- One curve is the other one backwards: what one has reached at a time the other still lacks at
the opposite time. -/
def Reflects (f g : Curve Rat) : Prop := ∀ t, ∃ y, g (1 - t) = .ok y ∧ f t = .ok (1 - y)

theorem inCubic_reflects : Reflects inCubic outCubic := by
  intro t
  have hy : t * t * t = 1 - (1 - (1 - (1 - t)) ^ 3) := by ring
  exact ⟨_, outCubic_rat (1 - t), (inCubic_rat t).trans (congrArg Except.ok hy)⟩

theorem inBack_reflects : Reflects inBack outBack := by
  intro t
  have hy : (1.70158 + 1) * t ^ 3 - 1.70158 * t ^ 2 =
      1 - (1 + (1.70158 + 1) * (1 - t - 1) ^ 3 + 1.70158 * (1 - t - 1) ^ 2) := by ring
  exact ⟨_, outBack_rat (1 - t), (inBack_rat t).trans (congrArg Except.ok hy)⟩

theorem inBounce_reflects : Reflects inBounce outBounce :=
  fun t => ⟨_, outBounce_rat (1 - t), inBounce_rat t⟩

/-- A curve in two halves reflects itself when each half is the other one backwards, and the second
half starts in the middle. -/
theorem reflects_of_halves {f : Curve Rat} {first second : Rat → Rat}
    (hfirst : ∀ t, t < 0.5 → f t = .ok (first t)) (hsecond : ∀ t, 0.5 ≤ t → f t = .ok (second t))
    (hhalves : ∀ t, first t = 1 - second (1 - t)) (hmiddle : second 0.5 = 0.5) :
    Reflects f f := by
  intro t
  rcases lt_trichotomy t 0.5 with ht | rfl | ht
  · have hopposite : (0.5 : Rat) ≤ 1 - t := by linarith
    exact ⟨_, hsecond _ hopposite, (hfirst t ht).trans (congrArg Except.ok (hhalves t))⟩
  · have hopposite : (1 : Rat) - 0.5 = 0.5 := by norm_num
    have hy : second 0.5 = 1 - second 0.5 := by rw [hmiddle, hopposite]
    rw [hopposite]
    exact ⟨_, hsecond _ le_rfl, (hsecond _ le_rfl).trans (congrArg Except.ok hy)⟩
  · have hopposite : 1 - t < (0.5 : Rat) := by linarith
    have hy : second t = 1 - first (1 - t) := by rw [hhalves, sub_sub_cancel, sub_sub_cancel]
    exact ⟨_, hfirst _ hopposite, (hsecond t ht.le).trans (congrArg Except.ok hy)⟩

theorem inOutCubic_reflects : Reflects inOutCubic inOutCubic :=
  reflects_of_halves (fun _ => inOutCubic_rat_of_lt) (fun _ => inOutCubic_rat_of_le)
    (fun t => by ring) (by norm_num)

theorem inOutBack_reflects : Reflects inOutBack inOutBack :=
  reflects_of_halves (fun _ => inOutBack_rat_of_lt) (fun _ => inOutBack_rat_of_le)
    (fun t => by ring) (by norm_num)

theorem inOutBounce_reflects : Reflects inOutBounce inOutBounce := by
  have hmiddle : (1 + bounce (2 * 0.5 - 1 : Rat)) / 2 = 0.5 := by
    rw [show (2 * 0.5 - 1 : Rat) = 0 by norm_num, bounce_zero]
    norm_num
  refine reflects_of_halves (fun _ => inOutBounce_rat_of_lt) (fun _ => inOutBounce_rat_of_le)
    (fun t => ?_) hmiddle
  have htime : 2 * (1 - t) - 1 = 1 - 2 * t := by ring
  rw [htime]
  ring

end Curve

/-- In each of these families entering is leaving backwards, and in-out is itself backwards. -/
theorem Easing.families_reflect [Analytic Rat] {family : String}
    (hfamily : family ∈ ["cubic", "back", "bounce"]) :
    ∃ inward outward both : Curve Rat,
      Easing.resolve (.named ("in-" ++ family)) = .ok inward ∧
      Easing.resolve (.named ("out-" ++ family)) = .ok outward ∧
      Easing.resolve (.named ("in-out-" ++ family)) = .ok both ∧
      inward.Reflects outward ∧ both.Reflects both := by
  simp only [List.mem_cons, List.not_mem_nil, or_false] at hfamily
  rcases hfamily with rfl | rfl | rfl
  · exact ⟨_, _, _, rfl, rfl, rfl, Curve.inCubic_reflects, Curve.inOutCubic_reflects⟩
  · exact ⟨_, _, _, rfl, rfl, rfl, Curve.inBack_reflects, Curve.inOutBack_reflects⟩
  · exact ⟨_, _, _, rfl, rfl, rfl, Curve.inBounce_reflects, Curve.inOutBounce_reflects⟩

/-- A ball that bounces in is one that bounces out, backwards. -/
theorem Easing.bounce_family_reflects :
    "bounce" ∈ ["cubic", "back", "bounce"] ∧
    ∃ inward outward both : Curve Rat,
      Easing.resolve (.named "in-bounce") = .ok inward ∧
      Easing.resolve (.named "out-bounce") = .ok outward ∧
      Easing.resolve (.named "in-out-bounce") = .ok both ∧
      inward.Reflects outward ∧ both.Reflects both := by
  have hfamily : "bounce" ∈ ["cubic", "back", "bounce"] := by decide
  exact ⟨hfamily, families_reflect hfamily⟩

end Choreo
