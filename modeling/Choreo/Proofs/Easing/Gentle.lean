import Mathlib.Tactic.NormNum
import Mathlib.Tactic.Positivity
import Choreo.Proofs.Easing.Reflected

/-!
Curves that do not overshoot.

A gentle curve keeps between nought and one while time does, and has both ends right; a climbing one
never falls back meanwhile. Both carry over to the reflection of a curve, and a curve that reflects
itself has them when its first half has. So of every family one form is looked at, and of in-out one
half: the bounce comes down to the four arcs of the ball (`Curve.bounce_le_one`).
-/

namespace Choreo
namespace Curve
variable {f g : Curve Rat} {t : Rat}

/-- The curve has its ends right and stays between them. -/
structure Gentle (f : Curve Rat) : Prop where
  starts : f 0 = .ok 0
  stops : f 1 = .ok 1
  within : ∀ t, 0 ≤ t → t ≤ 1 → ∃ y, f t = .ok y ∧ 0 ≤ y ∧ y ≤ 1

/-- The curve is never lower at a later time. -/
def Climbs (f : Curve Rat) : Prop :=
  ∀ s t, 0 ≤ s → s ≤ t → t ≤ 1 → ∃ x y, f s = .ok x ∧ f t = .ok y ∧ x ≤ y

/-! ## Reflections -/

theorem Reflects.symm (h : f.Reflects g) : g.Reflects f := by
  intro t
  obtain ⟨y, hg, hf⟩ := h (1 - t)
  rw [sub_sub_cancel] at hg
  exact ⟨1 - y, hf, by rw [hg, sub_sub_cancel]⟩

/-- Where the reflection is once the curve itself is known at the opposite time. -/
theorem Reflects.eq {y : Rat} (h : f.Reflects g) (hg : g (1 - t) = .ok y) : f t = .ok (1 - y) := by
  obtain ⟨y', hg', hf⟩ := h t
  cases hg.symm.trans hg'
  exact hf

theorem Gentle.of_reflects (h : f.Reflects g) (hg : g.Gentle) : f.Gentle where
  starts := by
    have hy := h.eq (t := 0) (by rw [sub_zero]; exact hg.stops)
    rwa [sub_self] at hy
  stops := by
    have hy := h.eq (t := 1) (by rw [sub_self]; exact hg.starts)
    rwa [sub_zero] at hy
  within t h0 h1 := by
    obtain ⟨y, hy, hy0, hy1⟩ := hg.within (1 - t) (sub_nonneg.mpr h1) (sub_le_self 1 h0)
    exact ⟨1 - y, h.eq hy, sub_nonneg.mpr hy1, sub_le_self 1 hy0⟩

theorem Climbs.of_reflects (h : f.Reflects g) (hg : g.Climbs) : f.Climbs := by
  intro s t h0 hst h1
  obtain ⟨x, y, hx, hy, hxy⟩ :=
    hg (1 - t) (1 - s) (sub_nonneg.mpr h1) (sub_le_sub_left hst 1) (sub_le_self 1 h0)
  exact ⟨1 - y, 1 - x, h.eq hy, h.eq hx, sub_le_sub_left hxy 1⟩

/-- The second half of a curve that reflects itself is as gentle as the first. -/
theorem gentle_of_half (h : f.Reflects f) (hstarts : f 0 = .ok 0)
    (hhalf : ∀ t, 0 ≤ t → t ≤ 0.5 → ∃ y, f t = .ok y ∧ 0 ≤ y ∧ y ≤ 1) : f.Gentle where
  starts := hstarts
  stops := by
    have hy := h.eq (t := 1) (by rw [sub_self]; exact hstarts)
    rwa [sub_zero] at hy
  within t h0 h1 := by
    rcases le_total t 0.5 with ht | ht
    · exact hhalf t h0 ht
    · obtain ⟨y, hy, hy0, hy1⟩ := hhalf (1 - t) (sub_nonneg.mpr h1) (by linarith)
      exact ⟨1 - y, h.eq hy, sub_nonneg.mpr hy1, sub_le_self 1 hy0⟩

/-- The second half of a curve that reflects itself climbs as the first does. -/
theorem climbs_of_half (h : f.Reflects f)
    (hhalf : ∀ s t, 0 ≤ s → s ≤ t → t ≤ 0.5 → ∃ x y, f s = .ok x ∧ f t = .ok y ∧ x ≤ y) :
    f.Climbs := by
  have hlater : ∀ s t, 0.5 ≤ s → s ≤ t → t ≤ 1 → ∃ x y, f s = .ok x ∧ f t = .ok y ∧ x ≤ y := by
    intro s t hs hst h1
    obtain ⟨x, y, hx, hy, hxy⟩ :=
      hhalf (1 - t) (1 - s) (sub_nonneg.mpr h1) (sub_le_sub_left hst 1) (by linarith)
    exact ⟨1 - y, 1 - x, h.eq hy, h.eq hx, sub_le_sub_left hxy 1⟩
  intro s t h0 hst h1
  rcases le_total t 0.5 with ht | ht
  · exact hhalf s t h0 hst ht
  · rcases le_total s 0.5 with hs | hs
    · -- The two times are on different sides of the middle, which lies between their heights.
      obtain ⟨x, m, hx, hm, hxm⟩ := hhalf s 0.5 h0 hs le_rfl
      obtain ⟨m', y, hm', hy, hmy⟩ := hlater 0.5 t le_rfl ht h1
      cases hm.symm.trans hm'
      exact ⟨x, y, hx, hy, hxm.trans hmy⟩
    · exact hlater s t hs hst h1

/-! ## Linear and cubic -/

theorem linear_gentle : (linear : Curve Rat).Gentle := ⟨rfl, rfl, fun t h0 h1 => ⟨t, rfl, h0, h1⟩⟩

theorem linear_climbs : (linear : Curve Rat).Climbs := fun s t _ hst _ => ⟨s, t, rfl, rfl, hst⟩

/-- What is cubed keeps its order, and keeps within one. -/
theorem cube_le_cube {s t : Rat} (h0 : 0 ≤ s) (hst : s ≤ t) : s * s * s ≤ t * t * t :=
  mul_le_mul (mul_self_le_mul_self h0 hst) hst h0 (mul_self_nonneg t)

theorem inCubic_gentle : (inCubic : Curve Rat).Gentle where
  starts := by rw [inCubic_rat, mul_zero]
  stops := by rw [inCubic_rat, mul_one, mul_one]
  within t h0 h1 := ⟨t * t * t, rfl, by positivity, (cube_le_cube h0 h1).trans_eq (by norm_num)⟩

theorem inCubic_climbs : (inCubic : Curve Rat).Climbs :=
  fun _ _ h0 hst _ => ⟨_, _, rfl, rfl, cube_le_cube h0 hst⟩

/-- The first half of in-out, its end included. -/
theorem inOutCubic_rat_of_half (h : t ≤ 0.5) : inOutCubic t = .ok (4 * (t * t * t)) := by
  rcases h.lt_or_eq with hlt | rfl
  · rw [inOutCubic_rat_of_lt hlt]
    congr 1
    ring
  · rw [inOutCubic_rat_of_le le_rfl]
    congr 1
    norm_num

theorem inOutCubic_gentle : (inOutCubic : Curve Rat).Gentle := by
  have hstarts : inOutCubic (0 : Rat) = .ok 0 := by
    rw [inOutCubic_rat_of_half (by norm_num), mul_zero, mul_zero]
  refine gentle_of_half inOutCubic_reflects hstarts fun t h0 ht => ?_
  have hcube : t * t * t ≤ 0.5 * 0.5 * 0.5 := cube_le_cube h0 ht
  exact ⟨_, inOutCubic_rat_of_half ht, by positivity, by linarith⟩

theorem inOutCubic_climbs : (inOutCubic : Curve Rat).Climbs := by
  refine climbs_of_half inOutCubic_reflects fun s t h0 hst ht => ?_
  have hcube : s * s * s ≤ t * t * t := cube_le_cube h0 hst
  exact ⟨_, _, inOutCubic_rat_of_half (hst.trans ht), inOutCubic_rat_of_half ht, by linarith⟩

/-! ## Bounce -/

/-- The four arcs of the ball, and where each ends. -/
theorem bounce_rat (t : Rat) : bounce t =
    if t < 4 / 11 then 121 / 16 * (t * t)
    else if t < 8 / 11 then 121 / 16 * ((t - 6 / 11) * (t - 6 / 11)) + 3 / 4
    else if t < 10 / 11 then 121 / 16 * ((t - 9 / 11) * (t - 9 / 11)) + 15 / 16
    else 121 / 16 * ((t - 21 / 22) * (t - 21 / 22)) + 63 / 64 := by
  show (if t < (1 : Rat) / 2.75 then (7.5625 : Rat) * t * t
    else if t < (2 : Rat) / 2.75 then 7.5625 * (t - 1.5 / 2.75) * (t - 1.5 / 2.75) + 0.75
    else if t < (2.5 : Rat) / 2.75 then 7.5625 * (t - 2.25 / 2.75) * (t - 2.25 / 2.75) + 0.9375
    else 7.5625 * (t - 2.625 / 2.75) * (t - 2.625 / 2.75) + 0.984375) = _
  norm_num [mul_assoc]

theorem bounce_nonneg (t : Rat) : 0 ≤ bounce t := by
  rw [bounce_rat]
  split_ifs
  · linarith [mul_self_nonneg t]
  · linarith [mul_self_nonneg (t - 6 / 11)]
  · linarith [mul_self_nonneg (t - 9 / 11)]
  · linarith [mul_self_nonneg (t - 21 / 22)]

/-- No arc is higher than at its ends, and none ends above one. -/
theorem bounce_le_one (h0 : 0 ≤ t) (h1 : t ≤ 1) : bounce t ≤ 1 := by
  have harc (foot reach : Rat) (hleft : foot - reach ≤ t) (hright : t ≤ foot + reach) :
      (t - foot) * (t - foot) ≤ reach * reach := by
    have hfrom : 0 ≤ reach + (t - foot) := by linarith
    have hto : 0 ≤ reach - (t - foot) := by linarith
    linarith [mul_nonneg hfrom hto]
  rw [bounce_rat]
  split_ifs with h4 h8 h10
  · have hrise := harc 0 (4 / 11) (by linarith) (by linarith)
    rw [sub_zero] at hrise
    linarith
  · have hrise := harc (6 / 11) (2 / 11) (by linarith) (by linarith)
    linarith
  · have hrise := harc (9 / 11) (1 / 11) (by linarith) (by linarith)
    linarith
  · have hrise := harc (21 / 22) (1 / 22) (by linarith) (by linarith)
    linarith

theorem outBounce_gentle : (outBounce : Curve Rat).Gentle where
  starts := congrArg Except.ok bounce_zero
  stops := by decide +kernel
  within t h0 h1 := ⟨_, rfl, bounce_nonneg t, bounce_le_one h0 h1⟩

theorem inOutBounce_gentle : (inOutBounce : Curve Rat).Gentle := by
  refine gentle_of_half inOutBounce_reflects (by decide +kernel) fun t h0 ht => ?_
  rcases ht.lt_or_eq with hlt | rfl
  · have hlow := bounce_nonneg (1 - 2 * t)
    have hhigh := bounce_le_one (t := 1 - 2 * t) (by linarith) (by linarith)
    exact ⟨_, inOutBounce_rat_of_lt hlt, by linarith, by linarith⟩
  · exact ⟨0.5, by decide +kernel, by norm_num, by norm_num⟩

end Curve

/-! ## The named curves -/

namespace Easing

/-- The curves that may not overshoot do not. -/
theorem gentle_of_mem [Analytic Rat] {name : String}
    (h : name ∈ ["linear", "in-cubic", "out-cubic", "in-out-cubic", "in-bounce", "out-bounce",
      "in-out-bounce"]) :
    ∃ curve : Curve Rat, resolve (.named name) = .ok curve ∧ curve.Gentle := by
  simp only [List.mem_cons, List.not_mem_nil, or_false] at h
  rcases h with rfl | rfl | rfl | rfl | rfl | rfl | rfl
  · exact ⟨_, rfl, Curve.linear_gentle⟩
  · exact ⟨_, rfl, Curve.inCubic_gentle⟩
  · exact ⟨_, rfl, .of_reflects Curve.inCubic_reflects.symm Curve.inCubic_gentle⟩
  · exact ⟨_, rfl, Curve.inOutCubic_gentle⟩
  · exact ⟨_, rfl, .of_reflects Curve.inBounce_reflects Curve.outBounce_gentle⟩
  · exact ⟨_, rfl, Curve.outBounce_gentle⟩
  · exact ⟨_, rfl, Curve.inOutBounce_gentle⟩

/-- The linear and the cubic ones never fall back. -/
theorem climbs_of_mem [Analytic Rat] {name : String}
    (h : name ∈ ["linear", "in-cubic", "out-cubic", "in-out-cubic"]) :
    ∃ curve : Curve Rat, resolve (.named name) = .ok curve ∧ curve.Climbs := by
  simp only [List.mem_cons, List.not_mem_nil, or_false] at h
  rcases h with rfl | rfl | rfl | rfl
  · exact ⟨_, rfl, Curve.linear_climbs⟩
  · exact ⟨_, rfl, Curve.inCubic_climbs⟩
  · exact ⟨_, rfl, .of_reflects Curve.inCubic_reflects.symm Curve.inCubic_climbs⟩
  · exact ⟨_, rfl, Curve.inOutCubic_climbs⟩

end Easing
end Choreo
