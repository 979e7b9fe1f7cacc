import Choreo.Proofs.Flow.Uneven
import Choreo.Proofs.Script.Makes

/-!
The estimate of a task against its playback in uneven steps.
-/

namespace Choreo
namespace Script

/-- The flow an expression makes is not done before the time its estimate says has passed, and it is
late by at most one step for each node of the flow. This is so as long as no step raises. -/
theorem Makes.playback_bounds [Analytic Rat] {e : Expr} {f : Flow Rat} (h : Makes e f)
    {longest : Rat} (hlongest : 0 ≤ longest) {steps : List Rat}
    (hsteps : ∀ dt ∈ steps, 0 ≤ dt ∧ dt ≤ longest) {done : Bool} {w : Show Rat}
    (hr : (Playback.ofFlow f).Reports steps done w) :
    ∃ estimate, e.taskDuration = .ok estimate ∧ (done = true → estimate ≤ steps.sum) ∧
      steps.sum ≤ estimate + f.nodes * longest :=
  ⟨f.span, h.taskDuration_eq, h.plain.reports_bounds hlongest hsteps hr⟩

/-- An empty show. -/
def emptyShow : Show Rat := .ofStage (.empty none false) .empty

/-! ## Two waits -/

/-- `chain(wait_for(1), wait_for(1))`. -/
def waitTwice : Expr :=
  .call (.name "chain")
    [.call (.name "wait_for") [.whole 1] [], .call (.name "wait_for") [.whole 1] []] []

def waitTwiceFlow : Flow Rat := .chain [.act (.wait 1), .act (.wait 1)]

theorem makes_waitTwice : Makes waitTwice waitTwiceFlow :=
  .chain rfl (.cons (.wait rfl rfl) (.cons (.wait rfl rfl) .nil))

/-- Each wait loses half a second to a step of one and a half. -/
theorem playback_bounds_waitTwice :
    (Playback.ofFlow waitTwiceFlow).Reports [3 / 2, 3 / 2] true emptyShow ∧
      waitTwice.taskDuration = .ok (2 : Rat) ∧ 2 ≤ [(3 / 2 : Rat), 3 / 2].sum ∧
      [(3 / 2 : Rat), 3 / 2].sum ≤ 2 + waitTwiceFlow.nodes * (3 / 2) := by
  have hreports : (Playback.ofFlow waitTwiceFlow).Reports [3 / 2, 3 / 2] true emptyShow := by
    decide +kernel
  have hsteps : ∀ dt ∈ [(3 / 2 : Rat), 3 / 2], 0 ≤ dt ∧ dt ≤ 3 / 2 := by
    intro dt hdt
    simp only [List.mem_cons, List.not_mem_nil, or_false, or_self] at hdt
    rw [hdt]
    norm_num
  obtain ⟨estimate, he, hlow, hhigh⟩ :=
    makes_waitTwice.playback_bounds (by norm_num) hsteps hreports
  have htwo : waitTwice.taskDuration = .ok (2 : Rat) := by decide +kernel
  have hestimate : estimate = 2 := Except.ok.inj (he.symm.trans htwo)
  subst hestimate
  exact ⟨hreports, htwo, hlow rfl, hhigh⟩

/-! ## A tween that raises -/

/-- `tween(5, update, "bogus")`. -/
def bogusTween : Expr := .call (.name "tween") [.whole 5, .name "update", .text] []

def bogusTweenFlow : Flow Rat := .act (.tween "update" 5 (.named "bogus"))

/-- Nobody knows the easing, so the first step raises. The next one finds nothing left to run and
reports that the tween is done, long before its five seconds have passed. -/
theorem bogusTween_done_early :
    let first := (Playback.ofFlow bogusTweenFlow).next (some (1 / 10)) emptyShow
    let second := first.1.2.next (some (1 / 10)) first.2
    Makes bogusTween bogusTweenFlow ∧ bogusTween.taskDuration = .ok (5 : Rat) ∧
      first.1.1 = .error (.unknownEasing "bogus") ∧ second.1.1 = .ok true ∧
      ¬(5 : Rat) ≤ 1 / 10 + 1 / 10 := by
  have hmakes : Makes bogusTween bogusTweenFlow := by
    refine .tween rfl rfl fun e he => ?_
    simp only [List.mem_cons, List.not_mem_nil, or_false] at he
    rcases he with rfl | rfl
    · exact ⟨rfl, rfl⟩
    · exact ⟨rfl, rfl⟩
  refine ⟨hmakes, ?_, ?_, ?_, by norm_num⟩
  · rw [hmakes.taskDuration_eq]
    exact congrArg Except.ok (max_eq_left (by norm_num))
  · decide +kernel
  · decide +kernel

end Script
end Choreo
