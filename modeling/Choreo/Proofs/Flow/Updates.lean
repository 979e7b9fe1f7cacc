import Choreo.Flow.Playback
import Choreo.Proofs.Flow.Progress

/-!
What a tween reports.

A tween looks at its time before and after each pause, its last update stands behind the loop, and
updates may be suppressed in some steps and not in others. Whatever the steps are, none of that
shows but in the one way it should (`Flow.tween_updates`): a step that is not suppressed reports the
eased share of the duration that has passed, and the step that comes to the duration reports one and
is the last. Which step that is depends on what the steps add up to and not on which of them are
suppressed.
-/

namespace Choreo
variable {α β C : Type}

/-! ## Calls that may be suppressed -/

namespace World

/-- Does something while updates are suppressed, or as it is. -/
def suppressing (hush : Bool) (f : World α C → β × World α C) (w : World α C) : β × World α C :=
  if hush then
    let (r, w') := f { w with suppressed := true }
    (r, { w' with suppressed := w.suppressed })
  else f w

/-- The world in which some events have happened since. -/
def tell (es : List (Event α)) (w : World α C) : World α C := { w with log := es.reverse ++ w.log }

@[simp] theorem tell_nil (w : World α C) : w.tell [] = w := rfl

theorem tell_append (es es' : List (Event α)) (w : World α C) :
    w.tell (es ++ es') = (w.tell es).tell es' := by
  simp only [tell, List.reverse_append, List.append_assoc]

/-- A call that reports a progress and changes nothing else. -/
theorem suppressing_progressed {f : World α C → β × World α C} {r : β} {c : C} {tag : String}
    {p : α} {w : World α C}
    (hf : ∀ v : World α C, f v = (r, World.progressed tag p { v with crew := c }))
    (hw : w.suppressed = false) (hush : Bool) :
    w.suppressing hush f =
      (r, World.tell (if hush then [] else [.update tag p]) { w with crew := c }) := by
  obtain ⟨stage, suppressed, log, crew⟩ := w
  cases hw
  cases hush with
  | true => simp [suppressing, hf, progressed]
  | false => simp [suppressing, hf, progressed, tell, report]

end World

/-- A call that changes nothing. -/
theorem World.suppressing_quiet {f : World α C → β × World α C} {r : β} {c : C}
    (hf : ∀ v : World α C, f v = (r, { v with crew := c })) (w : World α C) (hush : Bool) :
    w.suppressing hush f = (r, { w with crew := c }) := by
  cases hush with
  | true => simp [suppressing, hf]
  | false => simp [suppressing, hf]

namespace Playback
variable [Scalar α] [Analytic α]

/-- Steps, each suppressed (as by `nextSuppressed`) or not, until the flow is done, and counts the
steps. -/
def playThrough : List (Bool × α) → Playback α → Show α →
    (Except FlowFault (Option Nat) × Playback α) × Show α
  | [], p, w => ((.ok none, p), w)
  | (hush, dt) :: steps, p, w =>
    match w.suppressing hush (p.next (some dt)) with
    | ((.error f, p'), w') => ((.error f, p'), w')
    | ((.ok true, p'), w') => ((.ok (some 1), p'), w')
    | ((.ok false, p'), w') =>
      let ((r, p''), w'') := playThrough steps p' w'
      ((r.map fun n => n.map (· + 1), p''), w'')

end Playback

/-! ## Updates -/

namespace Tween

/-- The time that has passed after some first steps. -/
def passed (steps : List (Bool × Rat)) (k : Nat) : Rat := ((steps.take k).map Prod.snd).sum

/-- The updates of steps, counted from one. A step that is suppressed has none, and the progress of
any other is told by its number. -/
def updates (tag : String) (progress : Nat → Rat) (steps : List (Bool × Rat)) : List (Event Rat) :=
  (steps.mapIdx fun k step => if step.1 then [] else [.update tag (progress (k + 1))]).flatten

/-- What a tween with a curve reports once some time has passed. -/
def told (f : Rat → Rat) (d elapsed : Rat) : Rat := if elapsed < d then f (elapsed / d) else 1

theorem passed_cons (hush : Bool) (dt : Rat) (steps : List (Bool × Rat)) (k : Nat) :
    passed ((hush, dt) :: steps) (k + 1) = dt + passed steps k := List.sum_cons

theorem passed_one (hush : Bool) (dt : Rat) (steps : List (Bool × Rat)) :
    passed ((hush, dt) :: steps) 1 = dt := add_zero dt

/-- What is told of a tween once it has taken a step is told of the steps that are left. -/
theorem told_passed_cons (f : Rat → Rat) (d e : Rat) (hush : Bool) (dt : Rat)
    (steps : List (Bool × Rat)) :
    (fun k => told f d (e + passed ((hush, dt) :: steps) (k + 1))) =
      fun k => told f d (e + dt + passed steps k) := by
  funext k
  rw [passed_cons, add_assoc]

theorem updates_cons (tag : String) (progress : Nat → Rat) (hush : Bool) (dt : Rat)
    (steps : List (Bool × Rat)) :
    updates tag progress ((hush, dt) :: steps) =
      (if hush then [] else [.update tag (progress 1)]) ++
        updates tag (fun k => progress (k + 1)) steps := by
  rw [updates, List.mapIdx_cons, List.flatten_cons]
  rfl

theorem updates_congr {tag : String} {progress progress' : Nat → Rat} {steps : List (Bool × Rat)}
    (h : ∀ k, 0 < k → k ≤ steps.length → progress k = progress' k) :
    updates tag progress steps = updates tag progress' steps := by
  induction steps generalizing progress progress' with
  | nil => rfl
  | cons step steps ih =>
    obtain ⟨hush, dt⟩ := step
    have hfirst : progress 1 = progress' 1 := h 1 Nat.one_pos (by simp)
    have hrest : updates tag (fun k => progress (k + 1)) steps =
        updates tag (fun k => progress' (k + 1)) steps :=
      ih fun k _ hk => h (k + 1) (Nat.succ_pos k) (Nat.succ_le_succ hk)
    rw [updates_cons, updates_cons, hfirst, hrest]

end Tween

/-! ## Tweens in play -/

namespace Playback
open Tween (reporting told passed updates)
variable [Analytic Rat] {tag : String} {d e dt : Rat} {curve : Curve Rat} {f : Rat → Rat}
  {c : Crew Rat} {w : Show Rat}

/-- A tween on its way, in play. -/
def ofTween (t : Tween Rat) (c : Crew Rat) : Playback Rat :=
  { task := .paused (.leaf (.tweening t)), crew := c }

omit [Analytic Rat] in
theorem progressed_crew (tag : String) (p : Rat) (v : Show Rat) :
    (v.progressed tag p).crew = v.crew := by
  unfold World.progressed
  split <;> rfl

theorem next_ofTween (t : Tween Rat) (v : Show Rat) :
    (ofTween t c).next (some dt) v =
      let ((r, t'), v') := Task.ofLeaf (Leaf.ofTween (t.resume (some dt) { v with crew := c }))
      ((r, { task := t', crew := v'.crew }), v') := by
  unfold next call ofTween
  simp only
  rw [Task.next_leaf, Leaf.machine_resume_tweening]

theorem next_of_lt (hd : 0 < d) (hcurve : ∀ x, curve x = .ok (f x)) (h : e + dt < d)
    (v : Show Rat) :
    (ofTween (reporting tag d curve e) c).next (some dt) v =
      ((.ok false, ofTween (reporting tag d curve (e + dt)) c),
        World.progressed tag (f ((e + dt) / d)) { v with crew := c }) := by
  have hshare : min ((e + dt) / d) 1 = (e + dt) / d := min_eq_left ((div_le_one₀ hd).mpr h.le)
  have hresume : (reporting tag d curve e).resume (some dt) { v with crew := c } =
      (.paused (reporting tag d curve (e + dt)),
        World.progressed tag (f ((e + dt) / d)) { v with crew := c }) := by
    refine Tween.resume_reporting_of_lt h ?_
    rw [hcurve]
    exact congrArg (Except.ok ∘ f) hshare
  rw [next_ofTween, hresume]
  simp only [Leaf.ofTween, Task.ofLeaf, progressed_crew]
  rfl

theorem next_of_not_lt (h : ¬e + dt < d) (v : Show Rat) :
    (ofTween (reporting tag d curve e) c).next (some dt) v =
      ((.ok true, { task := .done, crew := c }),
        World.progressed tag 1 { v with crew := c }) := by
  have hresume : (reporting tag d curve e).resume (some dt) { v with crew := c } =
      (.finished, World.progressed tag 1 { v with crew := c }) :=
    Tween.resume_reporting_of_not_lt h
  rw [next_ofTween, hresume]
  simp only [Leaf.ofTween, Task.ofLeaf, progressed_crew]

/-- A step before the duration, and how the tween goes on. -/
theorem playThrough_cons_of_lt (hd : 0 < d) (hcurve : ∀ x, curve x = .ok (f x))
    (hw : w.suppressed = false) (hc : w.crew = c) (h : e + dt < d) (hush : Bool)
    (steps : List (Bool × Rat)) :
    playThrough ((hush, dt) :: steps) (ofTween (reporting tag d curve e) c) w =
      let rest := playThrough steps (ofTween (reporting tag d curve (e + dt)) c)
        (w.tell (if hush then [] else [.update tag (told f d (e + dt))]))
      ((rest.1.1.map fun n => n.map (· + 1), rest.1.2), rest.2) := by
  subst hc
  rw [playThrough, World.suppressing_progressed (next_of_lt hd hcurve h) hw, told, if_pos h]

/-- The step that comes to the duration. -/
theorem playThrough_cons_of_not_lt (hw : w.suppressed = false) (hc : w.crew = c) (h : ¬e + dt < d)
    (hush : Bool) (steps : List (Bool × Rat)) :
    playThrough ((hush, dt) :: steps) (ofTween (reporting tag d curve e) c) w =
      ((.ok (some 1), { task := .done, crew := c }),
        w.tell (if hush then [] else [.update tag (told f d (e + dt))])) := by
  subst hc
  rw [playThrough, World.suppressing_progressed (next_of_not_lt h) hw, told, if_neg h]

/-- A tween that does not come to its duration reports the eased share in every step. -/
theorem playThrough_of_lt (hd : 0 < d) (hcurve : ∀ x, curve x = .ok (f x))
    (hw : w.suppressed = false) (hc : w.crew = c) {steps : List (Bool × Rat)}
    (h : ∀ k, 0 < k → k ≤ steps.length → e + passed steps k < d) :
    (playThrough steps (ofTween (reporting tag d curve e) c) w).1.1 = .ok none ∧
      (playThrough steps (ofTween (reporting tag d curve e) c) w).2 =
        w.tell (updates tag (fun k => told f d (e + passed steps k)) steps) := by
  induction steps generalizing e w with
  | nil => exact ⟨rfl, rfl⟩
  | cons step steps ih =>
    obtain ⟨hush, dt⟩ := step
    have hfirst := h 1 Nat.one_pos (Nat.succ_le_succ (Nat.zero_le _))
    rw [Tween.passed_one] at hfirst
    have hrest : ∀ k, 0 < k → k ≤ steps.length → e + dt + passed steps k < d := by
      intro k hk hle
      have hk := h (k + 1) (Nat.succ_pos k) (Nat.succ_le_succ hle)
      rwa [Tween.passed_cons, ← add_assoc] at hk
    rw [playThrough_cons_of_lt hd hcurve hw hc hfirst, Tween.updates_cons, World.tell_append,
      Tween.told_passed_cons, Tween.passed_one]
    obtain ⟨hanswer, hworld⟩ := ih (e := e + dt)
      (w := w.tell (if hush then [] else [.update tag (told f d (e + dt))])) hw hc hrest
    exact ⟨congrArg (Except.map fun n => n.map (· + 1)) hanswer, hworld⟩

/-- A tween is done with the first step that comes to its duration. -/
theorem playThrough_of_first (hd : 0 < d) (hcurve : ∀ x, curve x = .ok (f x))
    (hw : w.suppressed = false) (hc : w.crew = c) {steps : List (Bool × Rat)} {n : Nat}
    (hn : n + 1 ≤ steps.length) (hlast : ¬e + passed steps (n + 1) < d)
    (h : ∀ k, 0 < k → k ≤ n → e + passed steps k < d) :
    (playThrough steps (ofTween (reporting tag d curve e) c) w).1.1 = .ok (some (n + 1)) ∧
      (playThrough steps (ofTween (reporting tag d curve e) c) w).2 =
        w.tell (updates tag (fun k => told f d (e + passed steps k)) (steps.take (n + 1))) := by
  induction steps generalizing e w n with
  | nil => cases hn
  | cons step steps ih =>
    obtain ⟨hush, dt⟩ := step
    rw [List.take_succ_cons, Tween.updates_cons, World.tell_append, Tween.told_passed_cons,
      Tween.passed_one]
    cases n with
    | zero =>
      rw [Tween.passed_one] at hlast
      rw [playThrough_cons_of_not_lt hw hc hlast]
      exact ⟨rfl, rfl⟩
    | succ n =>
      have hfirst := h 1 Nat.one_pos (Nat.succ_le_succ (Nat.zero_le n))
      rw [Tween.passed_one] at hfirst
      have hrest : ∀ k, 0 < k → k ≤ n → e + dt + passed steps k < d := by
        intro k hk hle
        have hk := h (k + 1) (Nat.succ_pos k) (Nat.succ_le_succ hle)
        rwa [Tween.passed_cons, ← add_assoc] at hk
      rw [Tween.passed_cons, ← add_assoc] at hlast
      rw [playThrough_cons_of_lt hd hcurve hw hc hfirst]
      obtain ⟨hanswer, hworld⟩ := ih (e := e + dt)
        (w := w.tell (if hush then [] else [.update tag (told f d (e + dt))])) hw hc
        (Nat.le_of_succ_le_succ hn) hlast hrest
      exact ⟨congrArg (Except.map fun n => n.map (· + 1)) hanswer, hworld⟩

/-! ## Starts -/

theorem start_ofFlow (a : Action Rat) (v : Show Rat) :
    (ofFlow (.act a)).start v =
      let ((r, t'), v') := Task.ofLeaf (Leaf.machine.start (.todo a)
        { v with crew := (ofFlow (.act a)).crew })
      ((r, { task := t', crew := v'.crew }), v') := by
  rw [← Task.start_leaf]
  rfl

theorem start_of_lt {easing : Easing Rat} (heasing : easing.resolve = .ok curve) (h : 0 < d)
    (v : Show Rat) :
    (ofFlow (.act (.tween tag d easing))).start v =
      ((.ok false, ofTween (reporting tag d curve 0) (ofFlow (.act (.tween tag d easing))).crew),
        { v with crew := (ofFlow (.act (.tween tag d easing))).crew }) := by
  rw [start_ofFlow, Leaf.start_tween heasing, Tween.start_reporting_of_lt h]
  rfl

theorem start_of_not_lt {easing : Easing Rat} (heasing : easing.resolve = .ok curve) (h : ¬0 < d)
    (v : Show Rat) :
    (ofFlow (.act (.tween tag d easing))).start v =
      ((.ok true, { task := .done, crew := (ofFlow (.act (.tween tag d easing))).crew }),
        World.progressed tag 1 { v with crew := (ofFlow (.act (.tween tag d easing))).crew }) := by
  rw [start_ofFlow, Leaf.start_tween heasing, Tween.start_reporting_of_not_lt h]
  simp only [Leaf.ofTween, Task.ofLeaf, progressed_crew]

end Playback

/-! ## The law -/

namespace Flow
open Tween (passed updates)

/-- A tween without a duration is done at its start, with the one update that says so. Any other is
done with the first step that comes to its duration. That step reports one, whatever the curve is,
and each step before it the eased share of the duration; a suppressed step reports nothing. -/
theorem tween_updates [Analytic Rat] {easing : Easing Rat} {curve : Curve Rat} {f : Rat → Rat}
    (heasing : easing.resolve = .ok curve) (hcurve : ∀ x, curve x = .ok (f x)) (tag : String)
    (d : Rat) {w : Show Rat} (hw : w.suppressed = false) (hush : Bool)
    (steps : List (Bool × Rat)) :
    let p := Playback.ofFlow (.act (.tween tag d easing))
    let begun := w.suppressing hush p.start
    let played := Playback.playThrough steps begun.1.2 begun.2
    (d ≤ 0 → begun.1.1 = .ok true ∧ begun.1.2.isDone = true ∧
      begun.2 = World.tell (if hush then [] else [.update tag 1]) { w with crew := p.crew }) ∧
    (0 < d → begun.1.1 = .ok false ∧ begun.2 = { w with crew := p.crew } ∧
      (∀ n ≤ steps.length, d ≤ passed steps n → (∀ k < n, passed steps k < d) →
        played.1.1 = .ok (some n) ∧
        played.2 = begun.2.tell (updates tag (fun k => if k < n then f (passed steps k / d) else 1)
          (steps.take n))) ∧
      ((∀ k ≤ steps.length, passed steps k < d) →
        played.1.1 = .ok none ∧
        played.2 = begun.2.tell (updates tag (fun k => f (passed steps k / d)) steps))) := by
  intro p begun played
  refine ⟨fun hd => ?_, fun hd => ?_⟩
  · have hbegun : begun = ((.ok true, { task := .done, crew := p.crew }),
        World.tell (if hush then [] else [.update tag 1]) { w with crew := p.crew }) :=
      World.suppressing_progressed (Playback.start_of_not_lt heasing (not_lt.mpr hd)) hw hush
    rw [hbegun]
    exact ⟨rfl, rfl, rfl⟩
  · have hbegun : begun = ((.ok false, Playback.ofTween (Tween.reporting tag d curve 0) p.crew),
        { w with crew := p.crew }) :=
      World.suppressing_quiet (Playback.start_of_lt heasing hd) w hush
    have hplayed : played = Playback.playThrough steps
        (Playback.ofTween (Tween.reporting tag d curve 0) p.crew) { w with crew := p.crew } := by
      simp only [played, hbegun]
    have hbegin : begun.2 = { w with crew := p.crew } := by rw [hbegun]
    refine ⟨by rw [hbegun], hbegin, fun n hle hlast hfirst => ?_, fun hnone => ?_⟩
    · obtain ⟨n, rfl⟩ : ∃ m, n = m + 1 := by
        cases n with
        | zero => exact absurd hlast (not_le.mpr hd)
        | succ n => exact ⟨n, rfl⟩
      rw [hplayed, hbegin]
      obtain ⟨hanswer, hworld⟩ := Playback.playThrough_of_first (e := 0) hd hcurve
        (w := { w with crew := p.crew }) hw rfl hle (by rw [zero_add]; exact not_lt.mpr hlast)
        (fun k _ hk => by rw [zero_add]; exact hfirst k (Nat.lt_succ_of_le hk))
      refine ⟨hanswer, hworld.trans (congrArg (World.tell · _) (Tween.updates_congr ?_))⟩
      intro k _ hk
      rw [zero_add, Tween.told]
      rcases Nat.lt_or_ge k (n + 1) with hlt | hge
      · rw [if_pos (hfirst k hlt), if_pos hlt]
      · obtain rfl : k = n + 1 := le_antisymm (hk.trans (List.length_take_le _ _)) hge
        rw [if_neg (not_lt.mpr hlast), if_neg (lt_irrefl _)]
    · rw [hplayed, hbegin]
      obtain ⟨hanswer, hworld⟩ := Playback.playThrough_of_lt (e := 0) hd hcurve
        (w := { w with crew := p.crew }) hw rfl
        (fun k _ hk => by rw [zero_add]; exact hnone k hk)
      refine ⟨hanswer, hworld.trans (congrArg (World.tell · _) (Tween.updates_congr ?_))⟩
      intro k _ hk
      rw [zero_add, Tween.told, if_pos (hnone k hk)]

/-- A tween along a parabola, of a second: it is done with its fourth step, the second is
suppressed, and the fifth is not taken. -/
theorem tween_updates_parabola :
    let flow : Flow Rat := .act (.tween "a" 1 (.custom fun x => .ok (x * x)))
    let w : Show Rat := World.ofStage ⟨[], [], none, true⟩ .empty
    let steps : List (Bool × Rat) :=
      [(false, 1 / 4), (true, 1 / 4), (false, 1 / 4), (false, 1 / 2), (false, 1)]
    let begun := w.suppressing false (Playback.ofFlow flow).start
    let played := Playback.playThrough steps begun.1.2 begun.2
    played.1.1 = .ok (some 4) ∧
      played.2.events = [.update "a" (1 / 16), .update "a" (9 / 16), .update "a" 1] := by
  intro flow w steps begun played
  have heasing : (Easing.custom fun x => .ok (x * x) : Easing Rat).resolve =
      .ok fun x => .ok (x * x) := rfl
  have hlaw := tween_updates heasing (fun _ => rfl) "a" 1 (w := w) rfl false steps
  obtain ⟨hanswer, hworld⟩ := (hlaw.2 (by decide +kernel)).2.2.1 4 (by decide) (by decide +kernel)
    (by decide +kernel)
  refine ⟨hanswer, ?_⟩
  rw [hworld]
  decide +kernel

end Flow
end Choreo
