import Mathlib.Algebra.Order.BigOperators.Group.List
import Choreo.Proofs.Flow.Leaves
import Choreo.Proofs.Routine.Nested

/-!
The progress that tweens report.

Of a tween one sees the last progress it reported, as long as updates are not suppressed. A linear
tween reports the share of its duration that has passed, so what is seen of it after some steps is
told by their sum alone (`Tween.seen_through_line`). Flows of waits and linear tweens are watched by
that observation, and it notices no tween with another tag (`Flow.watched_linear`).
-/

namespace Choreo
variable {α C : Type}

/-! ## The last progress -/

/-- The progress that an event reports of the tween with a tag. -/
def Event.progress? (tag : String) : Event α → Option α
  | .update t p => if t = tag then some p else none
  | _ => none

namespace World

/-- The last progress that the tween with a tag reported. -/
def progress? (w : World α C) (tag : String) : Option α := w.log.findSome? (Event.progress? tag)

/-- What is seen of a world when one looks at the tween with a tag. -/
def seen (tag : String) (w : World α C) : Bool × Option α := (w.suppressed, w.progress? tag)

/-- The world in which a tween has reported its progress, unless updates are suppressed. -/
def progressed (tag : String) (p : α) (w : World α C) : World α C :=
  if w.suppressed then w else w.report (.update tag p)

/-- What is seen once the tween has reported its progress. -/
def showing (p : α) (v : Bool × Option α) : Bool × Option α :=
  if v.1 then v else (v.1, some p)

theorem showing_showing (p q : α) (v : Bool × Option α) :
    showing q (showing p v) = showing q v := by
  obtain ⟨suppressed, x⟩ := v
  cases suppressed <;> rfl

theorem seen_report {e : Event α} {tag : String} (he : e.progress? tag = none) (w : World α C) :
    (w.report e).seen tag = w.seen tag := by
  have hlog : (e :: w.log).findSome? (Event.progress? tag) =
      w.log.findSome? (Event.progress? tag) := by
    rw [List.findSome?_cons, he]
  exact congrArg (Prod.mk w.suppressed) hlog

theorem seen_progressed (tag : String) (p : α) (w : World α C) :
    (w.progressed tag p).seen tag = showing p (w.seen tag) := by
  have hupdate : (w.report (.update tag p)).seen tag = (w.suppressed, some p) := by
    have hlog : (w.report (.update tag p)).progress? tag = some p := by
      show (Event.update tag p :: w.log).findSome? (Event.progress? tag) = some p
      rw [List.findSome?_cons, show (Event.update tag p).progress? tag = some p from if_pos rfl]
    exact congrArg (Prod.mk w.suppressed) hlog
  unfold progressed showing
  by_cases hs : w.suppressed = true
  · rw [if_pos hs, if_pos (show (w.seen tag).1 = true from hs)]
  · rw [if_neg hs, if_neg (show ¬(w.seen tag).1 = true from hs)]
    exact hupdate

theorem seen_progressed_of_ne {tag' tag : String} (h : tag' ≠ tag) (p : α) (w : World α C) :
    (w.progressed tag' p).seen tag = w.seen tag := by
  have hother : (Event.update tag' p).progress? tag = none := if_neg h
  unfold progressed
  split
  · rfl
  · exact seen_report hother w

end World

/-! ## Tweens that report -/

namespace Tween

/-- A tween on its way that reports its progress. -/
def reporting (tag : String) (d : Rat) (curve : Curve Rat) (elapsed : Rat) : Tween Rat :=
  ⟨d, curve, .report tag, elapsed⟩

section
variable [Analytic Rat] {tag : String} {d elapsed : Rat} {curve : Curve Rat} {w : Show Rat}

theorem update_reporting (p : Rat) : (reporting tag d curve elapsed).update p w =
    (.ok (reporting tag d curve elapsed), w.progressed tag p) := by
  unfold update World.progressed
  cases w.suppressed <;> rfl

theorem finish_reporting :
    (reporting tag d curve elapsed).finish w = (.finished, w.progressed tag 1) := by
  unfold finish
  rw [update_reporting]
  rfl

theorem start_reporting_of_lt (h : elapsed < d) :
    (reporting tag d curve elapsed).start w = (.paused (reporting tag d curve elapsed), w) :=
  if_pos h

theorem start_reporting_of_not_lt (h : ¬elapsed < d) :
    (reporting tag d curve elapsed).start w = (.finished, w.progressed tag 1) :=
  (if_neg h).trans finish_reporting

/-- The curve is not asked while updates are suppressed, so it might fail there. -/
theorem resume_reporting_of_lt {dt : Option Rat} {p : Rat} (h : elapsed + Leaf.stepSize dt < d)
    (hp : curve (min ((elapsed + Leaf.stepSize dt) / d) 1) = .ok p) :
    (reporting tag d curve elapsed).resume dt w =
      (.paused (reporting tag d curve (elapsed + Leaf.stepSize dt)), w.progressed tag p) := by
  have hshare : (reporting tag d curve (elapsed + Leaf.stepSize dt)).share =
      min ((elapsed + Leaf.stepSize dt) / d) 1 := Scalar.smaller_rat _ _
  have hnext : ({ reporting tag d curve elapsed with
      elapsed := elapsed + Leaf.stepSize dt } : Tween Rat) =
      reporting tag d curve (elapsed + Leaf.stepSize dt) := rfl
  unfold resume
  simp only [show (reporting tag d curve elapsed).elapsed + dt.getD Scalar.zero =
    elapsed + Leaf.stepSize dt from rfl]
  rw [hnext, hshare,
    if_pos (show elapsed + Leaf.stepSize dt < (reporting tag d curve elapsed).duration from h)]
  simp only [show (reporting tag d curve elapsed).curve = curve from rfl, hp, update_reporting]
  unfold World.progressed
  split <;> rfl

theorem resume_reporting_of_not_lt {dt : Option Rat} (h : ¬elapsed + Leaf.stepSize dt < d) :
    (reporting tag d curve elapsed).resume dt w = (.finished, w.progressed tag 1) :=
  (if_neg h).trans finish_reporting

end

/-! ## Linear tweens -/

/-- A linear tween on its way. -/
def line (tag : String) (d elapsed : Rat) : Tween Rat := ⟨d, Curve.linear, .report tag, elapsed⟩

/-- The progress of a linear tween once some time has passed. -/
def reached (d elapsed : Rat) : Rat := if elapsed < d then min (elapsed / d) 1 else 1

variable [Analytic Rat] {tag : String} {d elapsed : Rat} {w : Show Rat}

theorem start_line_of_lt (h : elapsed < d) :
    (line tag d elapsed).start w = (.paused (line tag d elapsed), w) := start_reporting_of_lt h

theorem start_line_of_not_lt (h : ¬elapsed < d) :
    (line tag d elapsed).start w = (.finished, w.progressed tag 1) := start_reporting_of_not_lt h

theorem resume_line_of_lt {dt : Option Rat} (h : elapsed + Leaf.stepSize dt < d) :
    (line tag d elapsed).resume dt w =
      (.paused (line tag d (elapsed + Leaf.stepSize dt)),
        w.progressed tag (reached d (elapsed + Leaf.stepSize dt))) := by
  rw [reached, if_pos h]
  exact resume_reporting_of_lt h rfl

theorem resume_line_of_not_lt {dt : Option Rat} (h : ¬elapsed + Leaf.stepSize dt < d) :
    (line tag d elapsed).resume dt w = (.finished, w.progressed tag 1) :=
  resume_reporting_of_not_lt h

end Tween

/-! ## Tasks under the observation -/

open World (seen)

section
variable [Analytic Rat] {G : Submonoid (Function.End (Bool × Option Rat))} {tag : String}

abbrev Action.line (tag : String) (d : Rat) : Action Rat := .tween tag d (.named "linear")

theorem Leaf.start_tween {easing : Easing Rat} {curve : Curve Rat}
    (heasing : easing.resolve = .ok curve) (tag : String) (d : Rat) (w : Show Rat) :
    machine.start (.todo (.tween tag d easing)) w =
      ofTween ((Tween.reporting tag d curve 0).start w) := by
  rw [machine_start_todo]
  simp only [begin, Animation.startTween, heasing, Animation.duration]
  rfl

theorem Easing.resolve_linear :
    (Easing.named "linear" : Easing Rat).resolve = .ok Curve.linear := by
  simp only [resolve, curves]
  rfl

theorem Leaf.start_line (tag : String) (d : Rat) (w : Show Rat) :
    machine.start (.todo (.line tag d)) w = ofTween ((Tween.line tag d 0).start w) :=
  start_tween Easing.resolve_linear tag d w

theorem Task.watched_wait (d : Rat) (see : Show Rat → Bool × Option Rat) :
    Watched Leaf.machine see G (.fresh (.leaf (.todo (.wait d)))) := by
  have hwait (elapsed : Rat) : Watches see G
      (fun t => ∃ l, (∃ e, l = Leaf.waiting e d) ∧ t = .paused (.leaf l))
      fun w => ofLeaf (Leaf.wait elapsed d w) := by
    by_cases h : elapsed < d
    · refine watches_of_paused G.one_mem ⟨_, ⟨elapsed, rfl⟩, rfl⟩ fun w => ⟨w, ?_, rfl⟩
      rw [Leaf.wait, if_pos h]
      rfl
    · refine watches_of_done G.one_mem fun w => ⟨w, ?_, rfl⟩
      rw [Leaf.wait, if_neg h]
      rfl
  refine watched_leaf (A := (· = .todo (.wait d))) (B := fun l => ∃ e, l = .waiting e d) ?_ ?_ rfl
  · rintro l rfl
    simp only [Leaf.machine_start_todo]
    exact hwait 0
  · rintro l dt ⟨e, rfl⟩
    simp only [Leaf.machine_resume_waiting]
    exact hwait _

/-- A linear tween has the effects of the progress it reports. -/
theorem Task.watched_line {tag' : String} (d : Rat)
    (hG : ∀ p, ∃ φ ∈ G, ∀ w : Show Rat, seen tag (w.progressed tag' p) = φ (seen tag w)) :
    Watched Leaf.machine (seen tag) G (.fresh (.leaf (.todo (.line tag' d)))) := by
  refine watched_leaf (A := (· = .todo (.line tag' d)))
    (B := fun l => ∃ e, l = .tweening (Tween.line tag' d e)) ?_ ?_ rfl
  · rintro l rfl
    simp only [Leaf.start_line]
    by_cases h : 0 < d
    · refine watches_of_paused G.one_mem ⟨_, ⟨0, rfl⟩, rfl⟩ fun w => ⟨w, ?_, rfl⟩
      rw [Tween.start_line_of_lt h]
      rfl
    · obtain ⟨φ, hφ, hsee⟩ := hG 1
      refine watches_of_done hφ fun w => ⟨w.progressed tag' 1, ?_, hsee w⟩
      rw [Tween.start_line_of_not_lt h]
      rfl
  · rintro l dt ⟨e, rfl⟩
    simp only [Leaf.machine_resume_tweening]
    by_cases h : e + Leaf.stepSize dt < d
    · obtain ⟨φ, hφ, hsee⟩ := hG (Tween.reached d (e + Leaf.stepSize dt))
      refine watches_of_paused hφ ⟨_, ⟨e + Leaf.stepSize dt, rfl⟩, rfl⟩ fun w => ⟨_, ?_, hsee w⟩
      rw [Tween.resume_line_of_lt h]
      rfl
    · obtain ⟨φ, hφ, hsee⟩ := hG 1
      refine watches_of_done hφ fun w => ⟨w.progressed tag' 1, ?_, hsee w⟩
      rw [Tween.resume_line_of_not_lt h]
      rfl

/-- What is seen of a linear tween after some steps is told by their sum. -/
theorem Tween.seen_through_line (tag : String) (d elapsed : Rat) {dts : List Rat}
    (hdts : ∀ dt ∈ dts, 0 ≤ dt) (w : Show Rat) :
    seen tag ((Task.paused (.leaf (.tweening (line tag d elapsed)))).through Leaf.machine
      (dts.map some) w).2 =
        if dts = [] then seen tag w
        else World.showing (reached d (elapsed + dts.sum)) (seen tag w) := by
  induction dts generalizing elapsed w with
  | nil => rfl
  | cons dt dts ih =>
    have hrest : 0 ≤ dts.sum := List.sum_nonneg fun x hx => hdts x (List.mem_cons_of_mem dt hx)
    have hnext := Task.next_leaf Leaf.machine (some dt) (.tweening (line tag d elapsed)) w
    rw [Leaf.machine_resume_tweening] at hnext
    rw [List.map_cons, if_neg (List.cons_ne_nil dt dts), List.sum_cons, ← add_assoc]
    by_cases h : elapsed + Leaf.stepSize (some dt) < d
    · rw [resume_line_of_lt h] at hnext
      rw [Task.through_of_paused hnext, ih _ (fun x hx => hdts x (List.mem_cons_of_mem dt hx))]
      split
      · next hnil =>
        rw [World.seen_progressed, hnil, List.sum_nil, add_zero]
        rfl
      · rw [World.seen_progressed, World.showing_showing]
        rfl
    · -- The tween is done and takes no more steps, and what they come to changes nothing.
      have hreached : reached d (elapsed + dt + dts.sum) = 1 := by
        refine if_neg (not_lt.mpr ?_)
        exact (not_lt.mp h).trans (le_add_of_nonneg_right hrest)
      rw [resume_line_of_not_lt h] at hnext
      rw [Task.through_of_done hnext, World.seen_progressed, hreached]

end

/-! ## Linear flows -/

namespace Flow

mutual

/-- The flow is made of waits and linear tweens, in parallel and in sequence. -/
def Linear : Flow α → Prop
  | .act (.wait _) => True
  | .act (.tween _ _ (.named name)) => name = "linear"
  | .all fs => LinearAll fs
  | .chain fs => LinearAll fs
  | _ => False

def LinearAll : List (Flow α) → Prop
  | [] => True
  | f :: fs => Linear f ∧ LinearAll fs

end

mutual

/-- The tags of the tweens of a flow. -/
def tags : Flow α → List String
  | .act (.tween tag _ _) => [tag]
  | .act _ => []
  | .all fs => tagsOf fs
  | .chain fs => tagsOf fs
  | .delay _ f => tags f
  | .steps fs => tagsOf fs
  | .task f => tags f
  | .named _ f => tags f

def tagsOf : List (Flow α) → List String
  | [] => []
  | f :: fs => tags f ++ tagsOf fs

end

theorem tagsOf_eq (fs : List (Flow α)) : tagsOf fs = fs.flatMap tags := by
  induction fs with
  | nil => rfl
  | cons f fs ih => rw [tagsOf, ih, List.flatMap_cons]

theorem linearAll_iff {fs : List (Flow α)} : LinearAll fs ↔ ∀ f ∈ fs, f.Linear := by
  induction fs with
  | nil => simp [LinearAll]
  | cons f fs ih => simp only [LinearAll, List.forall_mem_cons, ih]

theorem toTask_linear {f : Flow α} (hf : f.Linear) (use : String → Leaf α) :
    f.toTask use = .fresh f.toRoutine := by
  cases f with
  | act | all | chain => rfl
  | delay | steps | task | named => exact hf.elim

theorem toTasks_linear {fs : List (Flow α)} (hfs : ∀ f ∈ fs, f.Linear) (use : String → Leaf α) :
    toTasks use fs = fs.map fun f => .fresh f.toRoutine := by
  induction fs with
  | nil => rfl
  | cons f fs ih =>
    rw [toTasks, toTask_linear (hfs f List.mem_cons_self),
      ih fun g hg => hfs g (List.mem_cons_of_mem f hg), List.map_cons]

section
variable [Analytic Rat] {G : Submonoid (Function.End (Bool × Option Rat))} {tag : String}

/-- A linear flow has the effects of the progress that its tweens report. -/
theorem watched_linear : ∀ (f : Flow Rat), f.Linear →
    (∀ tag' ∈ f.tags, ∀ p, ∃ φ ∈ G, ∀ w : Show Rat,
      seen tag (w.progressed tag' p) = φ (seen tag w)) →
    Task.Watched Leaf.machine (seen tag) G (.fresh f.toRoutine)
  | .act a, hf, hG => by
    cases a with
    | wait d => exact Task.watched_wait d (seen tag)
    | tween tag' d easing =>
      cases easing with
      | named name =>
        obtain rfl : name = "linear" := hf
        exact Task.watched_line d (hG tag' (List.mem_singleton_self tag'))
      | usual | custom => exact hf.elim
    | transition | animate | type | mark | ticks | fail => exact hf.elim
  | .all fs, hf, hG => by
    have hfs := linearAll_iff.mp hf
    rw [toRoutine, toTasks_linear hfs]
    refine (Task.watched_all ?_).1
    rw [List.forall_mem_map]
    rw [tags, tagsOf_eq] at hG
    exact fun f hmem => watched_linear f (hfs f hmem) fun tag' htag' =>
      hG tag' (List.mem_flatMap.mpr ⟨f, hmem, htag'⟩)
  | .chain fs, hf, hG => by
    have hfs := linearAll_iff.mp hf
    rw [toRoutine, toTasks_linear hfs]
    refine Task.watched_chain ?_
    rw [List.forall_mem_map]
    rw [tags, tagsOf_eq] at hG
    exact fun f hmem => watched_linear f (hfs f hmem) fun tag' htag' =>
      hG tag' (List.mem_flatMap.mpr ⟨f, hmem, htag'⟩)
  | .delay _ _, hf, _ => hf.elim
  | .steps _, hf, _ => hf.elim
  | .task _, hf, _ => hf.elim
  | .named _ _, hf, _ => hf.elim

theorem watched_of_linear {f : Flow Rat} (hf : f.Linear) (tag : String) :
    Task.Watched Leaf.machine (seen tag) ⊤ (.fresh f.toRoutine) :=
  watched_linear f hf fun tag' _ p => by
    by_cases h : tag' = tag
    · exact ⟨World.showing p, trivial, fun w => h ▸ World.seen_progressed tag' p w⟩
    · exact ⟨1, trivial, fun w => World.seen_progressed_of_ne h p w⟩

/-- Nothing is seen of a flow without the tween that is looked at. -/
theorem unnoticed_of_notMem {f : Flow Rat} (hf : f.Linear) {tag : String} (htag : tag ∉ f.tags) :
    Task.Watched Leaf.machine (seen tag) ⊥ (.fresh f.toRoutine) :=
  watched_linear f hf fun tag' htag' p => by
    have hne : tag' ≠ tag := fun h => htag (h ▸ htag')
    exact ⟨1, Submonoid.one_mem ⊥, fun w => World.seen_progressed_of_ne hne p w⟩

end

end Flow
end Choreo
