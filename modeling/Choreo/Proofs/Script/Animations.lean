import Choreo.Proofs.Flow.Handover
import Choreo.Proofs.Script.Uneven

/-!
Animations: how long they take, and what the estimate makes of their targets.

In play an animation of a registered target takes its duration, whatever the target is called: it is
done with the step in which its duration has passed (`Playback.done_iff_of_onTime`). The estimate
tells calls apart by the name they go by, and takes the name of a target for that of a call. An
animation of a target that goes by the name of a combination or of a wait is read as one, with
styles in the place of tasks or of a duration, and counts nothing.
-/

namespace Choreo

/-! ## In play -/

section
variable [Analytic Rat]

open Leaf (OnTime Passing)

/-- A task that waits or tweens is done with the step in which the rest of its duration has
passed. -/
theorem Playback.done_iff_of_passing {steps : List Rat} {done : Bool} {l : Leaf Rat}
    {elapsed d : Rat} {crew : Crew Rat} {w : Show Rat} (hl : Passing l elapsed d)
    (hne : steps ≠ []) (hr : Reports steps done ⟨.paused (.leaf l), crew⟩ w) :
    done = true ↔ d ≤ elapsed + steps.sum := by
  induction steps generalizing l elapsed crew w with
  | nil => exact absurd rfl hne
  | cons dt steps ih =>
    have hturn := Leaf.resume_onTime hl (some dt) { w with crew := crew }
    have hsize : Leaf.stepSize (some dt) = dt := rfl
    rw [Reports, Playback.next, Playback.call, Task.next_leaf] at hr
    rw [hsize] at hturn
    rcases hm : Leaf.machine.resume l (some dt) { w with crew := crew } with ⟨s, u⟩
    rw [hm] at hr hturn
    cases s with
    | failed e => exact hr.elim
    | finished =>
      obtain ⟨rfl, rfl⟩ := hr
      have hpassed : d ≤ elapsed + dt := hturn
      simp only [List.sum_cons, List.sum_nil, add_zero, hpassed]
    | paused l' =>
      obtain ⟨hl', hlt⟩ := hturn
      have hr : Reports steps done ⟨.paused (.leaf l'), u.crew⟩ u := hr
      rw [List.sum_cons, ← add_assoc]
      cases steps with
      | nil =>
        have hdone : done = false := hr
        rw [hdone, List.sum_nil, add_zero]
        exact ⟨nofun, fun h => absurd h (not_le.mpr hlt)⟩
      | cons dt' steps => exact ih hl' nofun hr

/-- The first step of an action begins it, and resumes what the beginning leaves. -/
theorem Playback.next_act (a : Action Rat) (dt : Option Rat) (w : Show Rat) :
    (Playback.ofFlow (.act a)).next dt w =
      match Leaf.begin a { w with crew := Crew.ofFlow (.act a) } with
      | (.paused l, u) => (Playback.mk (.paused (.leaf l)) u.crew).next dt u
      | (.finished, u) => ((.ok true, ⟨.done, u.crew⟩), u)
      | (.failed e, u) => ((.error e, ⟨.crashed, u.crew⟩), u) := by
  have hstart := Task.start_leaf Leaf.machine (.todo a) { w with crew := Crew.ofFlow (.act a) }
  have hnext := Task.next_eq_start Leaf.machine dt (t := .fresh (.leaf (.todo a))) nofun
    { w with crew := Crew.ofFlow (.act a) }
  rw [hstart, Leaf.machine_start_todo] at hnext
  unfold Playback.next Playback.call
  simp only [Playback.ofFlow, Flow.toTask, hnext]
  rcases Leaf.begin a { w with crew := Crew.ofFlow (.act a) } with ⟨s, u⟩
  cases s <;> rfl

/-- An action that starts on time is done with the step in which its duration has passed, as long as
no step raises. -/
theorem Playback.done_iff_of_onTime {a : Action Rat} {d : Rat} {w : Show Rat}
    (ha : OnTime 0 d (Leaf.begin a { w with crew := Crew.ofFlow (.act a) }).1) {steps : List Rat}
    {done : Bool} (hne : steps ≠ []) (hsteps : ∀ dt ∈ steps, 0 ≤ dt)
    (hr : (Playback.ofFlow (.act a)).Reports steps done w) : done = true ↔ d ≤ steps.sum := by
  obtain ⟨dt, steps, rfl⟩ := List.exists_cons_of_ne_nil hne
  rw [Reports, Playback.next_act] at hr
  rcases hb : Leaf.begin a { w with crew := Crew.ofFlow (.act a) } with ⟨s, u⟩
  rw [hb] at ha hr
  cases s with
  | failed e => exact hr.elim
  | finished =>
    obtain ⟨rfl, rfl⟩ := hr
    have hd : d ≤ 0 := ha
    have hpassed : d ≤ dt := hd.trans (hsteps dt List.mem_cons_self)
    simp only [List.sum_cons, List.sum_nil, add_zero, hpassed]
  | paused l =>
    have hr : Reports (dt :: steps) done ⟨.paused (.leaf l), u.crew⟩ u := by
      rw [Reports]
      exact hr
    rw [← zero_add (dt :: steps).sum]
    exact Playback.done_iff_of_passing ha.1 nofun hr

namespace Animation

/-- The arguments of an animation: the styles to start from, if any, the styles to end with, and how
long it takes. -/
def arguments (start? : Option String) (stop : String) (d : Rat) : List (Argument Rat) :=
  (start?.map Argument.text).toList ++ [.text stop, .number d]

theorem start_onTime {id stop : String} {start? : Option String} {d : Rat} {h : Handle}
    {t : Target Rat} {w : Show Rat} (hid : w.stage.handle? id = some h)
    (ht : w.stage.targets[h]? = some t) (easing : Easing Rat) :
    OnTime 0 d (Leaf.begin (.animate id (arguments start? stop d) easing) w).1 := by
  obtain ⟨origin, starts, hform, horigin⟩ : ∃ origin starts,
      form? (arguments start? stop d) = some (origin, .text stop, .number d) ∧
        tokens origin = .ok starts := by
    cases start? with
    | none => exact ⟨.nothing, [], rfl, rfl⟩
    | some s => exact ⟨.text s, Token.split s, rfl, rfl⟩
  have hstop : tokens (.text stop : Argument Rat) = .ok (Token.split stop) := rfl
  obtain ⟨s, t', w', -, -, hstart⟩ := exists_start_eq hid hform hstop horigin ht
  rw [Leaf.begin, hstart]
  cases Job.build s t' (Token.split stop) starts with
  | error f => trivial
  | ok jobs => exact startTween_onTime (.animate h jobs) d easing w'

end Animation
end

/-! ## In the estimate -/

namespace Script
namespace Expr

/-- An expression that is neither a call nor in the place of several, and no number behind signs. -/
structure Flat (e : Expr) : Prop where
  plain : e.isStarred = false
  noCall : ∀ f args named, e ≠ .call f args named
  unsigned : e.literalReach = 1

theorem flat_text : Flat .text := ⟨rfl, nofun, rfl⟩

section
variable {es : List Expr}

theorem Flat.taskDuration_eq {e : Expr} (h : e.Flat) : e.taskDuration = .ok (0 : Rat) := by
  rw [taskDuration]
  · rfl
  · exact h.noCall

theorem taskDurations_of_flat (hes : ∀ e ∈ es, e.Flat) :
    taskDurations es = .ok (List.replicate es.length (0 : Rat)) := by
  induction es with
  | nil =>
    rw [taskDurations]
    rfl
  | cons e es ih =>
    have he := hes e List.mem_cons_self
    rw [taskDurations, he.plain, he.taskDuration_eq, ih fun e' he' => hes e' (.tail e he')]
    rfl

theorem Flat.taskReach_eq {e : Expr} (h : e.Flat) : e.taskReach = 1 := by
  rw [taskReach]
  exact h.noCall

theorem taskReaches_of_flat (hes : ∀ e ∈ es, e.Flat) : taskReaches es ≤ 1 := by
  induction es with
  | nil =>
    rw [taskReaches]
    omega
  | cons e es ih =>
    have he := hes e List.mem_cons_self
    rw [taskReaches, he.plain, he.taskReach_eq]
    exact max_le (le_refl 1) (ih fun e' he' => hes e' (.tail e he'))

theorem secondReach_of_flat (hes : ∀ e ∈ es, e.Flat) (met : Bool) : secondReach met es ≤ 1 := by
  induction es generalizing met with
  | nil =>
    rw [secondReach]
    omega
  | cons e es ih =>
    have he := hes e List.mem_cons_self
    rw [secondReach, he.plain]
    cases met with
    | false => exact ih (fun e' he' => hes e' (.tail e he')) true
    | true => exact he.taskReach_eq.le

theorem firstReach_of_flat (hes : ∀ e ∈ es, e.Flat) : firstReach es ≤ 1 := by
  induction es with
  | nil => exact Nat.zero_le 1
  | cons e es ih =>
    have he := hes e List.mem_cons_self
    have hrest := ih fun e' he' => hes e' (.tail e he')
    rw [firstReach, he.unsigned]
    split
    · exact le_refl 1
    · exact max_le (le_refl 1) hrest

theorem reachAt_of_flat (hes : ∀ e ∈ es, e.Flat) (place : Nat) : reachAt es place ≤ 2 := by
  unfold reachAt
  cases h : es[place]? with
  | none => exact Nat.zero_le 2
  | some e =>
    have he := hes e (List.mem_of_getElem? h)
    simp only [Option.map_some, Option.getD_some, he.unsigned, le_refl]

/-- A call of flat arguments does not lead far, whatever it is taken for. -/
theorem taskReach_call_of_flat {args : List Expr} (hargs : ∀ e ∈ args, e.Flat) (f : Expr)
    (named : List Expr) : (Expr.call f args named).taskReach ≤ 4 := by
  have hplain := filter_isStarred fun e he => (hargs e he).plain
  have hall := taskReaches_of_flat hargs
  have hsecond := secondReach_of_flat hargs false
  have hlast : firstReach args.reverse ≤ 1 :=
    firstReach_of_flat fun e he => hargs e (List.mem_reverse.mp he)
  have hzero := reachAt_of_flat hargs 0
  have hone := reachAt_of_flat hargs 1
  rw [taskReach]
  simp only [hplain]
  split
  · omega
  · split_ifs <;> omega

end
end Expr

/-- The arguments of a call of a target: one text or two, and a number. -/
def styles (origin : Bool) (time : Expr) : List Expr :=
  if origin then [.text, .text, time] else [.text, time]

/-- A call of a target by its name. -/
def animation (id : String) (origin : Bool) (time : Expr) : Expr :=
  .call (.dotted (.name "stage") id) (styles origin time) []

/-- Whether a target goes by a name that the estimate takes for another call. A text is told apart
by the place of its duration, which is that of an animation without a start. -/
def misread (id : String) (origin : Bool) : Bool :=
  parallelNames.contains id || sequenceNames.contains id || waitNames.contains id ||
    delayNames.contains id || (contentNames.contains id && origin)

variable {id : String} {origin : Bool} {time : Expr} {d : Rat}

theorem flat_of_literal? (htime : time.literal? = .ok (some d))
    (hunsigned : time.literalReach = 1) : time.Flat where
  plain := Expr.isStarred_of_literal? htime
  noCall := by
    rintro f args named rfl
    cases htime
  unsigned := hunsigned

theorem flat_of_mem_styles (htime : time.Flat) {e : Expr} (he : e ∈ styles origin time) :
    e.Flat := by
  have hcases : e = .text ∨ e = time := by
    cases origin <;> simpa [styles] using he
  rcases hcases with rfl | rfl
  · exact Expr.flat_text
  · exact htime

open Script.Expr in
/-- The estimate of an animation is its duration, unless its target is misread. -/
theorem taskDuration_animation (hflat : time.Flat) (htime : time.literal? = .ok (some d))
    (hd : 0 ≤ d) :
    (animation id origin time).taskDuration = .ok (if misread id origin then 0 else d) := by
  have hargs : ∀ e ∈ styles origin time, e.Flat := fun e he => flat_of_mem_styles hflat he
  have hplain := filter_isStarred fun e he => (hargs e he).plain
  have hmax : max d 0 = d := max_eq_left hd
  -- What each of the rules comes to when it is given styles and a number.
  have hlongest : (taskDurations (styles origin time)).map longest = .ok (0 : Rat) := by
    rw [taskDurations_of_flat hargs]
    cases origin <;> rfl
  have hsum : (taskDurations (styles origin time)).map Scalar.sum = .ok (0 : Rat) := by
    rw [taskDurations_of_flat hargs, Except.map, Scalar.sum_rat, List.sum_replicate, nsmul_zero]
  have hfirst : durationAt (styles origin time) 0 = .ok (0 : Rat) := by
    cases origin <;> rfl
  have hsecond : durationAt (styles origin time) 1 = .ok (if origin then 0 else d) := by
    cases origin
    · exact (literalDuration_eq htime).trans (congrArg Except.ok hmax)
    · rfl
  have hbehind : secondTask false (styles origin time) = .ok (0 : Rat) := by
    have htext := flat_text.plain
    cases origin
    · simp only [styles, secondTask, htext, hflat.plain, hflat.taskDuration_eq, Bool.false_eq_true,
        if_false, if_true]
    · simp only [styles, secondTask, htext, flat_text.taskDuration_eq, Bool.false_eq_true, if_false,
        if_true]
  have hlast : firstDuration (styles origin time).reverse = .ok d := by
    cases origin
    · exact (firstDuration_cons htime _).trans (congrArg Except.ok hmax)
    · exact (firstDuration_cons htime _).trans (congrArg Except.ok hmax)
  have hempty : (styles origin time).isEmpty = false := by
    cases origin <;> rfl
  rw [animation, taskDuration]
  simp only [calledName?, isDotted, Bool.and_true]
  rw [hplain, hlongest, hsum, hfirst, hsecond, hbehind, hlast, hempty]
  by_cases hparallel : parallelNames.contains id = true
  · have hmisread : misread id origin = true := by
      simp only [misread, hparallel, Bool.true_or]
    rw [if_pos hparallel, if_pos hmisread]
  by_cases hsequence : sequenceNames.contains id = true
  · have hmisread : misread id origin = true := by
      simp only [misread, hsequence, Bool.true_or, Bool.or_true]
    rw [if_neg hparallel, if_pos hsequence, if_pos hmisread]
  by_cases hwait : waitNames.contains id = true
  · have hmisread : misread id origin = true := by
      simp only [misread, hwait, Bool.true_or, Bool.or_true]
    rw [if_neg hparallel, if_neg hsequence, if_pos hwait, if_pos hmisread]
  by_cases hdelay : delayNames.contains id = true
  · have hmisread : misread id origin = true := by
      simp only [misread, hdelay, Bool.true_or, Bool.or_true]
    rw [if_neg hparallel, if_neg hsequence, if_neg hwait, if_pos hdelay, if_pos hmisread]
    exact congrArg Except.ok (add_zero (0 : Rat))
  rw [Bool.not_eq_true] at hparallel hsequence hwait hdelay
  have hmisread : misread id origin = (contentNames.contains id && origin) := by
    simp only [misread, hparallel, hsequence, hwait, hdelay, Bool.false_or]
  rw [hmisread]
  simp only [hparallel, hsequence, hwait, hdelay, Bool.false_eq_true, if_false]
  cases contentNames.contains id <;> rfl

/-- A flow of one animation. -/
def soleAnimation (id : String) (origin : Bool) (time : Expr) : List Stmt :=
  [.expression (.yieldFrom (animation id origin time))]

theorem estimate_soleAnimation (hflat : time.Flat) (htime : time.literal? = .ok (some d))
    (hd : 0 ≤ d) :
    Stmt.estimate (soleAnimation id origin time) =
      .ok ⟨if misread id origin then 0 else d, none⟩ := by
  have hduration : Stmt.durations (soleAnimation id origin time) =
      .ok (if misread id origin then 0 else d) := by
    simp only [soleAnimation, Stmt.durations, Stmt.durationsFrom, Stmt.duration, Expr.duration,
      taskDuration_animation hflat htime hd, bind, Except.bind, Scalar.zero_rat, zero_add]
  have htransition : Stmt.transition? (soleAnimation id origin time) =
      (.ok none : Except NumberFault (Option (Transition Rat))) := rfl
  rw [Stmt.estimate, hduration, htransition]
  rfl

/-- A flow of one animation is not too deep to be estimated. -/
theorem reaches_soleAnimation (hflat : time.Flat) :
    Stmt.reaches (soleAnimation id origin time) ≤ Stmt.reachLimit := by
  have hcall : (animation id origin time).taskReach ≤ 4 :=
    Expr.taskReach_call_of_flat (fun e he => flat_of_mem_styles hflat he) _ _
  simp only [soleAnimation, Stmt.reaches, Stmt.reachFrom, Stmt.reach, Expr.reach, Stmt.reachLimit]
  omega

/-! ## Both -/

/-- An animation of a target, with styles to start from or without, is estimated at its duration
unless the target is misread; then it is estimated at nought. In play it takes its duration whatever
the target is called: stepped through steps that raise nothing, it is done with the one in which its
duration has passed. -/
theorem animation_takes_its_duration [Analytic Rat] (id : String) (start? : Option String)
    (stop : String) {time : Expr} {d : Rat} (hunsigned : time.literalReach = 1)
    (htime : time.literal? = .ok (some d)) (hd : 0 ≤ d) :
    Stmt.reaches (soleAnimation id start?.isSome time) ≤ Stmt.reachLimit ∧
    Stmt.estimate (soleAnimation id start?.isSome time) =
      .ok ⟨if misread id start?.isSome then 0 else d, none⟩ ∧
    ∀ (easing : Easing Rat) (w : Show Rat) (h : Handle) (t : Target Rat),
      w.stage.handle? id = some h → w.stage.targets[h]? = some t →
      ∀ (steps : List Rat) (done : Bool), steps ≠ [] → (∀ dt ∈ steps, 0 ≤ dt) →
        (Playback.ofFlow (.act (.animate id (Animation.arguments start? stop d) easing))).Reports
          steps done w → (done = true ↔ d ≤ steps.sum) := by
  have hflat : time.Flat := flat_of_literal? htime hunsigned
  refine ⟨reaches_soleAnimation hflat, estimate_soleAnimation hflat htime hd, ?_⟩
  intro easing w h t hid ht steps done hne hsteps hr
  let a : Action Rat := .animate id (Animation.arguments start? stop d) easing
  let u : Show Rat := { w with crew := Crew.ofFlow (.act a) }
  have hstart : Leaf.OnTime 0 d (Leaf.begin a u).1 := Animation.start_onTime (w := u) hid ht easing
  exact Playback.done_iff_of_onTime hstart hne hsteps hr

/-- Two targets of one class, of which the second goes by the name of a combination. -/
def badlyNamed : Show Rat :=
  .ofStage
    { targets := [.ofClasses "title" "opacity-0", .ofClasses "chain" "opacity-0"]
      names := [("title", 0), ("chain", 1)]
      environment := none
      hasSink := true }
    .empty

theorem animation_takes_its_duration_title :
    Stmt.estimate (soleAnimation "title" true (.whole 2)) = .ok ⟨(2 : Rat), none⟩ ∧
      (Playback.ofFlow (.act (.animate "title"
        (Animation.arguments (some "opacity-50") "opacity-100" 2) .usual))).Reports
          [3 / 2, 1] true badlyNamed ∧ 2 ≤ [(3 / 2 : Rat), 1].sum := by
  have htime : (Expr.whole 2).literal? = .ok (some (2 : Rat)) := rfl
  obtain ⟨-, hestimate, hplay⟩ :=
    animation_takes_its_duration "title" (some "opacity-50") "opacity-100" rfl htime (by norm_num)
  have hr : (Playback.ofFlow (.act (.animate "title"
      (Animation.arguments (some "opacity-50") "opacity-100" 2) .usual))).Reports
        [3 / 2, 1] true badlyNamed := by
    decide +kernel
  have hdone := hplay .usual badlyNamed 0 (.ofClasses "title" "opacity-0") rfl rfl [3 / 2, 1] true
    nofun (by decide +kernel) hr
  exact ⟨hestimate, hr, hdone.mp rfl⟩

/-- A target may go by the name of a combination. An animation of it that takes two seconds is
estimated at nought. -/
theorem chainTarget_misread :
    Stage.isReserved "chain" = false ∧
      Stmt.estimate (soleAnimation "chain" false (.whole 2)) = .ok ⟨(0 : Rat), none⟩ ∧
      (Playback.ofFlow (.act (.animate "chain"
        (Animation.arguments none "opacity-100" 2) .usual))).Reports [1] false badlyNamed ∧
      (Playback.ofFlow (.act (.animate "chain"
        (Animation.arguments none "opacity-100" 2) .usual))).Reports [1, 1] true badlyNamed := by
  have htime : (Expr.whole 2).literal? = .ok (some (2 : Rat)) := rfl
  have hflat : (Expr.whole 2).Flat := flat_of_literal? htime rfl
  refine ⟨by decide, ?_, ?_, ?_⟩
  · exact (estimate_soleAnimation hflat htime (by norm_num)).trans rfl
  · decide +kernel
  · decide +kernel

end Script
end Choreo
